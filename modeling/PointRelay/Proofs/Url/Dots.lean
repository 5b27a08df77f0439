import PointRelay.Proofs.Text.Form
import PointRelay.Proofs.Url.Segments

/-!
# Dot segments at the end of a path

A path is spelled in segments, of which the dot segments are resolved. A slash more behind the last
of them becomes a slash at the end of the path, unless the path ends in one already because it is
empty or because its last segment is a dot segment.
-/

namespace PointRelay.Url

open Text

/-- A character that ends a segment. -/
def isSeparator (special : Bool) (c : Char) : Bool := c = '/' || (special && c = '\\')

/-- A text that does not end in a separator. -/
def EndsPlain (special : Bool) (cs : List Char) : Prop :=
  ∀ c ∈ cs.getLast?, isSeparator special c = false

theorem EndsPlain.of_suffix {special : Bool} {cs r : List Char} (plain : EndsPlain special cs)
    (suffix : r <:+ cs) : EndsPlain special r := by
  intro c mem
  obtain ⟨front, rfl⟩ := suffix
  exact plain c (by rw [List.getLast?_append, mem, Option.some_or]; rfl)

/-- Behind a separator something else must follow. -/
theorem EndsPlain.ne_nil {special : Bool} {c : Char} {r : List Char}
    (plain : EndsPlain special (c :: r)) (separator : isSeparator special c = true) : r ≠ [] := by
  rintro rfl
  rw [plain c rfl] at separator
  cases separator

theorem exists_of_not_endsPlain {special : Bool} {cs : List Char}
    (other : ¬EndsPlain special cs) :
    ∃ init c, cs = init ++ [c] ∧ isSeparator special c = true := by
  simp only [EndsPlain, not_forall, Bool.not_eq_false, Option.mem_def, exists_prop] at other
  obtain ⟨c, last, separator⟩ := other
  obtain ⟨init, rfl⟩ := List.getLast?_eq_some_iff.mp last
  exact ⟨init, c, rfl, separator⟩

theorem isSeparator_slash (special : Bool) : isSeparator special '/' = true := rfl

/-! ### Segments as they are spelled -/

theorem rawSegments_cons (special : Bool) (c : Char) (cs : List Char) :
    rawSegments special (c :: cs) =
      match rawSegments special cs with
      | p :: r => if isSeparator special c then [] :: p :: r else (c :: p) :: r
      | [] => [[c]] := by
  rfl

theorem rawSegments_ne_nil (special : Bool) (cs : List Char) : rawSegments special cs ≠ [] := by
  cases cs with
  | nil => simp [rawSegments]
  | cons c cs =>
    rw [rawSegments_cons]
    split
    · split <;> simp
    · simp

theorem rawSegments_concat {special : Bool} {c : Char} (separator : isSeparator special c = true)
    (cs : List Char) : rawSegments special (cs ++ [c]) = rawSegments special cs ++ [[]] := by
  induction cs with
  | nil =>
    rw [List.nil_append, rawSegments_cons, show rawSegments special [] = [[]] from rfl]
    exact if_pos separator
  | cons d cs ih =>
    rw [List.cons_append, rawSegments_cons, rawSegments_cons, ih]
    cases found : rawSegments special cs with
    | nil => exact absurd found (rawSegments_ne_nil special cs)
    | cons p r =>
      simp only [List.cons_append]
      split <;> rfl

/-- A text that does not end in a separator has a last segment. -/
theorem exists_last_rawSegments {special : Bool} {cs : List Char} (given : cs ≠ [])
    (plain : EndsPlain special cs) :
    ∃ init last, rawSegments special cs = init ++ [last] ∧ last ≠ [] ∧ '/' ∉ last := by
  induction cs with
  | nil => exact absurd rfl given
  | cons c cs ih =>
    rw [rawSegments_cons]
    by_cases none : cs = []
    · subst none
      have inside : isSeparator special c = false := plain c rfl
      have other : c ≠ '/' := by
        rintro rfl
        simp [isSeparator] at inside
      refine ⟨[], [c], ?_, by simp, by simpa using other.symm⟩
      simp [rawSegments, inside]
    · obtain ⟨init, last, found, given, single⟩ :=
        ih none (plain.of_suffix (List.suffix_cons c cs))
      rw [found]
      cases init with
      | nil =>
        simp only [List.nil_append]
        split
        · exact ⟨[[]], last, rfl, given, single⟩
        · rename_i inside
          refine ⟨[], c :: last, rfl, by simp, ?_⟩
          rintro mem
          rcases List.mem_cons.mp mem with rfl | mem
          · simp [isSeparator] at inside
          · exact single mem
      | cons first init =>
        simp only [List.cons_append]
        split
        · exact ⟨[] :: first :: init, last, rfl, given, single⟩
        · exact ⟨(c :: first) :: init, last, rfl, given, single⟩

theorem utf8_ne_nil (c : Char) : Utf8.encode [c] ≠ [] := by
  rw [Utf8.encode, List.flatMap_singleton, ← List.length_pos_iff, String.length_utf8EncodeChar]
  exact Char.utf8Size_pos c

/-- A character is kept or begins with a percent sign. -/
theorem encode_cons (set : Char → Bool) (c : Char) (cs : List Char) :
    ∃ first rest, Percent.encode set (c :: cs) = first :: rest ∧ (first = '%' ∨ first = c) := by
  rw [Percent.encode, List.flatMap_cons]
  split
  · obtain ⟨b, rest, some⟩ := List.exists_cons_of_ne_nil (utf8_ne_nil c)
    rw [some, List.flatMap_cons]
    exact ⟨_, _, rfl, Or.inl rfl⟩
  · exact ⟨c, _, rfl, Or.inr rfl⟩

/-- What is not a slash is not encoded as one. -/
theorem head?_encode {set : Char → Bool} {cs : List Char} (other : cs.head? ≠ some '/') :
    (Percent.encode set cs).head? ≠ some '/' := by
  cases cs with
  | nil => exact other
  | cons c cs =>
    obtain ⟨first, rest, encoded, rfl | rfl⟩ := encode_cons set c cs
    · rw [encoded]
      simp
    · rw [encoded]
      exact other

theorem encode_ne_nil {set : Char → Bool} {cs : List Char} (some : cs ≠ []) :
    Percent.encode set cs ≠ [] := by
  obtain ⟨c, cs, rfl⟩ := List.exists_cons_of_ne_nil some
  obtain ⟨first, rest, encoded, -⟩ := encode_cons set c cs
  rw [encoded]
  exact List.cons_ne_nil first rest

theorem slash_not_mem_encode {set : Char → Bool} {cs : List Char} (single : '/' ∉ cs) :
    '/' ∉ Percent.encode set cs := by
  intro mem
  rcases Percent.mem_encode mem with percent | letter | ⟨mem, -, -⟩
  · exact absurd percent (by decide)
  · exact absurd letter (by decide)
  · exact single mem

/-! ### Dot segments -/

def isDot (s : List Char) : Bool := isDoubleDot s || isSingleDot s

/-- The segments so far, kept backwards, behind one more. -/
def resolveDot (file : Bool) (back : List (List Char)) (s : List Char) : List (List Char) :=
  if isDoubleDot s then shorten back
  else if isSingleDot s then back
  else if file && back.isEmpty && isDrive s then (s.take 1 ++ [':']) :: back
  else s :: back

theorem resolveDots_cons {file : Bool} {back rest : List (List Char)} {s : List Char}
    (more : rest ≠ []) :
    resolveDots file back (s :: rest) = resolveDots file (resolveDot file back s) rest := by
  have given : rest.isEmpty = false := by simpa using more
  rw [resolveDots, given]
  rfl

/-- A dot segment at the end leaves an empty one behind. -/
theorem resolveDots_last (file : Bool) (back : List (List Char)) (s : List Char) :
    resolveDots file back [s] =
      (if isDot s then [] :: resolveDot file back s else resolveDot file back s).reverse := by
  by_cases double : isDoubleDot s = true
  · simp [resolveDots, resolveDot, isDot, double]
  · by_cases single : isSingleDot s = true
    · simp [resolveDots, resolveDot, isDot, double, single]
    · simp [resolveDots, resolveDot, isDot, double, single]

/-- An empty segment at the end is kept. -/
theorem resolveDots_nil (file : Bool) (back : List (List Char)) :
    resolveDots file back [[]] = ([] :: back).reverse := by
  have plain : isDot [] = false := by decide
  have kept : resolveDot file back [] = [] :: back := by
    simp [resolveDot, isDrive, show isDoubleDot [] = false by decide,
      show isSingleDot [] = false by decide]
  rw [resolveDots_last, plain, kept]
  rfl

theorem resolveDots_nil_last (file : Bool) (back : List (List Char)) (s : List Char) :
    resolveDots file back [s, []] = ([] :: resolveDot file back s).reverse := by
  rw [resolveDots_cons (by simp), resolveDots_nil]

/-- Any other segment is kept, a drive letter with its colon. -/
theorem resolveDot_of_not_isDot (file : Bool) (back : List (List Char)) {s : List Char}
    (some : s ≠ []) (single : '/' ∉ s) (other : ¬isDot s = true) :
    ∃ kept, resolveDot file back s = kept :: back ∧ kept ≠ [] ∧ '/' ∉ kept := by
  rw [isDot, Bool.or_eq_true, not_or] at other
  unfold resolveDot
  rw [if_neg other.1, if_neg other.2]
  split
  · refine ⟨s.take 1 ++ [':'], rfl, by simp, fun mem => ?_⟩
    rcases List.mem_append.mp mem with mem | mem
    · exact single (List.mem_of_mem_take mem)
    · exact absurd mem (by decide)
  · exact ⟨s, rfl, some, single⟩

theorem resolveDots_append (file : Bool) (init back : List (List Char)) :
    ∃ back', ∀ rest ≠ [], resolveDots file back (init ++ rest) = resolveDots file back' rest := by
  induction init generalizing back with
  | nil => exact ⟨back, fun _ _ => rfl⟩
  | cons s init ih =>
    obtain ⟨back', later⟩ := ih (resolveDot file back s)
    refine ⟨back', fun rest more => ?_⟩
    rw [List.cons_append, resolveDots_cons (by simp [more]), later rest more]

/-- What a slash more at the end makes of segments: an empty one stands behind the last of them,
unless that one is empty already. -/
def Extends (segments more : List (List Char)) : Prop :=
  (∃ before, segments = before ++ [[]] ∧ more = segments) ∨
    ∃ before kept, segments = before ++ [kept] ∧ kept ≠ [] ∧ '/' ∉ kept ∧ more = segments ++ [[]]

theorem resolveDots_closing (file : Bool) (back init : List (List Char)) {last : List Char}
    (some : last ≠ []) (single : '/' ∉ last) :
    Extends (resolveDots file back (init ++ [last]))
      (resolveDots file back (init ++ [last] ++ [[]])) := by
  obtain ⟨back, later⟩ := resolveDots_append file init back
  rw [List.append_assoc, later _ (by simp), later _ (by simp), List.singleton_append,
    resolveDots_nil_last, resolveDots_last]
  by_cases dot : isDot last = true
  · rw [if_pos dot]
    exact Or.inl ⟨_, List.reverse_cons, rfl⟩
  · obtain ⟨kept, same, given, whole⟩ := resolveDot_of_not_isDot file back some single dot
    rw [if_neg dot, same]
    exact Or.inr ⟨_, kept, List.reverse_cons, given, whole, List.reverse_cons⟩

theorem readSegments_closing {scheme : String} {cs : List Char} (some : cs ≠ [])
    (plain : EndsPlain (isSpecial scheme) cs) :
    Extends (readSegments scheme cs) (readSegments scheme (cs ++ ['/'])) := by
  obtain ⟨init, last, found, given, single⟩ := exists_last_rawSegments some plain
  unfold readSegments
  rw [rawSegments_concat (isSeparator_slash _), found]
  simp only [List.map_append, List.map_cons, List.map_nil]
  exact resolveDots_closing _ _ _ (encode_ne_nil given) (slash_not_mem_encode single)

theorem Extends.head?_eq {segments more : List (List Char)} (extended : Extends segments more) :
    more.head? = segments.head? := by
  rcases extended with ⟨before, -, rfl⟩ | ⟨before, kept, rfl, -, -, rfl⟩
  · rfl
  · cases before <;> rfl

theorem readSegments_concat {scheme : String} {c : Char}
    (separator : isSeparator (isSpecial scheme) c = true) (cs : List Char) :
    ∃ before, readSegments scheme (cs ++ [c]) = before ++ [[]] := by
  unfold readSegments
  rw [rawSegments_concat separator, List.map_append, List.map_singleton]
  obtain ⟨back, later⟩ := resolveDots_append (scheme == "file")
    ((rawSegments (isSpecial scheme) cs).map (Percent.encode pathSet)) []
  refine ⟨back.reverse, ?_⟩
  rw [later _ (by simp), show Percent.encode pathSet [] = [] from rfl, resolveDots_nil,
    List.reverse_cons]

/-! ### Drive letters -/

theorem isDrive_closed {s : List Char} (drive : isDrive s = true) :
    isDrive (s.take 1 ++ [':']) = true ∧ isDot s = false := by
  unfold isDrive at drive
  split at drive
  · rename_i a b
    obtain ⟨letter, mark⟩ := Bool.and_eq_true_iff.mp drive
    refine ⟨by simp [isDrive, letter], ?_⟩
    have mark : b = ':' ∨ b = '|' := by simpa using mark
    have lower : b.toLower = b := by rcases mark with rfl | rfl <;> decide
    -- the second character is in none of the spellings of a dot segment
    rcases mark with rfl | rfl <;>
      simp [isDot, isDoubleDot, isSingleDot, lower, ← String.toList_inj]
  · cases drive

/-- Nothing behind a drive letter takes it away. -/
theorem resolveDot_concat (file : Bool) {s : List Char} (drive : isDrive s = true)
    (back : List (List Char)) (t : List Char) :
    ∃ back', resolveDot file (back ++ [s]) t = back' ++ [s] := by
  unfold resolveDot
  split
  · cases back with
    | nil => exact ⟨[], by simp [shorten, drive]⟩
    | cons last back =>
      rw [List.cons_append, shorten]
      split
      · exact ⟨last :: back, rfl⟩
      · exact ⟨back, rfl⟩
  · split
    · exact ⟨back, rfl⟩
    · split
      · exact ⟨_ :: back, rfl⟩
      · exact ⟨t :: back, rfl⟩

theorem resolveDots_concat (file : Bool) {s : List Char} (drive : isDrive s = true)
    (rest back : List (List Char)) :
    ∃ more, resolveDots file (back ++ [s]) rest = s :: more := by
  induction rest generalizing back with
  | nil => exact ⟨back.reverse, by simp [resolveDots]⟩
  | cons t rest ih =>
    obtain ⟨back', same⟩ := resolveDot_concat file drive back t
    by_cases more : rest = []
    · subst more
      rw [resolveDots_last, same]
      split
      · exact ⟨back'.reverse ++ [[]], by simp⟩
      · exact ⟨back'.reverse, by simp⟩
    · rw [resolveDots_cons more, same]
      exact ih back'

/-- A drive letter in front of the segments of a file stays there whatever follows it, and is
written with a colon. -/
theorem resolveDots_of_isDrive {s : List Char} (drive : isDrive s = true)
    (rest : List (List Char)) :
    ∃ more, resolveDots true [] (s :: rest) = (s.take 1 ++ [':']) :: more := by
  obtain ⟨kept, plain⟩ := isDrive_closed drive
  have first : resolveDot true [] s = [] ++ [s.take 1 ++ [':']] := by
    rw [isDot, Bool.or_eq_false_iff] at plain
    simp [resolveDot, plain, drive]
  by_cases more : rest = []
  · subst more
    rw [resolveDots_last, plain, first]
    exact ⟨[], rfl⟩
  · rw [resolveDots_cons more, first]
    exact resolveDots_concat true kept rest []

example : (Url.read "file:///C:/..").map Url.text = .ok "file:///C:/" := by cbv

example : (Url.read "file:///w|/m").map Url.text = .ok "file:///w:/m" := by cbv

/-- Elsewhere a drive letter is not spelled anew, and is not taken away either. -/
example : (Url.read "http://[::1]/C:/..").map Url.text = .ok "http://[::1]/C:/" := by cbv

/-- Behind an empty segment it is not the first one, and the host stays. -/
example : (Url.read "file://[::1]//C:/x").map Url.text = .ok "file://[::1]/C:/x" := by cbv

/-! ### Paths -/

theorem closed_of_slash {path : List Char} (slash : path.getLast? = some '/') :
    closed path = path := if_pos slash

theorem closed_of_other {path : List Char} (other : path.getLast? ≠ some '/') :
    closed path = path ++ ['/'] := if_neg other

theorem getLast?_closed (path : List Char) : (closed path).getLast? = some '/' := by
  by_cases slash : path.getLast? = some '/'
  · rw [closed_of_slash slash, slash]
  · rw [closed_of_other slash, List.getLast?_concat]

theorem getLast?_segment {front last : List Char} (given : last ≠ []) (single : '/' ∉ last) :
    (front ++ '/' :: last).getLast? ≠ some '/' := by
  rcases List.eq_nil_or_concat last with rfl | ⟨init, c, rfl⟩
  · exact absurd rfl given
  · rw [List.concat_eq_append] at single ⊢
    rw [← List.cons_append, ← List.append_assoc, List.getLast?_concat]
    rintro slash
    obtain rfl := Option.some.inj slash
    exact single (by simp)

theorem pathText_concat (segments : List (List Char)) (last : List Char) :
    pathText (segments ++ [last]) = pathText segments ++ '/' :: last := by
  simp [pathText]

theorem Extends.pathText_eq {segments more : List (List Char)} (extended : Extends segments more) :
    pathText more = closed (pathText segments) := by
  rcases extended with ⟨before, rfl, rfl⟩ | ⟨before, kept, rfl, given, single, rfl⟩
  · rw [pathText_concat, closed_of_slash List.getLast?_concat]
  · rw [pathText_concat (before ++ [kept]), pathText_concat before,
      closed_of_other (getLast?_segment given single)]

/-- Slashes in front do not matter to the one at the end. -/
theorem closed_dropWhile (path : List Char) :
    '/' :: (closed path).dropWhile (· = '/') = closed ('/' :: path.dropWhile (· = '/')) := by
  rcases List.eq_nil_or_concat path with rfl | ⟨front, last, rfl⟩
  · rfl
  · rw [List.concat_eq_append]
    by_cases slash : last = '/'
    · subst slash
      rw [closed_of_slash List.getLast?_concat, List.dropWhile_append]
      split
      · rfl
      · rw [← List.cons_append, closed_of_slash List.getLast?_concat]
    · have other : (front ++ [last]).getLast? ≠ some '/' := by
        rw [List.getLast?_concat]
        simpa using slash
      have behind : (front ++ [last]).dropWhile (· = '/') =
          front.dropWhile (· = '/') ++ [last] := by
        rw [List.dropWhile_append]
        split
        · rename_i none
          simp [List.isEmpty_iff.mp none, slash]
        · rfl
      have behind' : ('/' :: (front ++ [last]).dropWhile (· = '/')).getLast? ≠ some '/' := by
        rw [behind, ← List.cons_append, List.getLast?_concat]
        simpa using slash
      rw [closed_of_other other, closed_of_other behind', List.dropWhile_append,
        if_neg (by rw [behind]; simp)]
      rfl

theorem readPath_closing {scheme : String} {cs : List Char} (some : cs ≠ [])
    (plain : EndsPlain (isSpecial scheme) cs) :
    readPath scheme (cs ++ ['/']) = closed (readPath scheme cs) := by
  unfold readPath
  simp only [(readSegments_closing some plain).pathText_eq]
  split
  · exact closed_dropWhile _
  · rfl

/-- Behind a separator at the end there is nothing, and the path ends in a slash. -/
theorem getLast?_readPath {scheme : String} {c : Char}
    (separator : isSeparator (isSpecial scheme) c = true) (cs : List Char) :
    (readPath scheme (cs ++ [c])).getLast? = some '/' := by
  obtain ⟨before, segments⟩ := readSegments_concat separator cs
  have slash : (pathText (before ++ [[]])).getLast? = some '/' := by
    rw [pathText_concat, List.getLast?_concat]
  unfold readPath
  rw [segments]
  dsimp only
  split
  · rw [← closed_of_slash slash, closed_dropWhile, getLast?_closed]
  · exact slash

theorem readPath_nil (scheme : String) : readPath scheme [] = ['/'] := by
  unfold readPath readSegments
  rw [show rawSegments (isSpecial scheme) [] = [[]] from rfl]
  cases scheme == "file" <;> rfl

/-- The separator in front of a path is not part of it. -/
theorem pathAfterAuthority_cons (scheme : String) (c : Char) (r : List Char) :
    pathAfterAuthority scheme (c :: r) =
      readPath scheme (if isSeparator (isSpecial scheme) c then r else c :: r) := by
  by_cases slash : c = '/'
  · subst slash
    rfl
  · by_cases backslash : c = '\\'
    · subst backslash
      change readPath scheme (if isSpecial scheme then r else '\\' :: r) = _
      simp [isSeparator]
    · have inside : isSeparator (isSpecial scheme) c = false := by
        simp [isSeparator, slash, backslash]
      rw [inside]
      unfold pathAfterAuthority
      split
      · exact absurd (List.cons.inj ‹_›).1 slash
      · exact absurd (List.cons.inj ‹_›).1 backslash
      · contradiction
      · rfl

theorem getLast?_pathAfterAuthority {scheme : String} {c : Char}
    (separator : isSeparator (isSpecial scheme) c = true) (cs : List Char) :
    (pathAfterAuthority scheme (cs ++ [c])).getLast? = some '/' := by
  cases cs with
  | nil =>
    rw [List.nil_append, pathAfterAuthority_cons, if_pos separator, readPath_nil]
    rfl
  | cons d r =>
    rw [List.cons_append, pathAfterAuthority_cons]
    split
    · exact getLast?_readPath separator r
    · exact getLast?_readPath separator (d :: r)

theorem pathAfterAuthority_closing {scheme : String} {cs : List Char}
    (plain : EndsPlain (isSpecial scheme) cs) :
    pathAfterAuthority scheme (cs ++ ['/']) = closed (pathAfterAuthority scheme cs) := by
  cases cs with
  | nil =>
    change readPath scheme [] = closed (if isSpecial scheme then ['/'] else [])
    rw [readPath_nil]
    split <;> rfl
  | cons c r =>
    rw [List.cons_append, pathAfterAuthority_cons, pathAfterAuthority_cons]
    split
    · rename_i separator
      exact readPath_closing (plain.ne_nil separator) (plain.of_suffix (List.suffix_cons c r))
    · exact readPath_closing (by simp) plain

end PointRelay.Url
