import PointRelay.Proofs.Url.Parts

/-!
# A slash more in the spelling of a URL

A slash that is added in front of the query and the fragment of a URL is read as a slash at the end
of its path and changes nothing else. What stands in front of the path does not notice it, so the
three ways in which a URL is read come down to that of paths. One spelling is read no longer: a lone
sign of user information in place of an authority is let pass at the very end of a text. A separator
that stands there already is a slash at the end of the path, unless it is the second of two with
nothing behind them.
-/

namespace PointRelay.Url

open Text

/-- A text in two parts whose first part does not end in a separator. -/
structure PathEnd (special : Bool) (front tail : List Char) : Prop extends Marked front tail where
  plain : EndsPlain special front

namespace PathEnd

variable {special : Bool} {front tail r : List Char}

theorem of_suffix (ends : PathEnd special front tail) (suffix : r <:+ front) :
    PathEnd special r tail :=
  ⟨ends.toMarked.of_suffix suffix, ends.plain.of_suffix suffix⟩

theorem of_cons {c : Char} (ends : PathEnd special (c :: r) tail) : PathEnd special r tail :=
  ends.of_suffix (List.suffix_cons c r)

end PathEnd

theorem stops_slash (special : Bool) (tail : List Char) : Stops special ('/' :: tail) := by
  intro c mem
  obtain rfl := Option.some.inj mem
  rfl

/-! ### A slash at the end of a path -/

/-- The URL with a slash at the end of its path. -/
def slashed (u : Url) : Url := { u with path := closed u.path }

theorem Rooted.slashed {u : Url} (rooted : Rooted u.path) :
    Rooted u.slashed.path ∧ u.slashed.isOpaque = false := by
  obtain ⟨rest, front⟩ := rooted.closed
  exact ⟨Or.inr ⟨rest, front⟩, by simp [isOpaque, Url.slashed, front]⟩

/-- What comes of a text with a slash more: the URL that was read without it, with a slash at the
end of its path. Only a text that was a lone sign is refused. -/
structure Closes (lone : Prop) (u : Url) (read : Except Fault Url) : Prop where
  kept : ¬lone → read = .ok u.slashed
  lost : lone → read = .error .emptyHost

theorem Closes.of_not {lone : Prop} (other : ¬lone) {u : Url} {read : Except Fault Url}
    (kept : read = .ok u.slashed) : Closes lone u read :=
  ⟨fun _ => kept, fun here => absurd here other⟩

/-- A slash at the end does not bring a second one to the front. -/
theorem build_closed {scheme : String} {authority : Option Authority} {path tail : List Char}
    (rooted : authority.isNone = true → Rooted path) :
    build scheme authority (closed path) tail = (build scheme authority path tail).slashed := by
  have guarded : (authority.isNone && "//".toList.isPrefixOf (closed path)) =
      (authority.isNone && "//".toList.isPrefixOf path) := by
    cases authority with
    | some a => rfl
    | none =>
      rcases rooted rfl with rfl | ⟨_ | ⟨c, rest⟩, rfl⟩
      · rfl
      · rfl
      · unfold closed
        split <;> rfl
  unfold slashed build
  simp only [guarded]

theorem ofPath_closing {scheme : String} {authority : Option Authority}
    {path : List Char → List Char} {front tail : List Char} (marks : Marked front tail)
    (rooted : authority.isNone = true → Rooted (path front))
    (closing : path (front ++ ['/']) = closed (path front)) :
    ofPath scheme authority path (front ++ '/' :: tail) =
      (ofPath scheme authority path (front ++ tail)).slashed := by
  unfold ofPath
  rw [List.append_cons, marks.splitPath_eq, marks.concat_slash.splitPath_eq, closing,
    build_closed rooted]

/-- An authority that is a lone sign is lost, and no other. -/
theorem readWithAuthority_closing {scheme : String} {front tail : List Char} {u : Url}
    (ends : PathEnd (isSpecial scheme) front tail)
    (read : readWithAuthority scheme (front ++ tail) = .ok u) :
    Closes (isSpecial scheme = false ∧ front ++ tail = ['@']) u
      (readWithAuthority scheme (front ++ '/' :: tail)) := by
  rw [readWithAuthority_eq] at read ⊢
  by_cases lone : splitUserinfo (isSpecial scheme) front = (some [], [])
  · obtain ⟨_, found, -⟩ := ok_of_bind read
    obtain ⟨ordinary, rfl⟩ := readAuthority_of_empty_userinfo ends.stops lone found
    have sign := splitUserinfo_eq_lone.mp lone
    refine ⟨fun other => absurd ⟨ordinary, by rw [sign]; rfl⟩ other, fun _ => ?_⟩
    rw [readAuthority_of_lost (stops_slash _ []) lone]
    rfl
  · have other : front ++ tail ≠ ['@'] := by
      intro sign
      rcases List.append_eq_singleton_iff.mp sign with ⟨-, rfl⟩ | ⟨rfl, -⟩
      · exact absurd (ends.marked '@' rfl) (by decide)
      · exact lone (splitUserinfo_eq_lone.mpr rfl)
    refine .of_not (fun sign => other sign.2) ?_
    rw [readAuthority_append ends.stops lone] at read
    rw [readAuthority_append (stops_slash _ tail) lone]
    cases found : readAuthority scheme front with
    | error fault =>
      rw [found] at read
      cases read
    | ok place =>
      have left := ends.of_suffix (readAuthority_suffix found)
      rw [found] at read
      obtain rfl := Except.ok.inj read
      exact congrArg Except.ok
        (ofPath_closing left.toMarked (by rintro ⟨⟩) (pathAfterAuthority_closing left.plain))

theorem localFile_closing {front tail : List Char}
    (ends : PathEnd (isSpecial "file") front tail) :
    localFile (front ++ '/' :: tail) = (localFile (front ++ tail)).slashed :=
  ofPath_closing ends.toMarked (by rintro ⟨⟩) (pathAfterAuthority_closing ends.plain)

/-- The first segment of a path is the same with a slash at the end. -/
theorem fileAuthority_concat (host : Host) {path : List Char}
    (plain : EndsPlain (isSpecial "file") path) :
    fileAuthority host (path ++ ['/']) = fileAuthority host path := by
  have first : (readSegments "file" (behindSlash (path ++ ['/']))).head? =
      (readSegments "file" (behindSlash path)).head? := by
    cases path with
    | nil => rfl
    | cons c r =>
      unfold behindSlash
      rw [List.cons_append]
      dsimp only
      split
      · rename_i slash
        exact (readSegments_closing (plain.ne_nil slash)
          (plain.of_suffix (List.suffix_cons c r))).head?_eq
      · exact (readSegments_closing (List.cons_ne_nil c r) plain).head?_eq
  unfold fileAuthority
  rw [first]

theorem remoteFile_closing (host : Host) {front tail : List Char}
    (ends : PathEnd (isSpecial "file") front tail) :
    remoteFile host (front ++ '/' :: tail) = (remoteFile host (front ++ tail)).slashed := by
  have without := ends.splitPath_eq
  have added := ends.concat_slash.splitPath_eq
  rw [← List.append_cons] at added
  unfold remoteFile
  rw [without, added, fileAuthority_concat host ends.plain]
  exact ofPath_closing ends.toMarked (by rintro ⟨⟩) (pathAfterAuthority_closing ends.plain)

theorem readShare_closing {front tail : List Char} {u : Url}
    (ends : PathEnd (isSpecial "file") front tail) (read : readShare (front ++ tail) = .ok u) :
    readShare (front ++ '/' :: tail) = .ok u.slashed := by
  rw [readShare_append ends.stops] at read
  rw [readShare_append (stops_slash _ tail)]
  by_cases here : ((fileHost front).isEmpty || isDrive (fileHost front)) = true
  · rw [if_pos here] at read ⊢
    obtain rfl := Except.ok.inj read
    rw [localFile_closing ends]
  · rw [if_neg here] at read ⊢
    obtain ⟨host, found, remote⟩ := ok_of_bind read
    obtain rfl := Except.ok.inj remote
    have left := ends.of_suffix (List.drop_suffix (fileHost front).length front)
    rw [found]
    exact congrArg Except.ok (remoteFile_closing host left)

/-- Whether two slashes stand in front shows in front of the end of the path. -/
theorem beginsShare_append {front tail : List Char} (ends : PathEnd (isSpecial "file") front tail) :
    beginsShare (front ++ tail) = beginsShare front ∧
      beginsShare (front ++ '/' :: tail) = beginsShare front := by
  have none : tail.head?.any isSlash = false := by
    cases tail with
    | nil => rfl
    | cons c r => exact ends.not_isSlash c rfl
  match front with
  | [] =>
    refine ⟨?_, ?_⟩
    · cases tail with
      | nil => rfl
      | cons c r =>
        rw [List.nil_append, beginsShare_cons, ends.not_isSlash c rfl]
        rfl
    · rw [List.nil_append, beginsShare_cons, none]
      rfl
  | [a] =>
    have other : isSlash a = false := ends.plain a rfl
    simp only [List.singleton_append, beginsShare_cons, other, Bool.false_and, and_self]
  | a :: b :: r => exact ⟨rfl, rfl⟩

theorem readFile_closing {front tail : List Char} {u : Url}
    (ends : PathEnd (isSpecial "file") front tail) (read : readFile (front ++ tail) = .ok u) :
    readFile (front ++ '/' :: tail) = .ok u.slashed := by
  obtain ⟨without, added⟩ := beginsShare_append ends
  rw [readFile_eq, without] at read
  rw [readFile_eq, added]
  by_cases share : beginsShare front = true
  · rw [if_pos share] at read ⊢
    match front with
    | a :: b :: r => exact readShare_closing ends.of_cons.of_cons read
  · rw [if_neg share] at read ⊢
    obtain rfl := Except.ok.inj read
    rw [localFile_closing ends]

theorem readSpecial_closing {scheme : String} (special : isSpecial scheme = true)
    {front tail : List Char} {u : Url} (ends : PathEnd (isSpecial scheme) front tail)
    (read : readSpecial scheme (front ++ tail) = .ok u) :
    readSpecial scheme (front ++ '/' :: tail) = .ok u.slashed := by
  by_cases slashes : ∀ c ∈ front, isSlash c = true
  · rw [readSpecial_of_slashes special slashes ends.toMarked] at read
    cases read
  · rw [readSpecial_append slashes] at read ⊢
    exact (readWithAuthority_closing (ends.of_suffix (List.dropWhile_suffix isSlash)) read).kept
      (by simp [special])

theorem readPlain_closing {scheme : String} (ordinary : isSpecial scheme = false)
    {front tail : List Char} {u : Url} (ends : PathEnd (isSpecial scheme) front tail)
    (opened : u.isOpaque = false) (read : readPlain scheme (front ++ tail) = .ok u) :
    Closes (front ++ tail = "//@".toList) u (readPlain scheme (front ++ '/' :: tail)) := by
  have slash := head?_of_readPlain opened read
  cases front with
  | nil =>
    have mark := ends.marked '/' slash
    cases mark
  | cons c r =>
    obtain rfl := Option.some.inj slash
    have given : r ≠ [] := ends.plain.ne_nil (by simp [isSeparator])
    obtain ⟨d, r', rfl⟩ := List.exists_cons_of_ne_nil given
    by_cases second : d = '/'
    · subst second
      have behind := readWithAuthority_closing ends.of_cons.of_cons read
      refine ⟨fun other => behind.kept fun sign => other ?_, fun sign => behind.lost ?_⟩
      · simp [sign.2]
      · exact ⟨ordinary, by simpa using sign⟩
    · have other : ∀ rest : List Char, ((d :: r') ++ rest).head? ≠ some '/' :=
        fun rest same => second (Option.some.inj same)
      refine .of_not (fun sign => second (List.cons.inj (List.cons.inj sign).2).1) ?_
      rw [List.cons_append, readPlain_of_head (other _)] at read ⊢
      obtain rfl := Except.ok.inj read
      exact congrArg Except.ok (ofPath_closing ends.of_cons.toMarked
        (fun _ => rooted_readPath scheme _) (readPath_closing given ends.of_cons.plain))

theorem readPart_closing {scheme : String} {front tail : List Char} {u : Url}
    (ends : PathEnd (isSpecial scheme) front tail) (opened : u.isOpaque = false)
    (read : readPart scheme (front ++ tail) = .ok u) :
    Closes (isSpecial scheme = false ∧ front ++ tail = "//@".toList) u
      (readPart scheme (front ++ '/' :: tail)) := by
  unfold readPart at read ⊢
  by_cases file : scheme = "file"
  · subst file
    exact .of_not (by simp [isSpecial]) (readFile_closing ends read)
  · rw [if_neg file] at read ⊢
    by_cases special : isSpecial scheme = true
    · rw [if_pos special] at read ⊢
      exact .of_not (by simp [special]) (readSpecial_closing special ends read)
    · rw [if_neg special] at read ⊢
      rw [Bool.not_eq_true] at special
      have behind := readPlain_closing special ends opened read
      exact ⟨fun other => behind.kept fun sign => other ⟨special, sign⟩,
        fun sign => behind.lost sign.2⟩

/-- Two slashes with nothing behind them are an empty place and an empty path. -/
theorem readPart_closing_of_slashes {scheme : String} {tail : List Char} {u : Url}
    (marks : Marked [] tail) (read : readPart scheme ("//".toList ++ tail) = .ok u) :
    readPart scheme ("//".toList ++ '/' :: tail) = .ok u.slashed := by
  have ends : PathEnd (isSpecial scheme) [] tail := ⟨marks, by simp [EndsPlain]⟩
  unfold readPart at read ⊢
  by_cases file : scheme = "file"
  · subst file
    exact readShare_closing ends read
  · rw [if_neg file] at read ⊢
    by_cases special : isSpecial scheme = true
    · have behind : Marked "//".toList tail := ⟨by simp [endsPath], marks.marked⟩
      rw [if_pos special, readSpecial_of_slashes special (by simp [isSlash]) behind] at read
      cases read
    · rw [if_neg special] at read ⊢
      refine (readWithAuthority_closing ends read).kept fun sign => ?_
      exact absurd (marks.marked '@' (by rw [← List.nil_append tail, sign.2]; rfl)) (by decide)

/-! ### A separator at the end of a text -/

theorem stops_separator {special : Bool} {c : Char} (separator : isSeparator special c = true)
    (tail : List Char) : Stops special (c :: tail) := by
  intro d mem
  obtain rfl := Option.some.inj mem
  simp only [isSeparator, Bool.or_eq_true, decide_eq_true_eq, Bool.and_eq_true] at separator
  rcases separator with rfl | ⟨rfl, rfl⟩ <;> rfl

section
variable {scheme : String} {c : Char} {init tail : List Char} {u : Url}

theorem ofPath_of_separator (separator : isSeparator (isSpecial scheme) c = true)
    (marks : Marked (init ++ [c]) tail) (authority : Option Authority) :
    (ofPath scheme authority (pathAfterAuthority scheme) (init ++ c :: tail)).path.getLast? =
      some '/' := by
  rw [List.append_cons, marks.ofPath_path]
  exact getLast?_pathAfterAuthority separator init

theorem concat_suffix {cs ds : List Char} (suffix : cs <:+ ds) (c : Char) :
    cs ++ [c] <:+ ds ++ [c] := by
  obtain ⟨front, rfl⟩ := suffix
  exact ⟨front, (List.append_assoc front cs [c]).symm⟩

theorem readWithAuthority_of_separator (separator : isSeparator (isSpecial scheme) c = true)
    (marks : Marked (init ++ [c]) tail)
    (read : readWithAuthority scheme (init ++ c :: tail) = .ok u) :
    u.path.getLast? = some '/' := by
  have stops := stops_separator separator tail
  rw [readWithAuthority_eq] at read
  by_cases lone : splitUserinfo (isSpecial scheme) init = (some [], [])
  · rw [readAuthority_of_lost stops lone] at read
    cases read
  · rw [readAuthority_append stops lone] at read
    cases found : readAuthority scheme init with
    | error fault =>
      rw [found] at read
      cases read
    | ok place =>
      rw [found] at read
      obtain rfl := Except.ok.inj read
      exact ofPath_of_separator separator
        (marks.of_suffix (concat_suffix (readAuthority_suffix found) c)) _

theorem readShare_of_separator (separator : isSeparator (isSpecial "file") c = true)
    (marks : Marked (init ++ [c]) tail) (read : readShare (init ++ c :: tail) = .ok u) :
    u.path.getLast? = some '/' := by
  rw [readShare_append (stops_separator separator tail)] at read
  split at read
  · obtain rfl := Except.ok.inj read
    exact ofPath_of_separator separator marks _
  · obtain ⟨host, -, remote⟩ := ok_of_bind read
    obtain rfl := Except.ok.inj remote
    exact ofPath_of_separator separator
      (marks.of_suffix (concat_suffix (List.drop_suffix _ init) c)) _

/-- Without anything behind two slashes the file is the root. -/
theorem readShare_of_nothing (marks : Marked [] tail) (read : readShare tail = .ok u) :
    u.path.getLast? = some '/' := by
  have here : readShare tail = .ok (localFile tail) := readShare_append marks.stops []
  rw [here] at read
  obtain rfl := Except.ok.inj read
  rw [localFile, marks.ofPath_nil]
  rfl

theorem readFile_of_separator (separator : isSeparator (isSpecial "file") c = true)
    (marks : Marked (init ++ [c]) tail) (read : readFile (init ++ c :: tail) = .ok u) :
    u.path.getLast? = some '/' := by
  have nothing := marks.of_suffix List.nil_suffix
  rw [readFile_eq] at read
  split at read
  · rename_i share
    match init with
    | [] =>
      rw [List.nil_append, beginsShare_cons, Bool.and_eq_true, Option.any_eq_true] at share
      obtain ⟨-, d, mem, slash⟩ := share
      exact absurd (nothing.not_isSlash d mem) (by simp [slash])
    | [a] => exact readShare_of_nothing nothing read
    | a :: b :: r =>
      exact readShare_of_separator separator (marks.of_suffix ⟨[a, b], rfl⟩) read
  · obtain rfl := Except.ok.inj read
    exact ofPath_of_separator separator marks _

theorem readSpecial_of_separator (special : isSpecial scheme = true)
    (separator : isSeparator (isSpecial scheme) c = true) (marks : Marked (init ++ [c]) tail)
    (read : readSpecial scheme (init ++ c :: tail) = .ok u) : u.path.getLast? = some '/' := by
  have slash : isSlash c = true := by rwa [special] at separator
  by_cases slashes : ∀ d ∈ init, isSlash d = true
  · have all : ∀ d ∈ init ++ [c], isSlash d = true := by
      intro d mem
      rcases List.mem_append.mp mem with mem | mem
      · exact slashes d mem
      · rwa [List.mem_singleton.mp mem]
    rw [List.append_cons, readSpecial_of_slashes special all marks] at read
    cases read
  · rw [readSpecial_append slashes] at read
    exact readWithAuthority_of_separator separator
      (marks.of_suffix (concat_suffix (List.dropWhile_suffix isSlash) c)) read

theorem readPlain_of_separator (ordinary : isSpecial scheme = false)
    (separator : isSeparator (isSpecial scheme) c = true) (marks : Marked (init ++ [c]) tail)
    (opened : u.isOpaque = false) (read : readPlain scheme (init ++ c :: tail) = .ok u) :
    init ++ [c] = "//".toList ∨ u.path.getLast? = some '/' := by
  have nothing := marks.of_suffix List.nil_suffix
  obtain rfl : c = '/' := by simpa [isSeparator, ordinary] using separator
  have slash := head?_of_readPlain opened read
  -- in front of the separator stands nothing, the first of two slashes, or that and more
  rcases init with _ | ⟨d, _ | ⟨e, r⟩⟩
  · rw [List.nil_append, readPlain_of_head nothing.head?_ne_slash] at read
    obtain rfl := Except.ok.inj read
    rw [nothing.ofPath_nil, readPath_nil]
    exact Or.inr rfl
  · obtain rfl := Option.some.inj slash
    exact Or.inl rfl
  · obtain rfl := Option.some.inj slash
    have behind : Marked (e :: r ++ ['/']) tail := marks.of_suffix (List.suffix_cons '/' _)
    refine Or.inr ?_
    by_cases second : e = '/'
    · subst second
      exact readWithAuthority_of_separator separator
        (behind.of_suffix (List.suffix_cons '/' _)) read
    · have other : (e :: r ++ '/' :: tail).head? ≠ some '/' :=
        fun same => second (Option.some.inj same)
      rw [List.cons_append, readPlain_of_head other] at read
      obtain rfl := Except.ok.inj read
      rw [List.append_cons, behind.ofPath_path]
      exact getLast?_readPath separator (e :: r)

/-- A separator that stands in front of the query and the fragment is a slash at the end of the
path, or the second of two with nothing behind them. -/
theorem readPart_of_separator (separator : isSeparator (isSpecial scheme) c = true)
    (marks : Marked (init ++ [c]) tail) (opened : u.isOpaque = false)
    (read : readPart scheme (init ++ c :: tail) = .ok u) :
    init ++ [c] = "//".toList ∨ u.path.getLast? = some '/' := by
  unfold readPart at read
  by_cases file : scheme = "file"
  · subst file
    exact Or.inr (readFile_of_separator separator marks read)
  · rw [if_neg file] at read
    by_cases special : isSpecial scheme = true
    · rw [if_pos special] at read
      exact Or.inr (readSpecial_of_separator special separator marks read)
    · rw [if_neg special] at read
      rw [Bool.not_eq_true] at special
      exact readPlain_of_separator special separator marks opened read

end

/-! ### Whole URLs -/

/-- A text with a slash more in front of the query and the fragment, where the path of the URL does
not end in a slash, or the text there in no separator. -/
def AddsSlash (u : Url) (s s' : String) : Prop :=
  ∃ front tail, clean s = front ++ tail ∧ clean s' = front ++ '/' :: tail ∧ Marked front tail ∧
    (u.path.getLast? ≠ some '/' ∨ EndsPlain (isSpecial u.scheme) front)

/-- A text whose authority is a lone sign of user information, and nothing behind it. -/
def Lone (scheme : String) (s : String) : Prop :=
  isSpecial scheme = false ∧ ∃ name, ':' ∉ name ∧ clean s = name ++ "://@".toList

theorem lone_iff {s scheme : String} {r : List Char}
    (found : readScheme (clean s) = some (scheme, r)) :
    Lone scheme s ↔ isSpecial scheme = false ∧ r = "//@".toList := by
  obtain ⟨name, single, spelled⟩ := readScheme_split found
  refine and_congr_right fun _ => ⟨?_, ?_⟩
  · rintro ⟨name', single', spelled'⟩
    exact (split_unique single single' (spelled.symm.trans spelled')).2
  · rintro rfl
    exact ⟨name, single, spelled⟩

/-- A URL that is not opaque is read with a slash more as it was read without, but for that slash
at the end of its path. Only a lone sign is lost. -/
theorem read_closing {s s' : String} {u : Url} (read : Url.read s = .ok u)
    (opened : u.isOpaque = false) (added : AddsSlash u s s') :
    Closes (Lone u.scheme s) u (Url.read s') := by
  obtain ⟨front, tail, spelled, spelled', marks, bare⟩ := added
  have stops : Stops (isSpecial u.scheme) tail := marks.stops
  cases found : readScheme front with
  | none =>
    have missing : readScheme (clean s) = none := by
      rw [spelled, readScheme_append stops, found]
      rfl
    unfold Url.read at read
    rw [missing] at read
    cases read
  | some place =>
    obtain ⟨scheme, r⟩ := place
    have here : readScheme (clean s) = some (scheme, r ++ tail) := by
      rw [spelled, readScheme_append stops, found]
      rfl
    have there : readScheme (clean s') = some (scheme, r ++ '/' :: tail) := by
      rw [spelled', readScheme_append (stops_slash (isSpecial u.scheme) tail), found]
      rfl
    rw [read_eq here] at read
    obtain rfl := scheme_of_readPart read
    obtain ⟨name, -, split⟩ := readScheme_split found
    have left : r <:+ front := ⟨name ++ [':'], by rw [split, List.append_assoc]; rfl⟩
    rw [read_eq there, lone_iff here]
    by_cases plain : EndsPlain (isSpecial u.scheme) r
    · exact readPart_closing ⟨marks.of_suffix left, plain⟩ opened read
    · obtain ⟨init, c, rfl, separator⟩ := exists_of_not_endsPlain plain
      rw [← List.append_cons] at read
      rcases readPart_of_separator separator (marks.of_suffix left) opened read with
        slashes | closed
      · rw [List.append_cons, slashes] at read
        rw [slashes]
        have nothing := marks.of_suffix List.nil_suffix
        refine .of_not (fun sign => ?_) (readPart_closing_of_slashes nothing read)
        obtain rfl : tail = ['@'] := List.append_cancel_left sign.2
        exact absurd (nothing.marked '@' rfl) (by decide)
      · rcases bare with bare | whole
        · exact absurd closed bare
        · exact absurd (whole.of_suffix left) plain

end PointRelay.Url
