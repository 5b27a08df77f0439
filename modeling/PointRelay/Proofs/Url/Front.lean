import Mathlib
import PointRelay.Proofs.Text.Runs
import PointRelay.Url.Reader

/-!
# The front of a URL

A scheme, user information, a host and a port are read up to a separator or a mark and know nothing
of what follows it. So what is read in front of one rest is read in front of every other, and the
rest is left as it is.
-/

namespace PointRelay.Url

/-- What begins with a separator or a mark, or is empty. -/
def Stops (special : Bool) (rest : List Char) : Prop :=
  ∀ c ∈ rest.head?, endsAuthority special c = true

theorem endsAuthority_cases {special : Bool} {c : Char} (ends : endsAuthority special c = true) :
    c = '/' ∨ c = '?' ∨ c = '#' ∨ special = true ∧ c = '\\' := by
  simpa [endsAuthority, or_assoc] using ends

/-- What is read has the same rest behind it. -/
def before {α : Type} (rest : List Char) (read : α × List Char) : α × List Char :=
  (read.1, read.2 ++ rest)

variable {special : Bool} {rest : List Char}

theorem Stops.of_class (stops : Stops special rest) {p : Char → Bool} (slash : p '/' = false)
    (question : p '?' = false) (hash : p '#' = false) (backslash : p '\\' = false) :
    ∀ c ∈ rest.head?, p c = false := by
  intro c mem
  rcases endsAuthority_cases (stops c mem) with rfl | rfl | rfl | ⟨-, rfl⟩
  · exact slash
  · exact question
  · exact hash
  · exact backslash

theorem Stops.ne_colon (stops : Stops special rest) : rest.head? ≠ some ':' := by
  intro colon
  have ends := stops ':' colon
  simp [endsAuthority] at ends

theorem takeWhile_front {p : Char → Bool} (stop : ∀ c ∈ rest.head?, p c = false)
    (front : List Char) :
    (front ++ rest).takeWhile p = front.takeWhile p ∧
      (front ++ rest).drop (front.takeWhile p).length =
        front.drop (front.takeWhile p).length ++ rest :=
  ⟨Text.takeWhile_append_of_stop stop front,
    List.drop_append_of_le_length (List.takeWhile_prefix p).length_le⟩

theorem readScheme_append (stops : Stops special rest) (front : List Char) :
    readScheme (front ++ rest) = (readScheme front).map (before rest) := by
  unfold readScheme
  obtain ⟨same, left⟩ := takeWhile_front
    (stops.of_class (p := fun c => c.isAlphanum || c = '+' || c = '-' || c = '.')
      (by decide) (by decide) (by decide) (by decide)) front
  simp only [same, left]
  generalize front.drop _ = behind
  cases front.takeWhile _ with
  | nil => rfl
  | cons c scheme =>
    cases behind with
    | nil =>
      cases rest with
      | nil => rfl
      | cons d rest =>
        have other : d ≠ ':' := fun colon => stops.ne_colon (by rw [List.head?_cons, colon])
        simp [other]
    | cons d behind =>
      by_cases colon : d = ':'
      · subst colon
        by_cases letter : c.isAlpha = true <;> simp [letter, before]
      · simp [colon]

theorem splitUserinfo_append (stops : Stops special rest) (front : List Char) :
    splitUserinfo special (front ++ rest) = before rest (splitUserinfo special front) := by
  unfold splitUserinfo
  have stop : ∀ c ∈ rest.head?, (!endsAuthority special c) = false := fun c mem => by
    rw [stops c mem]
    rfl
  obtain ⟨same, left⟩ := takeWhile_front stop front
  simp only [same, left]
  split
  · simp [before]
  · rfl

theorem splitHost_append (stops : Stops special rest) (bracketed : Bool) (front : List Char) :
    splitHost special bracketed (front ++ rest) =
      before rest (splitHost special bracketed front) := by
  induction front generalizing bracketed with
  | nil =>
    cases rest with
    | nil => rfl
    | cons c rest =>
      simp only [List.nil_append, splitHost, before]
      rcases endsAuthority_cases (stops c rfl) with rfl | rfl | rfl | ⟨rfl, rfl⟩ <;> simp
  | cons c front ih =>
    simp only [List.cons_append, splitHost]
    split
    · rfl
    · rw [ih]
      rfl

theorem readPort_append (stops : Stops special rest) (front : List Char) :
    readPort (front ++ rest) = (readPort front).map (before rest) := by
  unfold readPort
  obtain ⟨same, left⟩ := takeWhile_front
    (stops.of_class (p := Char.isDigit) (by decide) (by decide) (by decide) (by decide)) front
  simp only [same, left]
  split
  · rfl
  · generalize front.drop _ = behind
    cases behind with
    | nil =>
      cases rest with
      | nil => rfl
      | cons c rest =>
        have ends : endsPort c = true := by
          rcases endsAuthority_cases (stops c rfl) with rfl | rfl | rfl | ⟨-, rfl⟩ <;> decide
        simp [ends, before, Except.map]
    | cons c behind =>
      simp only [List.cons_append]
      split <;> rfl

/-! ### An authority in its parts -/

/-- Only where there is a host there is user information. -/
def assemble (scheme : String) (user : String × Option String) (host : Option Host)
    (port : Option Nat × List Char) : Except Fault (Authority × List Char) :=
  if host.isNone && (user.1 ≠ "" || user.2.isSome) then .error .emptyHost
  else .ok (⟨user.1, user.2, host, if port.1 = impliedPort? scheme then none else port.1⟩, port.2)

/-- What is read behind a host. Only where there is a host there is a port. -/
def readBehind (scheme : String) (user : String × Option String) (cs : List Char)
    (host : Option Host) : Except Fault (Authority × List Char) :=
  if host.isNone && cs.head? = some ':' then .error .emptyHost
  else
    match cs with
    | ':' :: r => (readPort r).bind (assemble scheme user host)
    | r => assemble scheme user host (none, r)

/-- What is read behind user information. -/
def readPlace (scheme : String) (info : Option (List Char) × List Char) :
    Except Fault (Authority × List Char) :=
  let place := splitHost (isSpecial scheme) false info.2
  let user := readUserinfo (info.1.getD [])
  if isSpecial scheme && place.1.isEmpty then .error .emptyHost
  else if isSpecial scheme then
    ((specialHost place.1).map some).bind (readBehind scheme user place.2)
  else (opaqueHost place.1).bind (readBehind scheme user place.2)

/-- User information that is there and empty must not be all of an authority. -/
def isLost (special : Bool) (info : Option (List Char) × List Char) : Bool :=
  info.1 = some [] && info.2.head?.any (endsAuthority special)

theorem readAuthority_eq (scheme : String) (cs : List Char) :
    readAuthority scheme cs =
      if isLost (isSpecial scheme) (splitUserinfo (isSpecial scheme) cs) then .error .emptyHost
      else readPlace scheme (splitUserinfo (isSpecial scheme) cs) := by
  have staged : ∀ info, splitUserinfo (isSpecial scheme) cs = info → readAuthority scheme cs =
      if info.1 = some [] then
        if info.2.head?.any (endsAuthority (isSpecial scheme)) then .error .emptyHost
        else readPlace scheme info
      else readPlace scheme info := by
    rintro ⟨user, _ | ⟨c, r⟩⟩ found
    · simp only [readAuthority, found]
      rfl
    · simp only [readAuthority, found]
      rfl
  rw [staged _ rfl]
  by_cases empty : (splitUserinfo (isSpecial scheme) cs).1 = some []
  · simp [isLost, empty]
  · simp [isLost, empty]

theorem assemble_before (scheme : String) (user : String × Option String) (host : Option Host)
    (port : Option Nat × List Char) :
    assemble scheme user host (before rest port) =
      (assemble scheme user host port).map (before rest) := by
  unfold assemble
  simp only [before]
  split <;> rfl

theorem readBehind_of_ne_colon {cs : List Char} (other : cs.head? ≠ some ':') (scheme : String)
    (user : String × Option String) (host : Option Host) :
    readBehind scheme user cs host = assemble scheme user host (none, cs) := by
  unfold readBehind
  rw [if_neg (by simp [other])]
  split
  · exact absurd rfl other
  · rfl

/-- What is read in two steps has the same rest behind it if what the second one reads has. -/
theorem bind_before {α β : Type} {f g : α → Except Fault (β × List Char)}
    (later : ∀ a, f a = (g a).map (before rest)) (read : Except Fault α) :
    read.bind f = (read.bind g).map (before rest) := by
  cases read with
  | error fault => rfl
  | ok a => exact later a

theorem readBehind_append (stops : Stops special rest) (scheme : String)
    (user : String × Option String) (front : List Char) (host : Option Host) :
    readBehind scheme user (front ++ rest) host =
      (readBehind scheme user front host).map (before rest) := by
  cases front with
  | nil =>
    rw [List.nil_append, readBehind_of_ne_colon stops.ne_colon, readBehind_of_ne_colon (by simp),
      ← assemble_before]
    rfl
  | cons c front =>
    by_cases colon : c = ':'
    · subst colon
      simp only [readBehind, List.cons_append, List.head?_cons]
      split
      · rfl
      · rw [readPort_append stops]
        cases readPort front with
        | error fault => rfl
        | ok port => exact assemble_before scheme user host port
    · have other : ∀ r : List Char, (c :: r).head? ≠ some ':' := fun r => by simpa using colon
      rw [List.cons_append, readBehind_of_ne_colon (other _), readBehind_of_ne_colon (other _),
        ← assemble_before]
      rfl

theorem readPlace_before {scheme : String} (stops : Stops (isSpecial scheme) rest)
    (info : Option (List Char) × List Char) :
    readPlace scheme (before rest info) = (readPlace scheme info).map (before rest) := by
  obtain ⟨user, r⟩ := info
  simp only [readPlace, before, splitHost_append stops false r]
  split
  · rfl
  · split
    · exact bind_before (readBehind_append stops scheme _ _) _
    · exact bind_before (readBehind_append stops scheme _ _) _

/-- An authority is read in front of every rest alike, unless it consists of an empty user
information alone. -/
theorem readAuthority_append {scheme : String} (stops : Stops (isSpecial scheme) rest)
    {front : List Char} (proper : splitUserinfo (isSpecial scheme) front ≠ (some [], [])) :
    readAuthority scheme (front ++ rest) = (readAuthority scheme front).map (before rest) := by
  rw [readAuthority_eq, readAuthority_eq, splitUserinfo_append stops]
  generalize splitUserinfo (isSpecial scheme) front = info at proper ⊢
  have same : isLost (isSpecial scheme) (before rest info) = isLost (isSpecial scheme) info := by
    obtain ⟨user, r⟩ := info
    cases r with
    | nil =>
      have given : user ≠ some [] := fun empty => proper (by rw [empty])
      simp [isLost, before, given]
    | cons c r => rfl
  rw [same]
  split
  · rfl
  · exact readPlace_before stops info

/-- Empty user information with nothing behind it is a lone sign. -/
theorem splitUserinfo_eq_lone {special : Bool} {cs : List Char} :
    splitUserinfo special cs = (some [], []) ↔ cs = ['@'] := by
  constructor
  · intro lone
    unfold splitUserinfo at lone
    have whole : cs.takeWhile (!endsAuthority special ·) ++
        cs.drop (cs.takeWhile (!endsAuthority special ·)).length = cs :=
      List.prefix_iff_eq_append.mp (List.takeWhile_prefix _)
    generalize cs.takeWhile (!endsAuthority special ·) = authority at lone whole
    dsimp only at lone
    split at lone
    · rename_i there
      obtain ⟨user, rest⟩ := Prod.mk.inj lone
      obtain ⟨host, left⟩ := List.append_eq_nil_iff.mp rest
      rw [left, List.append_nil] at whole
      subst whole
      -- read from its end, the authority begins with the sign and has nothing behind it
      have back := List.takeWhile_append_dropWhile (p := fun c => decide (c ≠ '@'))
        (l := authority.reverse)
      rw [List.reverse_eq_nil_iff.mp host, List.nil_append] at back
      rw [back, Option.some.injEq, List.reverse_eq_nil_iff, List.drop_eq_nil_iff,
        List.length_reverse] at user
      have mem : '@' ∈ authority := by simpa using there
      match authority with
      | [c] => rw [List.mem_singleton.mp mem]
      | _ :: _ :: _ => simp at user
    · cases lone
  · rintro rfl
    cases special <;> rfl

/-- An empty user information in front of what ends an authority is refused. -/
theorem readAuthority_of_lost {c : Char} {scheme : String}
    (stops : Stops (isSpecial scheme) (c :: rest)) {front : List Char}
    (empty : splitUserinfo (isSpecial scheme) front = (some [], [])) :
    readAuthority scheme (front ++ c :: rest) = .error .emptyHost := by
  rw [readAuthority_eq, splitUserinfo_append stops, empty]
  simp [isLost, before, stops c rfl]

/-- An empty user information alone is an authority of ordinary schemes, when nothing follows it. -/
theorem readAuthority_of_empty_userinfo {scheme : String}
    (stops : Stops (isSpecial scheme) rest) {front : List Char} {read : Authority × List Char}
    (empty : splitUserinfo (isSpecial scheme) front = (some [], []))
    (found : readAuthority scheme (front ++ rest) = .ok read) :
    isSpecial scheme = false ∧ rest = [] := by
  cases rest with
  | nil =>
    rw [readAuthority_eq, splitUserinfo_append stops, empty] at found
    by_cases special : isSpecial scheme = true
    · simp [isLost, readPlace, before, splitHost, special] at found
    · exact ⟨Bool.not_eq_true _ ▸ special, rfl⟩
  | cons c rest =>
    rw [readAuthority_of_lost stops empty] at found
    cases found

/-! ### What is left -/

/-- A scheme stands in front of the first colon, and what is left behind it. -/
theorem readScheme_split {cs r : List Char} {scheme : String}
    (found : readScheme cs = some (scheme, r)) : ∃ name, ':' ∉ name ∧ cs = name ++ ':' :: r := by
  have behind := List.takeWhile_prefix (l := cs)
    (fun c => c.isAlphanum || c = '+' || c = '-' || c = '.')
  have inside : ∀ c ∈ cs.takeWhile fun c => c.isAlphanum || c = '+' || c = '-' || c = '.',
      (c.isAlphanum || c = '+' || c = '-' || c = '.') = true := fun c mem =>
    List.all_eq_true.mp List.all_takeWhile c mem
  unfold readScheme at found
  dsimp only at found
  generalize (cs.takeWhile _) = name at found behind inside
  obtain ⟨left, rfl⟩ := behind
  rw [List.drop_left] at found
  split at found
  · split at found
    · obtain ⟨-, same⟩ := Prod.mk.inj (Option.some.inj found)
      refine ⟨_, fun mem => absurd (inside ':' mem) (by decide), ?_⟩
      rw [same]
    · cases found
  · cases found

theorem splitUserinfo_suffix (special : Bool) (cs : List Char) :
    (splitUserinfo special cs).2 <:+ cs := by
  unfold splitUserinfo
  generalize taken : cs.takeWhile (fun c => !endsAuthority special c) = authority
  have whole : authority ++ cs.drop authority.length = cs := by
    rw [← taken]
    exact (List.prefix_iff_eq_append.mp (List.takeWhile_prefix _))
  dsimp only
  split
  · have host : (authority.reverse.takeWhile (· ≠ '@')).reverse <:+ authority := by
      rw [← List.reverse_prefix, List.reverse_reverse]
      exact List.takeWhile_prefix _
    obtain ⟨user, host⟩ := host
    refine ⟨user, ?_⟩
    rw [← List.append_assoc, host, whole]
  · exact List.suffix_rfl

theorem splitHost_suffix (special bracketed : Bool) (cs : List Char) :
    (splitHost special bracketed cs).2 <:+ cs := by
  induction cs generalizing bracketed with
  | nil => exact List.suffix_rfl
  | cons c cs ih =>
    unfold splitHost
    split
    · exact List.suffix_rfl
    · exact (ih _).trans (List.suffix_cons c cs)

theorem readPort_suffix {cs : List Char} {port : Option Nat × List Char}
    (read : readPort cs = .ok port) : port.2 <:+ cs := by
  have behind := List.drop_suffix (cs.takeWhile Char.isDigit).length cs
  unfold readPort at read
  dsimp only at read
  generalize cs.drop (cs.takeWhile Char.isDigit).length = r at read behind
  split at read
  · cases read
  · split at read
    · split at read
      · cases read
        exact behind
      · cases read
    · cases read
      exact List.nil_suffix

theorem assemble_ok {scheme : String} {user : String × Option String} {host : Option Host}
    {port : Option Nat × List Char} {read : Authority × List Char}
    (together : assemble scheme user host port = .ok read) : read.2 = port.2 := by
  unfold assemble at together
  split at together
  · cases together
  · cases together
    rfl

/-- What two steps read is what the second one reads behind the first. -/
theorem ok_of_bind {α β : Type} {first : Except Fault α} {second : α → Except Fault β} {b : β}
    (both : first.bind second = .ok b) : ∃ a, first = .ok a ∧ second a = .ok b := by
  cases first with
  | error fault => cases both
  | ok a => exact ⟨a, rfl, both⟩

theorem readBehind_suffix {scheme : String} {user : String × Option String} {cs : List Char}
    {host : Option Host} {read : Authority × List Char}
    (behind : readBehind scheme user cs host = .ok read) : read.2 <:+ cs := by
  unfold readBehind at behind
  split at behind
  · cases behind
  · split at behind
    · rename_i r _
      obtain ⟨port, found, together⟩ := ok_of_bind behind
      rw [assemble_ok together]
      exact (readPort_suffix found).trans (List.suffix_cons ':' r)
    · exact assemble_ok behind ▸ List.suffix_rfl

/-- What follows an authority is the end of the text. -/
theorem readAuthority_suffix {scheme : String} {cs : List Char} {read : Authority × List Char}
    (found : readAuthority scheme cs = .ok read) : read.2 <:+ cs := by
  rw [readAuthority_eq] at found
  split at found
  · cases found
  · refine List.IsSuffix.trans ?_ (splitUserinfo_suffix (isSpecial scheme) cs)
    refine List.IsSuffix.trans ?_ (splitHost_suffix (isSpecial scheme) false _)
    unfold readPlace at found
    dsimp only at found
    split at found
    · cases found
    · split at found
      · obtain ⟨host, -, behind⟩ := ok_of_bind found
        exact readBehind_suffix behind
      · obtain ⟨host, -, behind⟩ := ok_of_bind found
        exact readBehind_suffix behind

end PointRelay.Url
