import PointRelay.Proofs.Url.Path

/-!
# Segments of a path

The path of the URL of a resource is that of its base without one slash at the end, and behind it
the resource. If nothing is left of the base then, or a mere slash, the resource is all of the path.
So the segments of the base are kept in order, but for an empty one at the end.
-/

namespace PointRelay.Url

/-- A path without one slash at its end. A mere slash that is left is nothing. -/
def bare (path : List Char) : List Char :=
  let kept := if path.getLast? = some '/' then path.dropLast else path
  if kept = ['/'] then [] else kept

/-- A path with a slash at its end. -/
def closed (path : List Char) : List Char :=
  if path.getLast? = some '/' then path else path ++ ['/']

/-- What stands between the slashes of a path, behind the first of them. -/
def segments (path : List Char) : List (List Char) :=
  match path with
  | [] => []
  | _ :: rest => rest.splitOn '/'

/-! ### The path of a resource -/

/-- Two slashes in front are guarded, if nothing else stands between them and the scheme. -/
theorem rooted_of_guarded {scheme : String} {authority : Option Authority}
    {path rest : List Char} (guarded : (build scheme authority path rest).guarded = true) :
    Rooted path := by
  have slashes : (authority.isNone && "//".toList.isPrefixOf path) = true := guarded
  obtain ⟨-, slashes⟩ := Bool.and_eq_true_iff.mp slashes
  obtain ⟨rest, rfl⟩ := List.isPrefixOf_iff_prefix.mp slashes
  exact Or.inr ⟨'/' :: rest, rfl⟩

/-- A path to which segments can be appended is rooted. -/
theorem rooted_of_build {scheme : String} {path rest : List Char}
    (opened : (build scheme none path rest).isOpaque = false) : Rooted path := by
  by_cases guarded : (build scheme none path rest).guarded = true
  · exact rooted_of_guarded guarded
  · have head : path.head? = some '/' := by
      unfold isOpaque at opened
      rw [Bool.not_eq_true] at guarded
      rw [guarded] at opened
      simpa [build] using opened
    obtain ⟨rest, rfl⟩ := List.head?_eq_some_iff.mp head
    exact Or.inr ⟨rest, rfl⟩

theorem rooted_of_not_isOpaque {s : String} {u : Url} (read : Url.read s = .ok u)
    (opened : u.isOpaque = false) : Rooted u.path := by
  by_cases located : u.authority = none
  · unfold Url.read at read
    split at read
    · cases read
    · exact rooted_readFile read
    · split at read
      · exact rooted_readWithAuthority read
      · split at read
        · exact rooted_readWithAuthority read
        · cases read
          exact rooted_of_build opened
        · cases read
          exact rooted_of_build opened
  · exact rooted_of_read read located

theorem bare_of_other {path : List Char} (other : path.getLast? ≠ some '/') : bare path = path := by
  have several : path ≠ ['/'] := by
    rintro rfl
    exact other rfl
  unfold bare
  rw [if_neg other]
  exact if_neg several

theorem bare_concat (front : List Char) :
    bare (front ++ ['/']) = if front = ['/'] then [] else front := by
  unfold bare
  rw [List.getLast?_concat, if_pos rfl, List.dropLast_concat]

/-- A rooted path is nothing or a slash, does not end in a slash, or does so behind others. -/
theorem Rooted.cases {path : List Char} (rooted : Rooted path) :
    path = [] ∨ path = ['/'] ∨
      (∃ rest, path = '/' :: rest ∧ rest ≠ [] ∧ rest.getLast? ≠ some '/') ∨
      ∃ front, path = ('/' :: front) ++ ['/'] := by
  rcases rooted with rfl | ⟨rest, rfl⟩
  · exact Or.inl rfl
  · by_cases none : rest = []
    · exact Or.inr (Or.inl (by rw [none]))
    · by_cases slash : rest.getLast? = some '/'
      · obtain ⟨front, rfl⟩ := List.getLast?_eq_some_iff.mp slash
        exact Or.inr (Or.inr (Or.inr ⟨front, rfl⟩))
      · exact Or.inr (Or.inr (Or.inl ⟨rest, rfl, none, slash⟩))

/-- A resource stands behind a slash of its own. -/
theorem appended_eq {path : List Char} (rooted : Rooted path) (segment : List Char) :
    appended path segment = bare path ++ '/' :: segment := by
  rcases rooted.cases with rfl | rfl | ⟨rest, rfl, some, other⟩ | ⟨front, rfl⟩
  · rfl
  · rfl
  · have several : rest.length ≠ 0 := fun none => some (List.length_eq_zero_iff.mp none)
    rw [bare_of_other (by rwa [List.getLast?_cons_of_ne_nil some])]
    simp [appended, other, several]
  · rw [bare_concat]
    cases front with
    | nil => rfl
    | cons c front =>
      have slash : (c :: (front ++ ['/'])).getLast? = some '/' := by
        rw [← List.cons_append, List.getLast?_concat]
      have shorter : (c :: (front ++ ['/'])).dropLast = c :: front := by
        rw [← List.cons_append, List.dropLast_concat]
      simp only [appended, List.cons_append, slash, shorter, if_true]
      simp

theorem resource_eq {u : Url} (rooted : Rooted u.path) (opened : u.isOpaque = false)
    (segment : String) : u.resource segment =
      { u with path := bare u.path ++ '/' :: segment.toList, query := none } := by
  rw [resource, if_neg (by simp [opened]), appended_eq rooted]

/-- A slash at the end makes no difference. -/
theorem bare_closed (path : List Char) : bare (closed path) = bare path := by
  by_cases slash : path.getLast? = some '/'
  · rw [closed, if_pos slash]
  · unfold bare closed
    rw [if_neg slash, if_neg slash, List.getLast?_concat, if_pos rfl, List.dropLast_concat]

theorem Rooted.closed {path : List Char} (rooted : Rooted path) :
    ∃ rest, Url.closed path = '/' :: rest := by
  rcases rooted with rfl | ⟨rest, rfl⟩
  · exact ⟨[], rfl⟩
  · unfold Url.closed
    split
    · exact ⟨rest, rfl⟩
    · exact ⟨rest ++ ['/'], rfl⟩

/-! ### Its segments -/

theorem splitOn_of_not_mem {segment : List Char} (single : '/' ∉ segment) :
    segment.splitOn '/' = [segment] := by
  refine List.splitOnP_eq_singleton fun c mem => beq_eq_false_iff_ne.mpr ?_
  rintro rfl
  exact single mem

/-- A resource is one segment more. -/
theorem segments_append {path : List Char} (rooted : Rooted path) {segment : List Char}
    (single : '/' ∉ segment) :
    segments (path ++ '/' :: segment) = segments path ++ [segment] := by
  rcases rooted with rfl | ⟨rest, rfl⟩
  · exact splitOn_of_not_mem single
  · change (rest ++ '/' :: segment).splitOn '/' = rest.splitOn '/' ++ [segment]
    rw [← splitOn_of_not_mem single]
    exact List.splitOnP_append_cons rest segment (beq_self_eq_true '/')

theorem rooted_bare {path : List Char} (rooted : Rooted path) : Rooted (bare path) := by
  rcases rooted.cases with rfl | rfl | ⟨rest, rfl, some, other⟩ | ⟨front, rfl⟩
  · exact Or.inl rfl
  · exact Or.inl rfl
  · rw [bare_of_other (by rwa [List.getLast?_cons_of_ne_nil some])]
    exact Or.inr ⟨rest, rfl⟩
  · rw [bare_concat]
    split
    · exact Or.inl rfl
    · exact Or.inr ⟨front, rfl⟩

/-- All segments are kept but an empty one at the end. Of two empty ones none is kept. -/
theorem segments_bare {path : List Char} (rooted : Rooted path) :
    segments path = segments (bare path) ∨ segments path = segments (bare path) ++ [[]] ∨
      segments path = [[], []] ∧ segments (bare path) = [] := by
  rcases rooted.cases with rfl | rfl | ⟨rest, rfl, some, other⟩ | ⟨front, rfl⟩
  · exact Or.inl rfl
  · exact Or.inr (Or.inl rfl)
  · rw [bare_of_other (by rwa [List.getLast?_cons_of_ne_nil some])]
    exact Or.inl rfl
  · rw [bare_concat]
    by_cases none : front = []
    · subst none
      exact Or.inr (Or.inr ⟨rfl, rfl⟩)
    · rw [if_neg (by simpa using none)]
      exact Or.inr (Or.inl (segments_append (Or.inr ⟨front, rfl⟩) List.not_mem_nil))

end PointRelay.Url
