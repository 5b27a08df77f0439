import PointRelay.Url.Reader

/-!
# Paths of URLs

The path of a URL with an authority is empty or begins with a slash, however the URL was spelled. So
a segment can be appended to it, and stands alone behind the last slash afterwards.
-/

namespace PointRelay.Url

/-- A path that is empty or begins with a slash. -/
def Rooted (path : List Char) : Prop := path = [] ∨ ∃ rest, path = '/' :: rest

theorem rooted_pathText (segments : List (List Char)) : Rooted (pathText segments) := by
  cases segments with
  | nil => exact Or.inl rfl
  | cons s rest => exact Or.inr ⟨s ++ pathText rest, rfl⟩

theorem rooted_readPath (scheme : String) (cs : List Char) : Rooted (readPath scheme cs) := by
  unfold readPath
  split
  · exact Or.inr ⟨_, rfl⟩
  · exact rooted_pathText _

theorem rooted_pathAfterAuthority (scheme : String) (cs : List Char) :
    Rooted (pathAfterAuthority scheme cs) := by
  unfold pathAfterAuthority
  split
  · exact rooted_readPath scheme _
  · exact rooted_readPath scheme _
  · split
    · exact Or.inr ⟨[], rfl⟩
    · exact Or.inl rfl
  · exact rooted_readPath scheme _

theorem rooted_readWithAuthority {scheme : String} {cs : List Char} {u : Url}
    (read : readWithAuthority scheme cs = .ok u) : Rooted u.path := by
  unfold readWithAuthority at read
  cases front : readAuthority scheme cs with
  | error f =>
    rw [front] at read
    cases read
  | ok found =>
    rw [front] at read
    cases read
    exact rooted_pathAfterAuthority scheme _

theorem rooted_readFile {cs : List Char} {u : Url} (read : readFile cs = .ok u) :
    Rooted u.path := by
  have local_ : ∀ path rest : List Char,
      Rooted (build "file" (some noHost) (pathAfterAuthority "file" path) rest).path :=
    fun path _ => rooted_pathAfterAuthority "file" path
  unfold readFile at read
  split at read
  · rename_i a b r
    split at read
    · dsimp only at read
      split at read
      · cases read
        exact local_ _ _
      · cases host : specialHost (r.takeWhile fun c => !endsAuthority true c) with
        | error f =>
          simp only [host] at read
          cases read
        | ok h =>
          simp only [host] at read
          cases read
          exact rooted_pathAfterAuthority "file" _
    · cases read
      exact local_ _ _
  · cases read
    exact local_ _ _

/-- With an authority the path is rooted. -/
theorem rooted_of_read {s : String} {u : Url} (read : Url.read s = .ok u)
    (located : u.authority ≠ none) : Rooted u.path := by
  unfold Url.read at read
  split at read
  · cases read
  · exact rooted_readFile read
  · split at read
    · exact rooted_readWithAuthority read
    · split at read
      · exact rooted_readWithAuthority read
      · cases read
        exact absurd rfl located
      · cases read
        exact absurd rfl located

/-- Behind a rooted path a segment is set off by a slash. -/
theorem appended_of_rooted {path : List Char} (rooted : Rooted path) (segment : List Char) :
    ∃ base, appended path segment = base ++ '/' :: segment := by
  unfold appended
  rcases rooted with rfl | ⟨rest, rfl⟩
  · exact ⟨[], rfl⟩
  · by_cases slash : rest.getLast? = some '/'
    · by_cases short : rest.dropLast = []
      · exact ⟨[], by simp [slash, short]⟩
      · have long : rest.dropLast.length ≠ 0 := fun none => short (List.length_eq_zero_iff.mp none)
        refine ⟨'/' :: rest.dropLast, ?_⟩
        simp only [slash, if_true, List.length_cons]
        rw [if_neg (by omega), List.append_assoc]
        rfl
    · by_cases short : rest = []
      · exact ⟨[], by simp [short]⟩
      · have long : rest.length ≠ 0 := fun none => short (List.length_eq_zero_iff.mp none)
        refine ⟨'/' :: rest, ?_⟩
        simp only [slash, if_false, List.length_cons]
        rw [if_neg (by omega), List.append_assoc]
        rfl

/-- What stands behind the last slash of the path. -/
def lastSegment (u : Url) : String :=
  String.ofList (u.path.reverse.takeWhile (· ≠ '/')).reverse

/-- A URL with an authority is not opaque. -/
theorem isOpaque_of_located {u : Url} (located : u.authority ≠ none) : u.isOpaque = false := by
  cases authority : u.authority with
  | none => exact absurd authority located
  | some a => simp [isOpaque, authority]

/-- The last segment of a URL of a resource is that resource. -/
theorem lastSegment_resource {u : Url} (rooted : Rooted u.path) (located : u.authority ≠ none)
    {segment : String} (single : '/' ∉ segment.toList) :
    (u.resource segment).lastSegment = segment := by
  obtain ⟨base, path⟩ := appended_of_rooted rooted segment.toList
  have opened := isOpaque_of_located located
  have plain : ∀ c ∈ segment.toList.reverse, decide (c ≠ '/') = true := by
    intro c mem
    refine decide_eq_true fun same => single ?_
    exact same ▸ List.mem_reverse.mp mem
  unfold lastSegment resource
  rw [if_neg (by simp [opened]), path, List.reverse_append, List.reverse_cons, List.append_assoc,
    List.takeWhile_append_of_pos plain]
  simp

end PointRelay.Url
