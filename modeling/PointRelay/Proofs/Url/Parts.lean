import PointRelay.Proofs.Url.Dots
import PointRelay.Proofs.Url.Front

/-!
# How URLs are read

A scheme in front decides in which of three ways the rest of a text is read: as a file, as the URL
of another special scheme, which needs a host, or as the URL of an ordinary one, which may do
without a place or be opaque. In each of them the path is what stands in front of the query and the
fragment, and is read by itself.
-/

namespace PointRelay.Url

open Text

/-! ### Where a path ends -/

/-- A text in two parts: no mark stands in the first, and one in front of the second, if there is
anything. -/
structure Marked (front tail : List Char) : Prop where
  unmarked : ∀ c ∈ front, endsPath c = false
  marked : ∀ c ∈ tail.head?, endsPath c = true

namespace Marked

variable {front tail r : List Char}

theorem of_suffix (marks : Marked front tail) (suffix : r <:+ front) : Marked r tail :=
  ⟨fun c mem => marks.unmarked c (suffix.mem mem), marks.marked⟩

theorem mark_cases (marks : Marked front tail) {c : Char} (mem : c ∈ tail.head?) :
    c = '?' ∨ c = '#' := by
  simpa [endsPath] using marks.marked c mem

theorem stops {special : Bool} (marks : Marked front tail) : Stops special tail := by
  intro c mem
  rcases marks.mark_cases mem with rfl | rfl <;> simp [endsAuthority]

theorem not_isSlash (marks : Marked front tail) : ∀ c ∈ tail.head?, isSlash c = false := by
  intro c mem
  rcases marks.mark_cases mem with rfl | rfl <;> rfl

theorem head?_ne_slash (marks : Marked front tail) : tail.head? ≠ some '/' := by
  intro slash
  have other := marks.not_isSlash '/' slash
  cases other

theorem splitPath_eq (marks : Marked front tail) : splitPath (front ++ tail) = (front, tail) := by
  have same : (front ++ tail).takeWhile (!endsPath ·) = front :=
    (takeWhile_run (fun c mem => by simp [marks.unmarked c mem])
      (fun c mem => by simp [marks.marked c mem])).1
  rw [splitPath, same, List.drop_left]

/-- A slash more belongs to the first part. -/
theorem concat_slash (marks : Marked front tail) : Marked (front ++ ['/']) tail := by
  refine ⟨fun c mem => ?_, marks.marked⟩
  rcases List.mem_append.mp mem with mem | mem
  · exact marks.unmarked c mem
  · obtain rfl := List.mem_singleton.mp mem
    rfl

end Marked

/-- A URL whose path is read from what stands in front of query and fragment. -/
def ofPath (scheme : String) (authority : Option Authority) (path : List Char → List Char)
    (cs : List Char) : Url :=
  build scheme authority (path (splitPath cs).1) (splitPath cs).2

theorem Marked.ofPath_path {front tail : List Char} (marks : Marked front tail) (scheme : String)
    (authority : Option Authority) (path : List Char → List Char) :
    (ofPath scheme authority path (front ++ tail)).path = path front := by
  rw [ofPath, marks.splitPath_eq]
  rfl

theorem Marked.ofPath_nil {tail : List Char} (marks : Marked [] tail) (scheme : String)
    (authority : Option Authority) (path : List Char → List Char) :
    (ofPath scheme authority path tail).path = path [] :=
  marks.ofPath_path scheme authority path

theorem readWithAuthority_eq (scheme : String) (cs : List Char) :
    readWithAuthority scheme cs = (readAuthority scheme cs).bind fun read =>
      .ok (ofPath scheme (some read.1) (pathAfterAuthority scheme) read.2) := rfl

/-! ### Files -/

/-- A file without host. -/
def localFile (cs : List Char) : Url :=
  ofPath "file" (some noHost) (pathAfterAuthority "file") cs

/-- The authority of a file of a host, which is none if the path begins with a drive letter. -/
def fileAuthority (host : Host) (path : List Char) : Authority :=
  if (readSegments "file" (behindSlash path)).head?.any isDrive then noHost
  else if host = .name "localhost" then noHost
  else { noHost with host := some host }

def remoteFile (host : Host) (cs : List Char) : Url :=
  ofPath "file" (some (fileAuthority host (splitPath cs).1)) (pathAfterAuthority "file") cs

/-- What stands for the host of a file. It may be missing, or be a drive letter. -/
def fileHost (cs : List Char) : List Char := cs.takeWhile (!endsAuthority true ·)

/-- What stands behind two slashes. -/
def readShare (cs : List Char) : Except Fault Url :=
  if (fileHost cs).isEmpty || isDrive (fileHost cs) then .ok (localFile cs)
  else (specialHost (fileHost cs)).bind fun host =>
    .ok (remoteFile host (cs.drop (fileHost cs).length))

/-- Two slashes in front. -/
def beginsShare (cs : List Char) : Bool :=
  match cs with
  | a :: b :: _ => isSlash a && isSlash b
  | _ => false

theorem readFile_eq (cs : List Char) :
    readFile cs = if beginsShare cs then readShare (cs.drop 2) else .ok (localFile cs) := by
  match cs with
  | [] => rfl
  | [a] => rfl
  | a :: b :: r => rfl

theorem readShare_append {rest : List Char} (stops : Stops (isSpecial "file") rest)
    (front : List Char) :
    readShare (front ++ rest) =
      if (fileHost front).isEmpty || isDrive (fileHost front) then .ok (localFile (front ++ rest))
      else (specialHost (fileHost front)).bind fun host =>
        .ok (remoteFile host (front.drop (fileHost front).length ++ rest)) := by
  obtain ⟨same, left⟩ : fileHost (front ++ rest) = fileHost front ∧
      (front ++ rest).drop (fileHost front).length =
        front.drop (fileHost front).length ++ rest :=
    takeWhile_front (fun c mem => congrArg (!·) (stops c mem)) front
  rw [readShare, same, left]

theorem beginsShare_cons (a : Char) (r : List Char) :
    beginsShare (a :: r) = (isSlash a && r.head?.any isSlash) := by
  cases r with
  | nil => exact (Bool.and_false _).symm
  | cons b r => rfl

theorem scheme_readFile {cs : List Char} {u : Url} (read : readFile cs = .ok u) :
    u.scheme = "file" := by
  rw [readFile_eq] at read
  split at read
  · unfold readShare at read
    split at read
    · obtain rfl := Except.ok.inj read
      rfl
    · obtain ⟨host, -, remote⟩ := ok_of_bind read
      obtain rfl := Except.ok.inj remote
      rfl
  · obtain rfl := Except.ok.inj read
    rfl

/-! ### URLs of other schemes -/

/-- A URL of a special scheme but for files. -/
def readSpecial (scheme : String) (cs : List Char) : Except Fault Url :=
  readWithAuthority scheme (cs.dropWhile isSlash)

/-- A URL of a scheme that is not special. -/
def readPlain (scheme : String) (cs : List Char) : Except Fault Url :=
  match cs with
  | '/' :: '/' :: r => readWithAuthority scheme r
  | '/' :: r => .ok (ofPath scheme none (readPath scheme) r)
  | r => .ok (ofPath scheme none (Percent.encode Percent.controls) r)

/-- Special schemes need a host. -/
theorem readWithAuthority_of_nothing {scheme : String} (special : isSpecial scheme = true)
    {tail : List Char} (stops : Stops (isSpecial scheme) tail) :
    readWithAuthority scheme tail = .error .emptyHost := by
  have nothing : splitUserinfo (isSpecial scheme) [] = (none, []) := rfl
  have empty : readAuthority scheme [] = .error .emptyHost := by
    rw [readAuthority_eq, nothing]
    simp [isLost, readPlace, splitHost, special]
  have proper : splitUserinfo (isSpecial scheme) [] ≠ (some [], []) := by
    rw [nothing]
    rintro ⟨⟩
  have apart := readAuthority_append stops proper
  rw [List.nil_append] at apart
  rw [readWithAuthority_eq, apart, empty]
  rfl

/-- Only slashes in front are passed over. -/
theorem readSpecial_append {front : List Char} (other : ¬ ∀ c ∈ front, isSlash c = true)
    (scheme : String) (rest : List Char) :
    readSpecial scheme (front ++ rest) =
      readWithAuthority scheme (front.dropWhile isSlash ++ rest) := by
  have more : (front.dropWhile isSlash).isEmpty = false := by
    rw [← Bool.not_eq_true, List.isEmpty_iff, List.dropWhile_eq_nil_iff]
    exact other
  rw [readSpecial, List.dropWhile_append, more]
  rfl

/-- Behind slashes nothing follows that could be a host. -/
theorem readSpecial_of_slashes {scheme : String} (special : isSpecial scheme = true)
    {front tail : List Char} (slashes : ∀ c ∈ front, isSlash c = true)
    (marks : Marked front tail) :
    readSpecial scheme (front ++ tail) = .error .emptyHost := by
  have kept : tail.dropWhile isSlash = tail := by
    cases tail with
    | nil => rfl
    | cons c r => rw [List.dropWhile_cons_of_neg (by simp [marks.not_isSlash c rfl])]
  rw [readSpecial, List.dropWhile_append_of_pos slashes, kept,
    readWithAuthority_of_nothing special marks.stops]

theorem readPlain_of_head {scheme : String} {r : List Char} (other : r.head? ≠ some '/') :
    readPlain scheme ('/' :: r) = .ok (ofPath scheme none (readPath scheme) r) := by
  unfold readPlain
  split
  · rename_i same
    obtain rfl := (List.cons.inj same).2
    exact absurd rfl other
  · rename_i same
    obtain rfl := (List.cons.inj same).2
    rfl
  · rename_i same
    exact absurd rfl (same _)

theorem isOpaque_build {path : List Char} (other : path.head? ≠ some '/') (scheme : String)
    (rest : List Char) : (build scheme none path rest).isOpaque = true := by
  have plain : (build scheme none path rest).guarded = false := by
    cases path with
    | nil => rfl
    | cons c r =>
      have first : ('/' == c) = false := by simpa using fun same => other (by rw [← same]; rfl)
      change (true && (('/' == c) && _)) = false
      rw [first]
      rfl
  unfold isOpaque
  rw [plain]
  simpa [build] using other

/-- Without a slash in front the path is opaque. -/
theorem isOpaque_of_readPlain {scheme : String} {cs : List Char} {u : Url}
    (other : cs.head? ≠ some '/') (read : readPlain scheme cs = .ok u) : u.isOpaque = true := by
  have front : (splitPath cs).1.head? ≠ some '/' := by
    change (cs.takeWhile (!endsPath ·)).head? ≠ some '/'
    rw [List.head?_takeWhile]
    exact fun slash => other (Option.eq_some_of_filter_eq_some slash)
  unfold readPlain at read
  split at read
  · exact absurd rfl other
  · exact absurd rfl other
  · obtain rfl := Except.ok.inj read
    exact isOpaque_build (head?_encode front) scheme _

theorem head?_of_readPlain {scheme : String} {cs : List Char} {u : Url}
    (opened : u.isOpaque = false) (read : readPlain scheme cs = .ok u) :
    cs.head? = some '/' := by
  by_contra other
  rw [isOpaque_of_readPlain other read] at opened
  cases opened

/-! ### Whole URLs -/

/-- What follows a scheme. -/
def readPart (scheme : String) (cs : List Char) : Except Fault Url :=
  if scheme = "file" then readFile cs
  else if isSpecial scheme then readSpecial scheme cs
  else readPlain scheme cs

theorem scheme_of_readPart {scheme : String} {cs : List Char} {u : Url}
    (read : readPart scheme cs = .ok u) : u.scheme = scheme := by
  have located : ∀ cs, readWithAuthority scheme cs = .ok u → u.scheme = scheme := by
    intro cs read
    obtain ⟨place, -, built⟩ := ok_of_bind (readWithAuthority_eq scheme cs ▸ read)
    obtain rfl := Except.ok.inj built
    rfl
  unfold readPart at read
  split at read
  · rename_i file
    rw [scheme_readFile read, file]
  · split at read
    · exact located _ read
    · unfold readPlain at read
      split at read
      · exact located _ read
      · obtain rfl := Except.ok.inj read
        rfl
      · obtain rfl := Except.ok.inj read
        rfl

theorem read_eq {s scheme : String} {r : List Char}
    (found : readScheme (clean s) = some (scheme, r)) : Url.read s = readPart scheme r := by
  unfold Url.read readPart
  rw [found]
  by_cases file : scheme = "file"
  · subst file
    rfl
  · rw [if_neg file]
    split
    · contradiction
    · rename_i same
      exact absurd (Prod.mk.inj (Option.some.inj same)).1 file
    · rename_i same
      obtain ⟨rfl, rfl⟩ := Prod.mk.inj (Option.some.inj same)
      rfl

end PointRelay.Url
