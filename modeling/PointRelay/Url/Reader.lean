import PointRelay.Text.Percent
import PointRelay.Url.Basic
import PointRelay.Url.Name

/-!
# Reading URLs

Tabs and line breaks are skipped, and controls and spaces at both ends. Special schemes take
backslashes for slashes, need a host, and read it as a name or an address; other schemes keep it
as it is written. Each part is percent-encoded by a set of its own, and a path loses its dot
segments.
-/

namespace PointRelay.Url

open Text

/-! ### The characters that each part encodes -/

def fragmentSet (c : Char) : Bool := Percent.controls c || " \"<>`".contains c
def pathSet (c : Char) : Bool := fragmentSet c || "#?\x7b\x7d".contains c
def userinfoSet (c : Char) : Bool := pathSet c || "/:;=@[\\]^|".contains c
def querySet (special : Bool) (c : Char) : Bool :=
  Percent.controls c || " \"#<>".contains c || (special && c == '\'')

/-! ### Host -/

/-- A host of a special scheme. -/
def specialHost (cs : List Char) : Except Fault Host :=
  match cs with
  | '[' :: r =>
    if r.getLast? = some ']' then
      match Address.ipv6? r.dropLast with
      | some gs => .ok (.ipv6 gs)
      | none => .error .invalidIpv6
    else .error .invalidIpv6
  | _ =>
    match Name.toAscii? (Percent.decode (Utf8.encode cs)) with
    | none => .error .invalidName
    | some [] => .error .emptyHost
    | some name =>
      if Address.endsInNumber name then
        match Address.ipv4? name with
        | some a => .ok (.ipv4 a)
        | none => .error .invalidIpv4
      else .ok (.name (String.ofList name))

def isForbiddenInOpaque (c : Char) : Bool := "\x00\t\n\r #/:<>?@[\\]^|".contains c

/-- A host of another scheme, which may be empty. -/
def opaqueHost (cs : List Char) : Except Fault (Option Host) :=
  match cs with
  | '[' :: r =>
    if r.getLast? = some ']' then
      match Address.ipv6? r.dropLast with
      | some gs => .ok (some (.ipv6 gs))
      | none => .error .invalidIpv6
    else .error .invalidIpv6
  | [] => .ok none
  | _ =>
    if cs.any isForbiddenInOpaque then .error .invalidHostCharacter
    else .ok (some (.name (String.ofList (Percent.encode Percent.controls cs))))

/-- The host and what follows it: a colon outside brackets, a slash or a mark ends it. -/
def splitHost (special : Bool) (bracketed : Bool) : List Char → List Char × List Char
  | [] => ([], [])
  | c :: r =>
    if (c = ':' && !bracketed) || (c = '\\' && special) || c = '/' || c = '?' || c = '#' then
      ([], c :: r)
    else
      let bracketed := if c = '[' then true else if c = ']' then false else bracketed
      let (h, rest) := splitHost special bracketed r
      (c :: h, rest)

/-! ### Port -/

def endsPort (c : Char) : Bool := c = '/' || c = '\\' || c = '?' || c = '#'

/-- The digits of a port up to a character that ends it. -/
def readPort (cs : List Char) : Except Fault (Option Nat × List Char) :=
  let ds := cs.takeWhile Char.isDigit
  let rest := cs.drop ds.length
  let n := ds.foldl (fun n c => n * 10 + (c.toNat - 48)) 0
  if 65535 < n then .error .invalidPort
  else
    match rest with
    | c :: _ =>
      if endsPort c then .ok (if ds.isEmpty then none else some n, rest) else .error .invalidPort
    | [] => .ok (if ds.isEmpty then none else some n, [])

/-! ### User information -/

def endsAuthority (special : Bool) (c : Char) : Bool :=
  c = '/' || c = '?' || c = '#' || (special && c = '\\')

/-- What stands before the last `@` of an authority, if there is one, and what follows. -/
def splitUserinfo (special : Bool) (cs : List Char) : Option (List Char) × List Char :=
  let authority := cs.takeWhile (!endsAuthority special ·)
  let back := authority.reverse
  if authority.contains '@' then
    let host := (back.takeWhile (· ≠ '@')).reverse
    let user := ((back.dropWhile (· ≠ '@')).drop 1).reverse
    (some user, host ++ cs.drop authority.length)
  else (none, cs)

/-- User name and password, the colon between them being the first one. -/
def readUserinfo (cs : List Char) : String × Option String :=
  let name := cs.takeWhile (· ≠ ':')
  let password := cs.drop (name.length + 1)
  let encoded (cs : List Char) : String := String.ofList (Percent.encode userinfoSet cs)
  (encoded name, if password.isEmpty then none else some (encoded password))

/-! ### Path -/

def isSingleDot (s : List Char) : Bool :=
  ["." , "%2e"].contains (String.ofList (s.map Char.toLower))

def isDoubleDot (s : List Char) : Bool :=
  ["..", ".%2e", "%2e.", "%2e%2e"].contains (String.ofList (s.map Char.toLower))

/-- A drive letter: a letter and a colon or a bar. -/
def isDrive (s : List Char) : Bool :=
  match s with
  | [a, b] => a.isAlpha && (b = ':' || b = '|')
  | _ => false

/-- The segments between slashes. -/
def rawSegments (special : Bool) (cs : List Char) : List (List Char) :=
  cs.foldr (fun c parts =>
    match parts with
    | p :: r => if c = '/' || (special && c = '\\') then [] :: p :: r else (c :: p) :: r
    | [] => [[c]]) [[]]

/-- Drop the last segment, but never a drive letter. -/
def shorten (back : List (List Char)) : List (List Char) :=
  match back with
  | s :: r => if isDrive s then s :: r else r
  | [] => []

/-- Resolve dot segments. The segments so far are kept backwards. -/
def resolveDots (file : Bool) (back : List (List Char)) : List (List Char) → List (List Char)
  | [] => back.reverse
  | s :: r =>
    let back :=
      if isDoubleDot s then
        let back := shorten back
        if r.isEmpty then [] :: back else back
      else if isSingleDot s then if r.isEmpty then [] :: back else back
      else if file && back.isEmpty && isDrive s then (s.take 1 ++ [':']) :: back
      else s :: back
    resolveDots file back r

def pathText (segments : List (List Char)) : List Char := segments.flatMap ('/' :: ·)

/-- The segments of a text that follows the first slash of a path. -/
def readSegments (scheme : String) (cs : List Char) : List (List Char) :=
  resolveDots (scheme == "file") []
    ((rawSegments (isSpecial scheme) cs).map (Percent.encode pathSet))

/-- The path of segments that are written after its first slash. The path of a file has a single
slash in front. -/
def readPath (scheme : String) (cs : List Char) : List Char :=
  let path := pathText (readSegments scheme cs)
  if scheme == "file" then '/' :: path.dropWhile (· = '/') else path

/-- The path after an authority. -/
def pathAfterAuthority (scheme : String) (cs : List Char) : List Char :=
  match cs with
  | '/' :: r => readPath scheme r
  | '\\' :: r => readPath scheme (if isSpecial scheme then r else '\\' :: r)
  | [] => if isSpecial scheme then ['/'] else []
  | r => readPath scheme r

/-! ### Whole URLs -/

def endsPath (c : Char) : Bool := c = '?' || c = '#'

/-- What a path ends with: its query and its fragment. -/
def readTail (special : Bool) (cs : List Char) : Option String × Option String :=
  let fragment (cs : List Char) : String := String.ofList (Percent.encode fragmentSet cs)
  match cs with
  | '?' :: r =>
    let query := r.takeWhile (· ≠ '#')
    let text := String.ofList (Percent.encode (querySet special) query)
    match r.drop query.length with
    | '#' :: r => (some text, some (fragment r))
    | _ => (some text, none)
  | '#' :: r => (none, some (fragment r))
  | _ => (none, none)

/-- A URL of a scheme, with an authority and a path, and what follows them. -/
def build (scheme : String) (authority : Option Authority) (path rest : List Char) : Url :=
  let (query, fragment) := readTail (isSpecial scheme) rest
  let guarded := authority.isNone && "//".toList.isPrefixOf path
  ⟨scheme, authority, guarded, path, query, fragment⟩

/-- User information, host and port, and what follows them. -/
def readAuthority (scheme : String) (cs : List Char) : Except Fault (Authority × List Char) := do
  let special := isSpecial scheme
  let (user, rest) := splitUserinfo special cs
  if user = some [] then
    match rest with
    | c :: _ => if endsAuthority special c then throw .emptyHost
    | [] => pure ()
  let (username, password) := readUserinfo (user.getD [])
  let (hostText, rest) := splitHost special false rest
  if special && hostText.isEmpty then throw .emptyHost
  let host ← if special then (specialHost hostText).map some else opaqueHost hostText
  if host.isNone && rest.head? = some ':' then throw .emptyHost
  let (port, rest) ← match rest with
    | ':' :: r => readPort r
    | r => pure (none, r)
  if host.isNone && (username ≠ "" || password.isSome) then throw .emptyHost
  let port := if port = impliedPort? scheme then none else port
  return (⟨username, password, host, port⟩, rest)

/-- The path and tail of a text that starts with a path. -/
def splitPath (cs : List Char) : List Char × List Char :=
  let path := cs.takeWhile (!endsPath ·)
  (path, cs.drop path.length)

/-- A URL with an authority. -/
def readWithAuthority (scheme : String) (cs : List Char) : Except Fault Url := do
  let (authority, rest) ← readAuthority scheme cs
  let (path, rest) := splitPath rest
  return build scheme (some authority) (pathAfterAuthority scheme path) rest

def isSlash (c : Char) : Bool := c = '/' || c = '\\'

/-- The authority of a local file. -/
def noHost : Authority := ⟨"", none, none, none⟩

/-- A text without one slash in front. -/
def behindSlash (cs : List Char) : List Char :=
  match cs with
  | c :: r => if isSlash c then r else c :: r
  | [] => []

/-- A file URL: its host is empty, or a name that is not the local one. A host is given up when the
first segment of the path is a drive letter, and a drive letter in place of the host is that segment
itself. -/
def readFile (cs : List Char) : Except Fault Url := do
  let local_ (cs : List Char) : Url :=
    let (path, rest) := splitPath cs
    build "file" (some noHost) (pathAfterAuthority "file" path) rest
  match cs with
  | a :: b :: r =>
    if isSlash a && isSlash b then
      let hostText := r.takeWhile (!endsAuthority true ·)
      if hostText.isEmpty || isDrive hostText then return local_ r
      else
        let host ← specialHost hostText
        let (path, rest) := splitPath (r.drop hostText.length)
        let named := { noHost with host := some host }
        let authority := if host = .name "localhost" then noHost else named
        let drive := (readSegments "file" (behindSlash path)).head?.any isDrive
        let path := pathAfterAuthority "file" path
        return build "file" (some (if drive then noHost else authority)) path rest
    else return local_ cs
  | _ => return local_ cs

/-- The scheme in lower case and what follows its colon. -/
def readScheme (cs : List Char) : Option (String × List Char) :=
  let scheme := cs.takeWhile fun c => c.isAlphanum || c = '+' || c = '-' || c = '.'
  match scheme, cs.drop scheme.length with
  | c :: _, ':' :: r =>
    if c.isAlpha then some (String.ofList (scheme.map Char.toLower), r) else none
  | _, _ => none

/-- The characters of a text that count. -/
def clean (s : String) : List Char :=
  let inner := s.toList.dropWhile fun c => c.toNat ≤ 0x20
  let inner := (inner.reverse.dropWhile fun c => c.toNat ≤ 0x20).reverse
  inner.filter fun c => c ≠ '\t' ∧ c ≠ '\n' ∧ c ≠ '\r'

end Url

/-- Read a text as a URL. -/
def Url.read (s : String) : Except Url.Fault Url :=
  match Url.readScheme (Url.clean s) with
  | none => .error .relative
  | some ("file", r) => Url.readFile r
  | some (scheme, r) =>
    if Url.isSpecial scheme then Url.readWithAuthority scheme (r.dropWhile Url.isSlash)
    else
      match r with
      | '/' :: '/' :: r => Url.readWithAuthority scheme r
      | '/' :: r =>
        let (path, rest) := Url.splitPath r
        .ok (Url.build scheme none (Url.readPath scheme path) rest)
      | r =>
        let (path, rest) := Url.splitPath r
        .ok (Url.build scheme none (Text.Percent.encode Text.Percent.controls path) rest)

end PointRelay
