import PointRelay.Member

/-!
# Fleets and dispatch

A fleet is every member that was ever opened, with the network and the journal that they share.
Members are never taken out of it, so the place of a member is its identity, and a pool is a list of
places. A batch is dispatched to a pool by trying its members in some order until one takes it; no
member is tried twice.
-/

namespace PointRelay

structure Fleet (τ ω : Type) where
  members : List (Member τ)
  net : ω
  journal : Journal

/-- What became of a batch. -/
inductive Verdict where
  | delivered (endpoint : String) (attempts : Nat)
  | exhausted (attempted poolSize : Nat)
deriving DecidableEq, Repr

variable {τ ω : Type}

namespace Fleet

def focus? (i : Nat) (f : Fleet τ ω) : Option (Focus τ ω) :=
  f.members[i]?.map fun m => ⟨m, f.net, f.journal⟩

/-- Put back what an operation on a member left. -/
def put (i : Nat) (s : Focus τ ω) (f : Fleet τ ω) : Fleet τ ω :=
  ⟨f.members.set i s.member, s.net, s.journal⟩

/-- Run an operation on a member. -/
def on {α : Type} (i : Nat) (op : Focus τ ω → α × Focus τ ω) (f : Fleet τ ω) :
    Option α × Fleet τ ω :=
  match f.focus? i with
  | none => (none, f)
  | some s =>
    let (a, s) := op s
    (some a, f.put i s)

/-- Change a member without an answer. -/
def modify (i : Nat) (op : Focus τ ω → Focus τ ω) (f : Fleet τ ω) : Fleet τ ω :=
  match f.focus? i with
  | none => f
  | some s => f.put i (op s)

def note (n : Note) (f : Fleet τ ω) : Fleet τ ω := { f with journal := n :: f.journal }

/-- Take new members in. They stand behind all others, at the places given back. -/
def add (ms : List (Member τ)) (f : Fleet τ ω) : List Nat × Fleet τ ω :=
  (List.range' f.members.length ms.length, { f with members := f.members ++ ms })

/-- The members at some places. -/
def select (pool : List Nat) (f : Fleet τ ω) : List (Member τ) :=
  pool.filterMap fun i => f.members[i]?

variable [Transport τ ω]

/-- Close the members at some places, all of them even when some fail. -/
def closeAll : List Nat → Fleet τ ω → List ConnectionError × Fleet τ ω
  | [], f => ([], f)
  | i :: rest, f =>
    match f.focus? i with
    | none => closeAll rest f
    | some s =>
      match s.close with
      | (.ok (), s) => closeAll rest (f.put i s)
      | (.error e, s) =>
        let (failures, f) := closeAll rest (f.put i (s.note (.notClosed s.member.endpoint e)))
        (e :: failures, f)

/-- Try the members at some places one after another, after `attempts` that failed. -/
def tryAll (database : String) (b : Batch) (poolSize : Nat) :
    Nat → List Nat → Fleet τ ω → Verdict × Fleet τ ω
  | attempts, [], f => (.exhausted attempts poolSize, f)
  | attempts, i :: rest, f =>
    match f.focus? i with
    | none => tryAll database b poolSize attempts rest f
    | some s =>
      match s.attempt database b with
      | (.ok (), t) => (.delivered s.member.endpoint (attempts + 1), f.put i t)
      | (.error _, t) => tryAll database b poolSize (attempts + 1) rest (f.put i t)

/-- Dispatch a batch to a pool whose members are tried in the given order. -/
def dispatch (database : String) (b : Batch) (pool order : List Nat) (f : Fleet τ ω) :
    Verdict × Fleet τ ω :=
  tryAll database b pool.length 0 (order.filterMap fun k => pool[k]?) f

end Fleet

end PointRelay
