import PointRelay.Time.Instant
import PointRelay.Text.Blank

/-!
# Reading timestamps

A timestamp is a date, a separator, a time of day and an offset. Numbers need no padding, blanks
may stand around the parts, and second 60 is the leap second after second 59. The step functions
return what is left of the text.
-/

namespace PointRelay.Time.Stamp

open PointRelay.Text

/-- The value of up to `width` leading digits, at least one. -/
def number (width : Nat) (cs : List Char) : Option (Nat × List Char) :=
  let ds := (cs.take width).takeWhile Char.isDigit
  if ds.isEmpty then none
  else some (ds.foldl (fun n c => n * 10 + (c.toNat - 48)) 0, cs.drop ds.length)

/-- A number after blanks. -/
def blankNumber (width : Nat) (cs : List Char) : Option (Nat × List Char) :=
  number width (trimLeft cs)

/-- A year has four digits, or a sign and any number of digits. -/
def year (cs : List Char) : Option (Int × List Char) :=
  match trimLeft cs with
  | '-' :: r => (number r.length r).map fun (n, r) => (-(n : Int), r)
  | '+' :: r => (number r.length r).map fun (n, r) => ((n : Int), r)
  | r => (number 4 r).map fun (n, r) => ((n : Int), r)

/-- A mark after blanks. -/
def mark (c : Char) (cs : List Char) : Option (List Char) :=
  match trimLeft cs with
  | d :: r => if d = c then some r else none
  | [] => none

/-- A fraction of a second in nanoseconds; digits beyond nine are dropped. -/
def fraction (cs : List Char) : Option (Nat × List Char) :=
  match cs with
  | '.' :: r =>
    let ds := r.takeWhile Char.isDigit
    if ds.isEmpty then none
    else
      let kept := ds.take 9
      let n := kept.foldl (fun n c => n * 10 + (c.toNat - 48)) 0
      some (n * Nat.pow 10 (9 - kept.length), r.drop ds.length)
  | r => some (0, r)

def digit? (c : Char) : Option Nat :=
  if c.isDigit then some (c.toNat - 48) else none

def twoDigits (cs : List Char) : Option (Nat × List Char) :=
  match cs with
  | a :: b :: r => do some ((← digit? a) * 10 + (← digit? b), r)
  | _ => none

def signedOffset (negative : Bool) (cs : List Char) : Option (Int × List Char) := do
  let (hours, r) ← twoDigits cs
  let (minutes, r) ← twoDigits (r.dropWhile fun c => c = ':' || isBlank c)
  if 59 < minutes || 23 < hours then none
  else
    let secs : Int := hours * 3600 + minutes * 60
    some (if negative then -secs else secs, r)

/-- Seconds east of UTC. -/
def offset (cs : List Char) : Option (Int × List Char) :=
  match cs with
  | 'Z' :: r | 'z' :: r => some (0, r)
  | '+' :: r => signedOffset false r
  | '-' :: r | '\u2212' :: r => signedOffset true r
  | a :: b :: c :: r =>
    if a.toUpper = 'U' && b.toUpper = 'T' && c.toUpper = 'C' then some (0, r) else none
  | _ => none

def separator (cs : List Char) : Option (List Char) :=
  match cs with
  | 'T' :: r | 't' :: r | ' ' :: r => some r
  | _ => none

/-- The instant of a valid date and time of day at an offset, unless it leaves the calendar. -/
def instant? (d : Date) (hour minute second nanos : Nat) (offset : Int) : Option Instant :=
  if !d.isValid || 23 < hour || 59 < minute || 60 < second then none
  else
    let leap := second = 60
    let local_ : Int := d.toDays * 86400 + hour * 3600 + minute * 60 + min second 59
    let t : Instant := ⟨local_ - offset, if leap then nanos + 1000000000 else nanos⟩
    if Date.firstYear ≤ t.date.year && t.date.year ≤ Date.lastYear then some t else none

/-- Read a whole text as a timestamp. -/
def read? (s : String) : Option Instant := do
  let (y, r) ← year s.toList
  let r ← mark '-' r
  let (mo, r) ← blankNumber 2 r
  let r ← mark '-' r
  let (d, r) ← blankNumber 2 r
  let r ← separator r
  let (h, r) ← blankNumber 2 r
  let r ← mark ':' r
  let (mi, r) ← blankNumber 2 r
  let r ← mark ':' r
  let (sec, r) ← blankNumber 2 r
  let (nanos, r) ← fraction r
  let (off, r) ← offset (trimLeft r)
  if (trimLeft r).isEmpty then instant? ⟨y, mo, d⟩ h mi sec nanos off else none

end PointRelay.Time.Stamp
