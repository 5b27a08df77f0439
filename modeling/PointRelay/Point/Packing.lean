import PointRelay.Point.Line
import PointRelay.Text.Utf8

/-!
# Packing lines into datagrams

Lines are taken in order and put into the current datagram, each with a line break. A datagram is
sent off when the next line would take it beyond the limit. A line is never split, so one that is
longer than the limit travels alone.
-/

namespace PointRelay.Packing

/-- The bytes of a line with its line break. -/
def lineBytes (line : String) : List UInt8 := Text.Utf8.ofString line ++ [10]

/-- Pack the lines behind a datagram in the making, whose size is given with it. -/
def packInto (limit : Nat) (current : List (List UInt8)) (size : Nat) :
    List (List UInt8) → List (List UInt8)
  | [] => if current.isEmpty then [] else [current.reverse.flatten]
  | line :: rest =>
    if !current.isEmpty && limit < size + line.length then
      current.reverse.flatten :: packInto limit [line] line.length rest
    else packInto limit (line :: current) (size + line.length) rest

/-- The datagrams that carry the lines. No room for `limit` bytes is set aside beforehand: that this
ends the program for limits above 2^63 - 1 is left out. -/
def pack (limit : Nat) (lines : List String) : List (List UInt8) :=
  packInto limit [] 0 (lines.map lineBytes)

end PointRelay.Packing
