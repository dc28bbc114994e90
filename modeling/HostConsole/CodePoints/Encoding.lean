import HostConsole.CodePoints.Basic

/-! Sets of characters as byte sequences. The encodings of a range of characters are not
in general all sequences from one range of bytes each; cut in the right places, the
ranges of a set have this property. -/

namespace HostConsole

/-- Sequences of bytes, each byte from a range of its own. -/
abbrev ByteRow : Type :=
  List (UInt8 × UInt8)

namespace CodePoints

/-- A range cut behind some points in rising order. -/
def cutBehind : (points : List Nat) → (first last : Nat) → List (Nat × Nat)
  | [], first, last => [(first, last)]
  | p :: r, first, last =>
    if first ≤ p && p < last then (first, p) :: cutBehind r (p + 1) last
    else cutBehind r first last

/-- A range cut into whole blocks of points, and a part of a block before and behind
them, from small blocks to large ones. -/
def cutAtBlocks : (blocks : List Nat) → (first last : Nat) → List (Nat × Nat)
  | [], first, last => [(first, last)]
  | n :: r, first, last =>
    if first / n = last / n then [(first, last)]
    else
      let start := (first + n - 1) / n * n
      let stop := (last + 1) / n * n
      (if first < start then [(first, start - 1)] else []) ++
        (if start < stop then cutAtBlocks r start (stop - 1) else []) ++
        (if stop ≤ last then [(stop, last)] else [])

/-- A range of characters cut where the lengths of their encodings change, and then
where a byte other than the last ones does. -/
def cutByEncoding (first last : Nat) : List (Nat × Nat) :=
  (cutBehind [0x7F, 0x7FF, 0xFFFF] first last).flatMap fun r =>
    if r.2 ≤ 0x7F then [r] else cutAtBlocks [0x40, 0x1000, 0x40000] r.1 r.2

/-- The bytes at each place between the encodings of two characters. -/
def byteRow (r : Nat × Nat) : ByteRow :=
  (String.utf8EncodeChar (Char.ofNat r.1)).zip (String.utf8EncodeChar (Char.ofNat r.2))

/-- The encodings of the characters of a set, in rising order. -/
def byteRows (s : CodePoints) : List ByteRow :=
  (s.ranges.flatMap fun r => cutByEncoding r.1 r.2).map byteRow

end CodePoints

end HostConsole
