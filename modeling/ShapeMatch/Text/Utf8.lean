import ShapeMatch.Text.CodeSet

/-!
# Characters as Bytes

Sets of code points as sequences of ranges of bytes, in the encoding of one to
four bytes for each character.

A code point is written in digits with base 64. Its first digit is added to the
lead byte, which tells how many others follow, and each other digit to the byte
`0x80`. So the code points of one length from a first to a last one are those
whose digits run from those of the first to those of the last. Where they differ
in a digit that others follow, what is not a whole number of units is split off
at both ends.

## Main definitions

* `Utf8.sequences`: A set of code points as sequences of ranges of bytes.
* `Utf8.encode`: The bytes of a character.
-/

namespace ShapeMatch

namespace Utf8

/-- The sequences of ranges of bytes whose digits run from those of `first` to
    those of `last`. The first digit is added to `lead`, and `count` digits
    follow it. -/
def split (lead : Nat) : Nat → Nat → Nat → List (List CodeRange)
  | 0, first, last => [[⟨lead + first, lead + last⟩]]
  | count + 1, first, last =>
    let unit := Nat.pow 64 (count + 1)
    let high (r : Nat) := r / unit
    let low (r : Nat) := r % unit
    let under (digit first last : Nat) :=
      (split 0x80 count first last).map (⟨lead + digit, lead + digit⟩ :: ·)
    if high first = high last then under (high first) (low first) (low last)
    else
      let (start, before) :=
        if low first = 0 then (high first, [])
        else (high first + 1, under (high first) (low first) (unit - 1))
      let (stop, behind) :=
        if low last = unit - 1 then (high last + 1, [])
        else (high last, under (high last) 0 (low last))
      let whole :=
        if start < stop then
          [⟨lead + start, lead + stop - 1⟩ :: List.replicate (count + 1) ⟨0x80, 0xbf⟩]
        else []
      before ++ whole ++ behind

/-- The code points of each length in bytes: the first and the last one, the
    bytes after the lead byte and what is added to the lead byte. Those of three
    bytes have a gap. -/
def lengths : List (Nat × Nat × Nat × Nat) :=
  [(0, 0x7f, 0, 0), (0x80, 0x7ff, 1, 0xc0), (0x800, 0xd7ff, 2, 0xe0), (0xe000, 0xffff, 2, 0xe0),
   (0x10000, 0x10ffff, 3, 0xf0)]

/-- The sequences of ranges of bytes for a range of code points, in ascending
    order. -/
def sequencesOfRange (r : CodeRange) : List (List CodeRange) :=
  lengths.flatMap fun (first, last, count, lead) =>
    let low := max r.first first
    let high := min r.last last
    if low ≤ high then split lead count low high else []

/-- The sequences of ranges of bytes for a set, in ascending order. -/
def sequences (s : CodeSet) : List (List CodeRange) := s.canonical.ranges.flatMap sequencesOfRange

/-- The bytes of a character. -/
def encode (c : Char) : List Nat :=
  (sequencesOfRange ⟨c.toNat, c.toNat⟩).flatten.map (·.first)

end Utf8

end ShapeMatch
