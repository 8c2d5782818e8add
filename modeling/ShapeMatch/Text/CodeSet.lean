/-!
# Sets of Code Points

Sets of Unicode code points, as ranges.

The properties of characters that this library consults are tables of the
Unicode standard, and most of their members come in runs. A table is written
as lines of text, one range after another with a blank between them: the first
and the last code point in hexadecimal, or one code point alone.

The ranges of a set may come in any order and overlap. The complement has as
its ranges the gaps between them, from the lowest to the highest, and all other
operations are made from unions and complements. The complement of the
complement has the same members as the set and a range for each of its runs.

## Main definitions

* `CodeSet`: A list of ranges of code points.
* `CodeSet.has`, `CodeSet.contains`: Whether a code point or a character lies
  in one of the ranges.
* `CodeSet.union`, `CodeSet.complement` and their kin: Operations on sets.
* `CodeSet.canonical`: The same set, with its runs as ranges.
* `CodeSet.ofLines`: The set written in lines of text.

## Theorems

* `has_union`: The union has what either set has.
* `has_complement`: The complement has what the set has not.
* `has_canonical`: The canonical form has the same members.
* `has_intersection`, `has_difference`: The members of these.
-/

namespace ShapeMatch

/-- The code points from `first` to `last`. -/
structure CodeRange where
  first : Nat
  last : Nat
  deriving DecidableEq, Inhabited

/-- Whether the range has a code point. -/
def CodeRange.has (r : CodeRange) (code : Nat) : Bool := r.first ≤ code && code ≤ r.last

/-- A set of code points, as the union of ranges. -/
structure CodeSet where
  ranges : List CodeRange
  deriving DecidableEq, Inhabited

namespace CodeSet

/-- The greatest code point. -/
def lastCode : Nat := 0x10ffff

/-- Whether the set has a code point. -/
def has (s : CodeSet) (code : Nat) : Bool := s.ranges.any (·.has code)

/-- Whether the set contains a character. -/
def contains (s : CodeSet) (c : Char) : Bool := s.has c.toNat

/-- The set without members. -/
def empty : CodeSet := ⟨[]⟩

/-- The set with one member. -/
def single (c : Char) : CodeSet := ⟨[⟨c.toNat, c.toNat⟩]⟩

/-- The characters from `first` to `last`. -/
def range (first last : Char) : CodeSet := ⟨[⟨first.toNat, last.toNat⟩]⟩

/-- The characters of a list. -/
def ofList (cs : List Char) : CodeSet := ⟨cs.map fun c => ⟨c.toNat, c.toNat⟩⟩

/-- What is in one set or the other. -/
def union (s t : CodeSet) : CodeSet := ⟨s.ranges ++ t.ranges⟩

/-- What is in one of several sets. -/
def unions (sets : List CodeSet) : CodeSet := ⟨sets.flatMap (·.ranges)⟩

/-- The gaps from the code point `next` on between ranges in the order of their
    first code points. -/
def gaps (next : Nat) : List CodeRange → List CodeRange
  | [] => if next ≤ lastCode then [⟨next, lastCode⟩] else []
  | r :: rest =>
    if next < r.first then ⟨next, r.first - 1⟩ :: gaps (max next (r.last + 1)) rest
    else gaps (max next (r.last + 1)) rest

/-- The ranges in the order of their first code points. -/
def sorted (s : CodeSet) : List CodeRange := s.ranges.mergeSort fun r t => r.first ≤ t.first

/-- All code points that are not in the set. -/
def complement (s : CodeSet) : CodeSet := ⟨gaps 0 s.sorted⟩

/-- The set of all code points. -/
def all : CodeSet := empty.complement

/-- The same set with a range for each of its runs, in ascending order. -/
def canonical (s : CodeSet) : CodeSet := s.complement.complement

/-- What is in both sets. -/
def intersection (s t : CodeSet) : CodeSet := (s.complement.union t.complement).complement

/-- What is in the first set and not in the second. -/
def difference (s t : CodeSet) : CodeSet := (s.complement.union t).complement

/-- What is in exactly one of the sets. -/
def symmetricDifference (s t : CodeSet) : CodeSet := (s.union t).difference (s.intersection t)

/-- The only member of a set, if it has no other. -/
def only? (s : CodeSet) : Option Nat :=
  match s.canonical.ranges with
  | [r] => if r.first = r.last then some r.first else none
  | _ => none

/-- The value of a hexadecimal digit. Other characters count as zero. -/
def hexDigit (c : Char) : Nat :=
  if c.isDigit then c.toNat - 48
  else if 'a' ≤ c ∧ c ≤ 'f' then c.toNat - 87
  else if 'A' ≤ c ∧ c ≤ 'F' then c.toNat - 55
  else 0

/-- The value of a string of hexadecimal digits. -/
def hexValue (digits : List Char) : Nat :=
  digits.foldl (fun value digit => value * 16 + hexDigit digit) 0

/-- The range written as `first-last`, or the one code point written alone. -/
def rangeOfText (text : List Char) : CodeRange :=
  let first := hexValue (text.takeWhile (· ≠ '-'))
  match text.dropWhile (· ≠ '-') with
  | [] => ⟨first, first⟩
  | _ :: last => ⟨first, hexValue last⟩

/-- The ranges written in a line, with a blank between them. -/
def rangesOfLine (line : String) : List CodeRange :=
  (line.toList.splitOnP (· = ' ')).map rangeOfText

/-- The set written in lines of text. -/
def ofLines (lines : List String) : CodeSet := ⟨lines.flatMap rangesOfLine⟩

theorem has_union (s t : CodeSet) (code : Nat) :
    (s.union t).has code = (s.has code || t.has code) := by
  simp [has, union, List.any_append]

/-- The gaps have what is neither below them nor in one of the ranges. -/
theorem any_gaps {next code : Nat} {ranges : List CodeRange} (valid : code ≤ lastCode)
    (ordered : ranges.Pairwise fun r t => r.first ≤ t.first) :
    ((gaps next ranges).any (·.has code)) = (decide (next ≤ code) && !ranges.any (·.has code)) := by
  induction ranges generalizing next with
  | nil =>
    rw [gaps]
    split <;> simp [CodeRange.has] <;> omega
  | cons r rest ih =>
    obtain ⟨above, ordered⟩ := List.pairwise_cons.1 ordered
    have later : code < r.first → rest.any (·.has code) = false := fun below => by
      rw [List.any_eq_false]
      intro t ht
      have := above t ht
      simp [CodeRange.has]
      omega
    rw [gaps]
    split
    · rw [List.any_cons, ih ordered, List.any_cons]
      by_cases below : code < r.first
      · rw [later below, Bool.eq_iff_iff]
        simp [CodeRange.has]
        omega
      · rw [Bool.eq_iff_iff]
        cases rest.any (·.has code) <;> simp [CodeRange.has] <;> omega
    · rw [ih ordered, List.any_cons, Bool.eq_iff_iff]
      cases rest.any (·.has code)
      · simp [CodeRange.has]
        omega
      · simp

theorem has_complement (s : CodeSet) {code : Nat} (valid : code ≤ lastCode) :
    s.complement.has code = !s.has code := by
  have ordered : s.sorted.Pairwise fun r t => r.first ≤ t.first := by
    let le := fun r t : CodeRange => decide (r.first ≤ t.first)
    have ascending : (s.ranges.mergeSort le).Pairwise fun r t => le r t = true :=
      List.pairwise_mergeSort (fun _ _ _ h h' => by simp only [le, decide_eq_true_eq] at *; omega)
        (fun _ _ => by simp only [le, Bool.or_eq_true, decide_eq_true_eq]; omega) s.ranges
    simpa [sorted, le] using ascending
  have same : s.sorted.any (·.has code) = s.ranges.any (·.has code) := by
    rw [Bool.eq_iff_iff, List.any_eq_true, List.any_eq_true]
    simp [sorted, List.mem_mergeSort]
  rw [has, complement, any_gaps valid ordered, same, has]
  simp

theorem has_canonical (s : CodeSet) {code : Nat} (valid : code ≤ lastCode) :
    s.canonical.has code = s.has code := by
  rw [canonical, has_complement _ valid, has_complement _ valid, Bool.not_not]

theorem has_intersection (s t : CodeSet) {code : Nat} (valid : code ≤ lastCode) :
    (s.intersection t).has code = (s.has code && t.has code) := by
  rw [intersection, has_complement _ valid, has_union, has_complement _ valid,
    has_complement _ valid, Bool.not_or, Bool.not_not, Bool.not_not]

theorem has_difference (s t : CodeSet) {code : Nat} (valid : code ≤ lastCode) :
    (s.difference t).has code = (s.has code && !t.has code) := by
  rw [difference, has_complement _ valid, has_union, has_complement _ valid, Bool.not_or,
    Bool.not_not]

end CodeSet

end ShapeMatch
