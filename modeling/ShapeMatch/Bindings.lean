import ShapeMatch.Slot
import ShapeMatch.Value.Equality
import ShapeMatch.Value.Text

/-!
# Bindings

The captures that a match has recorded so far.

A slot is bound by the first value that is captured for it. Every later
capture of the slot has to be deeply equal to that first one, and leaves it in
place. Two sets of bindings merge by the same rule, one entry of the second
after another.

New slots go to the end, so bindings that have grown from others begin with
the entries of those.

## Main definitions

* `Bindings`: Values under slots.
* `Bindings.bind?`: Record one capture, unless it disagrees.
* `Bindings.absorb?`: Merge other bindings, unless they disagree.
* `Bindings.debug`: The text of bindings, sorted by slot.

## Theorems

* `bind?_empty`: The first capture is always recorded.
* `absorb?_empty`: Merging no bindings changes nothing.
-/

namespace ShapeMatch

/-- Captured values under slots, in the order in which the slots were bound. -/
structure Bindings where
  slots : Dictionary Slot Value
  deriving Inhabited

namespace Bindings

/-- Nothing bound. -/
def empty : Bindings := ⟨Dictionary.empty⟩

instance : EmptyCollection Bindings := ⟨empty⟩

/-- The value bound to a slot. -/
def get? (b : Bindings) (slot : Slot) : Option Value := b.slots.get? slot

/-- The slots and their values, in the order in which they were bound. -/
def entries (b : Bindings) : List (Slot × Value) := b.slots.entries

/-- The number of bound slots. -/
def size (b : Bindings) : Nat := b.slots.size

/-- Whether no slot is bound. -/
def isEmpty (b : Bindings) : Bool := b.slots.isEmpty

/-- Record a capture. A slot already bound keeps its value, and the capture
    has to be equal to it. -/
def bind? (b : Bindings) (slot : Slot) (value : Value) : Option Bindings :=
  match b.get? slot with
  | some bound => if bound.deepEqual value then some b else none
  | none => some ⟨b.slots.insert slot value⟩

/-- Record the entries of other bindings, one after another. -/
def absorb? (b other : Bindings) : Option Bindings :=
  other.entries.foldlM (fun merged entry => merged.bind? entry.1 entry.2) b

/-- The text of bindings, sorted by the texts of the slots. -/
def debug (b : Bindings) : String :=
  let texts := b.entries.map fun entry => (entry.1.display, entry.2.debug)
  let sorted := texts.mergeSort fun x y => x.1 ≤ y.1
  "\x7b" ++ commaSeparated (sorted.map fun text => quote text.1 ++ ": " ++ text.2) ++ "\x7d"

theorem bind?_empty (slot : Slot) (value : Value) :
    empty.bind? slot value = some ⟨⟨[(slot, value)]⟩⟩ := rfl

@[simp] theorem absorb?_empty (b : Bindings) : b.absorb? empty = some b := rfl

end Bindings

end ShapeMatch
