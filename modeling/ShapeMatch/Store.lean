import ShapeMatch.Bindings

/-!
# The Store of Contexts

All contexts and what has been committed to them.

The slots of all contexts live in one dictionary. Nothing removes a slot, and
the only thing that writes one is committing the bindings of a match. A
commit first sorts the bindings into groups, one for each context, and then
writes one group after another, over what was there.

## Main definitions

* `Store`: How many contexts there are, and their slots.
* `Store.create`: A new context.
* `Store.read`: The value of a slot, or the error that it is not bound.
* `Bindings.groups`: Bindings sorted by context.
* `Store.commit`: Write the bindings of a match.
* `BindingError`: What can go wrong in reading a slot.

## Theorems

* `get?_create`: A new context binds nothing and changes no other.
* `commit_empty`: Committing no bindings changes nothing.
-/

namespace ShapeMatch

/-- What can go wrong in reading a slot. -/
inductive BindingError where
  /-- Nothing has been committed to the slot of that name. -/
  | unbound (slot : String)
  deriving DecidableEq

namespace BindingError

/-- The text of the error. -/
def message : BindingError → String
  | unbound slot => "slot '" ++ slot ++ "' is not bound"

/-- The debug text of the error. -/
def debug : BindingError → String
  | unbound slot => "Unbound \x7b slot: " ++ quote slot ++ " \x7d"

end BindingError

/-- The contexts created so far and the slots committed to them. -/
structure Store where
  /-- The number of contexts created. -/
  created : Nat
  /-- The committed slots of all contexts. -/
  slots : Dictionary Slot Value
  deriving Inhabited

namespace Bindings

/-- Add a binding to the group of its context, which is new if it has none. -/
def addToGroup (groups : Dictionary ContextId (List (String × Value))) (entry : Slot × Value) :
    Dictionary ContextId (List (String × Value)) :=
  groups.insert entry.1.context
    ((groups.get? entry.1.context).getD [] ++ [(entry.1.name, entry.2)])

/-- Bindings sorted by context, each context with its names and their values. -/
def groups (b : Bindings) : Dictionary ContextId (List (String × Value)) :=
  b.entries.foldl addToGroup .empty

end Bindings

namespace Store

/-- No context. -/
def empty : Store := ⟨0, Dictionary.empty⟩

instance : EmptyCollection Store := ⟨empty⟩

/-- Create a context. -/
def create (store : Store) : ContextId × Store :=
  (⟨store.created + 1⟩, { store with created := store.created + 1 })

/-- The value committed to a slot. -/
def get? (store : Store) (slot : Slot) : Option Value := store.slots.get? slot

/-- The value committed to a slot, or the error that there is none. -/
def read (store : Store) (slot : Slot) : Except BindingError Value :=
  match store.get? slot with
  | some value => .ok value
  | none => .error (.unbound slot.name)

/-- Whether a value has been committed to a slot. -/
def contains (store : Store) (slot : Slot) : Bool := (store.get? slot).isSome

/-- The names bound in a context and their values, sorted by name. -/
def snapshot (store : Store) (context : ContextId) : List (String × Value) :=
  let own := store.slots.entries.filter fun entry => entry.1.context = context
  (own.map fun entry => (entry.1.name, entry.2)).mergeSort fun x y => x.1 ≤ y.1

/-- The number of slots bound in a context. -/
def size (store : Store) (context : ContextId) : Nat := (store.snapshot context).length

/-- The debug text of a context: its identity and the names bound in it. -/
def debugContext (store : Store) (context : ContextId) : String :=
  "Context \x7b id: " ++ context.debug ++ ", slots: [" ++
    commaSeparated ((store.snapshot context).map fun entry => quote entry.1) ++ "] \x7d"

/-- Write names and their values to a context. -/
def write (store : Store) (context : ContextId) (slots : List (String × Value)) : Store :=
  { store with
    slots := slots.foldl (fun all slot => all.insert ⟨context, slot.1⟩ slot.2) store.slots }

/-- Write the bindings of a match to their contexts, one context after
    another. -/
def commit (store : Store) (bindings : Bindings) : Store :=
  bindings.groups.entries.foldl (fun store group => store.write group.1 group.2) store

@[simp] theorem get?_create (store : Store) (slot : Slot) :
    store.create.2.get? slot = store.get? slot := rfl

@[simp] theorem commit_empty (store : Store) : store.commit .empty = store := rfl

end Store

end ShapeMatch
