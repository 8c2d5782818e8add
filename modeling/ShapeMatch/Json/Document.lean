import ShapeMatch.Binary64.Rounding
import ShapeMatch.Fields
import ShapeMatch.Value.Equality

/-!
# JSON Documents

JSON documents, and the values that they stand for.

The members of an object have different names and are listed in the order of
the names. A number is an integer of 64 bits, signed or not, or else a binary64
number.

As values, objects are maps with strings as keys, in the order of the members,
and arrays are lists. An integer within the signed range is an integer. All
other numbers are binary64 numbers.

## Main definitions

* `Json.Number`, `Json.Document`: Numbers and documents.
* `Value.ofDocument`: The value that a document stands for.

## Theorems

* `ofDocument_array`: An array is a list of the values of its items.
* `ofDocument_object`: The members of an object are inserted in their order.
-/

namespace ShapeMatch

namespace Json

/-- A number of a document. -/
inductive Number where
  /-- An integer written without fraction and exponent, within the signed
      range. -/
  | signed (i : Int64)
  /-- The same, within the unsigned range. -/
  | unsigned (n : UInt64)
  /-- Any other finite number. -/
  | real (x : Binary64)
  deriving DecidableEq

/-- A document. -/
inductive Document where
  | null
  | bool (b : Bool)
  | number (n : Number)
  | str (s : String)
  | array (items : List Document)
  | object (members : Fields Document)
  deriving Inhabited

end Json

namespace Value

open Json

/-- The value of a number. -/
def ofNumber : Number → Value
  | .signed i => int i
  | .unsigned n =>
    if n.toNat ≤ Int64.maxValue.toInt then int (.ofNat n.toNat)
    else float (.nearest false n.toNat 1)
  | .real x => float x

mutual

/-- The value that a document stands for. -/
def ofDocument : Document → Value
  | .null => none
  | .bool b => bool b
  | .number n => ofNumber n
  | .str s => str s
  | .array items => seq .list (ofDocuments items)
  | .object members => map (.ofList (ofMembers members))
termination_by structural d => d

/-- The values of the items of an array. -/
def ofDocuments : List Document → List Value
  | [] => []
  | d :: rest => ofDocument d :: ofDocuments rest
termination_by structural ds => ds

/-- The entries for the members of an object. -/
def ofMembers : Fields Document → List (Value × Value)
  | ⟨members⟩ => ofMemberList members
termination_by structural members => members

/-- The entries for a list of members. -/
def ofMemberList : List (String × Document) → List (Value × Value)
  | [] => []
  | member :: rest => ofMember member :: ofMemberList rest
termination_by structural members => members

/-- The entry for a member: its name as a string, and its value. -/
def ofMember : String × Document → Value × Value
  | (name, d) => (str name, ofDocument d)
termination_by structural member => member

end

theorem ofDocuments_eq_map (ds : List Document) : ofDocuments ds = ds.map ofDocument := by
  induction ds with
  | nil => rfl
  | cons d rest ih => rw [ofDocuments, ih, List.map_cons]

theorem ofMemberList_eq_map (members : List (String × Document)) :
    ofMemberList members = members.map fun member => (str member.1, ofDocument member.2) := by
  induction members with
  | nil => rfl
  | cons member rest ih => rw [ofMemberList, ih, List.map_cons, ofMember]

theorem ofDocument_array (items : List Document) :
    ofDocument (.array items) = seq .list (items.map ofDocument) := by
  rw [ofDocument, ofDocuments_eq_map]

theorem ofDocument_object (members : Fields Document) :
    ofDocument (.object members) =
      map (.ofList (members.entries.map fun member => (str member.1, ofDocument member.2))) := by
  rw [ofDocument, ofMembers, ofMemberList_eq_map]

end Value

end ShapeMatch
