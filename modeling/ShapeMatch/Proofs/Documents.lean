import ShapeMatch.Json.Document
import ShapeMatch.Proofs.Extensionality
import ShapeMatch.Proofs.FieldOrder
import ShapeMatch.Proofs.Rounding

/-!
# Documents as Values

The value of a JSON document has the shape of the document, and two documents
have equal values exactly if they are equal as documents.

The members of an object are inserted one by one into a map, which searches its
keys each time. For a document that search never finds anything: the names are
distinct, and so are the strings that stand for them, so each member goes to the
end. Therefore a map has the entries of the object in their order, and what a
path finds in a document it finds in the value.

Documents are equal regardless of the order of members, and regardless of the way
in which a number is held. It is held as an integer or as a binary64 number, and an
integer beyond the signed range counts as the binary64 number nearest to it. Values
are compared by deep equality, which is exact for numbers and extensional for
maps. As the keys of these maps are strings, a map holds nothing under other keys,
and equality of maps is equality of members, name by name.

## Main definitions

* `Json.Number.whole?`, `Json.Number.exact`: The integer that a number is written as,
  and the rational number that it is compared by.
* `Json.Document.WellFormed`: Names in ascending order, and finite numbers.
* `Json.Link`, `Json.Document.follow?`, `Value.follow?`: Paths into documents and
  into values.
* `Value.entriesOf`: The entries that the members of an object stand for.
* `Value.family`: The type of a value, with all numbers taken together.
* `Json.Document.Equivalent`: Equality of documents.

## Theorems

* `ofNumber_cases`: What numbers become.
* `alike_ofNumber_iff`: Equality of numbers is equality of what they become.
* `ofDocument_members`: The entries for an object are its members.
* `follow?_ofDocument`: Paths find the same in both.
* `alike_ofDocument_iff`: Equality of documents is equality of values.
* `ofDocument_faithful`: All of it.
-/

namespace ShapeMatch

namespace Json

/-- The integer that a number is written as. -/
def Number.whole? : Number → Option Int
  | .signed i => some i.toInt
  | .unsigned n => some n.toNat
  | .real _ => none

/-- The rational number that a number is compared by. An integer beyond the signed
    range counts as the nearest binary64 number. -/
def Number.exact : Number → ℚ
  | .signed i => i.toInt
  | .unsigned n => if n.toNat < 2 ^ 63 then n.toNat else (Binary64.nearest false n.toNat 1).toRat
  | .real x => x.toRat

/-- Numbers that are not written as integers are finite. -/
def Number.Finite (n : Number) : Prop := ∀ x, n = .real x → x.isFinite = true

/-- One step of a path: to a member of an object, or to an item of an array. -/
inductive Link where
  | name (s : String)
  | index (i : Nat)

namespace Document

/-- Induction on documents, with the hypothesis for each item and each member. -/
theorem induction {motive : Document → Prop} (null : motive .null) (bool : ∀ b, motive (.bool b))
    (number : ∀ n, motive (.number n)) (str : ∀ s, motive (.str s))
    (array : ∀ items, (∀ d ∈ items, motive d) → motive (.array items))
    (object : ∀ members : Fields Document, (∀ member ∈ members.entries, motive member.2) →
      motive (.object members)) (d : Document) : motive d :=
  -- One motive for each type that the recursion passes through.
  @Document.rec motive (fun ds => ∀ d ∈ ds, motive d)
    (fun members => ∀ member ∈ members.entries, motive member.2)
    (fun members => ∀ member ∈ members, motive member.2) (fun member => motive member.2)
    null bool number str array object (fun _ h => absurd h List.not_mem_nil)
    (fun _ _ hd hrest => List.forall_mem_cons.mpr ⟨hd, hrest⟩) (fun _ h => h)
    (fun _ h => absurd h List.not_mem_nil)
    (fun _ _ hmember hrest => List.forall_mem_cons.mpr ⟨hmember, hrest⟩) (fun _ _ h => h) d

/-- The names of all objects are strictly ascending, and all numbers are finite. -/
inductive WellFormed : Document → Prop
  | null : WellFormed .null
  | bool (b : Bool) : WellFormed (.bool b)
  | number {n : Number} (h : n.Finite) : WellFormed (.number n)
  | str (s : String) : WellFormed (.str s)
  | array {items : List Document} (h : ∀ d ∈ items, WellFormed d) : WellFormed (.array items)
  | object {members : Fields Document} (hsorted : members.Sorted)
      (h : ∀ member ∈ members.entries, WellFormed member.2) : WellFormed (.object members)

theorem WellFormed.ofList {writes : List (String × Document)}
    (h : ∀ write ∈ writes, write.2.WellFormed) : (Document.object (.ofList writes)).WellFormed := by
  refine .object (Fields.sorted_ofList writes) fun member hmember => ?_
  rcases List.mem_map.mp (Fields.ofList_sound writes hmember) with ⟨write, hwrite, heq⟩
  exact heq ▸ h write hwrite

/-- What one step of a path finds in a document. -/
def child? : Document → Link → Option Document
  | .object members, .name s => members.get? s
  | .array items, .index i => items[i]?
  | _, _ => none

/-- What a path finds in a document. -/
def follow? (d : Document) (path : List Link) : Option Document := path.foldlM child? d

theorem WellFormed.child {d part : Document} {link : Link} (h : d.WellFormed)
    (hpart : d.child? link = some part) : part.WellFormed := by
  cases h with
  | array hitems =>
      cases link with
      | name s => exact nomatch hpart
      | index i => exact hitems part (List.mem_of_getElem? hpart)
  | object hsorted hmembers =>
      cases link with
      | name s => exact hmembers (s, part) (Fields.mem_of_get? hpart)
      | index i => exact nomatch hpart
  | _ => exact nomatch hpart

end Document

end Json

namespace Value

open Json

/-- What one step of a path finds in a value. -/
def child? (v : Value) : Link → Option Value
  | .name s => v.lookup? (str s)
  | .index i => v.asSequence?.bind fun view => view.2[i]?

/-- What a path finds in a value. -/
def follow? (v : Value) (path : List Link) : Option Value := path.foldlM child? v

end Value

/-- Two documents are equal, up to the order of members and the way in which their
    numbers are held. -/
inductive Json.Document.Equivalent : Document → Document → Prop
  | null : Equivalent .null .null
  | bool (b : Bool) : Equivalent (.bool b) (.bool b)
  | number {m n : Number} (h : m.exact = n.exact) : Equivalent (.number m) (.number n)
  | str (s : String) : Equivalent (.str s) (.str s)
  | array {xs ys : List Document} (h : List.Forall₂ Equivalent xs ys) :
      Equivalent (.array xs) (.array ys)
  | object {f g : Fields Document} (h : ∀ name, Option.Rel Equivalent (f.get? name) (g.get? name)) :
      Equivalent (.object f) (.object g)

namespace Json.Document.Equivalent

theorem bool_iff {b c : Bool} : Equivalent (.bool b) (.bool c) ↔ b = c := by
  refine ⟨fun h => ?_, fun h => h ▸ bool b⟩
  cases h
  rfl

theorem number_iff {m n : Number} :
    Equivalent (.number m) (.number n) ↔ m.exact = n.exact := by
  refine ⟨fun h => ?_, number⟩
  cases h with
  | number h => exact h

theorem str_iff {s t : String} : Equivalent (.str s) (.str t) ↔ s = t := by
  refine ⟨fun h => ?_, fun h => h ▸ str s⟩
  cases h
  rfl

theorem array_iff {xs ys : List Document} :
    Equivalent (.array xs) (.array ys) ↔ List.Forall₂ Equivalent xs ys := by
  refine ⟨fun h => ?_, array⟩
  cases h with
  | array h => exact h

theorem object_iff {f g : Fields Document} :
    Equivalent (.object f) (.object g) ↔
      ∀ name, Option.Rel Equivalent (f.get? name) (g.get? name) := by
  refine ⟨fun h => ?_, object⟩
  cases h with
  | object h => exact h

end Json.Document.Equivalent

namespace Value

open Json

-- Unsigned integers within the signed range, and beyond it.
theorem ofNumber_unsigned_of_lt {n : UInt64} (h : n.toNat < 2 ^ 63) :
    ofNumber (.unsigned n) = int (.ofNat n.toNat) ∧ (Int64.ofNat n.toNat).toInt = n.toNat := by
  have hmax := Int64.toInt_maxValue
  exact ⟨if_pos (by omega), Int64.toInt_ofNat_of_lt h⟩

theorem ofNumber_unsigned_of_not_lt {n : UInt64} (h : ¬n.toNat < 2 ^ 63) :
    ofNumber (.unsigned n) = float (.nearest false n.toNat 1) := by
  have hmax := Int64.toInt_maxValue
  exact if_neg (by omega)

/-- A number that is written as an integer of the signed range becomes that integer.
    Any other integer becomes the nearest binary64 number, and a binary64 number stays
    what it is. -/
theorem ofNumber_cases (n : Number) :
    (∃ i, ofNumber n = int i ∧ n.whole? = some i.toInt) ∨
    ∃ x, ofNumber n = float x ∧ (∀ i : Int64, n.whole? ≠ some i.toInt) ∧
      (∀ y, n = .real y → x = y) ∧ ∀ k : Int, n.whole? = some k → x.Rounds k := by
  cases n with
  | signed i => exact .inl ⟨i, rfl, rfl⟩
  | unsigned n =>
      by_cases hrange : n.toNat < 2 ^ 63
      · rcases ofNumber_unsigned_of_lt hrange with ⟨hint, hvalue⟩
        exact .inl ⟨_, hint, congrArg some hvalue.symm⟩
      · refine .inr ⟨_, ofNumber_unsigned_of_not_lt hrange, fun i hi => hrange ?_,
          fun _ hy => (nomatch hy), fun k hk => ?_⟩
        · have hvalue : (n.toNat : Int) = i.toInt := Option.some.inj hi
          have hbound := Int64.toInt_lt i
          omega
        · rw [← Option.some.inj hk, Int.cast_natCast]
          exact Binary64.nearest_rounds_whole n.toNat_lt
  | real x =>
      exact .inr ⟨x, rfl, fun _ hi => (nomatch hi), fun _ hy => Number.real.inj hy,
        fun _ hk => nomatch hk⟩

theorem exact_ofNumber {n : Number} (h : n.Finite) :
    (∃ i, ofNumber n = int i ∧ n.exact = i.toInt) ∨
    ∃ x, ofNumber n = float x ∧ x.isFinite = true ∧ n.exact = x.toRat := by
  cases n with
  | signed i => exact .inl ⟨i, rfl, rfl⟩
  | unsigned n =>
      by_cases hrange : n.toNat < 2 ^ 63
      · rcases ofNumber_unsigned_of_lt hrange with ⟨hint, hvalue⟩
        refine .inl ⟨_, hint, (if_pos hrange).trans ?_⟩
        rw [hvalue, Int.cast_natCast]
      · exact .inr ⟨_, ofNumber_unsigned_of_not_lt hrange,
          (Binary64.nearest_rounds_whole n.toNat_lt).finite, if_neg hrange⟩
  | real x => exact .inr ⟨x, rfl, h x rfl, rfl⟩

/-- Numbers become equal values iff they are equal. -/
theorem alike_ofNumber_iff {m n : Number} (hm : m.Finite) (hn : n.Finite) :
    (ofNumber m).Alike (ofNumber n) ↔ m.exact = n.exact := by
  rcases exact_ofNumber hm with ⟨i, hi, hexact⟩ | ⟨x, hx, hfinite, hexact⟩ <;>
    rcases exact_ofNumber hn with ⟨j, hj, hexact'⟩ | ⟨y, hy, hfinite', hexact'⟩ <;>
    rw [hexact, hexact', Alike]
  · rw [hi, hj, deepEqual, beq_iff_eq, Int.cast_inj, Int64.toInt_inj]
  · rw [hi, hy, deepEqual, Binary64.equalsInt_iff_toRat, and_iff_right hfinite', eq_comm]
  · rw [hx, hj, deepEqual, Binary64.equalsInt_iff_toRat, and_iff_right hfinite]
  · rw [hx, hy, deepEqual, Binary64.same_iff_toRat hfinite hfinite']

section Members

/-- The entries for members, in the order of the members. -/
def entriesOf (members : List (String × Document)) : Dictionary Value Value :=
  ⟨members.map fun member => (str member.1, ofDocument member.2)⟩

theorem beq_str (s t : String) : (str s == str t) = (s == t) := by
  rw [beq_eq_deepEqual, deepEqual]

theorem distinct_entriesOf {members : Fields Document} (h : members.Sorted) :
    (entriesOf members.entries).Distinct := by
  unfold Dictionary.Distinct Dictionary.keys entriesOf
  rw [List.map_map, List.pairwise_map]
  refine (List.pairwise_map.mp h.nodup).imp fun hne => ?_
  rw [Function.comp_apply, Function.comp_apply, beq_str]
  exact beq_eq_false_iff_ne.mpr hne

/-- The entries for an object are those for its members, none lost and none merged. -/
theorem ofDocument_members {members : Fields Document} (h : members.Sorted) :
    ofDocument (.object members) = map (entriesOf members.entries) := by
  rw [ofDocument_object, Dictionary.ofList_of_distinct (distinct_entriesOf h)]
  rfl

theorem get?_entriesOf (members : List (String × Document)) (name : String) :
    (entriesOf members).get? (str name) = (members.lookup name).map ofDocument := by
  induction members with
  | nil => rfl
  | cons member rest ih =>
      rw [entriesOf, List.map_cons, Dictionary.get?_cons, beq_str]
      by_cases hname : member.1 = name
      · rw [if_pos (beq_iff_eq.mpr hname), ← hname, List.lookup_cons_self, Option.map_some]
      · rw [if_neg (mt beq_iff_eq.mp hname), Fields.lookup_cons_of_ne (Ne.symm hname), ← ih]
        rfl

-- Nothing is held under a key that is not a string.
theorem get?_entriesOf_of_ne {key : Value} (h : ∀ s, key ≠ str s)
    (members : List (String × Document)) : (entriesOf members).get? key = Option.none := by
  rw [Dictionary.get?_eq_none_iff]
  intro entry hentry
  rcases List.mem_map.mp hentry with ⟨member, -, rfl⟩
  rw [beq_eq_deepEqual]
  cases key with
  | str s => exact absurd rfl (h s)
  | _ => simp only [deepEqual]

end Members

/-- The values of documents are built by the operations. -/
theorem built_ofDocument (d : Document) : (ofDocument d).Built := by
  induction d using Document.induction with
  | null => exact .none
  | bool b => exact .bool b
  | number n =>
      cases n with
      | signed i => exact .int i
      | unsigned n =>
          rw [ofDocument, ofNumber]
          split
          · exact .int _
          · exact .float _
      | real x => exact .float x
  | str s => exact .str s
  | array items ih =>
      rw [ofDocument_array]
      exact .seq .list _ (List.forall_mem_map.mpr ih)
  | object members ih =>
      rw [ofDocument_object]
      exact .map _ (List.forall_mem_map.mpr fun member _ => .str member.1)
        (List.forall_mem_map.mpr ih)

section Paths

/-- A step of a path finds in a value what it finds in the document. -/
theorem child?_ofDocument {d : Document} (h : d.WellFormed) (link : Link) :
    (ofDocument d).child? link = (d.child? link).map ofDocument := by
  cases h with
  | @number n _ =>
      rw [ofDocument]
      rcases ofNumber_cases n with ⟨i, hi, -⟩ | ⟨x, hx, -⟩
      · rw [hi]
        cases link <;> rfl
      · rw [hx]
        cases link <;> rfl
  | @array items _ =>
      rw [ofDocument_array]
      cases link with
      | name s => rfl
      | index i => exact List.getElem?_map
  | @object members hsorted _ =>
      rw [ofDocument_members hsorted]
      cases link with
      | name s => exact get?_entriesOf members.entries s
      | index i => rfl
  | _ => cases link <;> rfl

/-- A path finds in a value what it finds in the document. -/
theorem follow?_ofDocument {d : Document} (h : d.WellFormed) (path : List Link) :
    (ofDocument d).follow? path = (d.follow? path).map ofDocument := by
  unfold follow? Document.follow?
  induction path generalizing d with
  | nil => rfl
  | cons link rest ih =>
      rw [List.foldlM_cons, List.foldlM_cons, child?_ofDocument h]
      cases hpart : d.child? link with
      | none => rfl
      | some part => exact ih (h.child hpart)

end Paths

section Equality

/-- The type of a value, with all numbers taken together. -/
def family : Value → TypeTag
  | float _ => .int
  | v => v.typeOf

theorem family_of_number {v : Value} {n : Binary64.Denotation} (h : v.number? = some n) :
    v.family = .int := by
  cases v with
  | int i => rfl
  | float x => rfl
  | _ => exact nomatch h

theorem Interchangeable.family {v w : Value} (h : Interchangeable v w) : v.family = w.family := by
  cases h.layer with
  | number n hn hn' => rw [family_of_number hn, family_of_number hn']
  | _ => rfl

/-- The family of the values that documents of one kind stand for. -/
def familyOf : Document → TypeTag
  | .null => .none
  | .bool _ => .bool
  | .number _ => .int
  | .str _ => .str
  | .array _ => .list
  | .object _ => .map

theorem family_ofDocument (d : Document) : (ofDocument d).family = familyOf d := by
  cases d with
  | number n =>
      cases n with
      | unsigned n =>
          rw [ofDocument, ofNumber]
          split <;> rfl
      | _ => rfl
  | _ => rfl

/-- Documents of different kinds have no equal values. -/
theorem familyOf_eq {d e : Document} (h : (ofDocument d).Alike (ofDocument e)) :
    familyOf d = familyOf e := by
  have hvalues : Interchangeable (ofDocument d) (ofDocument e) :=
    ⟨built_ofDocument d, built_ofDocument e, h⟩
  rw [← family_ofDocument, ← family_ofDocument, hvalues.family]

theorem alike_array_iff {xs ys : List Document} :
    (ofDocument (.array xs)).Alike (ofDocument (.array ys)) ↔
      List.Forall₂ (fun d e => (ofDocument d).Alike (ofDocument e)) xs ys := by
  rw [ofDocument_array, ofDocument_array, Alike, deepEqual_seq, Bool.and_eq_true,
    and_iff_right (beq_self_eq_true _), itemsEqual_iff, List.forall₂_map_left_iff,
    List.forall₂_map_right_iff]

theorem alike_object_iff {f g : Fields Document} (hf : f.Sorted) (hg : g.Sorted) :
    (ofDocument (.object f)).Alike (ofDocument (.object g)) ↔
      ∀ name, Option.Rel (fun d e => (ofDocument d).Alike (ofDocument e)) (f.get? name)
        (g.get? name) := by
  have hbuilt := built_ofDocument (.object f)
  have hbuilt' := built_ofDocument (.object g)
  rw [ofDocument_members hf] at hbuilt ⊢
  rw [ofDocument_members hg] at hbuilt' ⊢
  refine (deepEqual_map_iff hbuilt hbuilt').trans ⟨fun h name => ?_, fun h k _ => ?_⟩
  · have hname := h (str name) (.str name)
    rw [get?_entriesOf, get?_entriesOf, optionRel_map_iff] at hname
    exact hname
  · by_cases hstr : ∃ s, k = str s
    · rcases hstr with ⟨s, rfl⟩
      rw [get?_entriesOf, get?_entriesOf, optionRel_map_iff]
      exact h s
    · rw [not_exists] at hstr
      rw [get?_entriesOf_of_ne hstr, get?_entriesOf_of_ne hstr]
      exact .none

-- Documents of different kinds are not equal either.
theorem alike_iff_of_ne {d e : Document} (h : familyOf d ≠ familyOf e) :
    (ofDocument d).Alike (ofDocument e) ↔ d.Equivalent e := by
  refine iff_of_false (mt familyOf_eq h) fun hequal => h ?_
  cases hequal <;> rfl

/-- Well-formed documents are equal iff their values are, by induction on the
    first one. -/
theorem alike_ofDocument_iff {d e : Document} (hd : d.WellFormed) (he : e.WellFormed) :
    (ofDocument d).Alike (ofDocument e) ↔ d.Equivalent e := by
  induction d using Document.induction generalizing e with
  | null =>
      cases he with
      | null => exact iff_of_true rfl .null
      | _ => exact alike_iff_of_ne (by simp [familyOf])
  | bool b =>
      cases he with
      | bool c =>
          rw [ofDocument, ofDocument, Alike, deepEqual, beq_iff_eq, Document.Equivalent.bool_iff]
      | _ => exact alike_iff_of_ne (by simp [familyOf])
  | number m =>
      cases hd with
      | number hm =>
          cases he with
          | number hn =>
              exact (alike_ofNumber_iff hm hn).trans Document.Equivalent.number_iff.symm
          | _ => exact alike_iff_of_ne (by simp [familyOf])
  | str s =>
      cases he with
      | str t =>
          rw [ofDocument, ofDocument, Alike, deepEqual, beq_iff_eq, Document.Equivalent.str_iff]
      | _ => exact alike_iff_of_ne (by simp [familyOf])
  | array xs ih =>
      cases hd with
      | array hxs =>
          cases he with
          | array hys =>
              rw [alike_array_iff, Document.Equivalent.array_iff]
              exact forall₂_congr fun x hx y hy => ih x hx (hxs x hx) (hys y hy)
          | _ => exact alike_iff_of_ne (by simp [familyOf])
  | object f ih =>
      cases hd with
      | object hf hmembers =>
          cases he with
          | @object g hg hmembers' =>
              rw [alike_object_iff hf hg, Document.Equivalent.object_iff]
              refine forall_congr' fun name => optionRel_congr fun x hx y hy => ?_
              have hmem := Fields.mem_of_get? hx
              exact ih _ hmem (hmembers _ hmem) (hmembers' _ (Fields.mem_of_get? hy))
          | _ => exact alike_iff_of_ne (by simp [familyOf])

end Equality

/-- Documents are converted faithfully. What is no number, array or object stays what
    it is. An object becomes a map with its names as keys in its order, and an array a
    list of its length. A number becomes an integer iff it is written as one of the
    signed range. Any other number becomes a binary64 number: the one that is held, or
    the one nearest to the integer that is held. A path finds in the value the value of
    what it finds in the document. Documents are equal regardless of the order of
    members, with numbers compared exactly, iff their values are deeply equal. -/
theorem ofDocument_faithful :
    (ofDocument .null = none ∧ (∀ b, ofDocument (.bool b) = bool b) ∧
      ∀ s, ofDocument (.str s) = str s) ∧
    (∀ members : Fields Document, members.Sorted →
      ofDocument (.object members) =
        map ⟨members.entries.map fun member => (str member.1, ofDocument member.2)⟩) ∧
    (∀ items : List Document, ofDocument (.array items) = seq .list (items.map ofDocument)) ∧
    (∀ n : Number,
      (∃ i, ofDocument (.number n) = int i ∧ n.whole? = some i.toInt) ∨
      ∃ x, ofDocument (.number n) = float x ∧ (∀ i : Int64, n.whole? ≠ some i.toInt) ∧
        (∀ y, n = .real y → x = y) ∧ ∀ k : Int, n.whole? = some k → x.Rounds k) ∧
    (∀ d : Document, d.WellFormed → ∀ path,
      (ofDocument d).follow? path = (d.follow? path).map ofDocument) ∧
    (∀ d e : Document, d.WellFormed → e.WellFormed →
      ((ofDocument d).deepEqual (ofDocument e) = true ↔ d.Equivalent e)) :=
  ⟨⟨rfl, fun _ => rfl, fun _ => rfl⟩, fun _ => ofDocument_members, ofDocument_array,
    ofNumber_cases, fun _ => follow?_ofDocument, fun _ _ => alike_ofDocument_iff⟩

-- `{"a": [1, 2.5], "b": null}` and `{"b": null, "a": [1.0, 2.5]}` are equal, and `1.5`
-- and `2.5` are not.
theorem ofDocument_faithful_of_nested :
    (ofDocument (.object (.ofList [("a", .array [.number (.signed 1),
      .number (.real ⟨0x4004000000000000⟩)]), ("b", .null)]))).follow? [.name "a", .index 0] =
        some (int 1) ∧
    (Document.object (.ofList [("a", .array [.number (.signed 1),
      .number (.real ⟨0x4004000000000000⟩)]), ("b", .null)])).Equivalent
      (.object (.ofList [("b", .null), ("a", .array [.number (.real ⟨0x3ff0000000000000⟩),
        .number (.real ⟨0x4004000000000000⟩)])])) ∧
    ¬(Document.number (.real ⟨0x3ff8000000000000⟩)).Equivalent
      (.number (.real ⟨0x4004000000000000⟩)) := by
  have hreal : ∀ {x : Binary64}, x.isFinite = true → (Document.number (.real x)).WellFormed :=
    fun hx => .number fun _ hy => Number.real.inj hy ▸ hx
  have hitems : ∀ {d : Document}, d.WellFormed →
      (Document.array [d, .number (.real ⟨0x4004000000000000⟩)]).WellFormed := by
    intro d hd
    refine .array ?_
    rw [List.forall_mem_cons, List.forall_mem_singleton]
    exact ⟨hd, hreal rfl⟩
  have hobject : ∀ {s t : String} {d e : Document}, d.WellFormed → e.WellFormed →
      (Document.object (.ofList [(s, d), (t, e)])).WellFormed := fun hd he =>
    .ofList (List.forall_mem_cons.mpr ⟨hd, List.forall_mem_singleton.mpr he⟩)
  have hleft := hobject (s := "a") (t := "b") (hitems (.number (n := .signed 1) nofun)) .null
  have hright := hobject (s := "b") (t := "a") .null (hitems (hreal (x := ⟨0x3ff0000000000000⟩) rfl))
  rcases ofDocument_faithful with ⟨-, -, -, -, hfollow, hequal⟩
  exact ⟨(hfollow _ hleft _).trans rfl, (hequal _ _ hleft hright).mp rfl,
    fun h => absurd ((hequal _ _ (hreal rfl) (hreal rfl)).mpr h) (by decide)⟩

end Value

end ShapeMatch
