/-!
# Contexts and Slots

What a capture is written to.

A context is a place for captured values, known by its number. A slot is a
name within a context. Equal names in two contexts are two slots, and however
many handles of a context there are, they all carry its number.

## Main definitions

* `ContextId`: The identity of a context.
* `Slot`: A name within a context.
* `Slot.display`: The text of a slot.

## Theorems

* `Slot.display_injective`: Different slots have different texts.
-/

namespace ShapeMatch

/-- The identity of a context. Contexts are numbered from one, in the order of
    their creation. -/
structure ContextId where
  number : Nat
  deriving DecidableEq, Inhabited

namespace ContextId

/-- The text of a context. -/
def display (id : ContextId) : String := "ctx#" ++ toString id.number

/-- The debug text of the identity of a context. -/
def debug (id : ContextId) : String := "ContextId(" ++ toString id.number ++ ")"

end ContextId

/-- A name within a context. -/
structure Slot where
  context : ContextId
  name : String
  deriving DecidableEq, Inhabited

/-- The text of a slot. The context ends at the first point, so different slots
    have different texts. -/
def Slot.display (slot : Slot) : String := slot.context.display ++ "." ++ slot.name

-- Texts that are cut where a run of some class of characters ends have the same
-- parts.
theorem run_append_inj {P : Char → Prop} {a b x y : List Char} (ha : ∀ c ∈ a, P c)
    (hb : ∀ c ∈ b, P c) (hx : ∀ c ∈ x.head?, ¬P c) (hy : ∀ c ∈ y.head?, ¬P c)
    (h : a ++ x = b ++ y) : a = b ∧ x = y := by
  induction a generalizing b with
  | nil =>
      cases b with
      | nil => exact ⟨rfl, h⟩
      | cons d b =>
          rw [List.nil_append] at h
          exact absurd (hb d List.mem_cons_self) (hx d (h ▸ rfl))
  | cons c a ih =>
      cases b with
      | nil =>
          rw [List.nil_append] at h
          exact absurd (ha c List.mem_cons_self) (hy c (h ▸ rfl))
      | cons d b =>
          rw [List.cons_append, List.cons_append, List.cons.injEq] at h
          rw [List.forall_mem_cons] at ha hb
          rcases ih ha.2 hb.2 h.2 with ⟨hab, hxy⟩
          exact ⟨by rw [h.1, hab], hxy⟩

theorem toDigits_ten_inj {m n : Nat} (h : Nat.toDigits 10 m = Nat.toDigits 10 n) : m = n := by
  -- The number is read back from its digits.
  have hnumber := congrArg (Nat.ofDigitChars 10 · 0) h
  simp only [Nat.ofDigitChars_ten_toDigits] at hnumber
  exact hnumber

theorem isDigit_of_mem_toDigits_ten {n : Nat} : ∀ c ∈ Nat.toDigits 10 n, c.isDigit = true :=
  fun _ hc => Nat.isDigit_of_mem_toDigits (by decide) (by decide) hc

/-- Different slots have different texts, whatever is in their names. -/
theorem Slot.display_injective {a b : Slot} (h : a.display = b.display) : a = b := by
  rcases a with ⟨⟨m⟩, x⟩
  rcases b with ⟨⟨n⟩, y⟩
  have htexts := congrArg String.toList h
  simp only [display, ContextId.display, String.toList_append, Nat.toString_eq_repr,
    Nat.toList_repr, List.append_assoc] at htexts
  have hpoint : ∀ rest : List Char, ∀ c ∈ ('.' :: rest).head?, ¬c.isDigit = true := by
    intro rest c hc
    rw [← Option.some.inj hc]
    decide
  rcases run_append_inj isDigit_of_mem_toDigits_ten isDigit_of_mem_toDigits_ten (hpoint _)
    (hpoint _) (List.append_cancel_left htexts) with ⟨hdigits, hrest⟩
  rw [toDigits_ten_inj hdigits, String.toList_inj.mp (List.cons.inj hrest).2]

end ShapeMatch
