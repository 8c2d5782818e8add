import ShapeMatch.Json.Reader
import ShapeMatch.Proofs.Numerals

/-!
# Documents that are Read

The documents that are read from texts are well formed: their names are in
ascending order, and their numbers are finite. So what is known of well-formed
documents holds of all that is read, and of the values of texts.

The reader writes the members of an object one by one into sorted fields, and it
refuses a numeral that is too great for a finite number. Nothing else decides
about it, so the proof follows the recursion of the reader, which is bounded by a
number of steps and mutual between documents, items and members. All three are
settled together, by induction on the steps. `Yields` says of a reader what holds
of the things that it reads, and nothing of a text that it refuses.

## Main definitions

* `Json.Yields`: What is read, if anything, has a property.

## Theorems

* `yields_wellFormed`: One induction for documents, items and members.
* `Document.wellFormed_of_ofText`: The documents of texts are well formed.
* `Value.follow?_of_ofJson`, `Value.deepEqual_of_ofJson`: The values of texts have the
  parts of the documents, and are equal iff these are.
-/

namespace ShapeMatch

namespace Json

section Yields

variable {α β : Type} {P : α → Prop} {Q : β → Prop}

/-- If anything is read, it has the property. -/
def Yields (P : α → Prop) (result : Except Fault (α × List Char)) : Prop :=
  ∀ x rest, result = .ok (x, rest) → P x

theorem yields_error (fault : Fault) : Yields P (.error fault) := nofun

theorem yields_ok {x : α} (h : P x) (rest : List Char) : Yields P (.ok (x, rest)) := by
  intro y _ hy
  rw [Except.ok.injEq, Prod.mk.injEq] at hy
  exact hy.1 ▸ h

theorem yields_bind {result : Except Fault (α × List Char)}
    {next : α × List Char → Except Fault (β × List Char)} (h : Yields P result)
    (hnext : ∀ x rest, P x → Yields Q (next (x, rest))) : Yields Q (result >>= next) := by
  cases result with
  | error fault => exact yields_error fault
  | ok found => exact hnext found.1 found.2 (h _ _ rfl)

theorem yields_true (result : Except Fault (α × List Char)) : Yields (fun _ => True) result :=
  fun _ _ _ => trivial

theorem yields_unexpected (input : List Char) : Yields P (unexpected input) := by
  cases input with
  | nil => exact yields_error _
  | cons c rest => exact yields_error _

end Yields

section Numbers

theorem yields_number (negative : Bool) (input : List Char) :
    Yields Number.Finite (readNumber negative input) := by
  unfold readNumber
  refine yields_bind (yields_true _) fun whole rest _ => ?_
  refine yields_bind (yields_true _) fun fraction rest _ => ?_
  refine yields_bind (yields_true _) fun exponent rest _ => ?_
  dsimp only
  split
  · next number hnumber => exact yields_ok (finite_of_value? hnumber) rest
  · exact yields_error _

end Numbers

theorem yields_word (word : List Char) {d : Document} (h : d.WellFormed) (input : List Char) :
    Yields Document.WellFormed (readWord word d input) := by
  unfold readWord
  split
  · exact yields_ok h _
  · split <;> exact yields_error _

/-- Documents, items and members are read well formed, by induction on the bound of
    the recursion. -/
theorem yields_wellFormed (steps : Nat) :
    (∀ depth input, Yields Document.WellFormed (readDocument steps depth input)) ∧
    (∀ depth input, Yields (fun items => ∀ d ∈ items, d.WellFormed)
      (readItems steps depth input)) ∧
    (∀ depth input, Yields (fun members => ∀ member ∈ members, member.2.WellFormed)
      (readMembers steps depth input)) := by
  induction steps with
  | zero =>
      exact ⟨fun _ _ => yields_error _, fun _ _ => yields_error _, fun _ _ => yields_error _⟩
  | succ steps ih =>
      rcases ih with ⟨ihdocument, ihitems, ihmembers⟩
      refine ⟨fun depth input => ?document, fun depth input => ?items, fun depth input => ?members⟩
      case document =>
        rw [readDocument]
        split
        · exact yields_error _
        · split
          · exact yields_word _ .null _
          · exact yields_word _ (.bool true) _
          · exact yields_word _ (.bool false) _
          · exact yields_bind (yields_true _) fun text rest _ => yields_ok (.str _) rest
          · exact yields_bind (yields_number true _) fun n rest hn => yields_ok (.number hn) rest
          · split
            · exact yields_error _
            · split
              · exact yields_ok (.array fun _ hd => absurd hd List.not_mem_nil) _
              · exact yields_bind (ihitems _ _) fun items rest hitems =>
                  yields_ok (.array hitems) rest
          · split
            · exact yields_error _
            · split
              · exact yields_ok (.object .nil fun _ hm => absurd hm List.not_mem_nil) _
              · exact yields_bind (ihmembers _ _) fun members rest hmembers =>
                  yields_ok (.ofList hmembers) rest
          · split
            · exact yields_bind (yields_number false _) fun n rest hn =>
                yields_ok (.number hn) rest
            · exact yields_error _
      case items =>
        rw [readItems]
        refine yields_bind (ihdocument depth input) fun item rest hitem => ?_
        dsimp only
        split
        · exact yields_bind (ihitems depth _) fun items rest hitems =>
            yields_ok (List.forall_mem_cons.mpr ⟨hitem, hitems⟩) rest
        · exact yields_ok (List.forall_mem_singleton.mpr hitem) _
        · exact yields_unexpected _
      case members =>
        rw [readMembers]
        split
        · refine yields_bind (yields_true _) fun name rest _ => ?_
          dsimp only
          split
          · refine yields_bind (ihdocument depth _) fun d rest hd => ?_
            have hcons : ∀ members : List (String × Document),
                (∀ member ∈ members, member.2.WellFormed) →
                ∀ member ∈ (String.ofList name, d) :: members, member.2.WellFormed :=
              fun _ hmembers => List.forall_mem_cons.mpr ⟨hd, hmembers⟩
            dsimp only
            split
            · exact yields_bind (ihmembers depth _) fun members rest hmembers =>
                yields_ok (hcons members hmembers) rest
            · exact yields_ok (hcons [] fun _ hm => absurd hm List.not_mem_nil) _
            · exact yields_unexpected _
          · exact yields_unexpected _
        · exact yields_unexpected _

/-- The documents of texts are well formed. -/
theorem Document.wellFormed_of_ofText {text : String} {d : Document}
    (h : Document.ofText text = .ok d) : d.WellFormed := by
  unfold ofText at h
  cases hread : readDocument (2 * text.length + 2) depthLimit text.toList with
  | error fault =>
      rw [hread] at h
      exact nomatch h
  | ok found =>
      have hfound := (yields_wellFormed _).1 _ _ found.1 found.2 hread
      rw [hread] at h
      change (if (skipBlank found.2).isEmpty then Except.ok found.1 else .error Fault.trailingText) =
        Except.ok d at h
      split at h
      · exact Except.ok.inj h ▸ hfound
      · exact nomatch h

end Json

namespace Value

/-- A value is read from a text iff a document is. -/
theorem ofJson_eq_ok_iff {text : String} {v : Value} :
    ofJson text = .ok v ↔
      ∃ d, Json.Document.ofText text = .ok d ∧ d.WellFormed ∧ ofDocument d = v := by
  unfold ofJson
  constructor
  · intro h
    cases hread : Json.Document.ofText text with
    | error fault =>
        rw [hread] at h
        exact nomatch h
    | ok d =>
        rw [hread] at h
        exact ⟨d, rfl, Json.Document.wellFormed_of_ofText hread, Except.ok.inj h⟩
  · rintro ⟨d, hread, -, rfl⟩
    rw [hread]
    rfl

/-- A path finds in the value of a text what it finds in the document. -/
theorem follow?_of_ofJson {text : String} {v : Value} (h : ofJson text = .ok v) :
    ∃ d, Json.Document.ofText text = .ok d ∧
      ∀ path, v.follow? path = (d.follow? path).map ofDocument := by
  rcases ofJson_eq_ok_iff.mp h with ⟨d, hread, hwellFormed, rfl⟩
  exact ⟨d, hread, follow?_ofDocument hwellFormed⟩

/-- The values of two texts are equal iff the documents are. -/
theorem deepEqual_of_ofJson {text text' : String} {v w : Value} (hv : ofJson text = .ok v)
    (hw : ofJson text' = .ok w) :
    ∃ d e, Json.Document.ofText text = .ok d ∧ Json.Document.ofText text' = .ok e ∧
      (v.deepEqual w = true ↔ d.Equivalent e) := by
  rcases ofJson_eq_ok_iff.mp hv with ⟨d, hread, hd, rfl⟩
  rcases ofJson_eq_ok_iff.mp hw with ⟨e, hread', he, rfl⟩
  exact ⟨d, e, hread, hread', alike_ofDocument_iff hd he⟩

end Value

end ShapeMatch
