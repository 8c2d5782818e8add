import ShapeMatch.Slot
import ShapeMatch.Value.Equality
import ShapeMatch.Value.Text

/-!
# Display Texts of Plain Data

The display text of plain data determines the data.

Texts of values stand one after another inside other texts, so it is not enough
that different values have different texts. What is needed is that a text which
begins with that of a value begins with that of no other value, and goes on in one
way. Strings end at the first quote that is not escaped, and lists, tuples and maps
at the bracket that closes them. Integers are the exception, since more digits
could follow. But no digit ever follows: a value is followed by a comma, a colon,
a closing bracket or nothing. `EndsNumber` says this of what follows.

The first character of a text tells which kind of value it is of. It is never one
that can stand behind a value, so after an item it is clear whether there is a next
one. The comma behind the only item of a tuple is told from a separator by the
bracket that follows it.

Between quotes, no escape begins another one, and the code of a character ends at
the brace that closes it. `Quoted.readChar` reads a character back, which says both.

## Main definitions

* `Quoted.readChar`: Reads one character of a quoted text.
* `EndsNumber`, `Closing`: What can follow a value, and the last of several values.
* `Determines`: A text begins with that of one thing only, and goes on in one way.
* `Value.Plain`: Values without numbers with a point, records and types.
* `Value.typeOfLead`: The type that the first character of a text tells.

## Theorems

* `Quoted.encode_append_inj`: Quoted texts end in one place.
* `renderInt_append_inj`: So do numbers that no digit follows.
* `separated_append_inj`: And several values, with what closes them.
* `Value.Plain.determines`: And plain values.
* `Value.eq_of_display_eq`: Equal texts are of equal values.
-/

namespace ShapeMatch

namespace Quoted

/-- The character that an escape of one character stands for. -/
def unescaped : Char → Char
  | 'n' => '\n'
  | 'r' => '\r'
  | 't' => '\t'
  | '0' => '\x00'
  | c => c

/-- Read one character of a quoted text. -/
def readChar : List Char → Option (Char × List Char)
  | [] => none
  | '\\' :: 'u' :: '\x7b' :: rest =>
    some (.ofNat (CodeSet.hexValue (rest.takeWhile (· ≠ '\x7d'))),
      (rest.dropWhile (· ≠ '\x7d')).tail)
  | '\\' :: c :: rest => some (unescaped c, rest)
  | c :: rest => some (c, rest)

-- Both by induction on the number, a digit at a time.
theorem hexValue_toDigits (n : Nat) : CodeSet.hexValue (Nat.toDigits 16 n) = n := by
  have hdigit : ∀ d < 16, CodeSet.hexDigit (Nat.digitChar d) = d := by decide
  induction n using Nat.strongRecOn with
  | ind n ih =>
      by_cases hn : n < 16
      · rw [Nat.toDigits_of_lt_base hn, CodeSet.hexValue, List.foldl_cons, List.foldl_nil,
          hdigit n hn, Nat.zero_mul, Nat.zero_add]
      · rw [Nat.toDigits_of_base_le (by decide) (Nat.le_of_not_lt hn), CodeSet.hexValue,
          List.foldl_append, List.foldl_cons, List.foldl_nil, hdigit _ (Nat.mod_lt _ (by decide))]
        have hrest := ih (n / 16) (by omega)
        unfold CodeSet.hexValue at hrest
        rw [hrest]
        omega

theorem ne_brace_of_mem_toDigits (n : Nat) : ∀ c ∈ Nat.toDigits 16 n, c ≠ '\x7d' := by
  have hdigit : ∀ d < 16, Nat.digitChar d ≠ '\x7d' := by decide
  induction n using Nat.strongRecOn with
  | ind n ih =>
      by_cases hn : n < 16
      · rw [Nat.toDigits_of_lt_base hn]
        exact List.forall_mem_singleton.mpr (hdigit n hn)
      · rw [Nat.toDigits_of_base_le (by decide) (Nat.le_of_not_lt hn)]
        exact List.forall_mem_append.mpr ⟨ih (n / 16) (by omega),
          List.forall_mem_singleton.mpr (hdigit _ (Nat.mod_lt _ (by decide)))⟩

theorem readChar_codeEscape (c : Char) (rest : List Char) :
    readChar (codeEscape c ++ rest) = some (c, rest) := by
  have hdigits : ∀ d ∈ Nat.toDigits 16 c.toNat, decide (d ≠ '\x7d') = true := fun d hd =>
    decide_eq_true (ne_brace_of_mem_toDigits c.toNat d hd)
  have htext : codeEscape c ++ rest =
      '\\' :: 'u' :: '\x7b' :: (Nat.toDigits 16 c.toNat ++ '\x7d' :: rest) := by
    simp only [codeEscape, List.append_assoc, List.cons_append, List.nil_append]
  rw [htext, readChar, List.takeWhile_append_of_pos hdigits, List.dropWhile_append_of_pos hdigits,
    List.takeWhile_cons_of_neg (by decide), List.dropWhile_cons_of_neg (by decide),
    List.append_nil, hexValue_toDigits, Char.ofNat_toNat, List.tail_cons]

/-- A character of a quoted text reads back, whatever follows. -/
theorem readChar_encodeChar (c : Char) (rest : List Char) :
    readChar (encodeChar c ++ rest) = some (c, rest) := by
  unfold encodeChar
  split
  · rfl
  · rfl
  · rfl
  · rfl
  · rfl
  · rfl
  · next _ hslash _ _ _ _ =>
      split
      · exact readChar_codeEscape c rest
      · unfold readChar
        split
        · next h => exact nomatch h
        · next h => exact absurd (List.cons.inj h).1 hslash
        · next h => exact absurd (List.cons.inj h).1 hslash
        · next h =>
            rcases List.cons.inj h with ⟨rfl, rfl⟩
            rfl

theorem encodeChar_append_inj {c d : Char} {x y : List Char}
    (h : encodeChar c ++ x = encodeChar d ++ y) : c = d ∧ x = y := by
  have hread := congrArg readChar h
  rw [readChar_encodeChar, readChar_encodeChar, Option.some.injEq, Prod.mk.injEq] at hread
  exact hread

-- A quote that is not escaped is not the beginning of a character.
theorem encodeChar_append_ne (c : Char) (x y : List Char) : encodeChar c ++ x ≠ '"' :: y := by
  intro h
  have hread := congrArg readChar h
  rw [readChar_encodeChar] at hread
  have hquote : c = '"' := congrArg Prod.fst (Option.some.inj hread)
  rw [hquote] at h
  exact nomatch (List.cons.inj h).1

/-- A quoted text ends at the quote that closes it. -/
theorem encode_append_inj {s t x y : List Char} (h : encode s ++ x = encode t ++ y) :
    s = t ∧ x = y := by
  have hinner : s.flatMap encodeChar ++ '"' :: x = t.flatMap encodeChar ++ '"' :: y := by
    simpa only [encode, List.cons_append, List.append_assoc, List.nil_append, List.cons.injEq,
      true_and] using h
  clear h
  induction s generalizing t with
  | nil =>
      cases t with
      | nil => exact ⟨rfl, (List.cons.inj hinner).2⟩
      | cons d rest =>
          rw [List.flatMap_cons, List.append_assoc] at hinner
          exact absurd hinner.symm (encodeChar_append_ne d _ _)
  | cons c rest ih =>
      cases t with
      | nil =>
          rw [List.flatMap_cons, List.append_assoc] at hinner
          exact absurd hinner (encodeChar_append_ne c _ _)
      | cons d rest' =>
          rw [List.flatMap_cons, List.flatMap_cons, List.append_assoc, List.append_assoc] at hinner
          rcases encodeChar_append_inj hinner with ⟨rfl, hrest⟩
          rcases ih hrest with ⟨rfl, hxy⟩
          exact ⟨rfl, hxy⟩

end Quoted

/-- No digit comes next. -/
def EndsNumber (rest : List Char) : Prop := ∀ c ∈ rest.head?, ¬c.isDigit = true

theorem endsNumber_cons {c : Char} (h : c.isDigit = false) (rest : List Char) :
    EndsNumber (c :: rest) := by
  intro d hd
  rw [← Option.some.inj hd, h]
  exact Bool.false_ne_true

theorem toDigits_append_inj {m n : Nat} {x y : List Char} (hx : EndsNumber x) (hy : EndsNumber y)
    (h : Nat.toDigits 10 m ++ x = Nat.toDigits 10 n ++ y) : m = n ∧ x = y := by
  rcases run_append_inj isDigit_of_mem_toDigits_ten isDigit_of_mem_toDigits_ten hx hy h with
    ⟨hdigits, hxy⟩
  exact ⟨toDigits_ten_inj hdigits, hxy⟩

theorem exists_toDigits_eq_cons (n : Nat) :
    ∃ c rest, Nat.toDigits 10 n = c :: rest ∧ c.isDigit = true := by
  rcases List.exists_cons_of_ne_nil (Nat.toDigits_ne_nil (n := n) (b := 10)) with ⟨c, rest, hc⟩
  exact ⟨c, rest, hc, isDigit_of_mem_toDigits_ten c (hc ▸ List.mem_cons_self)⟩

-- A sign is no digit.
theorem toDigits_append_ne (n : Nat) (x y : List Char) : Nat.toDigits 10 n ++ x ≠ '-' :: y := by
  intro h
  rcases exists_toDigits_eq_cons n with ⟨c, rest, hc, hdigit⟩
  rw [hc, List.cons_append, List.cons.injEq] at h
  rw [h.1] at hdigit
  exact absurd hdigit (by decide)

/-- The text of a number ends at the next character that is no digit. -/
theorem renderInt_append_inj {i j : Int} {x y : List Char} (hx : EndsNumber x) (hy : EndsNumber y)
    (h : renderInt i ++ x = renderInt j ++ y) : i = j ∧ x = y := by
  cases i with
  | ofNat m =>
      cases j with
      | ofNat n =>
          rcases toDigits_append_inj hx hy h with ⟨rfl, hxy⟩
          exact ⟨rfl, hxy⟩
      | negSucc n => exact absurd h (toDigits_append_ne m x _)
  | negSucc m =>
      cases j with
      | ofNat n => exact absurd h.symm (toDigits_append_ne n y _)
      | negSucc n =>
          rcases toDigits_append_inj hx hy (List.cons.inj h).2 with ⟨hmn, hxy⟩
          exact ⟨congrArg Int.negSucc (Nat.succ.inj hmn), hxy⟩

/-- What closes several values: a bracket, or a comma in front of a parenthesis. -/
inductive Closing : List Char → Prop
  | bracket {c : Char} (h : c = ']' ∨ c = ')' ∨ c = '\x7d') (rest : List Char) : Closing (c :: rest)
  | single (rest : List Char) : Closing (',' :: ')' :: rest)

theorem Closing.endsNumber {rest : List Char} (h : Closing rest) : EndsNumber rest := by
  cases h with
  | bracket hc rest => rcases hc with rfl | rfl | rfl <;> exact endsNumber_cons rfl rest
  | single rest => exact endsNumber_cons rfl _

-- No further value follows.
theorem Closing.ne_comma {rest : List Char} (h : Closing rest) (more : List Char) :
    rest ≠ Value.comma ++ more := by
  intro heq
  cases h with
  | bracket hc rest => rcases hc with rfl | rfl | rfl <;> exact nomatch (List.cons.inj heq).1
  | single rest => exact nomatch (List.cons.inj (List.cons.inj heq).2).1

/-- A text that begins with that of `a` begins with no other one, and goes on in one
    way, if no digit comes next. -/
def Determines {α : Type} (P : α → Prop) (text : α → List Char) (a : α) : Prop :=
  ∀ b x y, P b → EndsNumber x → EndsNumber y → text a ++ x = text b ++ y → a = b ∧ x = y

section Parts

variable {α : Type} {P : α → Prop} {text : α → List Char}

theorem separated_cons (separator first : List Char) (rest : List (List Char)) :
    separated separator (first :: rest) = first ++ rest.flatMap (separator ++ ·) := by
  induction rest generalizing first with
  | nil => rw [separated, List.flatMap_nil, List.append_nil]
  | cons next rest ih =>
      rw [separated, ih, List.flatMap_cons, List.append_assoc, List.append_assoc]
      exact nofun

theorem endsNumber_rest (rest : List (List Char)) {u : List Char} (hu : Closing u) :
    EndsNumber (rest.flatMap (Value.comma ++ ·) ++ u) := by
  cases rest with
  | nil => exact hu.endsNumber
  | cons next rest => exact endsNumber_cons rfl _

-- The parts after the first one, each behind a comma.
theorem rest_append_inj {xs ys : List α} {u v : List Char}
    (hxs : ∀ a ∈ xs, Determines P text a) (hys : ∀ b ∈ ys, P b) (hu : Closing u) (hv : Closing v)
    (h : (xs.map text).flatMap (Value.comma ++ ·) ++ u =
      (ys.map text).flatMap (Value.comma ++ ·) ++ v) : xs = ys ∧ u = v := by
  induction xs generalizing ys with
  | nil =>
      cases ys with
      | nil => exact ⟨rfl, h⟩
      | cons b ys =>
          rw [List.map_cons, List.flatMap_cons, List.append_assoc, List.append_assoc] at h
          exact absurd h (hu.ne_comma _)
  | cons a xs ih =>
      cases ys with
      | nil =>
          rw [List.map_cons, List.flatMap_cons, List.append_assoc, List.append_assoc] at h
          exact absurd h.symm (hv.ne_comma _)
      | cons b ys =>
          rw [List.forall_mem_cons] at hxs hys
          simp only [List.map_cons, List.flatMap_cons, List.append_assoc] at h
          rcases hxs.1 b _ _ hys.1 (endsNumber_rest _ hu) (endsNumber_rest _ hv)
            (List.append_cancel_left h) with ⟨rfl, hrest⟩
          rcases ih hxs.2 hys.2 hrest with ⟨rfl, huv⟩
          exact ⟨rfl, huv⟩

/-- Several parts are determined by their texts together with what closes them, if no
    part begins like a closing. -/
theorem separated_append_inj {xs ys : List α} {u v : List Char}
    (hopen : ∀ a, P a → ∀ z, ¬Closing (text a ++ z)) (hxs : ∀ a ∈ xs, P a ∧ Determines P text a)
    (hys : ∀ b ∈ ys, P b) (hu : Closing u) (hv : Closing v)
    (h : separated Value.comma (xs.map text) ++ u = separated Value.comma (ys.map text) ++ v) :
    xs = ys ∧ u = v := by
  cases xs with
  | nil =>
      cases ys with
      | nil => exact ⟨rfl, h⟩
      | cons b ys =>
          rw [List.map_cons, separated_cons, List.append_assoc] at h
          change u = _ at h
          exact absurd (h ▸ hu) (hopen b (hys b List.mem_cons_self) _)
  | cons a xs =>
      cases ys with
      | nil =>
          rw [List.map_cons, separated_cons, List.append_assoc] at h
          change _ = v at h
          exact absurd (h ▸ hv) (hopen a (hxs a List.mem_cons_self).1 _)
      | cons b ys =>
          rw [List.forall_mem_cons] at hxs hys
          rw [List.map_cons, List.map_cons, separated_cons, separated_cons, List.append_assoc,
            List.append_assoc] at h
          rcases hxs.1.2 b _ _ hys.1 (endsNumber_rest _ hu) (endsNumber_rest _ hv) h with
            ⟨rfl, hrest⟩
          rcases rest_append_inj (fun a ha => (hxs.2 a ha).2) hys.2 hu hv hrest with ⟨rfl, huv⟩
          exact ⟨rfl, huv⟩

end Parts

namespace Value

/-- Values without numbers with a point, records and types at any depth. -/
inductive Plain : Value → Prop
  | none : Plain none
  | bool (b : Bool) : Plain (bool b)
  | int (i : Int64) : Plain (int i)
  | str (s : String) : Plain (str s)
  | list {items : List Value} (h : ∀ v ∈ items, Plain v) : Plain (seq .list items)
  | tuple {items : List Value} (h : ∀ v ∈ items, Plain v) : Plain (seq .tuple items)
  | map {d : Dictionary Value Value} (hkeys : ∀ entry ∈ d.entries, Plain entry.1)
      (hvalues : ∀ entry ∈ d.entries, Plain entry.2) : Plain (map d)

/-- The type of the plain values whose texts begin with a character. -/
def typeOfLead : Char → TypeTag
  | 'n' => .none
  | 't' => .bool
  | 'f' => .bool
  | '"' => .str
  | '[' => .list
  | '(' => .tuple
  | '\x7b' => .map
  | c => if c.isDigit ∨ c = '-' then .int else .object

theorem typeOfLead_of_isDigit {c : Char} (h : c.isDigit = true) : typeOfLead c = .int := by
  unfold typeOfLead
  split
  case h_8 => exact if_pos (Or.inl h)
  all_goals exact absurd h (by decide)

/-- The bracket that opens a sequence. -/
def opening : SeqKind → Char
  | .list => '['
  | .tuple => '('

/-- What closes a sequence of so many items. -/
def closing : SeqKind → Nat → List Char
  | .list, _ => [']']
  | .tuple, 1 => [',', ')']
  | .tuple, _ => [')']

theorem render_seq (kind : SeqKind) (items : List Value) :
    (seq kind items).render =
      opening kind :: (separated comma (items.map render) ++ closing kind items.length) := by
  cases kind with
  | list => exact render_seq_list items
  | tuple =>
      rw [render_seq_tuple]
      match items with
      | [] => rfl
      | [item] => rfl
      | first :: second :: rest => rfl

theorem closing_closing (kind : SeqKind) (n : Nat) (rest : List Char) :
    Closing (closing kind n ++ rest) := by
  unfold closing
  split
  · exact .bracket (by simp) rest
  · exact .single rest
  · exact .bracket (by simp) rest

namespace Plain

/-- The first character of a text tells the type. -/
theorem exists_lead {v : Value} (h : v.Plain) :
    ∃ c rest, v.render = c :: rest ∧ typeOfLead c = v.typeOf := by
  cases h with
  | none => exact ⟨_, _, rfl, rfl⟩
  | bool b => cases b <;> exact ⟨_, _, rfl, rfl⟩
  | int i =>
      change ∃ c rest, renderInt i.toInt = c :: rest ∧ typeOfLead c = .int
      cases i.toInt with
      | ofNat n =>
          rcases exists_toDigits_eq_cons n with ⟨c, rest, hc, hdigit⟩
          exact ⟨c, rest, hc, typeOfLead_of_isDigit hdigit⟩
      | negSucc n => exact ⟨'-', _, rfl, rfl⟩
  | str s => exact ⟨_, _, rfl, rfl⟩
  | list _ => exact ⟨_, _, render_seq _ _, rfl⟩
  | tuple _ => exact ⟨_, _, render_seq _ _, rfl⟩
  | map _ _ => exact ⟨_, _, render_map _, rfl⟩

/-- A text does not begin like a closing. -/
theorem not_closing {v : Value} (h : v.Plain) (z : List Char) : ¬Closing (v.render ++ z) := by
  have hplain : v.typeOf ≠ .object := by cases h <;> exact nofun
  rcases h.exists_lead with ⟨c, rest, hrender, hlead⟩
  intro hclosing
  rw [hrender, List.cons_append] at hclosing
  rw [← hlead] at hplain
  generalize rest ++ z = tail at hclosing
  cases hclosing with
  | bracket hc _ => rcases hc with rfl | rfl | rfl <;> exact hplain rfl
  | single _ => exact hplain rfl

/-- Texts that begin alike are of values of one type. -/
theorem typeOf_eq {v w : Value} (hv : v.Plain) (hw : w.Plain) {x y : List Char}
    (h : v.render ++ x = w.render ++ y) : v.typeOf = w.typeOf := by
  rcases hv.exists_lead with ⟨c, rest, hc, hlead⟩
  rcases hw.exists_lead with ⟨d, rest', hd, hlead'⟩
  rw [hc, hd] at h
  rw [← hlead, ← hlead', (List.cons.inj h).1]

theorem determines_seq {kind : SeqKind} {items items' : List Value} {x y : List Char}
    (hitems : ∀ v ∈ items, v.Plain ∧ Determines Plain render v)
    (hitems' : ∀ w ∈ items', w.Plain)
    (h : (seq kind items).render ++ x = (seq kind items').render ++ y) :
    seq kind items = seq kind items' ∧ x = y := by
  rw [render_seq, render_seq, List.cons_append, List.cons_append, List.append_assoc,
    List.append_assoc] at h
  rcases separated_append_inj (fun _ hv => hv.not_closing) hitems hitems'
    (closing_closing kind _ x) (closing_closing kind _ y) (List.cons.inj h).2 with ⟨rfl, hrest⟩
  exact ⟨rfl, List.append_cancel_left hrest⟩

-- A key ends at the colon, and its value at what follows the entry.
theorem determines_entry {entry : Value × Value} (hkey : Determines Plain render entry.1)
    (hvalue : Determines Plain render entry.2) :
    Determines (fun entry : Value × Value => entry.1.Plain ∧ entry.2.Plain)
      (fun entry => renderEntry (entry.1.render, entry.2.render)) entry := by
  intro other x y hother hx hy h
  simp only [renderEntry, List.append_assoc] at h
  rcases hkey other.1 _ _ hother.1 (endsNumber_cons rfl _) (endsNumber_cons rfl _) h with
    ⟨hkeys, hrest⟩
  rcases hvalue other.2 x y hother.2 hx hy (List.cons.inj (List.cons.inj hrest).2).2 with
    ⟨hvalues, hxy⟩
  exact ⟨Prod.ext hkeys hvalues, hxy⟩

/-- A text that begins with that of a plain value begins with that of no other one,
    by induction on the value. -/
theorem determines {v : Value} (hv : v.Plain) : Determines Plain render v := by
  induction hv with
  | none =>
      intro w x y hw _ _ h
      have htype := none.typeOf_eq hw h
      cases hw with
      | none => exact ⟨rfl, List.append_cancel_left h⟩
      | _ => exact nomatch htype
  | bool b =>
      intro w x y hw _ _ h
      have htype := (bool b).typeOf_eq hw h
      cases hw with
      | bool c =>
          cases b <;> cases c <;> first
            | exact ⟨rfl, List.append_cancel_left h⟩
            | exact nomatch (List.cons.inj h).1
      | _ => exact nomatch htype
  | int i =>
      intro w x y hw hx hy h
      have htype := (int i).typeOf_eq hw h
      cases hw with
      | int j =>
          rcases renderInt_append_inj hx hy h with ⟨hij, hxy⟩
          exact ⟨congrArg Value.int (Int64.toInt_inj.mp hij), hxy⟩
      | _ => exact nomatch htype
  | str s =>
      intro w x y hw _ _ h
      have htype := (str s).typeOf_eq hw h
      cases hw with
      | str t =>
          rcases Quoted.encode_append_inj h with ⟨hst, hxy⟩
          exact ⟨congrArg Value.str (String.toList_inj.mp hst), hxy⟩
      | _ => exact nomatch htype
  | list hitems ih =>
      intro w x y hw _ _ h
      have htype := (list hitems).typeOf_eq hw h
      cases hw with
      | list hitems' => exact determines_seq (fun v hv => ⟨hitems v hv, ih v hv⟩) hitems' h
      | _ => exact nomatch htype
  | tuple hitems ih =>
      intro w x y hw _ _ h
      have htype := (tuple hitems).typeOf_eq hw h
      cases hw with
      | tuple hitems' => exact determines_seq (fun v hv => ⟨hitems v hv, ih v hv⟩) hitems' h
      | _ => exact nomatch htype
  | map hkeys hvalues ihkeys ihvalues =>
      intro w x y hw _ _ h
      have htype := (map hkeys hvalues).typeOf_eq hw h
      cases hw with
      | map hkeys' hvalues' =>
          rw [render_map, render_map, List.cons_append, List.cons_append, List.append_assoc,
            List.append_assoc] at h
          have hopen : ∀ entry : Value × Value, entry.1.Plain ∧ entry.2.Plain → ∀ z,
              ¬Closing (renderEntry (entry.1.render, entry.2.render) ++ z) := by
            intro entry hentry z
            rw [renderEntry, List.append_assoc, List.append_assoc]
            exact hentry.1.not_closing _
          rcases separated_append_inj hopen
            (fun entry hmem => ⟨⟨hkeys entry hmem, hvalues entry hmem⟩,
              determines_entry (ihkeys entry hmem) (ihvalues entry hmem)⟩)
            (fun entry hmem => ⟨hkeys' entry hmem, hvalues' entry hmem⟩)
            (.bracket (by simp) x) (.bracket (by simp) y) (List.cons.inj h).2 with
            ⟨hentries, hrest⟩
          exact ⟨congrArg (fun entries => Value.map ⟨entries⟩) hentries,
            (List.cons.inj hrest).2⟩
      | _ => exact nomatch htype

end Plain

/-- Plain values with equal display texts are equal: they are of the same kinds at
    all depths, with the same strings and numbers and the same entries in the same
    order. -/
theorem eq_of_display_eq {v w : Value} (hv : v.Plain) (hw : w.Plain)
    (h : v.display = w.display) : v = w := by
  have htexts : v.render ++ [] = w.render ++ [] := by
    rw [List.append_nil, List.append_nil]
    exact String.ofList_inj.mp h
  exact (hv.determines w [] [] hw nofun nofun htexts).1

-- `{"a, b": (-1,)}`, with an entry that was written twice.
theorem eq_of_display_eq_of_rewritten :
    (map (.ofList [(str "a, b", none), (str "a, b", seq .tuple [int (-1)])])).display =
      (map ⟨[(str "a, b", seq .tuple [int (-1)])]⟩).display ∧
    map (.ofList [(str "a, b", none), (str "a, b", seq .tuple [int (-1)])]) =
      map ⟨[(str "a, b", seq .tuple [int (-1)])]⟩ := by
  have hplain : (map ⟨[(str "a, b", seq .tuple [int (-1)])]⟩).Plain := by
    refine .map ?_ ?_ <;> rw [List.forall_mem_singleton]
    · exact .str _
    · exact .tuple (List.forall_mem_singleton.mpr (.int _))
  have hdisplay : (map (.ofList [(str "a, b", none), (str "a, b", seq .tuple [int (-1)])])).display =
      (map ⟨[(str "a, b", seq .tuple [int (-1)])]⟩).display := rfl
  exact ⟨hdisplay, eq_of_display_eq (show Plain (map ⟨[(str "a, b", seq .tuple [int (-1)])]⟩) from
    hplain) hplain hdisplay⟩

-- A string is told from the items that it looks like.
example : (seq .list [str "1, 2"]).display ≠ (seq .list [int 1, int 2]).display := by decide

end Value

end ShapeMatch
