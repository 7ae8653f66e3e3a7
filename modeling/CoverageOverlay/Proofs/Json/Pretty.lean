-- SUMMARY: The indented form of a structured value determines the value.
import CoverageOverlay.Json
import CoverageOverlay.Proofs.Text.Written

/-!
# Reading indented output

Two values with one indented form are equal. The proof reads both forms at once
from the left: the first character tells the kind of a value, a numeral ends
before anything but a digit, a string at the first quote that is not escaped,
and an array or object after its last element, where a line feed follows and no
comma. So whatever stands behind a value, as long as it is no digit, the value
and what stands behind it are determined by the text of both.
-/

namespace CoverageOverlay.Json

open Text (Stops)

variable {depth : Nat} {rest rest' : Text} {c c' : Char}

/-! ## Strings -/

/-- The characters that do not stand for themselves in a string. -/
def escapedChars : List Char :=
  '"' :: '\\' :: (List.range 32).map Char.ofNat

theorem escaped_eq_singleton (h : c ∉ escapedChars) : escaped c = [c] := by
  simp only [escapedChars, List.mem_cons, List.mem_map, List.mem_range, not_or, not_exists,
    not_and] at h
  obtain ⟨hquote, hbackslash, hcontrol⟩ := h
  have hprintable : ¬c.toNat < 32 := fun hlt => hcontrol c.toNat hlt (Char.ofNat_toNat c)
  have hne (d : Char) (hd : d.toNat < 32) : c ≠ d := fun heq => hprintable (heq ▸ hd)
  simp [escaped, hquote, hbackslash, hne '\n' (by decide), hne '\r' (by decide),
    hne '\t' (by decide), show ¬c.toNat = 8 by omega, show ¬c.toNat = 12 by omega,
    show ¬c.toNat < 16 by omega, show ¬c.toNat < 32 from hprintable]

-- A statement about the characters of a list can also be decided by going through all characters there
-- are, so the two checks go through the list.

/-- No escape is the beginning of another one. -/
theorem escaped_prefix_iff (hc : c ∈ escapedChars) (hc' : c' ∈ escapedChars) :
    escaped c <+: escaped c' ↔ c = c' := by
  have hall : (escapedChars.all fun c => escapedChars.all fun c' =>
      decide (escaped c <+: escaped c' ↔ c = c')) = true := by decide
  exact of_decide_eq_true (List.all_eq_true.1 (List.all_eq_true.1 hall c hc) c' hc')

theorem head?_escaped (hc : c ∈ escapedChars) : (escaped c).head? = some '\\' := by
  have hall : (escapedChars.all fun c => decide ((escaped c).head? = some '\\')) = true := by decide
  exact of_decide_eq_true (List.all_eq_true.1 hall c hc)

theorem escaped_ne_of_not_mem (hc : c ∈ escapedChars) (hc' : c' ∉ escapedChars) :
    escaped c ++ rest ≠ escaped c' ++ rest' := by
  intro h
  have hhead := congrArg List.head? h
  rw [escaped_eq_singleton hc', List.head?_append, head?_escaped hc] at hhead
  have hbackslash : '\\' = c' := by simpa using hhead
  exact hc' (hbackslash ▸ by decide)

theorem escaped_append_inj (h : escaped c ++ rest = escaped c' ++ rest') : c = c' ∧ rest = rest' := by
  by_cases hc : c ∈ escapedChars <;> by_cases hc' : c' ∈ escapedChars
  · have hprefix : escaped c' <+: escaped c ++ rest := h ▸ List.prefix_append (escaped c') rest'
    have heq : c = c' := by
      rcases List.prefix_or_prefix_of_prefix (List.prefix_append (escaped c) rest) hprefix with hle | hle
      · exact (escaped_prefix_iff hc hc').1 hle
      · exact ((escaped_prefix_iff hc' hc).1 hle).symm
    subst heq
    exact ⟨rfl, List.append_cancel_left h⟩
  · exact absurd h (escaped_ne_of_not_mem hc hc')
  · exact absurd h.symm (escaped_ne_of_not_mem hc' hc)
  · simpa [escaped_eq_singleton hc, escaped_eq_singleton hc'] using h

theorem escaped_append_ne_quote (c : Char) (rest rest' : Text) : escaped c ++ rest ≠ '"' :: rest' := by
  intro h
  have hhead := congrArg List.head? h
  by_cases hc : c ∈ escapedChars
  · rw [List.head?_append, head?_escaped hc] at hhead
    simp at hhead
  · rw [escaped_eq_singleton hc] at hhead
    have hquote : c = '"' := by simpa using hhead
    exact hc (hquote ▸ by decide)

/-- A string ends at its second quote. -/
theorem quote_append_inj {s s' : Text} (h : quote s ++ rest = quote s' ++ rest') :
    s = s' ∧ rest = rest' := by
  have hbody : s.flatMap escaped ++ '"' :: rest = s'.flatMap escaped ++ '"' :: rest' := by
    simpa [quote] using h
  clear h
  induction s generalizing s' with
  | nil =>
    cases s' with
    | nil => exact ⟨rfl, by simpa using hbody⟩
    | cons c' s' =>
      rw [List.flatMap_cons, List.append_assoc] at hbody
      exact absurd hbody.symm (escaped_append_ne_quote c' _ _)
  | cons c s ih =>
    cases s' with
    | nil =>
      rw [List.flatMap_cons, List.append_assoc] at hbody
      exact absurd hbody (escaped_append_ne_quote c _ _)
    | cons c' s' =>
      simp only [List.flatMap_cons, List.append_assoc] at hbody
      obtain ⟨rfl, hrest⟩ := escaped_append_inj hbody
      obtain ⟨rfl, rfl⟩ := ih hrest
      exact ⟨rfl, rfl⟩

/-! ## Kinds of values -/

/-- The kind of the values that begin with a character, in the order of the constructors. -/
def kindOf (c : Char) : Nat :=
  if Numeral.isDigit c then 1
  else if c = '"' then 2
  else if c = '[' then 3
  else if c = '{' then 4
  else 0

theorem exists_kindOf (depth : Nat) (v : Json) :
    ∃ c t, prettyAt depth v = c :: t ∧ kindOf c = v.ctorIdx := by
  cases v with
  | boolean b => cases b <;> exact ⟨_, _, rfl, rfl⟩
  | number n =>
    obtain ⟨d, ds, hdigits⟩ := List.exists_cons_of_ne_nil (Numeral.ofNat_ne_nil n)
    exact ⟨d, ds, hdigits, if_pos (Numeral.isDigit_of_mem_ofNat (hdigits ▸ List.mem_cons_self))⟩
  | string s => exact ⟨_, _, rfl, rfl⟩
  | array items => cases items <;> exact ⟨_, _, rfl, rfl⟩
  | object fields => cases fields <;> exact ⟨_, _, rfl, rfl⟩

/-- Values that are written alike are of one kind. -/
theorem ctorIdx_eq {v w : Json} (h : prettyAt depth v ++ rest = prettyAt depth w ++ rest') :
    v.ctorIdx = w.ctorIdx := by
  obtain ⟨c, t, hv, hkind⟩ := exists_kindOf depth v
  obtain ⟨c', t', hw, hkind'⟩ := exists_kindOf depth w
  rw [hv, hw] at h
  obtain rfl : c = c' := (List.cons.inj h).1
  exact hkind.symm.trans hkind'

/-! ## Elements and fields -/

/-- What stands behind an element: a comma and the elements that follow, if there are any. -/
def behindItem (depth : Nat) : List Json → Text
  | [] => []
  | items => ',' :: prettyItems depth items

/-- What stands behind a field: a comma and the fields that follow, if there are any. -/
def behindField (depth : Nat) : List (String × Json) → Text
  | [] => []
  | fields => ',' :: prettyFields depth fields

theorem prettyItems_cons (depth : Nat) (item : Json) (items : List Json) :
    prettyItems depth (item :: items) =
      newLine depth ++ (prettyAt depth item ++ behindItem depth items) := by
  cases items <;> simp [prettyItems, behindItem]

theorem prettyFields_cons (depth : Nat) (field : String × Json) (fields : List (String × Json)) :
    prettyFields depth (field :: fields) =
      newLine depth ++ (quote field.1.toList ++
        ':' :: ' ' :: (prettyAt depth field.2 ++ behindField depth fields)) := by
  cases fields <;> simp [prettyFields, behindField]

theorem newLine_append (depth : Nat) (t : Text) :
    newLine depth ++ t = '\n' :: (List.replicate (2 * depth) ' ' ++ t) := rfl

/-- The end of an array or object is on a new line. -/
def Closes (t : Text) : Prop := t.head? = some '\n'

theorem closes_newLine (depth : Nat) (t : Text) : Closes (newLine depth ++ t) := rfl

theorem Closes.stops (h : Closes rest) : Stops Numeral.isDigit rest := by
  intro c hc
  obtain rfl : '\n' = c := by simpa [show rest.head? = some '\n' from h] using hc
  decide

theorem Closes.stops_behindItem (h : Closes rest) :
    (items : List Json) → Stops Numeral.isDigit (behindItem depth items ++ rest)
  | [] => h.stops
  | _ :: _ => Text.stops_cons.2 (by decide)

theorem Closes.stops_behindField (h : Closes rest) :
    (fields : List (String × Json)) → Stops Numeral.isDigit (behindField depth fields ++ rest)
  | [] => h.stops
  | _ :: _ => Text.stops_cons.2 (by decide)

/-- Where an array or object ends, no comma follows. -/
theorem Closes.ne_comma (h : Closes rest) (t : Text) : rest ≠ ',' :: t := by
  rintro rfl
  simp [Closes] at h

/-! ## Values -/

mutual

theorem prettyAt_append_inj (depth : Nat) : ∀ (v w : Json) {rest rest' : Text},
    Stops Numeral.isDigit rest → Stops Numeral.isDigit rest' →
    prettyAt depth v ++ rest = prettyAt depth w ++ rest' → v = w ∧ rest = rest'
  | boolean b, w, rest, rest', hrest, hrest', h => by
    have hkind := ctorIdx_eq h
    cases w with
    | boolean b' => cases b <;> cases b' <;> simp_all [prettyAt]
    | _ => cases hkind
  | number n, w, rest, rest', hrest, hrest', h => by
    have hkind := ctorIdx_eq h
    cases w with
    | number n' =>
      obtain ⟨rfl, rfl⟩ := Numeral.ofNat_append_inj hrest hrest' h
      exact ⟨rfl, rfl⟩
    | _ => cases hkind
  | string s, w, rest, rest', _, _, h => by
    have hkind := ctorIdx_eq h
    cases w with
    | string s' =>
      obtain ⟨rfl, rfl⟩ := quote_append_inj h
      exact ⟨rfl, rfl⟩
    | _ => cases hkind
  | array items, w, rest, rest', _, _, h => by
    have hkind := ctorIdx_eq h
    cases w with
    | array items' =>
      obtain ⟨rfl, hrest⟩ := prettyArray_append_inj depth items items' h
      exact ⟨rfl, hrest⟩
    | _ => cases hkind
  | object fields, w, rest, rest', _, _, h => by
    have hkind := ctorIdx_eq h
    cases w with
    | object fields' =>
      obtain ⟨rfl, hrest⟩ := prettyObject_append_inj depth fields fields' h
      exact ⟨rfl, hrest⟩
    | _ => cases hkind

theorem prettyArray_append_inj (depth : Nat) : ∀ (items items' : List Json) {rest rest' : Text},
    prettyAt depth (array items) ++ rest = prettyAt depth (array items') ++ rest' →
      items = items' ∧ rest = rest'
  | [], [], rest, rest', h => ⟨rfl, by simpa [prettyAt] using h⟩
  | [], item' :: items', rest, rest', h => by
    simp [prettyAt, prettyItems_cons, newLine_append] at h
  | item :: items, [], rest, rest', h => by
    simp [prettyAt, prettyItems_cons, newLine_append] at h
  | item :: items, item' :: items', rest, rest', h => by
    simp only [prettyAt, prettyItems_cons, List.cons_append, List.cons.injEq, true_and,
      List.append_assoc, List.append_cancel_left_eq] at h
    obtain ⟨rfl, hbehind⟩ := prettyAt_append_inj (depth + 1) item item'
      ((closes_newLine depth _).stops_behindItem items)
      ((closes_newLine depth _).stops_behindItem items') h
    obtain ⟨rfl, hend⟩ := behindItem_append_inj (depth + 1) items items'
      (closes_newLine depth _) (closes_newLine depth _) hbehind
    exact ⟨rfl, by simpa using hend⟩

theorem behindItem_append_inj (depth : Nat) : ∀ (items items' : List Json) {rest rest' : Text},
    Closes rest → Closes rest' →
    behindItem depth items ++ rest = behindItem depth items' ++ rest' → items = items' ∧ rest = rest'
  | [], [], rest, rest', _, _, h => ⟨rfl, h⟩
  | [], item' :: items', rest, rest', hrest, _, h => absurd h (hrest.ne_comma _)
  | item :: items, [], rest, rest', _, hrest', h => absurd h.symm (hrest'.ne_comma _)
  | item :: items, item' :: items', rest, rest', hrest, hrest', h => by
    simp only [behindItem, prettyItems_cons, List.cons_append, List.cons.injEq, true_and,
      List.append_assoc, List.append_cancel_left_eq] at h
    obtain ⟨rfl, hbehind⟩ := prettyAt_append_inj depth item item'
      (hrest.stops_behindItem items) (hrest'.stops_behindItem items') h
    obtain ⟨rfl, hend⟩ := behindItem_append_inj depth items items' hrest hrest' hbehind
    exact ⟨rfl, hend⟩

theorem prettyObject_append_inj (depth : Nat) : ∀ (fields fields' : List (String × Json))
    {rest rest' : Text},
    prettyAt depth (object fields) ++ rest = prettyAt depth (object fields') ++ rest' →
      fields = fields' ∧ rest = rest'
  | [], [], rest, rest', h => ⟨rfl, by simpa [prettyAt] using h⟩
  | [], (key', value') :: fields', rest, rest', h => by
    simp [prettyAt, prettyFields_cons, newLine_append] at h
  | (key, value) :: fields, [], rest, rest', h => by
    simp [prettyAt, prettyFields_cons, newLine_append] at h
  | (key, value) :: fields, (key', value') :: fields', rest, rest', h => by
    simp only [prettyAt, prettyFields_cons, List.cons_append, List.cons.injEq, true_and,
      List.append_assoc, List.append_cancel_left_eq] at h
    obtain ⟨hkey, hvalue⟩ := quote_append_inj h
    simp only [List.cons.injEq, true_and] at hvalue
    obtain ⟨rfl, hbehind⟩ := prettyAt_append_inj (depth + 1) value value'
      ((closes_newLine depth _).stops_behindField fields)
      ((closes_newLine depth _).stops_behindField fields') hvalue
    obtain ⟨rfl, hend⟩ := behindField_append_inj (depth + 1) fields fields'
      (closes_newLine depth _) (closes_newLine depth _) hbehind
    exact ⟨by rw [String.toList_injective hkey], by simpa using hend⟩

theorem behindField_append_inj (depth : Nat) : ∀ (fields fields' : List (String × Json))
    {rest rest' : Text}, Closes rest → Closes rest' →
    behindField depth fields ++ rest = behindField depth fields' ++ rest' →
      fields = fields' ∧ rest = rest'
  | [], [], rest, rest', _, _, h => ⟨rfl, h⟩
  | [], (key', value') :: fields', rest, rest', hrest, _, h => absurd h (hrest.ne_comma _)
  | (key, value) :: fields, [], rest, rest', _, hrest', h => absurd h.symm (hrest'.ne_comma _)
  | (key, value) :: fields, (key', value') :: fields', rest, rest', hrest, hrest', h => by
    simp only [behindField, prettyFields_cons, List.cons_append, List.cons.injEq, true_and,
      List.append_assoc, List.append_cancel_left_eq] at h
    obtain ⟨hkey, hvalue⟩ := quote_append_inj h
    simp only [List.cons.injEq, true_and] at hvalue
    obtain ⟨rfl, hbehind⟩ := prettyAt_append_inj depth value value'
      (hrest.stops_behindField fields) (hrest'.stops_behindField fields') hvalue
    obtain ⟨rfl, hend⟩ := behindField_append_inj depth fields fields' hrest hrest' hbehind
    exact ⟨by rw [String.toList_injective hkey], hend⟩

end

/-- What is written in the indented form can be read back in one way only. -/
theorem pretty_injective {v w : Json} (h : v.pretty = w.pretty) : v = w :=
  (prettyAt_append_inj 0 v w Text.stops_nil Text.stops_nil (congrArg (· ++ []) h)).1

end CoverageOverlay.Json
