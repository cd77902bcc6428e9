import PlayerCipher.Proofs.Json.Spacing

/-! The compact and the indented form.
Both write the entries of an array or object one behind the other with a comma between them; they
differ in the blanks. A value whose numbers are natural is read back from either form. -/

namespace PlayerCipher

namespace Json

inductive IsPlain : Json → Prop where
  | null : IsPlain .null
  | bool (value : Bool) : IsPlain (.bool value)
  | natural (n : Nat) : IsPlain (.natural n)
  | str (text : String) : IsPlain (.str text)
  | arr {items : List Json} : (∀ item ∈ items, IsPlain item) → IsPlain (.arr items)
  | obj {fields : List (String × Json)} :
      (∀ field ∈ fields, IsPlain field.2) → IsPlain (.obj fields)

theorem compactItems_eq_flatMap (items : List Json) :
    compactItems items = items.flatMap fun item => ',' :: item.compact := by
  induction items with
  | nil => rfl
  | cons item items ih => rw [compactItems, ih, List.flatMap_cons, List.cons_append]

theorem compactFields_eq_flatMap (fields : List (String × Json)) :
    compactFields fields =
      fields.flatMap fun field => ',' :: (quote field.1 ++ ':' :: field.2.compact) := by
  induction fields with
  | nil => rfl
  | cons field fields ih =>
    rw [compactFields, ih, List.flatMap_cons, List.cons_append, List.append_assoc,
      List.cons_append]

theorem indentedItems_eq_flatMap (depth : Nat) (items : List Json) :
    indentedItems depth items =
      items.flatMap fun item => ',' :: (newLine depth ++ item.indented depth) := by
  induction items with
  | nil => rfl
  | cons item items ih => rw [indentedItems, ih, List.flatMap_cons, List.cons_append]

theorem indentedFields_eq_flatMap (depth : Nat) (fields : List (String × Json)) :
    indentedFields depth fields = fields.flatMap fun field =>
      ',' :: (newLine depth ++ (quote field.1 ++ ':' :: ' ' :: field.2.indented depth)) := by
  induction fields with
  | nil => rfl
  | cons field fields ih =>
    rw [indentedFields, ih, List.flatMap_cons]
    simp only [List.cons_append, List.append_assoc]

theorem isGap_nil : IsGap [] :=
  fun _ member => absurd member List.not_mem_nil

theorem isGap_blank : IsGap [' '] := by
  intro c member
  rw [List.mem_singleton.1 member]
  rfl

theorem isGap_newLine (depth : Nat) : IsGap (newLine depth) := by
  intro c member
  cases member with
  | head => rfl
  | tail _ member =>
    rw [List.eq_of_mem_replicate member]
    rfl

section Layout

variable {write : Json → List Char} {gap inner after : List Char}

theorem writesItems_laid (blank : IsGap gap) (blank' : IsGap after) (items : List Json) :
    ∀ {item : Json}, (∀ value ∈ item :: items, Writes value (write value)) →
      WritesItems (item :: items)
        (gap ++ (write item ++
          ((items.flatMap fun item => ',' :: (gap ++ write item)) ++ after))) := by
  induction items with
  | nil =>
    intro item each
    exact .last blank (each item List.mem_cons_self) blank'
  | cons other items ih =>
    intro item each
    have rest := ih fun value member => each value (List.mem_cons_of_mem item member)
    have all := WritesItems.more blank (each item List.mem_cons_self) isGap_nil rest
    simpa only [List.flatMap_cons, List.cons_append, List.append_assoc, List.nil_append] using all

theorem writesFields_laid (blank : IsGap gap) (blank' : IsGap inner) (blank'' : IsGap after)
    (fields : List (String × Json)) :
    ∀ {key : String} {value : Json},
      (∀ field ∈ (key, value) :: fields, Writes field.2 (write field.2)) →
      WritesFields ((key, value) :: fields)
        (gap ++ (quote key ++ ':' :: (inner ++ (write value ++
          ((fields.flatMap fun field =>
            ',' :: (gap ++ (quote field.1 ++ ':' :: (inner ++ write field.2)))) ++ after))))) := by
  induction fields with
  | nil =>
    intro key value each
    exact .last blank isGap_nil blank' (each _ List.mem_cons_self) blank''
  | cons other fields ih =>
    intro key value each
    have rest := ih fun field member => each field (List.mem_cons_of_mem _ member)
    have all : WritesFields ((key, value) :: other :: fields) _ :=
      .more blank isGap_nil blank' (each _ List.mem_cons_self) isGap_nil rest
    simpa only [List.flatMap_cons, List.cons_append, List.append_assoc, List.nil_append] using all

end Layout

theorem IsPlain.writes_compact {value : Json} (plain : IsPlain value) :
    Writes value value.compact := by
  induction plain with
  | null => exact .null
  | bool value =>
    cases value with
    | false => exact .no
    | true => exact .yes
  | natural n => exact .natural n
  | str text => exact .str text
  | @arr items each ih =>
    cases items with
    | nil => exact .noItems isGap_nil
    | cons item items =>
      have all := Writes.items (writesItems_laid isGap_nil isGap_nil items ih)
      simpa only [compact, compactItems_eq_flatMap, List.nil_append, List.append_nil] using all
  | @obj fields each ih =>
    cases fields with
    | nil => exact .noFields isGap_nil
    | cons field fields =>
      have all := Writes.fields (writesFields_laid isGap_nil isGap_nil isGap_nil fields ih)
      simpa only [compact, compactFields_eq_flatMap, List.nil_append, List.append_nil,
        List.append_assoc, List.cons_append] using all

theorem IsPlain.writes_indented {value : Json} (plain : IsPlain value) :
    ∀ depth, Writes value (value.indented depth) := by
  induction plain with
  | null => exact fun _ => .null
  | bool value =>
    cases value with
    | false => exact fun _ => .no
    | true => exact fun _ => .yes
  | natural n => exact fun _ => .natural n
  | str text => exact fun _ => .str text
  | @arr items each ih =>
    intro depth
    cases items with
    | nil => exact .noItems isGap_nil
    | cons item items =>
      have all := Writes.items (writesItems_laid (isGap_newLine (depth + 1)) (isGap_newLine depth)
        items fun value member => ih value member (depth + 1))
      simpa only [indented, indentedItems_eq_flatMap, List.append_assoc] using all
  | @obj fields each ih =>
    intro depth
    cases fields with
    | nil => exact .noFields isGap_nil
    | cons field fields =>
      have all := Writes.fields (writesFields_laid (isGap_newLine (depth + 1)) isGap_blank
        (isGap_newLine depth) fields fun value member => ih value member (depth + 1))
      simpa only [indented, indentedFields_eq_flatMap, List.append_assoc, List.cons_append,
        List.nil_append] using all

theorem IsPlain.parse?_renderCompact {value : Json} (plain : IsPlain value) :
    parse? value.renderCompact = some value := by
  have read := plain.writes_compact.parse? isGap_nil isGap_nil
  rwa [List.nil_append, List.append_nil] at read

theorem IsPlain.parse?_indented {value : Json} (plain : IsPlain value) (depth : Nat) :
    parse? (String.ofList (value.indented depth)) = some value := by
  have read := (plain.writes_indented depth).parse? isGap_nil isGap_nil
  rwa [List.nil_append, List.append_nil] at read

end Json

end PlayerCipher
