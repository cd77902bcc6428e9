import Mathlib.Data.List.DropRight
import PlayerCipher.Proofs.Json.Scalars

/-! Texts of JSON values.
Any number of blanks may stand around the parts of a value. Whatever they are, the text is read as
the value and the reader stops right behind it. The compact and the indented form are two such
texts of a value. -/

namespace PlayerCipher

namespace Json

open Text

def IsGap (cs : List Char) : Prop :=
  ∀ c ∈ cs, isSpace c = true

mutual

/-- Texts of a value, with gaps around all of its parts. -/
inductive Writes : Json → List Char → Prop where
  | null : Writes .null "null".toList
  | yes : Writes (.bool true) "true".toList
  | no : Writes (.bool false) "false".toList
  | natural (n : Nat) : Writes (.natural n) (decimal n).toList
  | str (text : String) : Writes (.str text) (quote text)
  | noItems {gap : List Char} : IsGap gap → Writes (.arr []) ('[' :: (gap ++ [']']))
  | items {items : List Json} {cs : List Char} :
      WritesItems items cs → Writes (.arr items) ('[' :: (cs ++ [']']))
  | noFields {gap : List Char} : IsGap gap → Writes (.obj []) ('\x7b' :: (gap ++ ['\x7d']))
  | fields {fields : List (String × Json)} {cs : List Char} :
      WritesFields fields cs → Writes (.obj fields) ('\x7b' :: (cs ++ ['\x7d']))

inductive WritesItems : List Json → List Char → Prop where
  | last {item : Json} {before cs after : List Char} :
      IsGap before → Writes item cs → IsGap after → WritesItems [item] (before ++ (cs ++ after))
  | more {item : Json} {items : List Json} {before cs after ds : List Char} :
      IsGap before → Writes item cs → IsGap after → WritesItems items ds →
      WritesItems (item :: items) (before ++ (cs ++ (after ++ ',' :: ds)))

inductive WritesFields : List (String × Json) → List Char → Prop where
  | last {key : String} {value : Json} {before behind inner cs after : List Char} :
      IsGap before → IsGap behind → IsGap inner → Writes value cs → IsGap after →
      WritesFields [(key, value)]
        (before ++ (quote key ++ (behind ++ ':' :: (inner ++ (cs ++ after)))))
  | more {key : String} {value : Json} {fields : List (String × Json)}
      {before behind inner cs after ds : List Char} :
      IsGap before → IsGap behind → IsGap inner → Writes value cs → IsGap after →
      WritesFields fields ds →
      WritesFields ((key, value) :: fields)
        (before ++ (quote key ++ (behind ++ ':' :: (inner ++ (cs ++ (after ++ ',' :: ds))))))

end

theorem skipSpace_gap {gap : List Char} (blank : IsGap gap) (rest : List Char) :
    skipSpace (gap ++ rest) = skipSpace rest :=
  List.dropWhile_append_of_pos blank

theorem skipSpace_cons {c : Char} (solid : isSpace c = false) (cs : List Char) :
    skipSpace (c :: cs) = c :: cs := by
  simp [skipSpace, solid]

theorem skipSpace_before {gap : List Char} (blank : IsGap gap) {c : Char}
    (solid : isSpace c = false) (cs : List Char) : skipSpace (gap ++ c :: cs) = c :: cs := by
  rw [skipSpace_gap blank, skipSpace_cons solid]

theorem skipSpace_skipSpace (cs : List Char) : skipSpace (skipSpace cs) = skipSpace cs :=
  List.dropWhile_idempotent isSpace cs

theorem stops_gap {gap : List Char} (blank : IsGap gap) {c : Char} (stop : isStop c = true)
    (rest : List Char) : (gap ++ c :: rest).head?.all isStop = true := by
  cases gap with
  | nil => exact stop
  | cons d gap =>
    have space := blank d List.mem_cons_self
    simp [isStop, space]

theorem isSpace_of_isDigit {c : Char} (digit : c.isDigit = true) : isSpace c = false := by
  cases space : isSpace c with
  | false => rfl
  | true =>
    have stop : isStop c = true := by
      simp [isStop, space]
    rw [(isStop_not stop).1] at digit
    cases digit

section Skipping

variable {cs ds : List Char}

theorem readValue_skip (same : skipSpace cs = skipSpace ds) (fuel : Nat) :
    readValue fuel cs = readValue fuel ds := by
  cases fuel with
  | zero => rfl
  | succ fuel => rw [readValue, readValue, same]

theorem readItems_skip (same : skipSpace cs = skipSpace ds) (fuel : Nat) :
    readItems fuel cs = readItems fuel ds := by
  cases fuel with
  | zero => rfl
  | succ fuel => rw [readItems, readItems, readValue_skip same]

theorem readFields_skip (same : skipSpace cs = skipSpace ds) (fuel : Nat) :
    readFields fuel cs = readFields fuel ds := by
  cases fuel with
  | zero => rfl
  | succ fuel => rw [readFields, readFields, same]

end Skipping

section Beginnings

theorem Writes.begins {value : Json} {cs : List Char} (writes : Writes value cs) :
    ∃ c ds, cs = c :: ds ∧ isSpace c = false ∧ c ≠ ']' := by
  cases writes with
  | null => exact ⟨'n', _, rfl, by decide, by decide⟩
  | yes => exact ⟨'t', _, rfl, by decide, by decide⟩
  | no => exact ⟨'f', _, rfl, by decide, by decide⟩
  | natural n =>
    obtain ⟨c, ds, shape, digit⟩ := exists_decimal n
    refine ⟨c, ds, shape, isSpace_of_isDigit digit, ?_⟩
    intro same
    rw [same] at digit
    cases digit
  | str text => exact ⟨'"', _, rfl, by decide, by decide⟩
  | noItems => exact ⟨'[', _, rfl, by decide, by decide⟩
  | items => exact ⟨'[', _, rfl, by decide, by decide⟩
  | noFields => exact ⟨'\x7b', _, rfl, by decide, by decide⟩
  | fields => exact ⟨'\x7b', _, rfl, by decide, by decide⟩

theorem Writes.skipSpace_begins {value : Json} {cs : List Char} (writes : Writes value cs)
    {gap : List Char} (blank : IsGap gap) (rest : List Char) :
    ∃ c ds, skipSpace (gap ++ (cs ++ rest)) = c :: ds ∧ c ≠ ']' := by
  obtain ⟨c, ds, shape, solid, other⟩ := writes.begins
  rw [shape, List.cons_append, skipSpace_before blank solid]
  exact ⟨c, _, rfl, other⟩

theorem WritesItems.begins {items : List Json} {cs : List Char} (writes : WritesItems items cs)
    (rest : List Char) : ∃ c ds, skipSpace (cs ++ rest) = c :: ds ∧ c ≠ ']' := by
  cases writes with
  | last before writes after =>
    rw [List.append_assoc, List.append_assoc]
    exact writes.skipSpace_begins before _
  | more before writes after others =>
    rw [List.append_assoc, List.append_assoc]
    exact writes.skipSpace_begins before _

theorem WritesFields.begins {fields : List (String × Json)} {cs : List Char}
    (writes : WritesFields fields cs) (rest : List Char) :
    ∃ ds, skipSpace (cs ++ rest) = '"' :: ds := by
  cases writes with
  | last before behind inner writes after =>
    rw [List.append_assoc, quote, List.cons_append, List.cons_append,
      skipSpace_before before (by decide)]
    exact ⟨_, rfl⟩
  | more before behind inner writes after others =>
    rw [List.append_assoc, quote, List.cons_append, List.cons_append,
      skipSpace_before before (by decide)]
    exact ⟨_, rfl⟩

end Beginnings

section Steps

variable {rest : List Char} {fuel : Nat}

theorem readValue_str (text : String) (rest : List Char) :
    readValue (fuel + 1) (quote text ++ rest) = some (.str text, rest) := by
  have read := readString_quoted text
    (show text.toList.flatMap escapeChar ++ '"' :: rest = _ from rfl)
  simp only [quote, List.cons_append, List.append_assoc, List.nil_append, readValue,
    skipSpace_cons (by decide : isSpace '"' = false), read, Option.map_some, String.ofList_toList]

theorem readValue_natural (n : Nat) (stops : rest.head?.all isStop = true) :
    readValue (fuel + 1) ((decimal n).toList ++ rest) = some (.natural n, rest) := by
  have read := readNumber_natural n stops
  obtain ⟨c, cs, shape, digit⟩ := exists_decimal n
  rw [shape, List.cons_append] at read ⊢
  rw [readValue, skipSpace_cons (isSpace_of_isDigit digit)]
  split <;> simp_all

theorem readValue_items {c : Char} {text cs : List Char} (begins : skipSpace text = c :: cs)
    (goes : c ≠ ']') :
    readValue (fuel + 1) ('[' :: text) =
      (readItems fuel text).map fun (items, rest) => (.arr items, rest) := by
  rw [readValue, skipSpace_cons (by decide), ← readItems_skip (skipSpace_skipSpace text)]
  simp only [begins]
  split <;> simp_all

theorem readValue_fields {c : Char} {text cs : List Char} (begins : skipSpace text = c :: cs)
    (goes : c ≠ '\x7d') :
    readValue (fuel + 1) ('\x7b' :: text) =
      (readFields fuel text).map fun (fields, rest) => (.obj fields, rest) := by
  rw [readValue, skipSpace_cons (by decide), ← readFields_skip (skipSpace_skipSpace text)]
  simp only [begins]
  split <;> simp_all

theorem readItems_last {item : Json} {text after : List Char} (gap : IsGap after)
    (read : readValue fuel text = some (item, after ++ ']' :: rest)) :
    readItems (fuel + 1) text = some ([item], rest) := by
  simp only [readItems, read, skipSpace_before gap (by decide : isSpace ']' = false)]

theorem readItems_more {item : Json} {text after : List Char} (gap : IsGap after)
    (read : readValue fuel text = some (item, after ++ ',' :: rest)) :
    readItems (fuel + 1) text =
      (readItems fuel rest).map fun (items, rest) => (item :: items, rest) := by
  simp only [readItems, read, skipSpace_before gap (by decide : isSpace ',' = false)]

section Fields

variable {key : String} {value : Json} {before behind text after : List Char}

theorem readFields_last (gap : IsGap before) (gap' : IsGap behind) (gap'' : IsGap after)
    (read : readValue fuel text = some (value, after ++ '\x7d' :: rest)) :
    readFields (fuel + 1) (before ++ (quote key ++ (behind ++ ':' :: text))) =
      some ([(key, value)], rest) := by
  have name := readString_quoted key
    (show key.toList.flatMap escapeChar ++ '"' :: (behind ++ ':' :: text) = _ from rfl)
  simp only [readFields, quote, List.cons_append, List.append_assoc, List.nil_append,
    skipSpace_before gap (by decide : isSpace '"' = false), name,
    skipSpace_before gap' (by decide : isSpace ':' = false), read,
    skipSpace_before gap'' (by decide : isSpace '\x7d' = false), String.ofList_toList]

theorem readFields_more (gap : IsGap before) (gap' : IsGap behind) (gap'' : IsGap after)
    (read : readValue fuel text = some (value, after ++ ',' :: rest)) :
    readFields (fuel + 1) (before ++ (quote key ++ (behind ++ ':' :: text))) =
      (readFields fuel rest).map fun (fields, rest) => ((key, value) :: fields, rest) := by
  have name := readString_quoted key
    (show key.toList.flatMap escapeChar ++ '"' :: (behind ++ ':' :: text) = _ from rfl)
  simp only [readFields, quote, List.cons_append, List.append_assoc, List.nil_append,
    skipSpace_before gap (by decide : isSpace '"' = false), name,
    skipSpace_before gap' (by decide : isSpace ':' = false), read,
    skipSpace_before gap'' (by decide : isSpace ',' = false), String.ofList_toList]

end Fields

end Steps

mutual

/-- A value is read from any of its texts, in front of anything that ends it. -/
theorem Writes.read {value : Json} {cs : List Char} (writes : Writes value cs) {fuel : Nat}
    {rest : List Char} (enough : cs.length ≤ fuel) (stops : rest.head?.all isStop = true) :
    readValue fuel (cs ++ rest) = some (value, rest) := by
  obtain ⟨fuel, rfl⟩ : ∃ less, fuel = less + 1 := by
    obtain ⟨c, ds, shape, -⟩ := writes.begins
    rw [shape, List.length_cons] at enough
    exact Nat.exists_eq_succ_of_ne_zero (by omega)
  cases writes with
  | null => rfl
  | yes => rfl
  | no => rfl
  | natural n => exact readValue_natural n stops
  | str text => exact readValue_str text rest
  | noItems gap =>
    simp only [List.cons_append, List.append_assoc, List.nil_append, readValue,
      skipSpace_cons (by decide : isSpace '[' = false),
      skipSpace_before gap (by decide : isSpace ']' = false)]
  | items items =>
    obtain ⟨c, ds, begins, goes⟩ := items.begins (']' :: rest)
    rw [List.length_cons, List.length_append, List.length_singleton] at enough
    rw [List.cons_append, List.append_assoc, List.singleton_append, readValue_items begins goes,
      items.read (by omega)]
    rfl
  | noFields gap =>
    simp only [List.cons_append, List.append_assoc, List.nil_append, readValue,
      skipSpace_cons (by decide : isSpace '\x7b' = false),
      skipSpace_before gap (by decide : isSpace '\x7d' = false)]
  | fields fields =>
    obtain ⟨ds, begins⟩ := fields.begins ('\x7d' :: rest)
    rw [List.length_cons, List.length_append, List.length_singleton] at enough
    rw [List.cons_append, List.append_assoc, List.singleton_append,
      readValue_fields begins (by decide), fields.read (by omega)]
    rfl

theorem WritesItems.read {items : List Json} {cs : List Char} (writes : WritesItems items cs)
    {fuel : Nat} {rest : List Char} (enough : cs.length < fuel) :
    readItems fuel (cs ++ ']' :: rest) = some (items, rest) := by
  obtain ⟨fuel, rfl⟩ := Nat.exists_eq_succ_of_ne_zero (Nat.ne_of_gt (Nat.zero_lt_of_lt enough))
  cases writes with
  | @last item before cs after gap writes gap' =>
    rw [List.length_append, List.length_append] at enough
    have value : readValue fuel (cs ++ (after ++ ']' :: rest)) =
        some (item, after ++ ']' :: rest) :=
      writes.read (by omega) (stops_gap gap' (by decide) rest)
    rw [← readValue_skip (skipSpace_gap gap _)] at value
    rw [List.append_assoc, List.append_assoc]
    exact readItems_last gap' value
  | @more item items before cs after ds gap writes gap' others =>
    rw [List.length_append, List.length_append, List.length_append, List.length_cons] at enough
    have value : readValue fuel (cs ++ (after ++ ',' :: (ds ++ ']' :: rest))) =
        some (item, after ++ ',' :: (ds ++ ']' :: rest)) :=
      writes.read (by omega) (stops_gap gap' (by decide) _)
    rw [← readValue_skip (skipSpace_gap gap _)] at value
    rw [List.append_assoc, List.append_assoc, List.append_assoc, List.cons_append,
      readItems_more gap' value, others.read (by omega)]
    rfl

theorem WritesFields.read {fields : List (String × Json)} {cs : List Char}
    (writes : WritesFields fields cs) {fuel : Nat} {rest : List Char} (enough : cs.length < fuel) :
    readFields fuel (cs ++ '\x7d' :: rest) = some (fields, rest) := by
  obtain ⟨fuel, rfl⟩ := Nat.exists_eq_succ_of_ne_zero (Nat.ne_of_gt (Nat.zero_lt_of_lt enough))
  cases writes with
  | @last key value before behind inner cs after gap gap' inside writes gap'' =>
    simp only [List.length_append, List.length_cons] at enough
    have read : readValue fuel (cs ++ (after ++ '\x7d' :: rest)) =
        some (value, after ++ '\x7d' :: rest) :=
      writes.read (by omega) (stops_gap gap'' (by decide) rest)
    rw [← readValue_skip (skipSpace_gap inside _)] at read
    simp only [List.append_assoc, List.cons_append]
    exact readFields_last gap gap' gap'' read
  | @more key value fields before behind inner cs after ds gap gap' inside writes gap'' others =>
    simp only [List.length_append, List.length_cons] at enough
    have read : readValue fuel (cs ++ (after ++ ',' :: (ds ++ '\x7d' :: rest))) =
        some (value, after ++ ',' :: (ds ++ '\x7d' :: rest)) :=
      writes.read (by omega) (stops_gap gap'' (by decide) _)
    rw [← readValue_skip (skipSpace_gap inside _)] at read
    simp only [List.append_assoc, List.cons_append]
    rw [readFields_more gap gap' gap'' read, others.read (by omega)]
    rfl

end

theorem Writes.parse? {value : Json} {before cs after : List Char} (gap : IsGap before)
    (writes : Writes value cs) (gap' : IsGap after) :
    Json.parse? (String.ofList (before ++ (cs ++ after))) = some value := by
  have stops : after.head?.all isStop = true := by
    cases after with
    | nil => rfl
    | cons c after =>
      have space := gap' c List.mem_cons_self
      simp [isStop, space]
  have read : readValue (2 * (before ++ (cs ++ after)).length + 1) (cs ++ after) =
      some (value, after) := by
    refine writes.read ?_ stops
    rw [List.length_append, List.length_append]
    omega
  have blank : skipSpace after = [] := List.dropWhile_eq_nil_iff.2 gap'
  rw [← readValue_skip (skipSpace_gap gap _)] at read
  simp only [Json.parse?, String.toList_ofList, read, blank]
  rfl

end Json

end PlayerCipher
