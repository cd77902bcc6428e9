import Mathlib.Data.List.Forall2
import PlayerCipher.Json.Recipe
import PlayerCipher.Proofs.Json.Forms
import PlayerCipher.Proofs.Scrambler.Basic

/-! Recipes in JSON texts.
The values that are read as an operation are the one that is written for it, if its index has 64
bits, and for a reversal also an object with the field `reverse`. A recipe is read from every
text of such values, and what is read can be written and read again. -/

namespace PlayerCipher

namespace Operation

/-- The values that stand for an operation. -/
inductive Spells : Operation → Json → Prop where
  | written {operation : Operation} : operation.fits → Spells operation operation.toJson
  | object : Spells .reverse (.obj [("reverse", .null)])

theorem ofJson?_toJson {operation : Operation} (fits : operation.fits) :
    ofJson? operation.toJson = some operation := by
  cases operation with
  | swap index => simp [toJson, ofJson?, Nat.not_le.2 fits]
  | reverse => rfl
  | removeAt index => simp [toJson, ofJson?, Nat.not_le.2 fits]

theorem ofJson?_eq_some_iff {value : Json} {operation : Operation} :
    ofJson? value = some operation ↔ operation.Spells value := by
  constructor
  · intro read
    unfold ofJson? at read
    split at read
    · rename_i name
      split at read
      · rename_i same
        cases read
        rw [same]
        exact .written trivial
      · cases read
    · rename_i name
      split at read
      · rename_i same
        cases read
        rw [same]
        exact .object
      · cases read
    · rename_i name index
      split_ifs at read with large swaps removes
      · cases read
        rw [swaps]
        exact .written (Nat.not_le.1 large)
      · cases read
        rw [removes]
        exact .written (Nat.not_le.1 large)
    · cases read
  · intro spells
    cases spells with
    | written fits => exact ofJson?_toJson fits
    | object => rfl

theorem Spells.fits {value : Json} {operation : Operation} (spells : operation.Spells value) :
    operation.fits := by
  cases spells with
  | written fits => exact fits
  | object => exact trivial

theorem isPlain_toJson (operation : Operation) : operation.toJson.IsPlain := by
  have field (name : String) (index : Nat) : (Json.obj [(name, .natural index)]).IsPlain := by
    refine .obj fun field member => ?_
    rw [List.mem_singleton.1 member]
    exact .natural index
  cases operation with
  | swap index => exact field "swap" index
  | reverse => exact .str "reverse"
  | removeAt index => exact field "remove_at" index

end Operation

namespace Recipe

inductive Spells : Recipe → Json → Prop where
  | arr {operations : List Operation} {items : List Json} :
      List.Forall₂ Operation.Spells operations items → Spells ⟨operations⟩ (.arr items)

theorem mapM_eq_some_iff {items : List Json} :
    ∀ {operations : List Operation}, items.mapM Operation.ofJson? = some operations ↔
      List.Forall₂ Operation.Spells operations items := by
  induction items with
  | nil =>
    intro operations
    simp [eq_comm]
  | cons item items ih =>
    intro operations
    simp only [List.mapM_cons, Option.bind_eq_bind, Option.bind_eq_some_iff, Option.pure_def,
      Option.some.injEq, Operation.ofJson?_eq_some_iff, ih, List.forall₂_cons_right_iff]
    constructor
    · intro read
      obtain ⟨operation, spells, operations, others, rfl⟩ := read
      exact ⟨operation, operations, spells, others, rfl⟩
    · intro spelled
      obtain ⟨operation, operations, spells, others, rfl⟩ := spelled
      exact ⟨operation, spells, operations, others, rfl⟩

theorem ofJson?_eq_some_iff {value : Json} {recipe : Recipe} :
    ofJson? value = some recipe ↔ recipe.Spells value := by
  constructor
  · intro read
    unfold ofJson? at read
    split at read
    · obtain ⟨operations, spelled, rfl⟩ := Option.map_eq_some_iff.1 read
      exact .arr (mapM_eq_some_iff.1 spelled)
    · cases read
  · intro spells
    cases spells with
    | arr spelled => simp only [ofJson?, mapM_eq_some_iff.2 spelled, Option.map_some]

variable {recipe : Recipe}

theorem spells_toJson (fits : ∀ operation ∈ recipe.operations, operation.fits) :
    recipe.Spells recipe.toJson := by
  refine .arr ?_
  rw [List.forall₂_map_right_iff, List.forall₂_same]
  exact fun operation member => .written (fits operation member)

theorem Spells.fits {value : Json} (spells : recipe.Spells value) :
    ∀ operation ∈ recipe.operations, operation.fits := by
  cases spells with
  | arr spelled =>
    have both := spelled.imp fun _ _ spells => And.intro spells.fits spells
    exact ((List.forall₂_and_left _ _).1 both).1

theorem isPlain_toJson (recipe : Recipe) : recipe.toJson.IsPlain := by
  refine .arr fun item member => ?_
  obtain ⟨operation, _, rfl⟩ := List.mem_map.1 member
  exact operation.isPlain_toJson

theorem Spells.parse? {value : Json} {text : String} (spells : recipe.Spells value)
    (read : Json.parse? text = some value) : Recipe.parse? text = some recipe := by
  rw [Recipe.parse?, read]
  exact ofJson?_eq_some_iff.2 spells

theorem parse?_written (fits : ∀ operation ∈ recipe.operations, operation.fits) :
    parse? recipe.toJson.renderCompact = some recipe ∧
      ∀ depth, parse? (String.ofList (recipe.toJson.indented depth)) = some recipe := by
  have spells := spells_toJson fits
  have plain := recipe.isPlain_toJson
  exact ⟨spells.parse? plain.parse?_renderCompact, fun depth =>
    spells.parse? (plain.parse?_indented depth)⟩

/-- A recipe with indexes of 64 bits is read back from its compact form and from the indented form
at any depth, and from every text of the values that stand for it, whatever the blanks in it. What
is read from any text is a recipe that can be written and read again. -/
theorem reads_written (recipe : Recipe) :
    ((∀ operation ∈ recipe.operations, operation.fits) →
      parse? recipe.toJson.renderCompact = some recipe ∧
        ∀ depth, parse? (String.ofList (recipe.toJson.indented depth)) = some recipe) ∧
    (∀ {value : Json} {before cs after : List Char}, recipe.Spells value → Json.IsGap before →
      Json.Writes value cs → Json.IsGap after →
        parse? (String.ofList (before ++ (cs ++ after))) = some recipe) ∧
    ∀ {text : String}, parse? text = some recipe →
      parse? recipe.toJson.renderCompact = some recipe ∧
        ∀ depth, parse? (String.ofList (recipe.toJson.indented depth)) = some recipe := by
  refine ⟨parse?_written, ?_, ?_⟩
  · intro value before cs after spells gap writes gap'
    exact spells.parse? (writes.parse? gap gap')
  · intro text read
    obtain ⟨value, _, spells⟩ := Option.bind_eq_some_iff.1 read
    exact parse?_written (ofJson?_eq_some_iff.1 spells).fits

/-- A reversal in its other spelling behind the largest index, with blanks around the parts. -/
theorem reads_written_spaced :
    let recipe : Recipe := ⟨[.swap 18446744073709551615, .reverse]⟩
    parse? "[\x7b\"swap\":18446744073709551615\x7d,\"reverse\"]" = some recipe ∧
      parse? "\n[\x7b\"swap\" : 18446744073709551615\x7d,\t\x7b\"reverse\":null\x7d ] " =
        some recipe ∧
      parse? (String.ofList (recipe.toJson.indented 1)) = some recipe := by
  intro recipe
  obtain ⟨written, spelled, again⟩ := reads_written recipe
  have fits : ∀ operation ∈ recipe.operations, operation.fits := by
    simp [recipe, Operation.fits, Text.indexLimit]
  have gap : Json.IsGap [' '] := Json.isGap_blank
  have swap : Json.Writes (Operation.swap 18446744073709551615).toJson
      "\x7b\"swap\" : 18446744073709551615\x7d".toList :=
    .fields (.last Json.isGap_nil gap gap (.natural _) Json.isGap_nil)
  have reverse : Json.Writes (.obj [("reverse", .null)]) "\x7b\"reverse\":null\x7d".toList :=
    .fields (.last Json.isGap_nil Json.isGap_nil Json.isGap_nil .null Json.isGap_nil)
  have line : Json.IsGap ['\n'] := Json.isGap_newLine 0
  have tab : Json.IsGap ['\t'] := by
    simp [Json.IsGap, Json.isSpace]
  have spaced := spelled (.arr (.cons (.written (fits _ List.mem_cons_self)) (.cons .object .nil)))
    line (.items (.more Json.isGap_nil swap Json.isGap_nil (.last tab reverse gap))) gap
  exact ⟨(written fits).1, spaced, (again spaced).2 1⟩

end Recipe

end PlayerCipher
