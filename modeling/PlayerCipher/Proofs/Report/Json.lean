import PlayerCipher.Proofs.Driver.Indexes
import PlayerCipher.Proofs.Json.Recipe
import PlayerCipher.Report

/-! Reports as JSON.
A report is read back from its text, whatever characters its strings hold: each part stands under a
name of its own, and an outcome has either an output or an error. -/

namespace PlayerCipher

namespace Json

def field? (name : String) : Json → Option Json
  | .obj fields => fields.lookup name
  | _ => none

def text? : Json → Option String
  | .str text => some text
  | _ => none

def items? : Json → Option (List Json)
  | .arr items => some items
  | _ => none

def keys : Json → List String
  | .obj fields => fields.map Prod.fst
  | _ => []

end Json

namespace Outcome

/-- The outcome that an object stands for: a deciphered text or the message of a failure, not
both. -/
def ofJson? (value : Json) : Option Outcome := do
  let input ← value.field? "input" >>= Json.text?
  match value.field? "output", value.field? "error" with
  | some (.str output), none => some ⟨input, .ok output⟩
  | none, some (.str message) => some ⟨input, .error message⟩
  | _, _ => none

theorem ofJson?_toJson (outcome : Outcome) : ofJson? outcome.toJson = some outcome := by
  obtain ⟨input, result⟩ := outcome
  cases result <;> rfl

theorem toJson_injective : Function.Injective toJson := by
  intro a b same
  have read := congrArg ofJson? same
  rwa [ofJson?_toJson, ofJson?_toJson, Option.some.injEq] at read

theorem keys_toJson (outcome : Outcome) :
    outcome.toJson.keys = ["input", "output"] ∨ outcome.toJson.keys = ["input", "error"] := by
  obtain ⟨input, result⟩ := outcome
  cases result with
  | ok output => exact .inl rfl
  | error message => exact .inr rfl

theorem isPlain_toJson (outcome : Outcome) : outcome.toJson.IsPlain := by
  obtain ⟨input, result⟩ := outcome
  refine .obj fun field member => ?_
  cases result with
  | ok output =>
    cases List.mem_cons.1 member with
    | inl same => exact same ▸ .str input
    | inr rest => exact List.mem_singleton.1 rest ▸ .str output
  | error message =>
    cases List.mem_cons.1 member with
    | inl same => exact same ▸ .str input
    | inr rest => exact List.mem_singleton.1 rest ▸ .str message

end Outcome

namespace HelperNames

def ofJson? (value : Json) : Option HelperNames := do
  let swap ← value.field? "swap" >>= Json.text?
  let reverse ← value.field? "reverse" >>= Json.text?
  let removeAt ← value.field? "remove_at" >>= Json.text?
  (ofParts swap reverse removeAt).toOption

end HelperNames

theorem Operation.toJson_injective : Function.Injective Operation.toJson := by
  intro a b same
  cases a <;> cases b <;> simp_all [toJson]

theorem Recipe.toJson_injective : Function.Injective Recipe.toJson := by
  intro a b same
  obtain ⟨operations⟩ := a
  obtain ⟨others⟩ := b
  have each : operations.map Operation.toJson = others.map Operation.toJson := Json.arr.inj same
  rw [List.map_injective_iff.2 Operation.toJson_injective each]

namespace Report

def ofJson? (value : Json) : Option Report := do
  let version ← value.field? "version" >>= Json.text?
  let names ← value.field? "names" >>= HelperNames.ofJson?
  let recipe ← value.field? "recipe" >>= Recipe.ofJson?
  let items ← value.field? "signatures" >>= Json.items?
  let outcomes ← items.mapM Outcome.ofJson?
  match value.field? "stream_url" with
  | none => some ⟨⟨⟨version⟩, names, recipe⟩, outcomes, none⟩
  | some (.str url) => some ⟨⟨⟨version⟩, names, recipe⟩, outcomes, some url⟩
  | some _ => none

variable {report : Report}

theorem field?_stream_url (report : Report) :
    report.toJson.field? "stream_url" = report.streamUrl.map Json.str := by
  obtain ⟨cipher, outcomes, streamUrl⟩ := report
  cases streamUrl <;> rfl

theorem mapM_toJson (outcomes : List Outcome) :
    (outcomes.map Outcome.toJson).mapM Outcome.ofJson? = some outcomes := by
  induction outcomes with
  | nil => rfl
  | cons outcome outcomes ih =>
    rw [List.map_cons, List.mapM_cons, Outcome.ofJson?_toJson, ih]
    rfl

theorem ofJson?_toJson (fits : ∀ operation ∈ report.cipher.recipe.operations, operation.fits) :
    ofJson? report.toJson = some report := by
  have version : (report.toJson.field? "version" >>= Json.text?) =
      some report.cipher.version.text := rfl
  have names : (report.toJson.field? "names" >>= HelperNames.ofJson?) =
      some report.cipher.names := by
    have parts : (report.toJson.field? "names" >>= HelperNames.ofJson?) =
        (HelperNames.ofParts report.cipher.names.swap report.cipher.names.reverse
          report.cipher.names.removeAt).toOption := rfl
    rw [parts, Scrambler.ofParts_names]
    rfl
  have recipe : (report.toJson.field? "recipe" >>= Recipe.ofJson?) =
      some report.cipher.recipe := Recipe.ofJson?_eq_some_iff.2 (Recipe.spells_toJson fits)
  have items : (report.toJson.field? "signatures" >>= Json.items?) =
      some (report.outcomes.map Outcome.toJson) := rfl
  simp only [ofJson?, version, names, recipe, items, field?_stream_url, Option.bind_eq_bind,
    Option.bind_some, mapM_toJson]
  obtain ⟨cipher, outcomes, streamUrl⟩ := report
  cases streamUrl <;> rfl

theorem toJson_injective : Function.Injective toJson := by
  intro a b same
  obtain ⟨⟨version, names, recipe⟩, outcomes, streamUrl⟩ := a
  obtain ⟨⟨version', names', recipe'⟩, outcomes', streamUrl'⟩ := b
  have url := congrArg (Json.field? "stream_url") same
  rw [field?_stream_url, field?_stream_url] at url
  simp only [toJson, List.cons_append, Json.obj.injEq, List.cons.injEq, Prod.mk.injEq, true_and,
    Json.str.injEq, Json.arr.injEq] at same
  obtain ⟨sameText, ⟨swap, reverse, removeAt, -⟩, sameRecipe, sameOutcomes, -⟩ := same
  have sameVersion : version = version' := congrArg ScriptVersion.mk sameText
  have sameNames : names' = names := by
    have made := Scrambler.ofParts_names names
    rw [swap, reverse, removeAt, Scrambler.ofParts_names] at made
    exact Except.ok.inj made
  have sameUrl : streamUrl = streamUrl' :=
    Option.map_injective (fun _ _ equal => Json.str.inj equal) url
  rw [sameVersion, sameNames, Recipe.toJson_injective sameRecipe,
    List.map_injective_iff.2 Outcome.toJson_injective sameOutcomes, sameUrl]

theorem isPlain_toJson (report : Report) : report.toJson.IsPlain := by
  have names : (Json.obj [("swap", .str report.cipher.names.swap),
      ("reverse", .str report.cipher.names.reverse),
      ("remove_at", .str report.cipher.names.removeAt)]).IsPlain := by
    refine .obj ?_
    simp only [List.forall_mem_cons]
    exact ⟨.str _, .str _, .str _, nofun⟩
  have outcomes : (Json.arr (report.outcomes.map Outcome.toJson)).IsPlain := by
    refine .arr fun item member => ?_
    obtain ⟨outcome, -, same⟩ := List.mem_map.1 member
    exact same ▸ outcome.isPlain_toJson
  have url : ∀ field ∈ (report.streamUrl.map fun url => ("stream_url", Json.str url)).toList,
      field.2.IsPlain := by
    cases report.streamUrl with
    | none => exact nofun
    | some url => exact fun field member => List.mem_singleton.1 member ▸ .str url
  refine .obj ?_
  simp only [List.forall_mem_append, List.forall_mem_cons]
  exact ⟨⟨.str _, names, report.cipher.recipe.isPlain_toJson, outcomes, nofun⟩, url⟩

/-- The text of a report is read as an object with exactly its fields, from which the report is
recovered, and no other report has this text. -/
theorem json_recovered {source : String} {version : ScriptVersion} {choice : DriverChoice}
    {cipher : Cipher} (resolved : Cipher.ofScript source version choice = .ok cipher)
    (outcomes : List Outcome) (streamUrl : Option String) :
    let report : Report := ⟨cipher, outcomes, streamUrl⟩
    (∃ fields, Json.parse? report.json = some (.obj fields) ∧
      fields.map Prod.fst = ["version", "names", "recipe", "signatures"] ++
        (streamUrl.map fun _ => "stream_url").toList ∧
      (fields.lookup "names").map Json.keys = some ["swap", "reverse", "remove_at"] ∧
      (∃ items, fields.lookup "signatures" = some (.arr items) ∧
        ∀ item ∈ items, item.keys = ["input", "output"] ∨ item.keys = ["input", "error"]) ∧
      ofJson? (.obj fields) = some report) ∧
    ∀ other : Report, other.json = report.json → other = report := by
  intro report
  have read (report : Report) : Json.parse? report.json = some report.toJson :=
    report.isPlain_toJson.parse?_indented 0
  refine ⟨⟨_, read report, ?_, rfl, ⟨_, rfl, fun item member => ?_⟩,
    ofJson?_toJson (Cipher.fits_of_ofScript resolved)⟩, ?_⟩
  · cases streamUrl <;> rfl
  · obtain ⟨outcome, -, same⟩ := List.mem_map.1 member
    exact same ▸ outcome.keys_toJson
  · intro other same
    have values := read other
    rw [same, read report, Option.some.injEq] at values
    exact toJson_injective values.symm

/-- A script that resolves, and texts that JSON cannot hold as they are. -/
theorem json_recovered_escapes :
    let script := "var X=\x7bA:function(a,b)\x7bvar c=a[0];a[0]=a[b];a[b]=c\x7d," ++
      "R:function(a)\x7ba.reverse()\x7d,D:function(a,b)\x7ba.splice(b,1)\x7d\x7d;" ++
      "function K(a)\x7bX.R(a);X.D(a,1)\x7d"
    let outcomes : List Outcome := [⟨"a\"b\\", .ok "\\\n"⟩, ⟨"\x00é", .error "\x7f \"…\""⟩]
    ∃ cipher, Cipher.ofScript script ⟨"v1"⟩ (.named "K") = .ok cipher ∧
      let report : Report := ⟨cipher, outcomes, some "https://h/?sig=\""⟩
      (∃ fields, Json.parse? report.json = some (.obj fields) ∧
        fields.map Prod.fst = ["version", "names", "recipe", "signatures", "stream_url"] ∧
        ofJson? (.obj fields) = some report) ∧
      ∀ other : Report, other.json = report.json → other = report := by
  intro script outcomes
  obtain ⟨cipher, resolved⟩ : ∃ cipher,
      Cipher.ofScript script ⟨"v1"⟩ (.named "K") = .ok cipher := by
    refine ⟨⟨⟨"v1"⟩, ⟨"A", "R", "D", by decide, by decide, by decide, by decide, by decide,
      by decide⟩, ⟨[.reverse, .removeAt 1]⟩⟩, ?_⟩
    unfold script
    cbv
  obtain ⟨⟨fields, read, names, -, -, whole⟩, unique⟩ :=
    json_recovered resolved outcomes (some "https://h/?sig=\"")
  exact ⟨cipher, resolved, ⟨fields, read, names, whole⟩, unique⟩

end Report

end PlayerCipher
