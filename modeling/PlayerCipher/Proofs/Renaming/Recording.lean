import Mathlib
import PlayerCipher.Cipher
import PlayerCipher.Proofs.Driver.Ranking
import PlayerCipher.Proofs.Renaming.Classification

/-! Recording under a relabelling, and the equivariance of resolution.
The texts of calls change with the names in them, so two recordings are compared by their
outline: the recipe, or the kind of error and the operation it is about. With helper names,
driver choice and located name renamed along, the outline stays. Other ways to look at a call
may stay as well, so the search for calls is followed for any of them. -/

namespace PlayerCipher

namespace Call

/-- What a call contributes to a recording, its text and the wording of errors left aside. -/
def outline (call : Call) : Operation.Kind × Option Operation :=
  (call.kind, call.operation.toOption)

end Call

namespace RecordError

/-- The kind of the malformed call; `none` if there is no driver. -/
def outline : RecordError → Option Operation.Kind
  | .noDriver => none
  | .malformedCall _ kind _ _ => some kind

end RecordError

namespace Driver

theorem operations_outline (function function' : String) {calls : List Call} :
    ∀ {calls' : List Call}, calls'.map Call.outline = calls.map Call.outline →
      (operations function' calls').mapError RecordError.outline =
        (operations function calls).mapError RecordError.outline := by
  induction calls with
  | nil =>
    intro calls' same
    rw [List.map_nil, List.map_eq_nil_iff] at same
    rw [same]
    rfl
  | cons call calls ih =>
    intro calls' same
    cases calls' with
    | nil => cases same
    | cons call' calls' =>
      simp only [List.map_cons, List.cons.injEq, Call.outline, Prod.mk.injEq] at same
      obtain ⟨⟨sameKind, sameOperation⟩, sameRest⟩ := same
      have rest := ih sameRest
      simp only [operations]
      cases read : call.operation with
      | error reason =>
        cases read' : call'.operation with
        | error reason' => simp [Except.mapError, RecordError.outline, sameKind]
        | ok operation' => simp [read, read', Except.toOption] at sameOperation
      | ok operation =>
        cases read' : call'.operation with
        | error reason' => simp [read, read', Except.toOption] at sameOperation
        | ok operation' =>
          have same : operation' = operation := by
            simpa [read, read', Except.toOption] using sameOperation
          subst same
          cases inner : operations function calls <;>
            cases inner' : operations function' calls' <;>
            simp_all [Except.mapError, Except.map]

theorem mapError_map_congr {ε ε' α β : Type} {left right : Except ε α} {outline : ε → ε'}
    (f : α → β) (same : left.mapError outline = right.mapError outline) :
    (left.map f).mapError outline = (right.map f).mapError outline := by
  cases left <;> cases right <;> simp_all [Except.mapError, Except.map]

end Driver

namespace Renaming

variable (ρ : Renaming)

theorem kindCalled?_map (names : HelperNames) (name : String) :
    (ρ.names names).kindCalled? (ρ.map name) = names.kindCalled? name := by
  have same : ∀ kind, ((ρ.names names).get kind == ρ.map name) = (names.get kind == name) := by
    intro kind
    cases kind <;> simp [HelperNames.get, Renaming.names]
  simp only [HelperNames.kindCalled?, same]

def choice : DriverChoice → DriverChoice
  | .auto => .auto
  | .named name => .named (ρ.map name)

end Renaming

namespace Relabelling

open Call Renaming

variable (σ : Relabelling)

theorem indexOf_tokens (argument : List Token) :
    (indexOf (σ.tokens argument)).toOption = (indexOf argument).toOption := by
  match argument with
  | [] => rfl
  | [token] =>
    by_cases number : token.kind = .number
    · have same : (σ.token token).text = token.text :=
        σ.token_text_plain (by simp [number]) (by simp [number])
      simp [indexOf, number, same]
    · simp [indexOf, number, Except.toOption]
  | _ :: _ :: _ => rfl

theorem isPlainArray_tokens (argument : List Token) :
    isPlainArray (σ.tokens argument) = isPlainArray argument := by
  match argument with
  | [] => rfl
  | [token] => simp [isPlainArray]
  | _ :: _ :: _ => rfl

theorem toOption_map {ε α β : Type} (f : α → β) (result : Except ε α) :
    (result.map f).toOption = result.toOption.map f := by
  cases result <;> rfl

theorem operationOf_tokens (kind : Operation.Kind) (arguments : List Token) :
    (operationOf kind (σ.tokens arguments)).toOption =
      (operationOf kind arguments).toOption := by
  unfold operationOf
  rw [statements_tokens]
  cases statements arguments with
  | nil => rfl
  | cons array rest =>
    simp only [List.map_cons, operationOfParts, isPlainArray_tokens]
    split
    · match rest with
      | [] => rfl
      | [second] =>
        cases kind <;> simp [toOption_map, indexOf_tokens]
      | _ :: _ :: _ => rfl
    · rfl

theorem nestedLength?_tokens (before : List Token) (token : Token) (after : List Token) :
    nestedLength? (σ.tokens before) (σ.token token) (σ.tokens after) =
      nestedLength? before token after := by
  unfold nestedLength?
  rw [σ.spells_token σ.map_function, isMark_token]
  split
  · have ahead : ((σ.tokens after).takeWhile fun t => !t.isMark "(").length =
        (after.takeWhile fun t => !t.isMark "(").length := by
      simp [Relabelling.tokens, List.takeWhile_map, Function.comp_def]
    simp only [ahead, tokens_drop, braced?_tokens, Option.map_map]
    congr 1
    funext ⟨head, body⟩
    simp
  · split
    · cases after with
      | nil => rfl
      | cons brace tokens =>
        simp only [tokens_cons, isMark_token, inside?_tokens]
        rw [← tokens_cons, expressionLength_tokens]
    · rw [shorthandParts?_tokens, Option.map_map]
      congr 1
      funext ⟨head, body⟩
      simp

def callee (callee : Callee) : Callee :=
  ⟨σ.map callee.name, σ.tokens callee.lead, callee.bridge⟩

theorem callee?_tokens (before : List Token) (token : Token) (after : List Token) :
    callee? (σ.tokens before) (σ.token token) (σ.tokens after) =
      (callee? before token after).map σ.callee := by
  unfold callee?
  rw [token_kind]
  cases kind : token.kind with
  | ident =>
    have text := σ.token_text_ident kind
    cases after with
    | nil => rfl
    | cons opener after =>
      simp only [tokens_cons, isMark_token]
      split
      · match before with
        | [] => simp [callee, text]
        | [last] =>
          simp only [tokens_cons, tokens_nil, σ.spells_token σ.map_function, text]
          split <;> simp [callee]
        | dot :: object :: before =>
          simp only [tokens_cons, isMark_token, σ.spells_token σ.map_function, text]
          split
          · simp [callee]
          · split <;> simp [callee]
      · rfl
  | str =>
    match before, after with
    | [], _ | [_], _ | _ :: _ :: _, [] | _ :: _ :: _, [_] => rfl
    | bracket :: object :: before, closer :: opener :: after =>
      simp only [tokens_cons, isMark_token, contents?_token]
      split
      · cases token.contents? <;> simp [callee]
      · rfl
  | number | regex | punct => rfl

/-- Whether a way to look at a call shows the same of it after the relabelling. -/
def Keeps {α : Type} (view : Call → α) : Prop :=
  ∀ kind whole arguments,
    view ⟨kind, Token.render (σ.tokens whole), operationOf kind (σ.tokens arguments)⟩ =
      view ⟨kind, Token.render whole, operationOf kind arguments⟩

variable {α : Type} {view : Call → α}

theorem at?_view (kept : σ.Keeps view) (names : HelperNames) (before : List Token)
    (token : Token) (after : List Token) :
    (Call.at? (σ.names names) (σ.tokens before) (σ.token token) (σ.tokens after)).map
        (Prod.map view id) =
      (Call.at? names before token after).map (Prod.map view id) := by
  unfold Call.at?
  rw [callee?_tokens]
  cases callee? before token after with
  | none => rfl
  | some found =>
    simp only [Option.map_some, Option.bind_eq_bind, Option.bind_some, callee, kindCalled?_map]
    cases names.kindCalled? found.name with
    | none => rfl
    | some kind =>
      simp only [Option.bind_some, tokens_drop, inside?_tokens]
      cases Bracket.inside? (after.drop found.bridge) with
      | none => rfl
      | some inside =>
        simp only [Option.bind_some, Option.map_some, Prod.map, tokens_take]
        rw [← tokens_append, kept]

theorem calls_scan_view (kept : σ.Keeps view) (names : HelperNames) (found : List Call)
    (before tokens : List Token) :
    ∀ found' : List Call, found'.map view = found.map view →
      (Call.scan (σ.names names) found' (σ.tokens before) (σ.tokens tokens)).map
          view =
        (Call.scan names found before tokens).map view := by
  fun_induction Call.scan names found before tokens with
  | case1 found before =>
    intro found' same
    simp [Call.scan, same]
  | case2 found before token after n nested ih =>
    intro found' same
    rw [tokens_cons, Call.scan, nestedLength?_tokens, nested]
    have rest := ih found' same
    simpa only [tokens_append, tokens_cons, ← tokens_take, ← tokens_drop, ← tokens_reverse]
      using rest
  | case3 found before token after plain call n called ih =>
    intro found' same
    have views := σ.at?_view kept names before token after
    rw [called, Option.map_some, Option.map_eq_some_iff] at views
    obtain ⟨⟨call', n'⟩, called', sameCall⟩ := views
    simp only [Prod.map, id, Prod.mk.injEq] at sameCall
    obtain ⟨sameView, rfl⟩ := sameCall
    rw [tokens_cons, Call.scan, nestedLength?_tokens, plain]
    have rest := ih (call' :: found') (by simp [sameView, same])
    simpa only [called', tokens_append, tokens_cons, ← tokens_take, ← tokens_drop,
      ← tokens_reverse] using rest
  | case4 found before token after plain noCall ih =>
    intro found' same
    have views := σ.at?_view kept names before token after
    rw [noCall, Option.map_none, Option.map_eq_none_iff] at views
    rw [tokens_cons, Call.scan, nestedLength?_tokens, plain]
    have rest := ih found' same
    simpa only [views, tokens_cons] using rest

theorem callsIn_view (kept : σ.Keeps view) (names : HelperNames) (body : List Token) :
    (callsIn (σ.names names) (σ.tokens body)).map view = (callsIn names body).map view :=
  σ.calls_scan_view kept names [] [] body [] rfl

theorem keeps_outline : σ.Keeps Call.outline := by
  intro kind whole arguments
  simp [Call.outline, operationOf_tokens]

theorem map_eq_some_empty (contents : Option String) :
    (contents.map σ.map == some "") = (contents == some "") := by
  cases contents <;> simp

theorem splitsHere_tokens (param : String) (tokens : List Token) :
    Driver.splitsHere (σ.map param) (σ.tokens tokens) = Driver.splitsHere param tokens := by
  have kept : σ.map "split" = "split" := σ.keeps "split" (by decide)
  match tokens with
  | [] | [_] | [_, _] | [_, _, _] | [_, _, _, _] | [_, _, _, _, _] => rfl
  | array :: dot :: method :: opener :: separator :: closer :: rest =>
    simp [Driver.splitsHere, spells_map_token, σ.spells_token kept, map_eq_some_empty]

theorem splits_tokens (param : String) (tokens : List Token) :
    Driver.splits (σ.map param) (σ.tokens tokens) = Driver.splits param tokens := by
  induction tokens with
  | nil => rfl
  | cons token tokens ih =>
    rw [tokens_cons, Driver.splits, ← tokens_cons, splitsHere_tokens, ih, Driver.splits]

theorem splitsInput_definition (function : Definition) :
    Driver.splitsInput (σ.definition function) = Driver.splitsInput function := by
  unfold Driver.splitsInput
  cases shape : function.params with
  | nil => simp [definition, shape]
  | cons param params => simp [definition, shape, splits_tokens]

theorem callsIn_length (names : HelperNames) (function : Definition) :
    (callsIn (σ.names names) (σ.definition function).body).length =
      (callsIn names function.body).length := by
  have same := congrArg List.length (σ.callsIn_view σ.keeps_outline names function.body)
  rwa [List.length_map, List.length_map] at same

theorem callsHelper_definition (names : HelperNames) (function : Definition) :
    Driver.callsHelper (σ.names names) (σ.definition function) =
      Driver.callsHelper names function := by
  have same := σ.callsIn_length names function
  unfold Driver.callsHelper
  rw [Bool.eq_iff_iff]
  simp [← List.length_eq_zero_iff, same]

theorem isLocated_definition (names : HelperNames) (located : Option String)
    (function : Definition) :
    (Driver.candidateOf (σ.names names) (σ.definition function)).isLocated
        (located.map σ.map) =
      (Driver.candidateOf names function).isLocated located := by
  cases located with
  | none => rfl
  | some name =>
    simp only [Driver.Candidate.isLocated, Driver.candidateOf, definition]
    cases function.name <;> simp

theorem outranks_definition (names : HelperNames) (located : Option String) (f g : Definition) :
    (Driver.candidateOf (σ.names names) (σ.definition f)).outranks (located.map σ.map)
        (Driver.candidateOf (σ.names names) (σ.definition g)) =
      (Driver.candidateOf names f).outranks located (Driver.candidateOf names g) := by
  simp only [Driver.Candidate.outranks, isLocated_definition]
  simp only [Driver.candidateOf, splitsInput_definition, callsIn_length]
  rfl

theorem candidates_definitions_eq (names : HelperNames) (functions : List Definition) :
    Driver.candidates (σ.names names) (functions.map σ.definition) =
      (functions.filter (Driver.callsHelper names)).map fun function =>
        Driver.candidateOf (σ.names names) (σ.definition function) := by
  have same : Driver.callsHelper (σ.names names) ∘ σ.definition = Driver.callsHelper names :=
    funext (σ.callsHelper_definition names)
  rw [Driver.candidates_eq, List.filter_map, same, List.map_map]
  rfl

theorem select?_definitions (functions : List Definition) (choice : DriverChoice)
    (names : HelperNames) (located : Option String) :
    ∃ driver : Option Definition,
      Driver.select? functions choice names located =
        driver.map (Driver.candidateOf names) ∧
      Driver.select? (functions.map σ.definition) (σ.choice choice) (σ.names names)
          (located.map σ.map) =
        driver.map fun function =>
          Driver.candidateOf (σ.names names) (σ.definition function) := by
  cases choice with
  | named name =>
    have same : (fun function : Definition => function.name == some (σ.map name)) ∘
        σ.definition = fun function => function.name == some name := by
      funext function
      simp only [Function.comp, definition]
      cases function.name <;> simp
    refine ⟨((functions.filter fun function => function.name == some name).filter
      (Driver.callsHelper names)).head?, ?_, ?_⟩
    · simp only [Driver.select?, Driver.candidates_eq, List.head?_map]
    · simp only [Driver.select?, Renaming.choice, List.filter_map, same,
        candidates_definitions_eq, List.head?_map]
  | auto =>
    unfold Driver.select? Renaming.choice
    rw [candidates_definitions_eq, Driver.candidates_eq]
    exact Driver.Candidate.best?_congr
      (fun f g => (σ.outranks_definition names located f g).symm) _

theorem record_definitions (functions : List Definition) (choice : DriverChoice)
    (names : HelperNames) (located : Option String) :
    (Driver.record (functions.map σ.definition) (σ.choice choice) (σ.names names)
        (located.map σ.map)).mapError RecordError.outline =
      (Driver.record functions choice names located).mapError RecordError.outline := by
  obtain ⟨driver, plain, renamed⟩ := σ.select?_definitions functions choice names located
  unfold Driver.record
  rw [plain, renamed]
  cases driver with
  | none => rfl
  | some function =>
    have same := Driver.operations_outline (function.name.getD "<anonymous>")
      ((σ.definition function).name.getD "<anonymous>")
      (σ.callsIn_view σ.keeps_outline names function.body)
    simp only [Option.map_some, Driver.recipeOf, Driver.candidateOf]
    exact Driver.mapError_map_congr Recipe.mk same

end Relabelling

namespace Renaming

variable (ρ : Renaming)

theorem record_definitions (functions : List Definition) (choice : DriverChoice)
    (names : HelperNames) (located : Option String) :
    (Driver.record (functions.map ρ.inPlace.definition) (ρ.choice choice) (ρ.names names)
        (located.map ρ.map)).mapError RecordError.outline =
      (Driver.record functions choice names located).mapError RecordError.outline :=
  ρ.inPlace.record_definitions functions choice names located

/-- Resolution does not look at names. A token run whose identifiers and member names are
renamed has the renamed helpers, or is refused for the same reason with renamed candidates; and
for all helper names, driver choices and located names it records the same recipe, or fails
with the same kind of error for the same kind of operation. -/
theorem resolution_renamed (ρ : Renaming) (tokens : List Token) :
    Helper.classify (definitions (ρ.tokens tokens)) =
        ρ.classified (Helper.classify (definitions tokens)) ∧
      ∀ (names : HelperNames) (choice : DriverChoice) (located : Option String),
        (Driver.record (definitions (ρ.tokens tokens)) (ρ.choice choice) (ρ.names names)
            (located.map ρ.map)).mapError RecordError.outline =
          (Driver.record (definitions tokens) choice names located).mapError
            RecordError.outline := by
  rw [definitions_tokens]
  refine ⟨ρ.classify_definitions _, ?_⟩
  intro names choice located
  exact ρ.record_definitions _ choice names located

def swapScript (swap reverse : String) : List Token :=
  tokenize (swap ++ "=(a,b)=>\x7bc=a[0];a[0]=a[b];a[b]=c\x7d;" ++ reverse ++ "=a=>a.reverse();" ++
    "C=(a,b)=>a.splice(b,1);f=a=>" ++ swap ++ "(a,2)")

def swapNames : HelperNames :=
  ⟨"A", "B", "C", by decide, by decide, by decide, by decide, by decide, by decide⟩

theorem classify_swapScript :
    Helper.classify (definitions (swapScript "A" "B")) = .ok swapNames := by
  cbv

theorem record_swapScript :
    Driver.record (definitions (swapScript "A" "B")) (.named "f") swapNames none =
      .ok ⟨[.swap 2]⟩ := by
  cbv

/-- Helpers that have each other's names are told apart all the same, and the driver has the same
recipe. -/
theorem resolution_renamed_exchange :
    ∃ ρ : Renaming, ρ.map "A" = "B" ∧ ρ.map "B" = "A" ∧
      swapScript "B" "A" = ρ.tokens (swapScript "A" "B") ∧
      Helper.classify (definitions (swapScript "B" "A")) = .ok (ρ.names swapNames) ∧
      (Driver.record (definitions (swapScript "B" "A")) (.named "f") (ρ.names swapNames)
        none).mapError RecordError.outline = .ok ⟨[.swap 2]⟩ := by
  let ρ : Renaming := exchange "A" "B" (by decide)
  have kept : ρ.map "f" = "f" := Equiv.swap_apply_of_ne_of_ne (by decide) (by decide)
  have renamed : swapScript "B" "A" = ρ.tokens (swapScript "A" "B") := by decide +kernel
  obtain ⟨classes, records⟩ := ρ.resolution_renamed (swapScript "A" "B")
  have recipe := records swapNames (.named "f") none
  rw [classify_swapScript, ← renamed] at classes
  rw [record_swapScript, ← renamed, choice, kept] at recipe
  exact ⟨ρ, Equiv.swap_apply_left _ _, Equiv.swap_apply_right _ _, renamed, classes, recipe⟩

end Renaming

end PlayerCipher
