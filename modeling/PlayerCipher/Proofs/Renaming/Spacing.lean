import PlayerCipher.Proofs.Renaming.Recording
import PlayerCipher.Proofs.Script.Offsets

/-! Scripts that differ in their spacing.
Blanks and comments leave no tokens, and move those after them. So two scripts with the same
kinds and texts of tokens are one token run, moved in two ways. A move is a relabelling that
changes no name. What is read off a moved run is moved with it, and texts, operations and
errors are not moved at all. -/

namespace PlayerCipher

namespace Token

theorem quoted_contents {token : Token} {contents : String}
    (closed : token.contents? = some contents) :
    String.ofList (token.text.toList.take 1 ++ contents.toList ++ token.text.toList.take 1) =
      token.text := by
  unfold contents? at closed
  split at closed
  · split at closed
    · cases closed
    · rename_i quote rest text
      split at closed
      · rename_i last
        cases closed
        have whole : rest.dropLast ++ [quote] = rest := List.dropLast_append_getLast? quote last
        rw [text, String.toList_ofList, List.take_succ_cons, List.take_zero, List.append_assoc,
          whole, List.singleton_append, ← text, String.ofList_toList]
      · cases closed
  · cases closed

end Token

namespace Definition

def outline (function : Definition) :
    Option String × List String × List (Token.Kind × String) × Nat :=
  (function.name, function.params, function.body.map Token.view, function.bodyStart)

end Definition

namespace Renaming

def identity : Renaming := ⟨id, Function.injective_id, fun _ _ => rfl⟩

theorem identity_token (token : Token) : identity.token token = token := by
  unfold Renaming.token
  split
  · rfl
  · split
    · rename_i contents closed
      exact congrArg (fun text => { token with text }) (Token.quoted_contents closed)
    · rfl
  all_goals rfl

theorem identity_classified (result : Except ClassifyError HelperNames) :
    identity.classified result = result := by
  match result with
  | .ok _ | .error (.notFound _) => rfl
  | .error (.ambiguous kind candidates) =>
    exact congrArg (fun names => Except.error (ClassifyError.ambiguous kind names))
      candidates.map_id

end Renaming

namespace Relabelling

open Renaming

def ofMove (move : Nat → Nat) (move_strictMono : StrictMono move) : Relabelling :=
  { identity with move, move_strictMono }

variable {move : Nat → Nat} {ascending : StrictMono move}

theorem ofMove_token (token : Token) :
    (ofMove move ascending).token token = { token with offset := move token.offset } :=
  congrArg (fun named : Token => { named with offset := move token.offset })
    (identity_token token)

theorem ofMove_view (tokens : List Token) :
    ((ofMove move ascending).tokens tokens).map Token.view = tokens.map Token.view := by
  simp only [Relabelling.tokens, List.map_map]
  apply List.map_congr_left
  intro token _
  simp only [Function.comp, ofMove_token]
  rfl

theorem ofMove_outline (function : Definition) :
    ((ofMove move ascending).definition function).outline = function.outline := by
  simp only [Definition.outline, definition, ofMove_view]
  simp [ofMove, identity]

theorem ofMove_isWordLike (token : Token) :
    ((ofMove move ascending).token token).isWordLike = token.isWordLike := by
  simp [Token.isWordLike]

theorem ofMove_renderFrom (tokens : List Token) :
    ∀ wordBefore, Token.renderFrom wordBefore ((ofMove move ascending).tokens tokens) =
      Token.renderFrom wordBefore tokens := by
  induction tokens with
  | nil =>
    intro wordBefore
    rfl
  | cons token tokens ih =>
    intro wordBefore
    simp only [tokens_cons, Token.renderFrom, ofMove_isWordLike, ih]
    rw [ofMove_token]

theorem ofMove_render (tokens : List Token) :
    Token.render ((ofMove move ascending).tokens tokens) = Token.render tokens :=
  congrArg String.ofList (ofMove_renderFrom tokens false)

theorem ofMove_indexOf (argument : List Token) :
    Call.indexOf ((ofMove move ascending).tokens argument) = Call.indexOf argument := by
  match argument with
  | [] => rfl
  | [token] =>
    have rendered : Token.render ((ofMove move ascending).tokens [token]) =
        Token.render [token] := ofMove_render [token]
    simp only [tokens_cons, tokens_nil] at rendered ⊢
    simp only [Call.indexOf, token_kind, rendered]
    rw [ofMove_token]
  | first :: second :: rest =>
    have rendered : Token.render ((ofMove move ascending).tokens (first :: second :: rest)) =
        Token.render (first :: second :: rest) := ofMove_render (first :: second :: rest)
    simp only [tokens_cons] at rendered ⊢
    simp only [Call.indexOf, rendered]

theorem ofMove_operationOf (kind : Operation.Kind) (arguments : List Token) :
    Call.operationOf kind ((ofMove move ascending).tokens arguments) =
      Call.operationOf kind arguments := by
  unfold Call.operationOf
  rw [statements_tokens]
  match statements arguments with
  | [] => rfl
  | [array] =>
    simp only [List.map_cons, List.map_nil, Call.operationOfParts, isPlainArray_tokens,
      ofMove_render]
  | [array, second] =>
    simp only [List.map_cons, List.map_nil, Call.operationOfParts, isPlainArray_tokens,
      ofMove_render, ofMove_indexOf]
  | array :: second :: third :: rest =>
    simp only [List.map_cons, Call.operationOfParts, isPlainArray_tokens, ofMove_render,
      List.length_cons, List.length_map]

theorem ofMove_callsIn (names : HelperNames) (body : List Token) :
    callsIn names ((ofMove move ascending).tokens body) = callsIn names body := by
  have kept : (ofMove move ascending).Keeps id := by
    intro kind whole arguments
    rw [ofMove_render, ofMove_operationOf]
  have same := (ofMove move ascending).callsIn_view kept names body
  rwa [List.map_id, List.map_id] at same

theorem ofMove_record (functions : List Definition) (choice : DriverChoice)
    (names : HelperNames) (located : Option String) :
    Driver.record (functions.map (ofMove move ascending).definition) choice names located =
      Driver.record functions choice names located := by
  obtain ⟨driver, plain, moved⟩ :=
    (ofMove move ascending).select?_definitions functions choice names located
  have sameChoice : (ofMove move ascending).choice choice = choice := by
    cases choice <;> rfl
  have sameLocated : located.map (ofMove move ascending).map = located :=
    congrFun Option.map_id located
  have sameNames : (ofMove move ascending).names names = names := rfl
  rw [sameChoice, sameLocated, sameNames] at moved
  unfold Driver.record
  rw [plain, moved]
  cases driver with
  | none => rfl
  | some function =>
    have sameName : ((ofMove move ascending).definition function).name = function.name :=
      congrFun Option.map_id function.name
    simp only [Option.map_some, Driver.candidateOf, Driver.recipeOf, sameName]
    have sameCalls : callsIn names ((ofMove move ascending).definition function).body =
        callsIn names function.body := ofMove_callsIn names function.body
    rw [sameCalls]

end Relabelling

theorem tokenize_moved (source : String) :
    ∃ (move : Nat → Nat) (ascending : StrictMono move),
      tokenize source =
        (Relabelling.ofMove move ascending).tokens
          (Token.numbered ((tokenize source).map Token.view)) := by
  obtain ⟨move, ascending, moved⟩ := Token.exists_moved (tokenize_ascending source)
  refine ⟨move, ascending, moved.trans ?_⟩
  exact List.map_congr_left fun token _ => (Relabelling.ofMove_token token).symm

/-- Spacing never matters. Scripts whose tokens have the same kinds and texts define the same
functions in the same order, have the same helpers or the same cause to be refused, and record
the same recipe or the same error for every driver name and all helper names. -/
theorem spacing_irrelevant {left right : String}
    (same : (tokenize left).map Token.view = (tokenize right).map Token.view) :
    (definitions (tokenize left)).map Definition.outline =
        (definitions (tokenize right)).map Definition.outline ∧
      Helper.classifyScript left = Helper.classifyScript right ∧
      ∀ (name : String) (names : HelperNames),
        Driver.recipeOfScript left (.named name) names =
          Driver.recipeOfScript right (.named name) names := by
  -- Both scripts are compared with the run that numbers their common views.
  have normal : ∀ source : String,
      let run := Token.numbered ((tokenize source).map Token.view)
      (definitions (tokenize source)).map Definition.outline =
          (definitions run).map Definition.outline ∧
        Helper.classifyScript source = Helper.classify (definitions run) ∧
        ∀ (name : String) (names : HelperNames),
          Driver.recipeOfScript source (.named name) names =
            Driver.record (definitions run) (.named name) names none := by
    intro source run
    obtain ⟨move, ascending, moved⟩ := tokenize_moved source
    have found : definitions (tokenize source) =
        (definitions run).map (Relabelling.ofMove move ascending).definition := by
      rw [moved, Relabelling.definitions_tokens]
    refine ⟨?_, ?_, ?_⟩
    · rw [found, List.map_map]
      exact List.map_congr_left fun function _ => Relabelling.ofMove_outline function
    · unfold Helper.classifyScript
      rw [found, Relabelling.classify_definitions]
      exact Renaming.identity_classified _
    · intro name names
      unfold Driver.recipeOfScript
      rw [found]
      exact Relabelling.ofMove_record _ _ _ _
  obtain ⟨outlines, helpers, recipes⟩ := normal left
  obtain ⟨outlines', helpers', recipes'⟩ := normal right
  rw [same] at outlines helpers recipes
  refine ⟨outlines.trans outlines'.symm, helpers.trans helpers'.symm, ?_⟩
  intro name names
  exact (recipes name names).trans (recipes' name names).symm

/-- A reversal and a driver that calls it, without a blank more than they need. -/
def tightScript : String :=
  "R=function(a)\x7ba.reverse()\x7d;D=a=>\x7bR(a)\x7d"

def spacedScript : String :=
  "R = function (a) /* in place */ \x7b\n  a.reverse()\n\x7d;\nD = a => \x7b R( a ) \x7d // call"

theorem spacing_irrelevant_scripts :
    tokenize tightScript ≠ tokenize spacedScript ∧
      (tokenize tightScript).map Token.view = (tokenize spacedScript).map Token.view ∧
      (definitions (tokenize tightScript)).map Definition.outline =
        (definitions (tokenize spacedScript)).map Definition.outline ∧
      Helper.classifyScript tightScript = Helper.classifyScript spacedScript ∧
      ∀ (name : String) (names : HelperNames),
        Driver.recipeOfScript tightScript (.named name) names =
          Driver.recipeOfScript spacedScript (.named name) names := by
  have views : (tokenize tightScript).map Token.view = (tokenize spacedScript).map Token.view := by
    decide +kernel
  have last : (tokenize tightScript).map Token.offset ≠
      (tokenize spacedScript).map Token.offset := by
    decide +kernel
  refine ⟨?_, views, spacing_irrelevant views⟩
  intro same
  exact last (congrArg (List.map Token.offset) same)

end PlayerCipher
