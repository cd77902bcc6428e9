import PlayerCipher.Helper.Classify
import PlayerCipher.Proofs.Renaming.Definitions

/-! Classification under a relabelling.
A pattern compares a token with a parameter, with the local bound before, with a mark, a
number, or one of the words that every renaming keeps. None of these comparisons changes when
token, parameters and bound local are renamed together, so a shape accepts a relabelled function
when it accepts the function. -/

namespace PlayerCipher

namespace Renaming

open Shape

variable (ρ : Renaming)

def patternWords : List String := ["length", "reverse", "splice", "return", "var", "let", "const"]

theorem map_patternWord {word : String} (member : word ∈ patternWords) : ρ.map word = word :=
  ρ.keeps word (by
    revert word
    decide)

def binding (binding : Binding) : Binding :=
  ⟨binding.temp.map ρ.map, binding.modular⟩

theorem binding_modular (bindings : Binding) :
    (ρ.binding bindings).modular = bindings.modular := rfl

theorem binding_update (bindings : Binding) (modular : Option Bool) :
    { ρ.binding bindings with modular } = ρ.binding { bindings with modular } := rfl

theorem distinct_map (names : List String) :
    Helper.distinct (names.map ρ.map) = (Helper.distinct names).map ρ.map := by
  have folded : ∀ seen : List String,
      (names.map ρ.map).foldl
          (fun seen name => if seen.contains name then seen else seen ++ [name])
          (seen.map ρ.map) =
        (names.foldl (fun seen name => if seen.contains name then seen else seen ++ [name])
          seen).map ρ.map := by
    induction names with
    | nil =>
      intro seen
      rfl
    | cons name names ih =>
      intro seen
      have member : (seen.map ρ.map).contains (ρ.map name) = seen.contains name := by simp
      simp only [List.map_cons, List.foldl_cons, member]
      split
      · exact ih seen
      · rw [← ih, List.map_append, List.map_singleton]
  exact folded []

def names (names : HelperNames) : HelperNames where
  swap := ρ.map names.swap
  reverse := ρ.map names.reverse
  removeAt := ρ.map names.removeAt
  swap_ne_empty := by simp [names.swap_ne_empty]
  reverse_ne_empty := by simp [names.reverse_ne_empty]
  removeAt_ne_empty := by simp [names.removeAt_ne_empty]
  reverse_ne_swap := by simp [names.reverse_ne_swap]
  removeAt_ne_swap := by simp [names.removeAt_ne_swap]
  removeAt_ne_reverse := by simp [names.removeAt_ne_reverse]

def classifyError : ClassifyError → ClassifyError
  | .notFound kind => .notFound kind
  | .ambiguous kind candidates => .ambiguous kind (candidates.map ρ.map)

def classified : Except ClassifyError HelperNames → Except ClassifyError HelperNames
  | .ok names => .ok (ρ.names names)
  | .error cause => .error (ρ.classifyError cause)

theorem ofParts_map (swap reverse removeAt : String) :
    HelperNames.ofParts (ρ.map swap) (ρ.map reverse) (ρ.map removeAt) =
      ρ.classified (HelperNames.ofParts swap reverse removeAt) := by
  unfold HelperNames.ofParts
  simp only [map_eq_empty, map_eq_map]
  repeat' split
  all_goals rfl

end Renaming

namespace Relabelling

open Shape Renaming

variable (σ : Relabelling)

@[simp] theorem isParam_token (params : List String) (position : Nat) (token : Token) :
    isParam (params.map σ.map) position (σ.token token) = isParam params position token := by
  by_cases ident : token.kind = .ident
  · simp [isParam, ident, σ.token_text_ident ident]
  · rw [Bool.eq_iff_iff]
    simp [isParam, ident]

@[simp] theorem isDeclaration_token (token : Token) :
    isDeclaration (σ.token token) = isDeclaration token := by
  have kept : ∀ word ∈ ["var", "let", "const"], σ.map word = word := by
    intro word member
    apply σ.map_patternWord
    revert word
    decide
  simp [isDeclaration, σ.spells_token, kept]

theorem bindTemp?_token (params : List String) (token : Token) (bindings : Binding) :
    bindTemp? (params.map σ.map) (σ.token token) (σ.binding bindings) =
      (bindTemp? params token bindings).map σ.binding := by
  unfold bindTemp?
  by_cases identifier : token.isIdentifier = true
  · have member : (params.map σ.map).contains (σ.map token.text) = params.contains token.text := by
      simp
    rw [isIdentifier_token, σ.token_text_identifier identifier, member]
    split
    · cases shape : bindings.temp with
      | none => simp [binding, shape]
      | some name =>
        simp only [binding, shape, Option.map_some, map_eq_map]
        split <;> simp [binding, shape]
    · rfl
  · simp [identifier]

@[simp] theorem isRemainder_tokens (params : List String)
    (index percent array dot length : Token) :
    isRemainder (params.map σ.map) (σ.token index) (σ.token percent) (σ.token array)
        (σ.token dot) (σ.token length) =
      isRemainder params index percent array dot length := by
  simp [isRemainder, σ.spells_token (σ.map_patternWord (by decide : "length" ∈ patternWords))]

theorem isNumber_token (token : Token) (text : String) :
    ((σ.token token).kind == .number && (σ.token token).text == text) =
      (token.kind == .number && token.text == text) := by
  by_cases number : token.kind = .number
  · rw [token_kind, σ.token_text_plain (by simp [number]) (by simp [number])]
  · rw [Bool.eq_iff_iff]
    simp [number]

theorem optional_tokens {test : Token → Bool} {read read' : List Token → Option Binding}
    (same : ∀ token, test (σ.token token) = test token)
    (rest : ∀ tokens, read' (σ.tokens tokens) = (read tokens).map σ.binding)
    (tokens : List Token) :
    ((match σ.tokens tokens with
      | token :: tokens => if test token then read' tokens else none
      | [] => none) <|> read' (σ.tokens tokens)) =
    ((match tokens with
      | token :: tokens => if test token then read tokens else none
      | [] => none) <|> read tokens).map σ.binding := by
  simp only [Option.orElse_eq_orElse, Option.orElse_eq_or, Option.map_or, rest]
  congr 1
  cases tokens with
  | nil => rfl
  | cons token tokens =>
    simp only [tokens_cons, same, rest]
    split <;> rfl

theorem matchTokens_tokens (params : List String) (patterns : List Pattern)
    (kept : ∀ word, Pattern.word word ∈ patterns → σ.map word = word) :
    ∀ tokens bindings,
      matchTokens (params.map σ.map) patterns (σ.tokens tokens) (σ.binding bindings) =
        (matchTokens params patterns tokens bindings).map σ.binding := by
  induction patterns with
  | nil =>
    intro tokens bindings
    simp only [matchTokens, isEmpty_tokens]
    split <;> rfl
  | cons pattern patterns ih =>
    have keptRest : ∀ word, Pattern.word word ∈ patterns → σ.map word = word :=
      fun word member => kept word (List.mem_cons_of_mem _ member)
    have rest := ih keptRest
    intro tokens bindings
    cases pattern with
    | declaration => exact σ.optional_tokens σ.isDeclaration_token (rest · bindings) tokens
    | returning =>
      have spelled := σ.spells_token (σ.map_patternWord (by decide : "return" ∈ patternWords))
      exact σ.optional_tokens spelled (rest · bindings) tokens
    | index =>
      simp only [matchTokens, Option.orElse_eq_orElse, Option.orElse_eq_or, Option.map_or]
      congr 1
      · match tokens with
        | [] | [_] | [_, _] | [_, _, _] | [_, _, _, _] => rfl
        | index :: percent :: array :: dot :: length :: tokens =>
          simp only [tokens_cons, isRemainder_tokens, binding_modular, binding_update, rest]
          split <;> rfl
      · cases tokens with
        | nil => rfl
        | cons index tokens =>
          simp only [tokens_cons, isParam_token, binding_modular, binding_update, rest]
          split <;> rfl
    | temp =>
      cases tokens with
      | nil => rfl
      | cons token tokens =>
        simp only [tokens_cons, matchTokens, bindTemp?_token]
        cases bindTemp? params token bindings with
        | none => rfl
        | some bound => simp [rest]
    | param position =>
      cases tokens with
      | nil => rfl
      | cons token tokens =>
        simp only [tokens_cons, matchTokens, isParam_token, rest]
        split <;> rfl
    | punct text =>
      cases tokens with
      | nil => rfl
      | cons token tokens =>
        simp only [tokens_cons, matchTokens, isMark_token, rest]
        split <;> rfl
    | word text =>
      cases tokens with
      | nil => rfl
      | cons token tokens =>
        simp only [tokens_cons, matchTokens, σ.spells_token (kept text (by simp)), rest]
        split <;> rfl
    | number text =>
      cases tokens with
      | nil => rfl
      | cons token tokens =>
        simp only [tokens_cons, matchTokens, isNumber_token, rest]
        split <;> rfl

theorem matchStatements_tokens (params : List String) (form : List (List Pattern))
    (kept : ∀ patterns ∈ form, ∀ word, Pattern.word word ∈ patterns → σ.map word = word) :
    ∀ statements bindings,
      matchStatements (params.map σ.map) form (statements.map σ.tokens) (σ.binding bindings) =
        (matchStatements params form statements bindings).map σ.binding := by
  induction form with
  | nil =>
    intro statements bindings
    cases statements <;> rfl
  | cons patterns form ih =>
    have rest := ih fun patterns member => kept patterns (List.mem_cons_of_mem _ member)
    intro statements bindings
    cases statements with
    | nil => rfl
    | cons statement statements =>
      have first := σ.matchTokens_tokens params patterns (kept patterns (by simp)) statement
      simp only [List.map_cons, matchStatements, first]
      cases matchTokens params patterns statement bindings with
      | none => rfl
      | some bound => simp [rest]

theorem forms_words (kind : Operation.Kind) :
    ∀ form ∈ (Shape.ofKind kind).forms, ∀ patterns ∈ form, ∀ pattern ∈ patterns,
      ∀ word, pattern = Pattern.word word → word ∈ patternWords := by
  cases kind <;> simp [Shape.ofKind, forms, swap, reverse, removeAt, patternWords]

theorem accepts_definition (kind : Operation.Kind) (function : Definition) :
    (Shape.ofKind kind).accepts (σ.definition function) =
      (Shape.ofKind kind).accepts function := by
  have same : ∀ form ∈ (Shape.ofKind kind).forms,
      (matchStatements (σ.definition function).params form
          (statements (σ.definition function).body) .none).isSome =
        (matchStatements function.params form (statements function.body) .none).isSome := by
    intro form member
    have kept : ∀ patterns ∈ form, ∀ word, Pattern.word word ∈ patterns → σ.map word = word :=
      fun patterns inForm word inPatterns =>
        σ.map_patternWord (forms_words kind form member patterns inForm _ inPatterns word rfl)
    have renamed := σ.matchStatements_tokens function.params form kept
      (statements function.body) .none
    simp only [definition, statements_tokens]
    rw [show Binding.none = σ.binding .none from rfl, renamed, Option.isSome_map]
    rfl
  unfold accepts
  congr 1
  · simp [definition]
  · rw [Bool.eq_iff_iff, List.any_eq_true, List.any_eq_true]
    apply exists_congr
    intro form
    apply and_congr_right
    intro member
    rw [same form member]

theorem candidates_definitions (kind : Operation.Kind) (functions : List Definition) :
    Helper.candidates kind (functions.map σ.definition) =
      (Helper.candidates kind functions).map σ.map := by
  unfold Helper.candidates
  rw [← distinct_map, List.filter_map, List.filterMap_map, List.map_filterMap]
  have accepted : (Shape.ofKind kind).accepts ∘ σ.definition = (Shape.ofKind kind).accepts :=
    funext (σ.accepts_definition kind)
  rw [accepted]
  rfl

theorem nameFor_definitions (kind : Operation.Kind) (functions : List Definition) :
    Helper.nameFor kind (functions.map σ.definition) =
      ((Helper.nameFor kind functions).map σ.map).mapError σ.classifyError := by
  unfold Helper.nameFor
  rw [candidates_definitions]
  match Helper.candidates kind functions with
  | [] | [_] | _ :: _ :: _ => rfl

theorem classify_definitions (functions : List Definition) :
    Helper.classify (functions.map σ.definition) = σ.classified (Helper.classify functions) := by
  unfold Helper.classify
  simp only [nameFor_definitions]
  cases Helper.nameFor .swap functions with
  | error cause => rfl
  | ok swap =>
    cases Helper.nameFor .reverse functions with
    | error cause => rfl
    | ok reverse =>
      cases Helper.nameFor .removeAt functions with
      | error cause => rfl
      | ok removeAt => exact σ.ofParts_map swap reverse removeAt

end Relabelling

namespace Renaming

variable (ρ : Renaming)

theorem classify_definitions (functions : List Definition) :
    Helper.classify (functions.map ρ.inPlace.definition) =
      ρ.classified (Helper.classify functions) :=
  ρ.inPlace.classify_definitions functions

end Renaming

end PlayerCipher
