import PlayerCipher.Helper.Classify
import PlayerCipher.Proofs.Checked.Definition

/-! Checked classification.
A statement is matched by taking slices off its front, and the statement behind a body is read by
its place. No body leads to a fault, and the helpers come out as they are. -/

namespace PlayerCipher

namespace Checked

open Shape (Pattern Binding)

def remainder : List Pattern :=
  [.param 1, .punct "%", .param 0, .punct ".", .word "length"]

/-- Matches one token; optional words and indexes take more than one. -/
def matchToken (params : List String) (token : Token) (bindings : Binding) :
    Pattern → Option Binding
  | .param position => if Shape.isParam params position token then some bindings else none
  | .temp => Shape.bindTemp? params token bindings
  | .punct text => if token.isMark text then some bindings else none
  | .word text => if token.spells text then some bindings else none
  | .number text => if token.kind == .number && token.text == text then some bindings else none
  | .index | .declaration | .returning => none

def matchRun (params : List String) : List Pattern → List Token → Binding → Option Binding
  | [], tokens, bindings => if tokens.isEmpty then some bindings else none
  | _ :: _, [], _ => none
  | pattern :: patterns, token :: tokens, bindings =>
    (matchToken params token bindings pattern).bind (matchRun params patterns tokens)

def isOptional (pattern : Pattern) (token : Token) : Bool :=
  match pattern with
  | .declaration => Shape.isDeclaration token
  | _ => token.spells "return"

section

variable (params : List String) (pattern : Pattern)
  (next : List Token → Binding → Checked (Option Binding))

def matchSingle (tokens : List Token) (bindings : Binding) : Checked (Option Binding) :=
  match tokens with
  | [] => .ok none
  | first :: tail =>
    match matchToken params first bindings pattern with
    | some bindings => next tail bindings
    | none => .ok none

def matchOptional (tokens : List Token) (bindings : Binding) : Checked (Option Binding) := do
  if tokens.head?.any (isOptional pattern) then
    let rest ← slice tokens 1 tokens.length
    match ← next rest bindings with
    | some found => return some found
    | none => next tokens bindings
  else next tokens bindings

/-- The longer form of an index, if it may stand here. -/
def matchModular (tokens : List Token) (bindings : Binding) : Checked (Option Binding) := do
  if bindings.modular ≠ some false ∧ remainder.length ≤ tokens.length then
    let head ← slice tokens 0 remainder.length
    let tail ← slice tokens remainder.length tokens.length
    let some bindings := matchRun params remainder head bindings | return none
    next tail { bindings with modular := some true }
  else return none

def matchIndex (tokens : List Token) (bindings : Binding) : Checked (Option Binding) := do
  match ← matchModular params next tokens bindings with
  | some found => return some found
  | none =>
    if bindings.modular ≠ some true then
      matchSingle params (.param 1)
        (fun tail bindings => next tail { bindings with modular := some false }) tokens bindings
    else return none

end

def matchTokens (params : List String) :
    List Pattern → List Token → Binding → Checked (Option Binding)
  | [], tokens, bindings => return if tokens.isEmpty then some bindings else none
  | pattern :: patterns, tokens, bindings =>
    match pattern with
    | .declaration | .returning =>
      matchOptional pattern (matchTokens params patterns) tokens bindings
    | .index => matchIndex params (matchTokens params patterns) tokens bindings
    | _ => matchSingle params pattern (matchTokens params patterns) tokens bindings

/-- Matches statements one by one, as far as there are both patterns and statements. -/
def matchStatements (params : List String) :
    List (List Pattern) → List (List Token) → Binding → Checked (Option Binding)
  | pattern :: patterns, statement :: statements, bindings => do
    let some bindings ← matchTokens params pattern statement bindings | return none
    matchStatements params patterns statements bindings
  | _, _, bindings => return some bindings

def matchEpilogue (params : List String) (body : List (List Pattern)) (last : List Pattern)
    (found : List (List Token)) : Checked Bool := do
  let some bindings ← matchStatements params body found .none | return false
  let statement ← get found (← sub found.length 1)
  let bindings ← matchTokens params last statement bindings
  return bindings.isSome

def accepts (shape : Shape) (function : Definition) : Checked Bool := do
  if function.params.length < shape.minParams then return false
  else
    let found ← statements function.body
    if found.length = shape.body.length then
      let bindings ← matchStatements function.params shape.body found .none
      return bindings.isSome
    else if found.length = shape.body.length + 1 then
      match shape.epilogue with
      | none => return false
      | some last => matchEpilogue function.params shape.body last found
    else return false

def candidates (kind : Operation.Kind) (functions : List Definition) : Checked (List String) := do
  let matching ← filter (accepts (Shape.ofKind kind)) functions
  return Helper.distinct (matching.filterMap Definition.name)

def nameFor (kind : Operation.Kind) (functions : List Definition) :
    Checked (Except ClassifyError String) := do
  let names ← candidates kind functions
  return Helper.onlyName kind names

def classify (functions : List Definition) : Checked (Except ClassifyError HelperNames) := do
  match ← nameFor .swap functions with
  | .error error => return .error error
  | .ok swap =>
    match ← nameFor .reverse functions with
    | .error error => return .error error
    | .ok reverse =>
      match ← nameFor .removeAt functions with
      | .error error => return .error error
      | .ok removeAt => return HelperNames.ofParts swap reverse removeAt

theorem matchRun_remainder {params : List String} {bindings : Binding}
    {index percent array dot length : Token} :
    matchRun params remainder [index, percent, array, dot, length] bindings =
      if Shape.isRemainder params index percent array dot length then some bindings else none := by
  simp only [matchRun, remainder, matchToken, Shape.isRemainder, Bool.and_eq_true]
  by_cases first : Shape.isParam params 1 index = true
  · by_cases second : percent.isMark "%" = true
    · by_cases third : Shape.isParam params 0 array = true
      · by_cases fourth : dot.isMark "." = true
        · by_cases fifth : length.spells "length" = true
          · simp [first, second, third, fourth, fifth]
          · simp [first, second, third, fourth, fifth]
        · simp [first, second, third, fourth]
      · simp [first, second, third]
    · simp [first, second]
  · simp [first]

section

variable {params : List String} {pattern : Pattern}
  {next : List Token → Binding → Checked (Option Binding)}
  {next' : List Token → Binding → Option Binding}
  (same : ∀ tokens bindings, next tokens bindings = .ok (next' tokens bindings))
  {tokens : List Token} {token : Token} {bindings : Binding}

include same

theorem matchSingle_ok :
    matchSingle params pattern next (token :: tokens) bindings =
      .ok ((matchToken params token bindings pattern).bind (next' tokens)) := by
  unfold matchSingle
  dsimp only
  cases matchToken params token bindings pattern with
  | none => rfl
  | some bindings => exact same _ _

theorem matchOptional_ok :
    matchOptional pattern next tokens bindings =
      .ok ((match tokens with
        | token :: rest => if isOptional pattern token then next' rest bindings else none
        | [] => none) <|> next' tokens bindings) := by
  unfold matchOptional
  cases tokens with
  | nil => exact same _ _
  | cons token tokens =>
    rw [List.head?_cons, Option.any_some]
    dsimp only
    split_ifs
    · have rest : slice (token :: tokens) 1 (token :: tokens).length = .ok tokens :=
        @slice_ok _ _ [token] tokens [] (by simp) _ _ rfl (by simp; omega)
      rw [rest, ok_bind, same, ok_bind]
      cases next' tokens bindings with
      | none => exact same _ _
      | some found => rfl
    · exact same _ _

theorem matchModular_ok :
    matchModular params next tokens bindings =
      .ok (match tokens with
        | index :: percent :: array :: dot :: length :: rest =>
          if bindings.modular ≠ some false ∧
              Shape.isRemainder params index percent array dot length = true then
            next' rest { bindings with modular := some true }
          else none
        | _ => none) := by
  unfold matchModular
  match tokens with
  | index :: percent :: array :: dot :: length :: rest =>
    have five : remainder.length ≤ (index :: percent :: array :: dot :: length :: rest).length := by
      simp [remainder]
    have head : slice (index :: percent :: array :: dot :: length :: rest) 0 remainder.length =
        .ok [index, percent, array, dot, length] :=
      @slice_ok _ _ [] [index, percent, array, dot, length] rest rfl _ _ rfl rfl
    have tail : slice (index :: percent :: array :: dot :: length :: rest) remainder.length
        (index :: percent :: array :: dot :: length :: rest).length = .ok rest :=
      @slice_ok _ _ [index, percent, array, dot, length] rest [] (by simp) _ _ rfl
        (by simp; omega)
    dsimp only
    by_cases free : bindings.modular ≠ some false
    · rw [if_pos ⟨free, five⟩, head, ok_bind, tail, ok_bind, matchRun_remainder]
      by_cases form : Shape.isRemainder params index percent array dot length = true
      · rw [if_pos form, if_pos ⟨free, form⟩]
        exact same rest { bindings with modular := some true }
      · rw [if_neg form, if_neg fun both => form both.2]
        rfl
    · rw [if_neg fun both => free both.1, if_neg fun both => free both.1]
      rfl
  | [] => exact if_neg fun both => absurd both.2 (by simp [remainder])
  | [_] => exact if_neg fun both => absurd both.2 (by simp [remainder])
  | [_, _] => exact if_neg fun both => absurd both.2 (by simp [remainder])
  | [_, _, _] => exact if_neg fun both => absurd both.2 (by simp [remainder])
  | [_, _, _, _] => exact if_neg fun both => absurd both.2 (by simp [remainder])

theorem matchPlain_ok :
    matchSingle params (.param 1)
        (fun tail bindings => next tail { bindings with modular := some false }) tokens bindings =
      .ok (match tokens with
        | index :: rest =>
          if Shape.isParam params 1 index = true then
            next' rest { bindings with modular := some false }
          else none
        | [] => none) := by
  cases tokens with
  | nil => rfl
  | cons index rest =>
    simp only [matchSingle, matchToken]
    by_cases plain : Shape.isParam params 1 index = true
    · rw [if_pos plain, if_pos plain]
      exact same _ _
    · rw [if_neg plain, if_neg plain]

theorem matchIndex_ok :
    matchIndex params next tokens bindings =
      .ok ((match tokens with
        | index :: percent :: array :: dot :: length :: rest =>
          if bindings.modular ≠ some false ∧
              Shape.isRemainder params index percent array dot length = true then
            next' rest { bindings with modular := some true }
          else none
        | _ => none) <|>
      (match tokens with
        | index :: rest =>
          if bindings.modular ≠ some true ∧ Shape.isParam params 1 index = true then
            next' rest { bindings with modular := some false }
          else none
        | [] => none)) := by
  rw [matchIndex, matchModular_ok same, ok_bind, matchPlain_ok same]
  generalize (match tokens with
    | index :: percent :: array :: dot :: length :: rest =>
      if bindings.modular ≠ some false ∧
          Shape.isRemainder params index percent array dot length = true then
        next' rest { bindings with modular := some true }
      else none
    | _ => none) = long
  cases long with
  | some found => rfl
  | none =>
    dsimp only
    by_cases free : bindings.modular ≠ some true
    · rw [if_pos free]
      cases tokens with
      | nil => rfl
      | cons index rest =>
        by_cases plain : Shape.isParam params 1 index = true
        · simp [free, plain]
        · simp [plain]
    · rw [if_neg free]
      cases tokens with
      | nil => rfl
      | cons index rest =>
        simp only [free, false_and]
        rfl

end

theorem matchTokens_ok (params : List String) (patterns : List Pattern) :
    ∀ tokens bindings, matchTokens params patterns tokens bindings =
      .ok (Shape.matchTokens params patterns tokens bindings) := by
  induction patterns with
  | nil =>
    intro tokens bindings
    rfl
  | cons pattern patterns ih =>
    intro tokens bindings
    cases pattern with
    | declaration => exact matchOptional_ok ih
    | returning => exact matchOptional_ok ih
    | index => exact matchIndex_ok ih
    | temp =>
      cases tokens with
      | nil => rfl
      | cons token tokens => exact matchSingle_ok ih
    | _ =>
      cases tokens with
      | nil => rfl
      | cons token tokens =>
        refine (matchSingle_ok ih).trans ?_
        simp only [Shape.matchTokens, matchToken]
        split_ifs <;> rfl

theorem matchStatements_ok (params : List String) (patterns : List (List Pattern)) :
    ∀ statements bindings, patterns.length ≤ statements.length →
      matchStatements params patterns statements bindings =
        .ok (Shape.matchStatements params patterns (statements.take patterns.length) bindings) := by
  induction patterns with
  | nil =>
    intro statements bindings _
    rw [List.length_nil, List.take_zero]
    rfl
  | cons pattern patterns ih =>
    intro statements bindings enough
    cases statements with
    | nil => exact absurd enough (Nat.not_succ_le_zero _)
    | cons statement statements =>
      rw [matchStatements, matchTokens_ok, ok_bind, List.length_cons, List.take_succ_cons,
        Shape.matchStatements]
      cases Shape.matchTokens params pattern statement bindings with
      | none => rfl
      | some bindings => exact ih _ _ (Nat.le_of_succ_le_succ enough)

theorem matchStatements_none (params : List String) (patterns : List (List Pattern)) :
    ∀ statements bindings, statements.length ≠ patterns.length →
      Shape.matchStatements params patterns statements bindings = none := by
  induction patterns with
  | nil =>
    intro statements bindings differ
    cases statements with
    | nil => exact absurd rfl differ
    | cons statement statements => rfl
  | cons pattern patterns ih =>
    intro statements bindings differ
    cases statements with
    | nil => rfl
    | cons statement statements =>
      have shorter : statements.length ≠ patterns.length := by
        intro same
        exact differ (congrArg (· + 1) same)
      rw [Shape.matchStatements]
      cases Shape.matchTokens params pattern statement bindings with
      | none => rfl
      | some bindings => exact ih _ _ shorter

theorem matchStatements_append (params : List String) (last : List Pattern) (behind : List Token)
    (patterns : List (List Pattern)) :
    ∀ statements bindings, statements.length = patterns.length →
      Shape.matchStatements params (patterns ++ [last]) (statements ++ [behind]) bindings =
        (Shape.matchStatements params patterns statements bindings).bind
          (Shape.matchTokens params last behind) := by
  induction patterns with
  | nil =>
    intro statements bindings same
    rw [List.eq_nil_of_length_eq_zero same]
    exact Option.bind_fun_some _
  | cons pattern patterns ih =>
    intro statements bindings same
    cases statements with
    | nil => cases same
    | cons statement statements =>
      rw [List.cons_append, List.cons_append, Shape.matchStatements, Shape.matchStatements]
      cases Shape.matchTokens params pattern statement bindings with
      | none => rfl
      | some bindings => exact ih _ _ (Nat.succ.inj same)

theorem matchEpilogue_ok {params : List String} {body : List (List Pattern)} {last : List Pattern}
    {found : List (List Token)} (length : found.length = body.length + 1) :
    matchEpilogue params body last found =
      .ok (Shape.matchStatements params (body ++ [last]) found .none).isSome := by
  have some : found ≠ [] := by
    intro empty
    rw [empty] at length
    cases length
  obtain ⟨before, statement, rfl⟩ : ∃ before statement, found = before ++ [statement] :=
    ⟨_, _, (List.dropLast_append_getLast some).symm⟩
  have same : before.length = body.length := by
    rw [List.length_append] at length
    exact Nat.succ.inj length
  have back : sub (before ++ [statement]).length 1 = .ok before.length :=
    sub_ok (List.length_append ..)
  have found : get (before ++ [statement]) before.length = .ok statement := by
    apply get_ok
    simp
  have front : (before ++ [statement]).take body.length = before := by
    rw [← same, List.take_left]
  rw [matchEpilogue, matchStatements_ok _ _ _ _ (by rw [length]; exact Nat.le_succ _), front,
    ok_bind, matchStatements_append _ _ _ _ _ _ same]
  cases Shape.matchStatements params body before .none with
  | none => rfl
  | some bindings =>
    simp only [back, ok_bind, found, matchTokens_ok]
    rfl

theorem accepts_ok (shape : Shape) (function : Definition) :
    accepts shape function = .ok (shape.accepts function) := by
  rw [accepts, Shape.accepts, Shape.forms, statements_ok, ok_bind]
  generalize PlayerCipher.statements function.body = found
  split_ifs with few exact more
  · have short : decide (shape.minParams ≤ function.params.length) = false :=
      decide_eq_false (Nat.not_le.2 few)
    rw [short]
    rfl
  · have enough : decide (shape.minParams ≤ function.params.length) = true :=
      decide_eq_true (Nat.not_lt.1 few)
    have whole : found.take shape.body.length = found := by
      rw [← exact, List.take_length]
    rw [enough, matchStatements_ok _ _ _ _ (Nat.le_of_eq exact.symm), whole, ok_bind]
    cases shape.epilogue with
    | none => simp
    | some last =>
      have longer := matchStatements_none function.params (shape.body ++ [last]) found .none
        (by rw [exact, List.length_append]; exact Nat.ne_of_lt (Nat.lt_succ_self _))
      simp [longer]
  · have enough : decide (shape.minParams ≤ function.params.length) = true :=
      decide_eq_true (Nat.not_lt.1 few)
    have plain := matchStatements_none function.params shape.body found .none exact
    rw [enough]
    cases shape.epilogue with
    | none => simp [plain]
    | some last => simp [plain, matchEpilogue_ok more]
  · have plain := matchStatements_none function.params shape.body found .none exact
    cases shape.epilogue with
    | none => simp [plain]
    | some last =>
      have longer := matchStatements_none function.params (shape.body ++ [last]) found .none
        (by rwa [List.length_append])
      simp [plain, longer]

theorem nameFor_ok (kind : Operation.Kind) (functions : List Definition) :
    nameFor kind functions = .ok (Helper.nameFor kind functions) := by
  rw [nameFor, candidates, filter_ok (accepts_ok _)]
  rfl

theorem classify_ok (functions : List Definition) :
    classify functions = .ok (Helper.classify functions) := by
  rw [classify, Helper.classify]
  simp only [nameFor_ok, ok_bind]
  cases Helper.nameFor .swap functions with
  | error => rfl
  | ok swap =>
    cases Helper.nameFor .reverse functions with
    | error => rfl
    | ok reverse =>
      cases Helper.nameFor .removeAt functions with
      | error => rfl
      | ok removeAt => rfl

end Checked

end PlayerCipher
