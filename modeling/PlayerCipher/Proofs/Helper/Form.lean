import PlayerCipher.Proofs.Helper.Derivation
import PlayerCipher.Proofs.Script.Balance

/-! Forms of accepted bodies.
Inverting the derivation of a body gives its tokens: a method call on the array for a reversal
and a removal, three assignments for a swap. Brackets, operators and indexes are named here
once, together with what they are not. -/

namespace PlayerCipher

namespace Body

open Shape

theorem isParam_kind {params : List String} {position : Nat} {token : Token}
    (taken : isParam params position token = true) : token.kind = .ident := by
  simp only [isParam, Bool.and_eq_true, beq_iff_eq] at taken
  exact taken.1

theorem isParam_not_mark {params : List String} {position : Nat} {token : Token}
    (taken : isParam params position token = true) (text : String) :
    token.isMark text = false :=
  Token.isMark_of_kind (by simp [isParam_kind taken]) text

theorem isIndex_not_mark {params : List String} {modular : Bool} {index : List Token}
    (form : IsIndex params modular index) {text : String} (notPercent : "%" ≠ text)
    (notDot : "." ≠ text) : ∀ token ∈ index, token.isMark text = false := by
  cases form with
  | plain taken => simp [isParam_not_mark taken]
  | remainder taken =>
    simp only [isRemainder, Bool.and_eq_true] at taken
    obtain ⟨⟨⟨⟨index, percent⟩, array⟩, dot⟩, length⟩ := taken
    have word := (Token.spells_iff.1 length).1
    simp [isParam_not_mark index, isParam_not_mark array, Token.isMark_of_ne percent notPercent,
      Token.isMark_of_ne dot notDot, Token.isMark_of_kind, word]

theorem spells_not_mark {token : Token} {word : String} (spelled : token.spells word = true)
    (text : String) : token.isMark text = false :=
  Token.isMark_of_kind (by simp [(Token.spells_iff.1 spelled).1]) text

inductive IsEntry (params : List String) (index : List Token) : List Token → Prop where
  | access {array opener closer : Token} (isArray : isParam params 0 array = true)
      (opens : opener.isMark "[" = true) (closes : closer.isMark "]" = true) :
      IsEntry params index (array :: opener :: (index ++ [closer]))

def IsZero (token : Token) : Prop :=
  token.kind = .number ∧ token.text = "0"

theorem isEntry_not_equals {params : List String} {index tokens : List Token}
    (entry : IsEntry params index tokens) (free : ∀ token ∈ index, token.isMark "=" = false) :
    ∀ token ∈ tokens, token.isMark "=" = false := by
  cases entry with
  | access isArray opens closes =>
    intro token member
    simp only [List.mem_cons, List.mem_append, List.not_mem_nil, or_false] at member
    rcases member with rfl | rfl | member | rfl
    · exact isParam_not_mark isArray "="
    · exact Token.isMark_of_ne opens (by decide)
    · exact free token member
    · exact Token.isMark_of_ne closes (by decide)

theorem isZero_not_equals {zero : Token} (isZero : IsZero zero) :
    ∀ token ∈ [zero], token.isMark "=" = false := by
  intro token member
  rw [List.mem_singleton.1 member]
  exact Token.isMark_of_kind (by simp [isZero.1]) "="

inductive IsReversal (params : List String) : List Token → Prop where
  | call {array dot method opener closer : Token} (isArray : isParam params 0 array = true)
      (isDot : dot.isMark "." = true) (isMethod : method.spells "reverse" = true)
      (opens : opener.isMark "(" = true) (closes : closer.isMark ")" = true) :
      IsReversal params [array, dot, method, opener, closer]

inductive IsRemoval (params : List String) (modular : Bool) : List Token → Prop where
  | call {array dot method opener comma count closer : Token} {index : List Token}
      (isArray : isParam params 0 array = true) (isDot : dot.isMark "." = true)
      (isMethod : method.spells "splice" = true) (opens : opener.isMark "(" = true)
      (form : IsIndex params modular index) (isComma : comma.isMark "," = true)
      (countKind : count.kind = .number) (countText : count.text = "1")
      (closes : closer.isMark ")" = true) :
      IsRemoval params modular
        (array :: dot :: method :: opener :: (index ++ [comma, count, closer]))

/-- What the two calls share: they begin with the array, and assign nothing. -/
structure IsMethodCall (call : List Token) : Prop where
  starts : ∃ array dot rest, call = array :: dot :: rest ∧ array.isMark "." = false ∧
    dot.isMark "." = true
  free : ∀ token ∈ call, token.isMark "=" = false

theorem isMethodCall_of_reversal {params : List String} {call : List Token}
    (form : IsReversal params call) :
    IsMethodCall call := by
  cases form with
  | call isArray isDot isMethod opens closes =>
    refine ⟨⟨_, _, _, rfl, isParam_not_mark isArray ".", isDot⟩, ?_⟩
    have dot : Token.isMark _ "=" = false := Token.isMark_of_ne isDot (by decide)
    have opener : Token.isMark _ "=" = false := Token.isMark_of_ne opens (by decide)
    have closer : Token.isMark _ "=" = false := Token.isMark_of_ne closes (by decide)
    simp [isParam_not_mark isArray, dot, spells_not_mark isMethod, opener, closer]

theorem isMethodCall_of_removal {params : List String} {modular : Bool} {call : List Token}
    (form : IsRemoval params modular call) :
    IsMethodCall call := by
  cases form with
  | call isArray isDot isMethod opens form isComma countKind countText closes =>
    refine ⟨⟨_, _, _, rfl, isParam_not_mark isArray ".", isDot⟩, ?_⟩
    have inside := isIndex_not_mark form (by decide : "%" ≠ "=") (by decide)
    intro token member
    simp only [List.mem_cons, List.mem_append, List.not_mem_nil, or_false] at member
    rcases member with rfl | rfl | rfl | rfl | member | rfl | rfl | rfl
    · exact isParam_not_mark isArray "="
    · exact Token.isMark_of_ne isDot (by decide)
    · exact spells_not_mark isMethod "="
    · exact Token.isMark_of_ne opens (by decide)
    · exact inside token member
    · exact Token.isMark_of_ne isComma (by decide)
    · exact Token.isMark_of_kind (by simp [countKind]) "="
    · exact Token.isMark_of_ne closes (by decide)

theorem reversal_of_derives {params : List String} {tokens : List Token}
    {before after : Binding}
    (derived : Derives params
      [.param 0, .punct ".", .word "reverse", .punct "(", .punct ")"] tokens before after) :
    IsReversal params tokens := by
  simp only [derives_param, derives_punct, derives_word, derives_done] at derived
  obtain ⟨array, _, rfl, isArray, dot, _, rfl, isDot, method, _, rfl, isMethod, opener, _, rfl,
    opens, closer, _, rfl, closes, rfl, _⟩ := derived
  exact .call isArray isDot isMethod opens closes

theorem removal_of_derives {params : List String} {tokens : List Token}
    {before after : Binding}
    (derived : Derives params
      [.param 0, .punct ".", .word "splice", .punct "(", .index, .punct ",", .number "1",
        .punct ")"] tokens before after) :
    ∃ modular, IsRemoval params modular tokens := by
  simp only [derives_param, derives_punct, derives_word, derives_index, derives_number,
    derives_done] at derived
  obtain ⟨array, _, rfl, isArray, dot, _, rfl, isDot, method, _, rfl, isMethod, opener, _, rfl,
    opens, modular, index, _, rfl, form, _, comma, _, rfl, isComma, count, _, rfl,
    ⟨countKind, countText⟩, closer, _, rfl, closes, rfl, _⟩ := derived
  exact ⟨modular, .call isArray isDot isMethod opens form isComma countKind countText closes⟩

/-- `t=a[0]`, perhaps with a word of declaration before it -/
structure Keeps (params : List String) (statement : List Token) (name : Token) : Prop where
  parts : ∃ target equals source zero, statement = target ++ equals :: source ∧
    (target = [name] ∨ ∃ word, target = [word, name] ∧ isDeclaration word = true) ∧
    equals.isMark "=" = true ∧ IsZero zero ∧ IsEntry params [zero] source
  isIdentifier : name.isIdentifier = true
  fresh : name.text ∉ params

/-- `a[0]=a[i]` -/
def Moves (params : List String) (modular : Bool) (statement : List Token) : Prop :=
  ∃ target equals source zero index, statement = target ++ equals :: source ∧
    IsZero zero ∧ IsEntry params [zero] target ∧ equals.isMark "=" = true ∧
    IsIndex params modular index ∧ IsEntry params index source

/-- `a[i]=t` -/
def Restores (params : List String) (modular : Bool) (name : String)
    (statement : List Token) : Prop :=
  ∃ target equals source index, statement = target ++ [equals, source] ∧
    IsIndex params modular index ∧ IsEntry params index target ∧
    equals.isMark "=" = true ∧ source.isIdentifier = true ∧ source.text = name

def Returns (params : List String) (statement : List Token) : Prop :=
  ∃ word array, statement = [word, array] ∧ word.spells "return" = true ∧
    isParam params 0 array = true

theorem bindTemp?_eq_some {params : List String} {token : Token} {before after : Binding}
    (bound : bindTemp? params token before = some after) :
    token.isIdentifier = true ∧ token.text ∉ params ∧
      (before.temp = none ∨ before.temp = some token.text) ∧
      after = { before with temp := some token.text } := by
  unfold bindTemp? at bound
  split at bound
  · rename_i admitted
    simp only [Bool.and_eq_true, Bool.not_eq_true', List.contains_eq_mem,
      decide_eq_false_iff_not] at admitted
    refine ⟨admitted.1, admitted.2, ?_⟩
    cases temp : before.temp with
    | none =>
      simp only [temp, Option.some.injEq] at bound
      exact ⟨.inl rfl, bound.symm⟩
    | some name =>
      simp only [temp, Option.ite_none_right_eq_some, Option.some.injEq] at bound
      obtain ⟨same, rfl⟩ := bound
      refine ⟨.inr (by rw [same]), ?_⟩
      rw [← same, ← temp]
  · cases bound

theorem keeps_of_derives {params : List String} {statement : List Token} {after : Binding}
    (derived : Derives params
      [.declaration, .temp, .punct "=", .param 0, .punct "[", .number "0", .punct "]"]
      statement .none after) :
    ∃ name, Keeps params statement name ∧ after = ⟨some name.text, none⟩ := by
  have tail : ∀ {tokens : List Token}, Derives params
      [.temp, .punct "=", .param 0, .punct "[", .number "0", .punct "]"] tokens .none after →
        ∃ name equals source zero, tokens = name :: equals :: source ∧
          equals.isMark "=" = true ∧ IsZero zero ∧ IsEntry params [zero] source ∧
          name.isIdentifier = true ∧ name.text ∉ params ∧ after = ⟨some name.text, none⟩ := by
    intro tokens derived
    simp only [derives_param, derives_punct, derives_temp, derives_number, derives_done]
      at derived
    obtain ⟨name, _, bound, rfl, taken, equals, _, rfl, isEquals, array, _, rfl, isArray,
      opener, _, rfl, opens, zero, _, rfl, isZero, closer, _, rfl, closes, rfl, rfl⟩ := derived
    obtain ⟨identifier, fresh, _, rfl⟩ := bindTemp?_eq_some taken
    exact ⟨name, equals, _, zero, rfl, isEquals, isZero, .access isArray opens closes,
      identifier, fresh, rfl⟩
  rcases derives_declaration.1 derived with ⟨word, rest, rfl, declares, derived⟩ | derived
  · obtain ⟨name, equals, source, zero, rfl, isEquals, isZero, entry, identifier, fresh, same⟩ :=
      tail derived
    exact ⟨name, ⟨⟨[word, name], equals, source, zero, rfl, .inr ⟨word, rfl, declares⟩, isEquals,
      isZero, entry⟩, identifier, fresh⟩, same⟩
  · obtain ⟨name, equals, source, zero, rfl, isEquals, isZero, entry, identifier, fresh, same⟩ :=
      tail derived
    exact ⟨name, ⟨⟨[name], equals, source, zero, rfl, .inl rfl, isEquals, isZero, entry⟩,
      identifier, fresh⟩, same⟩

theorem moves_of_derives {params : List String} {statement : List Token} {temp : Option String}
    {after : Binding}
    (derived : Derives params
      [.param 0, .punct "[", .number "0", .punct "]", .punct "=", .param 0, .punct "[", .index,
        .punct "]"] statement ⟨temp, none⟩ after) :
    ∃ modular, Moves params modular statement ∧ after = ⟨temp, some modular⟩ := by
  simp only [derives_param, derives_punct, derives_index, derives_number, derives_done]
    at derived
  obtain ⟨array, _, rfl, isArray, opener, _, rfl, opens, zero, _, rfl, isZero, closer, _, rfl,
    closes, equals, _, rfl, isEquals, array', _, rfl, isArray', opener', _, rfl, opens', modular,
    index, _, rfl, form, _, closer', _, rfl, closes', rfl, rfl⟩ := derived
  exact ⟨modular, ⟨[array, opener, zero, closer], equals, _, zero, index, rfl, isZero,
    .access isArray opens closes, isEquals, form, .access isArray' opens' closes'⟩, rfl⟩

theorem restores_of_derives {params : List String} {statement : List Token} {name : String}
    {modular : Bool} {after : Binding}
    (derived : Derives params
      [.param 0, .punct "[", .index, .punct "]", .punct "=", .temp] statement
      ⟨some name, some modular⟩ after) :
    Restores params modular name statement := by
  simp only [derives_param, derives_punct, derives_index, derives_temp, derives_done]
    at derived
  obtain ⟨array, _, rfl, isArray, opener, _, rfl, opens, modular', index, _, rfl, form, fixed,
    closer, _, rfl, closes, equals, _, rfl, isEquals, source, _, bound, rfl, taken, rfl, _⟩ :=
    derived
  obtain ⟨identifier, _, same, _⟩ := bindTemp?_eq_some taken
  have sameForm : modular' = modular := by
    cases modular' <;> cases modular <;> simp_all
  subst sameForm
  refine ⟨array :: opener :: (index ++ [closer]), equals, source, index, by simp, form,
    .access isArray opens closes, isEquals, identifier, ?_⟩
  simpa [eq_comm] using same

theorem reversal_of_accepts {function : Definition}
    (accepted : Shape.reverse.accepts function = true) :
    ∃ call, IsReversal function.params call ∧
      (statements function.body = [call] ∨
        ∃ word, statements function.body = [word :: call] ∧ word.spells "return" = true) := by
  obtain ⟨_, form, member, after, derived⟩ := derivesAll_of_accepts accepted
  simp only [forms, Shape.reverse, List.mem_singleton] at member
  subst member
  simp only [derivesAll_next, derivesAll_done] at derived
  obtain ⟨statement, _, _, split, derived, rfl, _⟩ := derived
  rcases derives_returning.1 derived with ⟨word, call, rfl, returns, derived⟩ | derived
  · exact ⟨call, reversal_of_derives derived, .inr ⟨word, split, returns⟩⟩
  · exact ⟨statement, reversal_of_derives derived, .inl split⟩

theorem removal_of_accepts {function : Definition}
    (accepted : Shape.removeAt.accepts function = true) :
    ∃ modular call, IsRemoval function.params modular call ∧
      (statements function.body = [call] ∨
        ∃ word, statements function.body = [word :: call] ∧ word.spells "return" = true) := by
  obtain ⟨_, form, member, after, derived⟩ := derivesAll_of_accepts accepted
  simp only [forms, Shape.removeAt, List.mem_singleton] at member
  subst member
  simp only [derivesAll_next, derivesAll_done] at derived
  obtain ⟨statement, _, _, split, derived, rfl, _⟩ := derived
  rcases derives_returning.1 derived with ⟨word, call, rfl, returns, derived⟩ | derived
  · obtain ⟨modular, removal⟩ := removal_of_derives derived
    exact ⟨modular, call, removal, .inr ⟨word, split, returns⟩⟩
  · obtain ⟨modular, removal⟩ := removal_of_derives derived
    exact ⟨modular, statement, removal, .inl split⟩

theorem swap_of_accepts {function : Definition}
    (accepted : Shape.swap.accepts function = true) :
    ∃ modular keep move restore name rest,
      statements function.body = keep :: move :: restore :: rest ∧
        Keeps function.params keep name ∧ Moves function.params modular move ∧
        Restores function.params modular name.text restore ∧
        (rest = [] ∨ ∃ last, rest = [last] ∧ Returns function.params last) := by
  obtain ⟨_, form, member, after, derived⟩ := derivesAll_of_accepts accepted
  have start : ∃ ending, form = Shape.swap.body ++ ending ∧
      (ending = [] ∨ ending = [[.word "return", .param 0]]) := by
    simp only [forms, Shape.swap, List.mem_cons, List.not_mem_nil, or_false] at member
    rcases member with rfl | rfl
    · exact ⟨[], rfl, .inl rfl⟩
    · exact ⟨[[.word "return", .param 0]], rfl, .inr rfl⟩
  obtain ⟨ending, rfl, shape⟩ := start
  simp only [Shape.swap, List.cons_append, List.nil_append, derivesAll_next] at derived
  obtain ⟨keep, _, _, split, first, move, _, _, rfl, second, restore, rest, _, rfl, third,
    derived⟩ := derived
  obtain ⟨name, keeps, rfl⟩ := keeps_of_derives first
  obtain ⟨modular, moves, rfl⟩ := moves_of_derives second
  refine ⟨modular, keep, move, restore, name, rest, split, keeps, moves,
    restores_of_derives third, ?_⟩
  rcases shape with rfl | rfl
  · exact .inl (derivesAll_done.1 derived).1
  · simp only [derivesAll_next, derivesAll_done] at derived
    obtain ⟨last, _, _, rfl, derived, rfl, _⟩ := derived
    simp only [derives_word, derives_param, derives_done] at derived
    obtain ⟨word, _, rfl, isReturn, array, _, rfl, isArray, rfl, _⟩ := derived
    exact .inr ⟨_, rfl, word, array, rfl, isReturn, isArray⟩

end Body

end PlayerCipher
