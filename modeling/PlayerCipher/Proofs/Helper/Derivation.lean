import PlayerCipher.Helper.Shape

/-! Derivations of shape patterns.
A derivation says which token each pattern took, without the order in which the matcher tries
its alternatives: an optional word is taken or left out, and an index is plain or a remainder.
Every successful match has a derivation, so that inverting derivations gives the form of an
accepted body. -/

namespace PlayerCipher.Shape

/-- `b`, or `b % a.length` where `modular` holds. -/
inductive IsIndex (params : List String) : Bool → List Token → Prop where
  | plain {index : Token} (taken : isParam params 1 index = true) : IsIndex params false [index]
  | remainder {index percent array dot length : Token}
      (taken : isRemainder params index percent array dot length = true) :
      IsIndex params true [index, percent, array, dot, length]

/-- `Derives params patterns tokens before after`: the patterns take exactly the tokens, and
what they fix turns `before` into `after`. -/
inductive Derives (params : List String) :
    List Pattern → List Token → Binding → Binding → Prop where
  | done {bindings : Binding} : Derives params [] [] bindings bindings
  | param {position : Nat} {patterns : List Pattern} {token : Token} {tokens : List Token}
      {before after : Binding} (taken : isParam params position token = true)
      (rest : Derives params patterns tokens before after) :
      Derives params (.param position :: patterns) (token :: tokens) before after
  | temp {patterns : List Pattern} {token : Token} {tokens : List Token}
      {before bound after : Binding} (taken : bindTemp? params token before = some bound)
      (rest : Derives params patterns tokens bound after) :
      Derives params (.temp :: patterns) (token :: tokens) before after
  | punct {text : String} {patterns : List Pattern} {token : Token} {tokens : List Token}
      {before after : Binding} (taken : token.isMark text = true)
      (rest : Derives params patterns tokens before after) :
      Derives params (.punct text :: patterns) (token :: tokens) before after
  | word {text : String} {patterns : List Pattern} {token : Token} {tokens : List Token}
      {before after : Binding} (taken : token.spells text = true)
      (rest : Derives params patterns tokens before after) :
      Derives params (.word text :: patterns) (token :: tokens) before after
  | number {text : String} {patterns : List Pattern} {token : Token} {tokens : List Token}
      {before after : Binding} (kind : token.kind = .number) (taken : token.text = text)
      (rest : Derives params patterns tokens before after) :
      Derives params (.number text :: patterns) (token :: tokens) before after
  | declared {patterns : List Pattern} {token : Token} {tokens : List Token}
      {before after : Binding} (taken : isDeclaration token = true)
      (rest : Derives params patterns tokens before after) :
      Derives params (.declaration :: patterns) (token :: tokens) before after
  | undeclared {patterns : List Pattern} {tokens : List Token} {before after : Binding}
      (rest : Derives params patterns tokens before after) :
      Derives params (.declaration :: patterns) tokens before after
  | returned {patterns : List Pattern} {token : Token} {tokens : List Token}
      {before after : Binding} (taken : token.spells "return" = true)
      (rest : Derives params patterns tokens before after) :
      Derives params (.returning :: patterns) (token :: tokens) before after
  | unreturned {patterns : List Pattern} {tokens : List Token} {before after : Binding}
      (rest : Derives params patterns tokens before after) :
      Derives params (.returning :: patterns) tokens before after
  | remainder {patterns : List Pattern} {index percent array dot length : Token}
      {tokens : List Token} {before after : Binding} (form : before.modular ≠ some false)
      (taken : isRemainder params index percent array dot length = true)
      (rest : Derives params patterns tokens { before with modular := some true } after) :
      Derives params (.index :: patterns)
        (index :: percent :: array :: dot :: length :: tokens) before after
  | plain {patterns : List Pattern} {index : Token} {tokens : List Token}
      {before after : Binding} (form : before.modular ≠ some true)
      (taken : isParam params 1 index = true)
      (rest : Derives params patterns tokens { before with modular := some false } after) :
      Derives params (.index :: patterns) (index :: tokens) before after

section Inversion

variable {params : List String} {patterns : List Pattern} {tokens : List Token}
  {before after : Binding}

theorem derives_done : Derives params [] tokens before after ↔ tokens = [] ∧ before = after := by
  constructor
  · rintro ⟨⟩
    exact ⟨rfl, rfl⟩
  · rintro ⟨rfl, rfl⟩
    exact .done

theorem derives_param {position : Nat} :
    Derives params (.param position :: patterns) tokens before after ↔
      ∃ token rest, tokens = token :: rest ∧ isParam params position token = true ∧
        Derives params patterns rest before after := by
  constructor
  · rintro ⟨⟩
    exact ⟨_, _, rfl, ‹_›, ‹_›⟩
  · rintro ⟨token, rest, rfl, taken, derived⟩
    exact .param taken derived

theorem derives_temp :
    Derives params (.temp :: patterns) tokens before after ↔
      ∃ token rest bound, tokens = token :: rest ∧
        bindTemp? params token before = some bound ∧
        Derives params patterns rest bound after := by
  constructor
  · rintro ⟨⟩
    exact ⟨_, _, _, rfl, ‹_›, ‹_›⟩
  · rintro ⟨token, rest, bound, rfl, taken, derived⟩
    exact .temp taken derived

theorem derives_punct {text : String} :
    Derives params (.punct text :: patterns) tokens before after ↔
      ∃ token rest, tokens = token :: rest ∧ token.isMark text = true ∧
        Derives params patterns rest before after := by
  constructor
  · rintro ⟨⟩
    exact ⟨_, _, rfl, ‹_›, ‹_›⟩
  · rintro ⟨token, rest, rfl, taken, derived⟩
    exact .punct taken derived

theorem derives_word {text : String} :
    Derives params (.word text :: patterns) tokens before after ↔
      ∃ token rest, tokens = token :: rest ∧ token.spells text = true ∧
        Derives params patterns rest before after := by
  constructor
  · rintro ⟨⟩
    exact ⟨_, _, rfl, ‹_›, ‹_›⟩
  · rintro ⟨token, rest, rfl, taken, derived⟩
    exact .word taken derived

theorem derives_number {text : String} :
    Derives params (.number text :: patterns) tokens before after ↔
      ∃ token rest, tokens = token :: rest ∧ (token.kind = .number ∧ token.text = text) ∧
        Derives params patterns rest before after := by
  constructor
  · rintro ⟨⟩
    exact ⟨_, _, rfl, ⟨‹_›, ‹_›⟩, ‹_›⟩
  · rintro ⟨token, rest, rfl, taken, derived⟩
    exact .number taken.1 taken.2 derived

theorem derives_declaration :
    Derives params (.declaration :: patterns) tokens before after ↔
      (∃ token rest, tokens = token :: rest ∧ isDeclaration token = true ∧
          Derives params patterns rest before after) ∨
        Derives params patterns tokens before after := by
  constructor
  · rintro ⟨⟩
    · exact .inl ⟨_, _, rfl, ‹_›, ‹_›⟩
    · exact .inr ‹_›
  · rintro (⟨token, rest, rfl, taken, derived⟩ | derived)
    · exact .declared taken derived
    · exact .undeclared derived

theorem derives_returning :
    Derives params (.returning :: patterns) tokens before after ↔
      (∃ token rest, tokens = token :: rest ∧ token.spells "return" = true ∧
          Derives params patterns rest before after) ∨
        Derives params patterns tokens before after := by
  constructor
  · rintro ⟨⟩
    · exact .inl ⟨_, _, rfl, ‹_›, ‹_›⟩
    · exact .inr ‹_›
  · rintro (⟨token, rest, rfl, taken, derived⟩ | derived)
    · exact .returned taken derived
    · exact .unreturned derived

theorem derives_index :
    Derives params (.index :: patterns) tokens before after ↔
      ∃ modular index rest, tokens = index ++ rest ∧ IsIndex params modular index ∧
        before.modular ≠ some (!modular) ∧
        Derives params patterns rest { before with modular := some modular } after := by
  constructor
  · rintro ⟨⟩
    · exact ⟨true, _, _, rfl, .remainder ‹_›, ‹_›, ‹_›⟩
    · exact ⟨false, _, _, rfl, .plain ‹_›, ‹_›, ‹_›⟩
  · rintro ⟨modular, index, rest, rfl, form, fixed, derived⟩
    cases form with
    | plain taken => exact .plain fixed taken derived
    | remainder taken => exact .remainder fixed taken derived

end Inversion

theorem taken_or_left_of_optional {params : List String} {patterns : List Pattern}
    {tokens : List Token} {before after : Binding} {test : Token → Bool}
    (matched :
      ((match tokens with
        | token :: rest =>
          if test token then matchTokens params patterns rest before else none
        | [] => none) <|> matchTokens params patterns tokens before) = some after) :
    (∃ token rest, tokens = token :: rest ∧ test token = true ∧
        matchTokens params patterns rest before = some after) ∨
      matchTokens params patterns tokens before = some after := by
  cases tokens with
  | nil => exact .inr (by simpa using matched)
  | cons token rest =>
    by_cases taken : test token = true
    · simp only [taken, if_true, Option.orElse_eq_orElse, Option.orElse_eq_or,
        Option.or_eq_some_iff] at matched
      rcases matched with first | ⟨_, second⟩
      · exact .inl ⟨token, rest, rfl, taken, first⟩
      · exact .inr second
    · exact .inr (by simpa [taken] using matched)

theorem derives_of_matchTokens {params : List String} {patterns : List Pattern} :
    ∀ {tokens : List Token} {before after : Binding},
      matchTokens params patterns tokens before = some after →
        Derives params patterns tokens before after := by
  induction patterns with
  | nil =>
    intro tokens before after matched
    cases tokens with
    | nil =>
      cases matched
      exact .done
    | cons token tokens => simp [matchTokens] at matched
  | cons pattern patterns ih =>
    intro tokens before after matched
    cases pattern with
    | declaration =>
      rcases taken_or_left_of_optional matched with ⟨token, rest, rfl, taken, rest'⟩ | rest'
      · exact .declared taken (ih rest')
      · exact .undeclared (ih rest')
    | returning =>
      rcases taken_or_left_of_optional matched with ⟨token, rest, rfl, taken, rest'⟩ | rest'
      · exact .returned taken (ih rest')
      · exact .unreturned (ih rest')
    | index =>
      simp only [matchTokens, Option.orElse_eq_orElse, Option.orElse_eq_or,
        Option.or_eq_some_iff] at matched
      rcases matched with longer | ⟨_, shorter⟩
      · split at longer
        · split at longer
          · rename_i taken
            exact .remainder taken.1 taken.2 (ih longer)
          · cases longer
        · cases longer
      · split at shorter
        · split at shorter
          · rename_i taken
            exact .plain taken.1 taken.2 (ih shorter)
          · cases shorter
        · cases shorter
    | temp =>
      cases tokens with
      | nil => cases matched
      | cons token tokens =>
        obtain ⟨bound, taken, rest⟩ := Option.bind_eq_some_iff.1 matched
        exact .temp taken (ih rest)
    | param position =>
      cases tokens with
      | nil => cases matched
      | cons token tokens =>
        obtain ⟨taken, rest⟩ := Option.ite_none_right_eq_some.1 matched
        exact .param taken (ih rest)
    | punct text =>
      cases tokens with
      | nil => cases matched
      | cons token tokens =>
        obtain ⟨taken, rest⟩ := Option.ite_none_right_eq_some.1 matched
        exact .punct taken (ih rest)
    | word text =>
      cases tokens with
      | nil => cases matched
      | cons token tokens =>
        obtain ⟨taken, rest⟩ := Option.ite_none_right_eq_some.1 matched
        exact .word taken (ih rest)
    | number text =>
      cases tokens with
      | nil => cases matched
      | cons token tokens =>
        obtain ⟨taken, rest⟩ := Option.ite_none_right_eq_some.1 matched
        simp only [Bool.and_eq_true, beq_iff_eq] at taken
        exact .number taken.1 taken.2 (ih rest)

inductive DerivesAll (params : List String) :
    List (List Pattern) → List (List Token) → Binding → Binding → Prop where
  | done {bindings : Binding} : DerivesAll params [] [] bindings bindings
  | next {patterns : List Pattern} {form : List (List Pattern)} {statement : List Token}
      {statements : List (List Token)} {before between after : Binding}
      (first : Derives params patterns statement before between)
      (rest : DerivesAll params form statements between after) :
      DerivesAll params (patterns :: form) (statement :: statements) before after

theorem derivesAll_done {params : List String} {statements : List (List Token)}
    {before after : Binding} :
    DerivesAll params [] statements before after ↔ statements = [] ∧ before = after := by
  constructor
  · rintro ⟨⟩
    exact ⟨rfl, rfl⟩
  · rintro ⟨rfl, rfl⟩
    exact .done

theorem derivesAll_next {params : List String} {patterns : List Pattern}
    {form : List (List Pattern)} {statements : List (List Token)} {before after : Binding} :
    DerivesAll params (patterns :: form) statements before after ↔
      ∃ statement rest between, statements = statement :: rest ∧
        Derives params patterns statement before between ∧
        DerivesAll params form rest between after := by
  constructor
  · rintro ⟨⟩
    exact ⟨_, _, _, rfl, ‹_›, ‹_›⟩
  · rintro ⟨statement, rest, between, rfl, first, derived⟩
    exact .next first derived

theorem derivesAll_of_matchStatements {params : List String} {form : List (List Pattern)} :
    ∀ {statements : List (List Token)} {before after : Binding},
      matchStatements params form statements before = some after →
        DerivesAll params form statements before after := by
  induction form with
  | nil =>
    intro statements before after matched
    cases statements with
    | nil =>
      cases matched
      exact .done
    | cons statement statements => cases matched
  | cons patterns form ih =>
    intro statements before after matched
    cases statements with
    | nil => cases matched
    | cons statement statements =>
      obtain ⟨between, first, rest⟩ := Option.bind_eq_some_iff.1 matched
      exact .next (derives_of_matchTokens first) (ih rest)

theorem derivesAll_of_accepts {shape : Shape} {function : Definition}
    (accepted : shape.accepts function = true) :
    shape.minParams ≤ function.params.length ∧
      ∃ form ∈ shape.forms, ∃ after,
        DerivesAll function.params form (statements function.body) .none after := by
  simp only [accepts, Bool.and_eq_true, decide_eq_true_eq, List.any_eq_true,
    Option.isSome_iff_exists] at accepted
  obtain ⟨enough, form, member, after, matched⟩ := accepted
  exact ⟨enough, form, member, after, derivesAll_of_matchStatements matched⟩

end PlayerCipher.Shape
