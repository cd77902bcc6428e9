import PlayerCipher.Proofs.Helper.Completeness
import PlayerCipher.Proofs.Helper.Form
import PlayerCipher.Proofs.Script.Pieces

/-! Grammar of the helper bodies.
The bodies of the three helpers are written down here as sequences of kinds and texts, without
the patterns of the matcher. A pattern that leaves no choice takes exactly the tokens that are
written for it; an optional word, an index and a local are read from the statement. So a shape
accepts a function exactly when the statements of its body are written as the grammar says. -/

namespace PlayerCipher

namespace Grammar

open Shape

def word (text : String) : Token.Kind × String := (.ident, text)

def mark (text : String) : Token.Kind × String := (.punct, text)

def numeral (text : String) : Token.Kind × String := (.number, text)

/-- `b%a.length` or `b`, for the array `a` and the position `b` -/
def index (array position : String) (modular : Bool) : List (Token.Kind × String) :=
  if modular then [word position, mark "%", word array, mark ".", word "length"]
  else [word position]

def entry (array : String) (e : List (Token.Kind × String)) : List (Token.Kind × String) :=
  [word array, mark "["] ++ e ++ [mark "]"]

def reversal (array : String) : List (Token.Kind × String) :=
  [word array, mark ".", word "reverse", mark "(", mark ")"]

def removal (array : String) (i : List (Token.Kind × String)) : List (Token.Kind × String) :=
  [word array, mark ".", word "splice", mark "("] ++ i ++ [mark ",", numeral "1", mark ")"]

/-- `t=a[0]` -/
def keep (array temp : String) : List (Token.Kind × String) :=
  [word temp, mark "="] ++ entry array [numeral "0"]

/-- `a[0]=a[i]` -/
def move (array : String) (i : List (Token.Kind × String)) : List (Token.Kind × String) :=
  entry array [numeral "0"] ++ [mark "="] ++ entry array i

/-- `a[i]=t` -/
def restore (array : String) (i : List (Token.Kind × String)) (temp : String) :
    List (Token.Kind × String) :=
  entry array i ++ [mark "=", word temp]

def leads : List (List (Token.Kind × String)) := [[], [word "return"]]

def declarations : List (List (Token.Kind × String)) :=
  [[], [word "var"], [word "let"], [word "const"]]

def endings (array : String) : List (List (List (Token.Kind × String))) :=
  [[], [[word "return", word array]]]

/-- The statements of a helper with the given parameters. -/
inductive IsBody : Operation.Kind → List String → List (List (Token.Kind × String)) → Prop where
  | reverse {array : String} {others : List String} {lead : List (Token.Kind × String)}
      (led : lead ∈ leads) :
      IsBody .reverse (array :: others) [lead ++ reversal array]
  | removeAt {array position : String} {others : List String}
      {lead : List (Token.Kind × String)} (led : lead ∈ leads) (modular : Bool) :
      IsBody .removeAt (array :: position :: others)
        [lead ++ removal array (index array position modular)]
  | swap {array position temp : String} {others : List String}
      {declaration : List (Token.Kind × String)} {ending : List (List (Token.Kind × String))}
      (declared : declaration ∈ declarations) (identifier : Token.isReserved temp = false)
      (fresh : temp ∉ array :: position :: others) (modular : Bool)
      (ended : ending ∈ endings array) :
      IsBody .swap (array :: position :: others)
        ([declaration ++ keep array temp, move array (index array position modular),
          restore array (index array position modular) temp] ++ ending)

/-- What a pattern takes that leaves no choice. -/
def spelling? (params : List String) : Pattern → Option (Token.Kind × String)
  | .param position => params[position]?.map word
  | .punct text => some (mark text)
  | .word text => some (word text)
  | .number text => some (numeral text)
  | .temp | .index | .declaration | .returning => none

theorem isMark_iff_view {token : Token} {text : String} :
    token.isMark text = true ↔ token.view = mark text := by
  simp [Token.isMark, Token.view, mark]

theorem spells_iff_view {token : Token} {text : String} :
    token.spells text = true ↔ token.view = word text := by
  simp [Token.spells, Token.view, word]

theorem isParam_iff_view {params : List String} {position : Nat} {token : Token} :
    isParam params position token = true ↔ params[position]?.map word = some token.view := by
  cases named : params[position]? with
  | none => simp [isParam, named]
  | some name =>
    simp only [isParam, named, Bool.and_eq_true, beq_iff_eq, Option.some_inj, Option.map_some,
      Token.view, word, Prod.mk.injEq]
    exact and_congr_left' eq_comm

theorem isDeclaration_iff_view {token : Token} :
    isDeclaration token = true ↔ [token.view] ∈ declarations := by
  simp [isDeclaration, declarations, spells_iff_view, or_assoc]

theorem bindTemp?_iff_view {params : List String} {token : Token} {before bound : Binding} :
    bindTemp? params token before = some bound ↔
      ∃ temp, token.view = word temp ∧ Token.isReserved temp = false ∧ temp ∉ params ∧
        (before.temp = none ∨ before.temp = some temp) ∧
        bound = { before with temp := some temp } := by
  constructor
  · intro taken
    obtain ⟨identifier, fresh, free, rfl⟩ := Body.bindTemp?_eq_some taken
    obtain ⟨kind, notReserved⟩ := Token.isIdentifier_iff.1 identifier
    exact ⟨token.text, by rw [Token.view, kind]; rfl, notReserved, fresh, free, rfl⟩
  · rintro ⟨temp, written, notReserved, fresh, free, rfl⟩
    obtain ⟨kind, rfl⟩ := Prod.mk.inj written
    have identifier := Token.isIdentifier_iff.2 ⟨kind, notReserved⟩
    obtain ⟨name, modular⟩ := before
    rcases free with rfl | rfl <;> simp [bindTemp?, identifier, fresh]

/-- The patterns take exactly the statements whose kinds and texts are as `text` says, when they
turn the bindings `before` into `after`. -/
def Written (params : List String) (patterns : List Pattern) (before after : Binding)
    (text : List (Token.Kind × String) → Prop) : Prop :=
  ∀ tokens, Derives params patterns tokens before after ↔ text (tokens.map Token.view)

namespace Written

variable {params : List String} {patterns : List Pattern} {before after : Binding}
  {text : List (Token.Kind × String) → Prop}

theorem done : Written params [] before after fun views => views = [] ∧ before = after := by
  intro tokens
  simp only [derives_done, List.map_eq_nil_iff]

theorem one {pattern : Pattern} {view : Token.Kind × String}
    (spelled : spelling? params pattern = some view)
    (others : Written params patterns before after text) :
    Written params (pattern :: patterns) before after fun views =>
      ∃ rest, views = view :: rest ∧ text rest := by
  intro tokens
  have split : Derives params (pattern :: patterns) tokens before after ↔
      ∃ token rest, tokens = token :: rest ∧ token.view = view ∧
        Derives params patterns rest before after := by
    cases pattern with
    | param position =>
      have same (token : Token) : isParam params position token = true ↔ token.view = view := by
        rw [isParam_iff_view, show params[position]?.map word = some view from spelled,
          Option.some_inj, eq_comm]
      simp only [derives_param, same]
    | punct text =>
      cases spelled
      simp only [derives_punct, isMark_iff_view]
    | word text =>
      cases spelled
      simp only [derives_word, spells_iff_view]
    | number text =>
      cases spelled
      simp only [derives_number, Token.view, numeral, Prod.mk.injEq]
    | temp | index | declaration | returning => cases spelled
  rw [split]
  constructor
  · rintro ⟨token, rest, rfl, rfl, derived⟩
    exact ⟨rest.map Token.view, rfl, (others rest).1 derived⟩
  · rintro ⟨_, whole, written⟩
    obtain ⟨token, rest, rfl, taken, rfl⟩ := List.map_eq_cons_iff.1 whole
    exact ⟨token, rest, rfl, taken, (others rest).2 written⟩

theorem spelled (front : List Pattern) (written : List (Token.Kind × String))
    (same : front.map (spelling? params) = written.map some)
    (others : Written params patterns before after text) :
    Written params (front ++ patterns) before after fun views =>
      ∃ rest, views = written ++ rest ∧ text rest := by
  induction front generalizing written with
  | nil =>
    rw [List.map_nil, eq_comm, List.map_eq_nil_iff] at same
    subst same
    simpa [Written] using others
  | cons pattern front ih =>
    rw [List.map_cons, eq_comm, List.map_eq_cons_iff] at same
    obtain ⟨view, written, rfl, first, same⟩ := same
    intro tokens
    rw [List.cons_append, one first.symm (ih written same.symm) tokens]
    constructor
    · rintro ⟨_, whole, rest, rfl, behind⟩
      exact ⟨rest, whole, behind⟩
    · rintro ⟨rest, whole, behind⟩
      exact ⟨_, whole, rest, rfl, behind⟩

theorem all_spelled {patterns : List Pattern} {written : List (Token.Kind × String)}
    (same : patterns.map (spelling? params) = written.map some) :
    Written params patterns before after fun views => views = written ∧ before = after := by
  intro tokens
  have nothing : Written params [] before after fun views => views = [] ∧ before = after := done
  have split := spelled patterns written same nothing tokens
  rw [List.append_nil] at split
  refine split.trans ?_
  constructor
  · rintro ⟨_, whole, rfl, fixed⟩
    exact ⟨whole.trans (List.append_nil _), fixed⟩
  · rintro ⟨whole, fixed⟩
    exact ⟨[], whole.trans (List.append_nil _).symm, rfl, fixed⟩

theorem returning (others : Written params patterns before after text) :
    Written params (.returning :: patterns) before after fun views =>
      ∃ lead ∈ leads, ∃ rest, views = lead ++ rest ∧ text rest := by
  intro tokens
  rw [derives_returning]
  constructor
  · rintro (⟨token, rest, rfl, taken, derived⟩ | derived)
    · refine ⟨[word "return"], by simp [leads], rest.map Token.view, ?_, (others rest).1 derived⟩
      rw [List.map_cons, spells_iff_view.1 taken, List.singleton_append]
    · exact ⟨[], by simp [leads], _, rfl, (others tokens).1 derived⟩
  · rintro ⟨lead, led, _, whole, written⟩
    obtain ⟨front, rest, rfl, rfl, rfl⟩ := List.map_eq_append_iff.1 whole
    simp only [leads, List.mem_cons, List.not_mem_nil, or_false, List.map_eq_nil_iff,
      List.map_eq_singleton_iff] at led
    rcases led with rfl | ⟨token, rfl, taken⟩
    · exact .inr ((others rest).2 written)
    · exact .inl ⟨token, rest, rfl, spells_iff_view.2 taken, (others rest).2 written⟩

theorem declaration (others : Written params patterns before after text) :
    Written params (.declaration :: patterns) before after fun views =>
      ∃ declaration ∈ declarations, ∃ rest, views = declaration ++ rest ∧ text rest := by
  intro tokens
  rw [derives_declaration]
  constructor
  · rintro (⟨token, rest, rfl, taken, derived⟩ | derived)
    · exact ⟨[token.view], isDeclaration_iff_view.1 taken, rest.map Token.view, rfl,
        (others rest).1 derived⟩
    · exact ⟨[], by simp [declarations], _, rfl, (others tokens).1 derived⟩
  · rintro ⟨declaration, declared, _, whole, written⟩
    obtain ⟨front, rest, rfl, rfl, rfl⟩ := List.map_eq_append_iff.1 whole
    match front with
    | [] => exact .inr ((others rest).2 written)
    | [token] =>
      exact .inl ⟨token, rest, rfl, isDeclaration_iff_view.2 declared, (others rest).2 written⟩
    | _ :: _ :: _ => simp [declarations] at declared

theorem temp (before : Binding) {bound : String → List (Token.Kind × String) → Prop}
    (others : ∀ temp, Written params patterns { before with temp := some temp } after
      (bound temp)) :
    Written params (.temp :: patterns) before after fun views =>
      ∃ temp rest, views = word temp :: rest ∧ Token.isReserved temp = false ∧ temp ∉ params ∧
        (before.temp = none ∨ before.temp = some temp) ∧ bound temp rest := by
  intro tokens
  rw [derives_temp]
  constructor
  · rintro ⟨token, rest, _, rfl, taken, derived⟩
    obtain ⟨temp, written, notReserved, fresh, free, rfl⟩ := bindTemp?_iff_view.1 taken
    exact ⟨temp, rest.map Token.view, by rw [List.map_cons, written], notReserved, fresh, free,
      (others temp rest).1 derived⟩
  · rintro ⟨temp, _, whole, notReserved, fresh, free, written⟩
    obtain ⟨token, rest, rfl, taken, rfl⟩ := List.map_eq_cons_iff.1 whole
    exact ⟨token, rest, _, rfl, bindTemp?_iff_view.2 ⟨temp, taken, notReserved, fresh, free, rfl⟩,
      (others temp rest).2 written⟩

end Written

section Statements

variable {array position : String} {others : List String} {patterns : List Pattern}
  {before after : Binding}

theorem isIndex_iff_view {tokens : List Token} {modular : Bool} :
    Shape.IsIndex (array :: position :: others) modular tokens ↔
      tokens.map Token.view = index array position modular := by
  have isArray (token : Token) :
      isParam (array :: position :: others) 0 token = true ↔ token.view = word array := by
    rw [isParam_iff_view, eq_comm]
    exact Option.some_inj
  have isPosition (token : Token) :
      isParam (array :: position :: others) 1 token = true ↔ token.view = word position := by
    rw [isParam_iff_view, eq_comm]
    exact Option.some_inj
  constructor
  · rintro (taken | taken)
    · rw [isPosition] at taken
      simp [index, taken]
    · simp only [isRemainder, Bool.and_eq_true, isArray, isPosition, isMark_iff_view,
        spells_iff_view] at taken
      obtain ⟨⟨⟨⟨b, percent⟩, a⟩, dot⟩, length⟩ := taken
      simp [index, b, percent, a, dot, length]
  · intro written
    cases modular with
    | false =>
      obtain ⟨token, rfl, taken⟩ := List.map_eq_singleton_iff.1 written
      exact .plain ((isPosition token).2 taken)
    | true =>
      simp only [index, if_true, List.map_eq_cons_iff, List.map_eq_nil_iff] at written
      obtain ⟨_, _, rfl, b, _, _, rfl, percent, _, _, rfl, a, _, _, rfl, dot, _, _, rfl, length,
        rfl⟩ := written
      apply Shape.IsIndex.remainder
      simp only [isRemainder, Bool.and_eq_true, isArray, isPosition, isMark_iff_view,
        spells_iff_view]
      exact ⟨⟨⟨⟨b, percent⟩, a⟩, dot⟩, length⟩

theorem Written.index (before : Binding) {text : Bool → List (Token.Kind × String) → Prop}
    (rest : ∀ modular, Written (array :: position :: others) patterns
      { before with modular := some modular } after (text modular)) :
    Written (array :: position :: others) (.index :: patterns) before after fun views =>
      ∃ modular rest, views = index array position modular ++ rest ∧
        before.modular ≠ some (!modular) ∧ text modular rest := by
  intro tokens
  simp only [derives_index, isIndex_iff_view]
  constructor
  · rintro ⟨modular, front, behind, rfl, written, fixed, derived⟩
    exact ⟨modular, behind.map Token.view, by rw [List.map_append, written], fixed,
      (rest modular behind).1 derived⟩
  · rintro ⟨modular, _, whole, fixed, written⟩
    obtain ⟨front, behind, rfl, indexed, rfl⟩ := List.map_eq_append_iff.1 whole
    exact ⟨modular, front, behind, rfl, indexed, fixed, (rest modular behind).2 written⟩

theorem written_reversal :
    Written (array :: others)
      [.returning, .param 0, .punct ".", .word "reverse", .punct "(", .punct ")"] before after
      fun views => ∃ lead ∈ leads, views = lead ++ reversal array ∧ before = after := by
  intro tokens
  have call : Written (array :: others)
      [.param 0, .punct ".", .word "reverse", .punct "(", .punct ")"] before after
      fun views => views = reversal array ∧ before = after := .all_spelled rfl
  refine (Written.returning call tokens).trans ?_
  constructor
  · rintro ⟨lead, led, _, whole, rfl, fixed⟩
    exact ⟨lead, led, whole, fixed⟩
  · rintro ⟨lead, led, whole, fixed⟩
    exact ⟨lead, led, _, whole, rfl, fixed⟩

theorem written_removal :
    Written (array :: position :: others)
      [.returning, .param 0, .punct ".", .word "splice", .punct "(", .index, .punct ",",
        .number "1", .punct ")"] .none after
      fun views => ∃ lead ∈ leads, ∃ modular,
        views = lead ++ removal array (index array position modular) ∧
          ⟨none, some modular⟩ = after := by
  intro tokens
  have count (modular : Bool) : Written (array :: position :: others)
      [.punct ",", .number "1", .punct ")"] ⟨none, some modular⟩ after
      fun views => views = [mark ",", numeral "1", mark ")"] ∧ ⟨none, some modular⟩ = after :=
    .all_spelled rfl
  have call := Written.spelled [.param 0, .punct ".", .word "splice", .punct "("]
    [word array, mark ".", word "splice", mark "("] rfl (Written.index .none count)
  refine (Written.returning call tokens).trans ?_
  constructor
  · rintro ⟨lead, led, _, whole, _, rfl, modular, _, rfl, _, rfl, fixed⟩
    exact ⟨lead, led, modular, by rw [whole, removal, List.append_assoc], fixed⟩
  · rintro ⟨lead, led, modular, whole, fixed⟩
    exact ⟨lead, led, _, by rw [whole, removal, List.append_assoc], _, rfl, modular, _, rfl,
      by simp [Binding.none], rfl, fixed⟩

theorem written_keep :
    Written (array :: position :: others)
      [.declaration, .temp, .punct "=", .param 0, .punct "[", .number "0", .punct "]"] .none after
      fun views => ∃ declaration ∈ declarations, ∃ temp,
        views = declaration ++ keep array temp ∧ Token.isReserved temp = false ∧
          temp ∉ array :: position :: others ∧ ⟨some temp, none⟩ = after := by
  intro tokens
  have value (temp : String) : Written (array :: position :: others)
      [.punct "=", .param 0, .punct "[", .number "0", .punct "]"] ⟨some temp, none⟩ after
      fun views => views = mark "=" :: entry array [numeral "0"] ∧ ⟨some temp, none⟩ = after :=
    .all_spelled rfl
  refine (Written.declaration (.temp .none value) tokens).trans ?_
  constructor
  · rintro ⟨declaration, declared, _, whole, temp, _, rfl, notReserved, fresh, _, rfl, fixed⟩
    exact ⟨declaration, declared, temp, whole, notReserved, fresh, fixed⟩
  · rintro ⟨declaration, declared, temp, whole, notReserved, fresh, fixed⟩
    exact ⟨declaration, declared, _, whole, temp, _, rfl, notReserved, fresh, .inl rfl, rfl,
      fixed⟩

theorem written_move {temp : Option String} :
    Written (array :: position :: others)
      [.param 0, .punct "[", .number "0", .punct "]", .punct "=", .param 0, .punct "[", .index,
        .punct "]"] ⟨temp, none⟩ after
      fun views => ∃ modular, views = move array (index array position modular) ∧
        ⟨temp, some modular⟩ = after := by
  intro tokens
  have closer (modular : Bool) : Written (array :: position :: others) [.punct "]"]
      ⟨temp, some modular⟩ after fun views => views = [mark "]"] ∧ ⟨temp, some modular⟩ = after :=
    .all_spelled rfl
  have target := Written.spelled
    [.param 0, .punct "[", .number "0", .punct "]", .punct "=", .param 0, .punct "["]
    (entry array [numeral "0"] ++ [mark "=", word array, mark "["]) rfl
    (Written.index ⟨temp, none⟩ closer)
  refine (target tokens).trans ?_
  constructor
  · rintro ⟨_, whole, modular, _, rfl, _, rfl, fixed⟩
    exact ⟨modular, by rw [whole]; simp [move, entry], fixed⟩
  · rintro ⟨modular, whole, fixed⟩
    exact ⟨_, by rw [whole]; simp [move, entry], modular, _, rfl, by simp, rfl, fixed⟩

theorem written_restore {temp : String} {modular : Bool} :
    Written (array :: position :: others)
      [.param 0, .punct "[", .index, .punct "]", .punct "=", .temp] ⟨some temp, some modular⟩ after
      fun views => views = restore array (index array position modular) temp ∧
        Token.isReserved temp = false ∧ temp ∉ array :: position :: others ∧
        ⟨some temp, some modular⟩ = after := by
  intro tokens
  have source (modular : Bool) : Written (array :: position :: others)
      [.punct "]", .punct "=", .temp] ⟨some temp, some modular⟩ after _ :=
    .spelled [.punct "]", .punct "="] [mark "]", mark "="] rfl
      (.temp ⟨some temp, some modular⟩ fun _ => .done)
  have target := Written.spelled [.param 0, .punct "["] [word array, mark "["] rfl
    (Written.index ⟨some temp, some modular⟩ source)
  refine (target tokens).trans ?_
  constructor
  · rintro ⟨_, whole, modular', _, rfl, sameForm, _, rfl, name, _, rfl, notReserved, fresh, free,
      rfl, fixed⟩
    obtain rfl : modular = modular' := by
      cases modular <;> cases modular' <;> simp_all
    obtain rfl : temp = name := by simpa using free
    exact ⟨by rw [whole]; simp [restore, entry], notReserved, fresh, fixed⟩
  · rintro ⟨whole, notReserved, fresh, fixed⟩
    exact ⟨_, by rw [whole]; simp [restore, entry], modular, _, rfl, by simp, _, rfl, temp, _,
      rfl, notReserved, fresh, .inr rfl, rfl, fixed⟩

theorem written_return :
    Written (array :: others) [.word "return", .param 0] before after
      fun views => views = [word "return", word array] ∧ before = after :=
  .all_spelled rfl

variable {params : List String} {found : List (List Token)}

theorem two_params (enough : 2 ≤ params.length) :
    ∃ array position others, params = array :: position :: others := by
  match params with
  | array :: position :: others => exact ⟨array, position, others, rfl⟩

theorem isBody_of_derives {kind : Operation.Kind} {form : List (List Pattern)}
    (enough : (Shape.ofKind kind).minParams ≤ params.length)
    (member : form ∈ (Shape.ofKind kind).forms)
    (derived : DerivesAll params form found .none after) :
    IsBody kind params (found.map (List.map Token.view)) := by
  cases kind with
  | reverse =>
    obtain ⟨array, others, rfl⟩ : ∃ array others, params = array :: others :=
      List.exists_cons_of_length_pos enough
    obtain rfl := List.mem_singleton.1 member
    obtain ⟨call, _, _, rfl, first, derived⟩ := derivesAll_next.1 derived
    obtain ⟨rfl, -⟩ := derivesAll_done.1 derived
    obtain ⟨lead, led, written, -⟩ := (written_reversal call).1 first
    rw [List.map_singleton, written]
    exact .reverse led
  | removeAt =>
    obtain ⟨array, position, others, rfl⟩ := two_params enough
    obtain rfl := List.mem_singleton.1 member
    obtain ⟨call, _, _, rfl, first, derived⟩ := derivesAll_next.1 derived
    obtain ⟨rfl, -⟩ := derivesAll_done.1 derived
    obtain ⟨lead, led, modular, written, -⟩ := (written_removal call).1 first
    rw [List.map_singleton, written]
    exact .removeAt led modular
  | swap =>
    obtain ⟨array, position, others, rfl⟩ := two_params enough
    obtain ⟨ending, rfl, shape⟩ : ∃ ending, form = Shape.swap.body ++ ending ∧
        (ending = [] ∨ ending = [[.word "return", .param 0]]) := by
      simp only [ofKind, forms, Shape.swap, List.mem_cons, List.not_mem_nil, or_false] at member
      rcases member with rfl | rfl
      · exact ⟨[], rfl, .inl rfl⟩
      · exact ⟨[[.word "return", .param 0]], rfl, .inr rfl⟩
    -- Each statement starts from what the one before it has fixed: the local, then the index form.
    obtain ⟨first, _, _, rfl, keeps, derived⟩ := derivesAll_next.1 derived
    obtain ⟨second, _, _, rfl, moves, derived⟩ := derivesAll_next.1 derived
    obtain ⟨third, last, _, rfl, restores, derived⟩ := derivesAll_next.1 derived
    obtain ⟨declaration, declared, temp, written, notReserved, fresh, rfl⟩ :=
      (written_keep first).1 keeps
    obtain ⟨modular, written', rfl⟩ := (written_move second).1 moves
    obtain ⟨written'', -, -, rfl⟩ := (written_restore third).1 restores
    have ended : last.map (List.map Token.view) ∈ endings array := by
      rcases shape with rfl | rfl
      · obtain ⟨rfl, -⟩ := derivesAll_done.1 derived
        exact List.mem_cons_self
      · obtain ⟨statement, _, _, rfl, returns, derived⟩ := derivesAll_next.1 derived
        obtain ⟨rfl, -⟩ := derivesAll_done.1 derived
        obtain ⟨written, -⟩ := (written_return statement).1 returns
        rw [List.map_singleton, written]
        exact List.mem_cons_of_mem _ List.mem_cons_self
    rw [List.map_cons, List.map_cons, List.map_cons, written, written', written'']
    exact .swap declared notReserved fresh modular ended

theorem derives_of_isBody {kind : Operation.Kind}
    (body : IsBody kind params (found.map (List.map Token.view))) :
    (Shape.ofKind kind).minParams ≤ params.length ∧
      ∃ form ∈ (Shape.ofKind kind).forms, ∃ after, DerivesAll params form found .none after := by
  generalize whole : found.map (List.map Token.view) = written at body
  cases body with
  | reverse led =>
    obtain ⟨call, rfl, written⟩ := List.map_eq_singleton_iff.1 whole
    exact ⟨by simp [ofKind, Shape.reverse], _, List.mem_cons_self, _,
      .next ((written_reversal call).2 ⟨_, led, written, rfl⟩) .done⟩
  | removeAt led modular =>
    obtain ⟨call, rfl, written⟩ := List.map_eq_singleton_iff.1 whole
    exact ⟨by simp [ofKind, Shape.removeAt], _, List.mem_cons_self, _,
      .next ((written_removal call).2 ⟨_, led, modular, written, rfl⟩) .done⟩
  | @swap array position temp others declaration ending declared notReserved fresh modular ended =>
    obtain ⟨first, _, rfl, keeps, whole⟩ := List.map_eq_cons_iff.1 whole
    obtain ⟨second, _, rfl, moves, whole⟩ := List.map_eq_cons_iff.1 whole
    obtain ⟨third, last, rfl, restores, whole⟩ := List.map_eq_cons_iff.1 whole
    have body {form : List (List Pattern)} {after : Binding}
        (rest : DerivesAll (array :: position :: others) form last
          ⟨some temp, some modular⟩ after) :
        DerivesAll (array :: position :: others) (Shape.swap.body ++ form)
          (first :: second :: third :: last) .none after :=
      .next ((written_keep first).2 ⟨_, declared, temp, keeps, notReserved, fresh, rfl⟩)
        (.next ((written_move second).2 ⟨modular, moves, rfl⟩)
          (.next ((written_restore third).2 ⟨restores, notReserved, fresh, rfl⟩) rest))
    refine ⟨by simp [ofKind, Shape.swap], ?_⟩
    simp only [endings, List.mem_cons, List.not_mem_nil, or_false] at ended
    rcases ended with rfl | rfl
    · obtain rfl := List.map_eq_nil_iff.1 whole
      exact ⟨_, List.mem_cons_self, _, body .done⟩
    · obtain ⟨statement, rfl, returns⟩ := List.map_eq_singleton_iff.1 whole
      exact ⟨_, List.mem_cons_of_mem _ List.mem_cons_self, _,
        body (.next ((written_return statement).2 ⟨returns, rfl⟩) .done)⟩

end Statements

/-- The statements of a body are the non-empty pieces between its top-level separators, and a
shape accepts exactly the functions whose statements are written as the grammar says. -/
theorem accepts_iff_isBody (kind : Operation.Kind) (function : Definition) :
    statements function.body =
        (((Statement.marked function.body).splitOnP Prod.snd).map (List.map Prod.fst)).filter
          (fun piece => !piece.isEmpty) ∧
      ((Shape.ofKind kind).accepts function = true ↔
        IsBody kind function.params ((statements function.body).map (List.map Token.view))) := by
  refine ⟨Statement.statements_eq_splitOnP function.body, ?_⟩
  rw [accepts_iff_derivesAll (forms_widths_nodup kind)]
  constructor
  · rintro ⟨enough, form, member, after, derived⟩
    exact isBody_of_derives enough member derived
  · exact derives_of_isBody

end Grammar

end PlayerCipher
