import PlayerCipher.Proofs.Checked.Definition
import PlayerCipher.Proofs.Script.Stretch

/-! Layout of definitions.
Between the token that reveals a definition and its body stands a bridge: parameters and a brace,
with a name before them or not; a brace alone; or nothing. Revealing token, bridge and body are an
unbroken stretch, so the bodies of two definitions are apart or nested, and no definition is
revealed inside the bridge of another. -/

namespace PlayerCipher

namespace Definition

open PlayerCipher.Bracket Statement

structure Braces (opener : Token) (head : List Token) (closer brace : Token) (body : List Token)
    (last : Token) : Prop where
  opener : opener.isMark "(" = true
  head : ∀ token ∈ head, token.isIdentifier = true ∨ token.isMark "," = true
  closer : closer.closes = true
  brace : brace.isMark "\x7b" = true
  body : Balanced body
  last : last.closes = true

structure NamesMethod (before : List Token) (token : Token) : Prop where
  kind : token.kind = .ident
  other : token.text ∉ statementWords
  behind : ∃ last far, before = last :: far ∧
    (last.isMark "\x7b" = true ∨ last.isMark "," = true)

theorem NamesMethod.not_function {before : List Token} {token : Token}
    (names : NamesMethod before token) : ¬token.spells "function" = true := by
  intro spells
  have other := names.other
  rw [(Token.spells_iff.1 spells).2] at other
  exact other (by decide)

theorem NamesMethod.not_arrow {before : List Token} {token : Token}
    (names : NamesMethod before token) : ¬token.isMark "=>" = true := by
  simp [Token.isMark, names.kind]

/-- Bridge, body and rest of the run behind a token that reveals a definition. -/
inductive Layout (before : List Token) (token : Token) :
    List Token → List Token → List Token → Prop where
  | keyword {lead opener head closer brace body last rest} (word : token.spells "function" = true)
      (leads : ∀ t ∈ lead, t.isMark "*" = true ∨ t.isIdentifier = true)
      (braces : Braces opener head closer brace body last) :
      Layout before token (lead ++ opener :: (head ++ [closer, brace])) body (last :: rest)
  | shorthand {opener head closer brace body last rest} (names : NamesMethod before token)
      (braces : Braces opener head closer brace body last) :
      Layout before token (opener :: (head ++ [closer, brace])) body (last :: rest)
  | block {brace body last rest} (arrow : token.isMark "=>" = true)
      (opens : brace.isMark "\x7b" = true) (balanced : Balanced body)
      (ends : last.closes = true) :
      Layout before token [brace] body (last :: rest)
  | expression {body rest} (arrow : token.isMark "=>" = true)
      (plain : ∀ first ∈ (body ++ rest).head?, first.isMark "\x7b" = false)
      (length : expressionLength (body ++ rest) = body.length) :
      Layout before token [] body rest

theorem parameters?_sound {tokens : List Token} :
    ∀ {params}, parameters? tokens = some params →
      ∀ token ∈ tokens, token.isIdentifier = true ∨ token.isMark "," = true := by
  fun_induction parameters? tokens with
  | case1 => simp
  | case2 token identifier => simp [identifier]
  | case3 token identifier comma tokens separates ih =>
    intro params read
    obtain ⟨others, read, -⟩ := Option.map_eq_some_iff.1 read
    simpa [identifier, separates] using ih read
  | case4 => simp
  | case5 => simp

theorem afterStar_append (after : List Token) :
    ∃ stars, after = stars ++ (afterStar after).2 ∧ stars.length = (afterStar after).1 ∧
      ∀ token ∈ stars, token.isMark "*" = true := by
  cases after with
  | nil => exact ⟨[], rfl, rfl, by simp⟩
  | cons token after =>
    rw [afterStar]
    split_ifs with star
    · exact ⟨[token], rfl, rfl, by simpa using star⟩
    · exact ⟨[], rfl, rfl, by simp⟩

variable {before after : List Token} {token : Token} {place : Nat} {f : Definition}

theorem ofKeyword?_layout (word : token.spells "function" = true)
    (found : ofKeyword? before place token after = some f) :
    ∃ bridge rest, after = bridge ++ (f.body ++ rest) ∧
      f.bodyStart = place + 1 + bridge.length ∧ Layout before token bridge f.body rest := by
  obtain ⟨stars, afterStars, starCount, starred⟩ := afterStar_append after
  obtain ⟨named, afterName, nameCount, named'⟩ :=
    Checked.keywordName_append (withAsync token before).2 (afterStar after).2
  simp only [ofKeyword?] at found
  generalize keywordName (withAsync token before).2 (afterStar after).2 = result
    at afterName nameCount found
  obtain ⟨name, count, behind⟩ := result
  dsimp only at afterName nameCount found
  obtain ⟨⟨head, body⟩, parts, found⟩ := Option.bind_eq_some_iff.1 found
  obtain ⟨params, read, found⟩ := Option.bind_eq_some_iff.1 found
  obtain ⟨opener, closer, brace, last, rest, whole, opens, closes, braces, ends, -, balanced⟩ :=
    braced?_sound parts
  obtain rfl := Option.some.inj found
  refine ⟨(stars ++ named) ++ opener :: (head ++ [closer, brace]), last :: rest, ?_, ?_,
    .keyword word ?_ ⟨opens, parameters?_sound read, closes, braces, balanced, ends⟩⟩
  · rw [afterStars, afterName, whole]
    simp
  · simp only [List.length_append, List.length_cons, List.length_nil, starCount, nameCount]
    omega
  · intro t inside
    rcases List.mem_append.1 inside with star | name
    · exact .inl (starred t star)
    · exact .inr (named' t name)

theorem ofArrow?_layout (arrow : token.isMark "=>" = true)
    (found : ofArrow? before place after = some f) :
    ∃ bridge rest, after = bridge ++ (f.body ++ rest) ∧
      f.bodyStart = place + 1 + bridge.length ∧ Layout before token bridge f.body rest := by
  simp only [ofArrow?] at found
  obtain ⟨⟨params, opener, far⟩, -, found⟩ := Option.bind_eq_some_iff.1 found
  cases after with
  | nil => cases found
  | cons first tokens =>
    dsimp only at found
    split_ifs at found with braces
    · obtain ⟨block, cut, found⟩ := Option.bind_eq_some_iff.1 found
      cases found
      refine ⟨[first], block.closer :: block.rest, ?_, rfl,
        .block arrow braces (cut?_sound cut).1 (cut?_sound cut).2⟩
      rw [cut?_append cut]
      rfl
    · cases found
      refine ⟨[], (first :: tokens).drop (expressionLength (first :: tokens)), ?_, rfl,
        .expression arrow ?_ ?_⟩
      · exact (List.take_append_drop _ _).symm
      · rw [List.take_append_drop]
        simpa using braces
      · have bound := endFrom_le (first :: tokens) 0 0
        rw [Nat.zero_add] at bound
        rw [List.take_append_drop, List.length_take]
        exact (Nat.min_eq_left bound).symm

theorem ofShorthand?_layout (found : ofShorthand? before place token after = some f) :
    ∃ bridge rest, after = bridge ++ (f.body ++ rest) ∧
      f.bodyStart = place + 1 + bridge.length ∧ Layout before token bridge f.body rest := by
  unfold ofShorthand? at found
  obtain ⟨⟨head, body⟩, parts, listed⟩ := Option.bind_eq_some_iff.1 found
  obtain ⟨params, read, made⟩ := Option.bind_eq_some_iff.1 listed
  unfold shorthandParts? at parts
  split_ifs at parts with named
  cases before with
  | nil => cases parts
  | cons last' far =>
    dsimp only at parts
    split_ifs at parts with behind
    obtain ⟨opener, closer, brace, last, rest, whole, opens, closes, braces, ends, -, balanced⟩ :=
      braced?_sound parts
    obtain rfl := Option.some.inj made
    refine ⟨opener :: (head ++ [closer, brace]), last :: rest, ?_, ?_,
      .shorthand ⟨named.1, named.2, last', far, rfl, Bool.or_eq_true_iff.1 behind⟩
        ⟨opens, parameters?_sound read, closes, braces, balanced, ends⟩⟩
    · rw [whole]
      simp
    · simp only [List.length_append, List.length_cons, List.length_nil]
      omega

theorem at?_layout (found : at? before place token after = some f) :
    ∃ bridge rest, after = bridge ++ (f.body ++ rest) ∧
      f.bodyStart = place + 1 + bridge.length ∧ Layout before token bridge f.body rest := by
  unfold at? at found
  split_ifs at found with word arrow
  · exact ofKeyword?_layout word found
  · exact ofArrow?_layout arrow found
  · exact ofShorthand?_layout found

theorem isMark_of_isIdentifier (identifier : token.isIdentifier = true) (text : String) :
    token.isMark text = false :=
  Token.isMark_of_kind (by simp [(Token.isIdentifier_iff.1 identifier).1]) text

theorem isMark_of_closes (closes : token.closes = true) :
    token.isMark ")" = true ∨ token.isMark "]" = true ∨ token.isMark "\x7d" = true := by
  simp only [Token.closes, Bool.and_eq_true, Bool.or_eq_true, beq_iff_eq, or_assoc] at closes
  simpa only [Token.isMark_iff, closes.1, true_and] using closes.2

theorem closes_of_isMark {text : String} (mark : token.isMark text = true)
    (closer : text = ")" ∨ text = "]" ∨ text = "\x7d") : token.closes = true := by
  rw [Token.isMark_iff] at mark
  rcases closer with rfl | rfl | rfl <;> simp [Token.closes, mark.1, mark.2]

theorem quiet_of_isMark {text : String} (mark : token.isMark text = true) (other : text ≠ "=>") :
    token.spells "function" = false ∧ token.isMark "=>" = false :=
  ⟨spells_of_isMark _ mark, Token.isMark_of_ne mark other⟩

theorem quiet_of_isIdentifier (plain : token.isIdentifier = true) :
    token.spells "function" = false ∧ token.isMark "=>" = false := by
  refine ⟨Bool.eq_false_iff.2 fun word => ?_, isMark_of_isIdentifier plain "=>"⟩
  have free := (Token.isIdentifier_iff.1 plain).2
  rw [(Token.spells_iff.1 word).2] at free
  exact absurd free (by decide)

theorem isMark_of_not_opens (plain : token.opens = false) {mark : String}
    (opener : mark = "(" ∨ mark = "\x7b") : token.isMark mark = false := by
  rw [Bool.eq_false_iff]
  intro is
  rw [Checked.opens_of_isMark opener is] at plain
  cases plain

/-- A token that neither opens, closes nor separates. -/
def IsLevel (token : Token) : Prop :=
  token.opens = false ∧ token.closes = false ∧ token.separates = false

theorem isLevel_of_ne_punct (other : token.kind ≠ .punct) : IsLevel token := by
  simp [IsLevel, Token.opens, Token.closes, Token.separates, Token.isMark, other]

theorem isLevel_of_kind (word : token.kind = .ident) : IsLevel token :=
  isLevel_of_ne_punct (by simp [word])

theorem isLevel_of_isMark {text : String} (mark : token.isMark text = true)
    (other : text ∉ ["(", "[", "\x7b", ")", "]", "\x7d", ";", ","]) : IsLevel token := by
  rw [Token.isMark_iff] at mark
  simp only [List.mem_cons, List.not_mem_nil, or_false, not_or] at other
  simp [IsLevel, Token.opens, Token.closes, Token.separates, Token.isMark, mark.1, mark.2, other]

theorem through_level {run : List Token} (level : ∀ token ∈ run, IsLevel token) (depth : Nat) :
    through depth run = some depth := by
  induction run with
  | nil => rfl
  | cons token run ih =>
    obtain ⟨opens, closes, separates⟩ := level token (.head _)
    rw [through]
    simp only [opens, closes, separates, Bool.false_eq_true, if_false, and_false]
    exact ih fun token inside => level token (.tail _ inside)

theorem balanced_of_listed {run : List Token}
    (listed : ∀ token ∈ run, token.isIdentifier = true ∨ token.isMark "," = true) :
    Balanced run := by
  induction run with
  | nil => rfl
  | cons token run ih =>
    have level : token.opens = false ∧ token.closes = false := by
      rcases listed token (.head _) with identifier | comma
      · have level := isLevel_of_kind (Token.isIdentifier_iff.1 identifier).1
        exact ⟨level.1, level.2.1⟩
      · rw [Token.isMark_iff] at comma
        simp [Token.opens, Token.closes, comma.1, comma.2]
    rw [Bracket.Balanced, depthAfter]
    simp only [level.1, level.2, Bool.false_eq_true, if_false]
    exact ih fun token inside => listed token (.tail _ inside)

namespace Braces

variable {opener closer brace last : Token} {head body : List Token}

theorem head_balanced (braces : Braces opener head closer brace body last) : Balanced head :=
  balanced_of_listed braces.head

theorem through_bridge (braces : Braces opener head closer brace body last) :
    through 0 (opener :: (head ++ [closer, brace])) = some 1 := by
  have first := Checked.opens_of_isMark (.inl rfl) braces.opener
  have second := Checked.opens_of_isMark (.inr rfl) braces.brace
  have inner := through_of_depthAfter head braces.head_balanced
  have closes := opens_of_closes braces.closer
  rw [through, if_pos first, through_append, inner]
  simp [through, closes, braces.closer, second]

theorem not_paren (braces : Braces opener head closer brace body last) :
    ∀ token ∈ head ++ [closer, brace], token.isMark "(" = false := by
  intro token inside
  simp only [List.mem_append, List.mem_cons, List.not_mem_nil, or_false] at inside
  rcases inside with inside | rfl | rfl
  · rcases braces.head token inside with identifier | comma
    · exact isMark_of_isIdentifier identifier "("
    · exact Token.isMark_of_ne comma (by decide)
  · rcases isMark_of_closes braces.closer with mark | mark | mark <;>
      exact Token.isMark_of_ne mark (by decide)
  · exact Token.isMark_of_ne braces.brace (by decide)

theorem reads (braces : Braces opener head closer brace body last) (rest : List Token) :
    braced? (opener :: (head ++ [closer, brace]) ++ (body ++ last :: rest)) =
      some (head, body) := by
  have whole := braced?_balanced braces.head_balanced braces.body braces.opener braces.closer
    braces.brace braces.last rest
  simpa using whole

end Braces

theorem lead_not_paren {lead : List Token}
    (leads : ∀ t ∈ lead, t.isMark "*" = true ∨ t.isIdentifier = true) :
    ∀ t ∈ lead, t.isMark "(" = false := by
  intro t inside
  rcases leads t inside with star | identifier
  · exact Token.isMark_of_ne star (by decide)
  · exact isMark_of_isIdentifier identifier "("

namespace Layout

variable {bridge body rest : List Token}

theorem token_level (layout : Layout before token bridge body rest) : IsLevel token := by
  cases layout with
  | keyword word => exact isLevel_of_kind (Token.spells_iff.1 word).1
  | shorthand names => exact isLevel_of_kind names.kind
  | block arrow => exact isLevel_of_isMark arrow (by decide)
  | expression arrow => exact isLevel_of_isMark arrow (by decide)

theorem braced_or_expression (layout : Layout before token bridge body rest) :
    (through 0 bridge = some 1 ∧ Balanced body ∧
      ∃ last more, rest = last :: more ∧ last.closes = true) ∨
    bridge = [] ∧ expressionLength (body ++ rest) = body.length := by
  cases layout with
  | @keyword lead _ _ _ _ _ _ _ word leads braces =>
    refine .inl ⟨?_, braces.body, _, _, rfl, braces.last⟩
    have level : ∀ t ∈ lead, IsLevel t := by
      intro t inside
      rcases leads t inside with star | identifier
      · exact isLevel_of_isMark star (by decide)
      · exact isLevel_of_kind (Token.isIdentifier_iff.1 identifier).1
    rw [through_append, through_level level]
    exact braces.through_bridge
  | shorthand names braces =>
    exact .inl ⟨braces.through_bridge, braces.body, _, _, rfl, braces.last⟩
  | block arrow opens balanced ends =>
    refine .inl ⟨?_, balanced, _, _, rfl, ends⟩
    simp [through, Checked.opens_of_isMark (.inr rfl) opens]
  | expression arrow plain length => exact .inr ⟨rfl, length⟩

theorem through_expression_body (length : expressionLength (body ++ rest) = body.length) :
    ∃ after, through 0 body = some after ∧ (rest ≠ [] → after = 0) := by
  obtain ⟨after, passed, ends⟩ := through_expression (body ++ rest) 0
  have stop : endFrom 0 0 (body ++ rest) = body.length := length
  rw [stop, List.take_left] at passed
  refine ⟨after, passed, fun more => ends ?_⟩
  have some := List.length_pos_of_ne_nil more
  rw [stop, List.length_append]
  omega

theorem through_token (layout : Layout before token bridge body rest) (run : List Token) :
    through 0 (token :: run) = through 0 run := by
  obtain ⟨opens, closes, separates⟩ := layout.token_level
  rw [through]
  simp only [opens, closes, separates, Bool.false_eq_true, if_false, and_false]

theorem through_braced (layout : Layout before token bridge body rest)
    (opened : through 0 bridge = some 1) (balanced : Balanced body) :
    through 0 (token :: (bridge ++ body)) = some 1 := by
  rw [layout.through_token, through_append, opened, Option.bind_some]
  exact through_of_depthAfter body balanced

theorem unbroken (layout : Layout before token bridge body rest) :
    Unbroken (token :: (bridge ++ body)) := by
  rcases layout.braced_or_expression with ⟨opened, balanced, -⟩ | ⟨rfl, length⟩
  · exact ⟨1, layout.through_braced opened balanced⟩
  · obtain ⟨after, passed, -⟩ := through_expression_body length
    exact ⟨after, by rw [layout.through_token, List.nil_append, passed]⟩

theorem balanced_or_last (layout : Layout before token bridge body rest) :
    Balanced body ∨ rest = [] := by
  rcases layout.braced_or_expression with ⟨-, balanced, -⟩ | ⟨rfl, length⟩
  · exact .inl balanced
  · obtain ⟨after, passed, ends⟩ := through_expression_body length
    by_cases last : rest = []
    · exact .inr last
    · rw [ends last] at passed
      exact .inl (depthAfter_of_through body passed)

theorem body_clears (layout : Layout before token bridge body rest)
    {front stretch behind : List Token} (unbroken : Unbroken stretch)
    (split : body ++ rest = front ++ (stretch ++ behind)) (inside : front.length < body.length) :
    front.length + stretch.length ≤ body.length := by
  rcases layout.braced_or_expression with ⟨-, balanced, last, more, rfl, closes⟩ | ⟨-, length⟩
  · have found := inside?_balanced balanced closes more
    rw [split] at found
    rcases inside?_clears unbroken found with early | late
    · omega
    · exact late
  · have clears := expressionLength_clears unbroken front behind
    rw [← split, length] at clears
    omega

theorem bridge_paren (layout : Layout before token bridge body rest) :
    (∀ t ∈ bridge, t.isMark "(" = false) ∨
    ∃ lead opener head closer brace last more,
      bridge = lead ++ opener :: (head ++ [closer, brace]) ∧ rest = last :: more ∧
        (∀ t ∈ lead, t.isMark "(" = false) ∧ Braces opener head closer brace body last := by
  cases layout with
  | keyword word leads braces =>
    exact .inr ⟨_, _, _, _, _, _, _, rfl, rfl, lead_not_paren leads, braces⟩
  | shorthand names braces =>
    exact .inr ⟨[], _, _, _, _, _, _, rfl, rfl, by simp, braces⟩
  | block arrow opens =>
    refine .inl fun t inside => ?_
    rw [List.mem_singleton.1 inside]
    exact Token.isMark_of_ne opens (by decide)
  | expression => exact .inl fun t none => nomatch none

theorem bridge_quiet (layout : Layout before token bridge body rest) :
    ∀ t ∈ bridge, t.spells "function" = false ∧ t.isMark "=>" = false := by
  have between : ∀ {opener closer brace last : Token} {head body : List Token},
      Braces opener head closer brace body last → ∀ t ∈ opener :: (head ++ [closer, brace]),
        t.spells "function" = false ∧ t.isMark "=>" = false := by
    intro opener closer brace last head body braces t inside
    simp only [List.mem_cons, List.mem_append, List.not_mem_nil, or_false] at inside
    rcases inside with rfl | inside | rfl | rfl
    · exact quiet_of_isMark braces.opener (by decide)
    · rcases braces.head t inside with is | comma
      · exact quiet_of_isIdentifier is
      · exact quiet_of_isMark comma (by decide)
    · rcases isMark_of_closes braces.closer with is | is | is <;>
        exact quiet_of_isMark is (by decide)
    · exact quiet_of_isMark braces.brace (by decide)
  cases layout with
  | keyword word leads braces =>
    intro t inside
    rcases List.mem_append.1 inside with lead | inside
    · rcases leads t lead with star | is
      · exact quiet_of_isMark star (by decide)
      · exact quiet_of_isIdentifier is
    · exact between braces t inside
  | shorthand names braces => exact between braces
  | block arrow opens =>
    intro t inside
    rw [List.mem_singleton.1 inside]
    exact quiet_of_isMark opens (by decide)
  | expression => exact fun t none => nomatch none

end Layout

end Definition

end PlayerCipher
