import Mathlib
import PlayerCipher.Proofs.Script.Nesting
import PlayerCipher.Script.Lexeme

/-! Written forms of definitions.
A definition is written as a declaration, as a function or an arrow that an assignment or a member
names, or as a method. Each form is found with its own name, parameters and body wherever it
stands: what comes before it and behind it may be any tokens, where the form itself does not ask
for some. -/

namespace PlayerCipher

namespace Definition

open PlayerCipher.Bracket Statement

/-- Identifiers with a comma between two of them; a comma may end the list. -/
inductive Listed : List String → List Token → Prop where
  | none : Listed [] []
  | last {token : Token} (plain : token.isIdentifier = true) : Listed [token.text] [token]
  | more {token comma : Token} {names : List String} {tokens : List Token}
      (plain : token.isIdentifier = true) (commas : comma.isMark "," = true)
      (others : Listed names tokens) : Listed (token.text :: names) (token :: comma :: tokens)

inductive Head (params : List String) : List Token → Prop where
  | mk {opener closer : Token} {list : List Token} (opens : opener.isMark "(" = true)
      (listed : Listed params list) (closes : closer.isMark ")" = true) :
      Head params (opener :: (list ++ [closer]))

inductive Block (body : List Token) : List Token → Prop where
  | mk {brace last : Token} (opens : brace.isMark "\x7b" = true) (balanced : Balanced body)
      (closes : last.isMark "\x7d" = true) : Block body (brace :: (body ++ [last]))

/-- What names a function without a name of its own: `name =` or `name:`, where the name may stand
in quotes. -/
inductive Assigns (name : String) : List Token → Prop where
  | mk {target op : Token}
      (named : target.isIdentifier = true ∧ target.text = name ∨ target.contents? = some name)
      (gives : op.isMark "=" = true ∨ op.isMark ":" = true) : Assigns name [target, op]

inductive Async : List Token → Prop where
  | none : Async []
  | word {token : Token} (spells : token.spells "async" = true) : Async [token]

/-- Parameters of an arrow: in parentheses, or a single one bare. -/
inductive ArrowHead : List String → List Token → Prop where
  | parens {params : List String} {head : List Token} (parameters : Head params head) :
      ArrowHead params head
  | bare {token : Token} (plain : token.isIdentifier = true) : ArrowHead [token.text] [token]

inductive Written (name : String) (params : List String) (body before : List Token) :
    (text after : List Token) → Prop where
  | declaration {word ident : Token} {head block after : List Token}
      (keyword : word.spells "function" = true) (plain : ident.isIdentifier = true)
      (named : ident.text = name) (parameters : Head params head) (braces : Block body block) :
      Written name params body before (word :: ident :: (head ++ block)) after
  | function {word : Token} {target async head block after : List Token}
      (assigns : Assigns name target) (lead : Async async)
      (keyword : word.spells "function" = true) (parameters : Head params head)
      (braces : Block body block) :
      Written name params body before (target ++ (async ++ word :: (head ++ block))) after
  | method {ident : Token} {head block after : List Token}
      (behind : ∃ last ∈ before.getLast?, last.isMark "\x7b" = true ∨ last.isMark "," = true)
      (plain : ident.isIdentifier = true) (named : ident.text = name)
      (parameters : Head params head) (braces : Block body block) :
      Written name params body before (ident :: (head ++ block)) after
  | arrow {mark : Token} {target async head block after : List Token}
      (assigns : Assigns name target) (lead : Async async) (parameters : ArrowHead params head)
      (arrows : mark.isMark "=>" = true) (braces : Block body block) :
      Written name params body before (target ++ (async ++ (head ++ mark :: block))) after
  | shortArrow {mark : Token} {target async head after : List Token}
      (assigns : Assigns name target) (lead : Async async) (parameters : ArrowHead params head)
      (arrows : mark.isMark "=>" = true) (nonempty : body ≠ [])
      (plain : ∀ first ∈ body.head?, first.isMark "\x7b" = false)
      (expression : IsExpression body)
      (ends : ∀ next ∈ after.head?, next.separates = true ∨ next.closes = true) :
      Written name params body before (target ++ (async ++ (head ++ mark :: body))) after

theorem Listed.read {params : List String} {list : List Token} (listed : Listed params list) :
    parameters? list = some params := by
  induction listed with
  | none => rfl
  | last plain => simp [parameters?, plain]
  | more plain commas _ ih => simp [parameters?, plain, commas, ih]

theorem Head.braced {params : List String} {body head block : List Token}
    (parameters : Head params head) (braces : Block body block) (after : List Token) :
    ∃ list, parameters? list = some params ∧ braced? (head ++ (block ++ after)) = some (list, body) ∧
      head.length = list.length + 2 ∧ block.length = body.length + 2 := by
  obtain @⟨opener, closer, list, opens, listed, closes⟩ := parameters
  obtain @⟨brace, last, braces, balanced, ends⟩ := braces
  have parts : Braces opener list closer brace body last :=
    ⟨opens, parameters?_sound listed.read, closes_of_isMark closes (.inl rfl), braces, balanced,
      closes_of_isMark ends (.inr (.inr rfl))⟩
  refine ⟨list, listed.read, ?_, by simp, by simp⟩
  have whole := parts.reads after
  simpa using whole

theorem Head.opens {params : List String} {head : List Token} (parameters : Head params head) :
    ∃ opener rest, head = opener :: rest ∧ opener.isMark "(" = true := by
  obtain @⟨opener, closer, list, opens, -, -⟩ := parameters
  exact ⟨opener, list ++ [closer], rfl, opens⟩

theorem Assigns.gives_name {name : String} {target async : List Token}
    (assigns : Assigns name target) (lead : Async async) (word : Token) (far : List Token) :
    nameBefore? (target.reverse ++ far) = some name ∧
      ∃ first, withAsync word (async.reverse ++ (target.reverse ++ far)) =
        (first, target.reverse ++ far) := by
  obtain @⟨target, op, named, gives⟩ := assigns
  constructor
  · have reads : (op.isMark "=" || op.isMark ":") = true := by
      simpa using gives
    rcases named with ⟨plain, rfl⟩ | quoted
    · simp [nameBefore?, reads, (Token.isIdentifier_iff.1 plain).1, plain]
    · have kind : target.kind = .str := by
        by_contra other
        simp [Token.contents?, other] at quoted
      simp [nameBefore?, reads, kind, quoted]
  · cases lead with
    | none =>
      have plain : op.spells "async" = false := by
        rcases gives with mark | mark <;> exact spells_of_isMark "async" mark
      exact ⟨word, by simp [withAsync, plain]⟩
    | @word token spells => exact ⟨token, by simp [withAsync, spells]⟩

theorem pairAt_plain {up down : Token → Bool} {run : List Token}
    (plain : ∀ token ∈ run, up token = false ∧ down token = false) (rest : List Token)
    (depth : Nat) :
    ∀ place, pairAt up down depth place (run ++ rest) =
      pairAt up down depth (place + run.length) rest := by
  induction run with
  | nil =>
    intro place
    rfl
  | cons token run ih =>
    intro place
    obtain ⟨noUp, noDown⟩ := plain token (.head _)
    have moved : place + (run.length + 1) = place + 1 + run.length := by
      omega
    simp only [List.cons_append, pairAt, noUp, noDown, List.length_cons, moved, Bool.false_eq_true,
      if_false]
    exact ih (fun token inside => plain token (.tail _ inside)) (place + 1)

theorem ArrowHead.read {params : List String} {head : List Token}
    (parameters : ArrowHead params head) (far : List Token) :
    ∃ first, arrowHead? (head.reverse ++ far) = some (params, first, far) := by
  cases parameters with
  | @bare token plain =>
    have noParen := isMark_of_isIdentifier plain ")"
    exact ⟨token, by simp [arrowHead?, noParen, plain]⟩
  | parens parameters =>
    obtain @⟨opener, closer, list, opens, listed, closes⟩ := parameters
    refine ⟨opener, ?_⟩
    have level : ∀ token ∈ list.reverse, token.closes = false ∧ token.opens = false := by
      intro token inside
      rcases parameters?_sound listed.read token (List.mem_reverse.1 inside) with plain | comma
      · have level := isLevel_of_kind (Token.isIdentifier_iff.1 plain).1
        exact ⟨level.2.1, level.1⟩
      · rw [Token.isMark_iff] at comma
        simp [Token.closes, Token.opens, comma.1, comma.2]
    have up := closes_of_isMark closes (.inl rfl)
    have down := Checked.opens_of_isMark (.inl rfl) opens
    have noUp : opener.closes = false := by
      rw [Token.isMark_iff] at opens
      simp [Token.closes, opens.2]
    have distance : openDistance? (closer :: (list.reverse ++ opener :: far)) =
        some (list.length + 1) := by
      rw [openDistance?, pairAt, if_pos up, pairAt_plain level, pairAt, noUp, down]
      simp [Nat.add_comm]
    have whole : (opener :: (list ++ [closer])).reverse ++ far =
        closer :: (list.reverse ++ opener :: far) := by
      simp
    rw [whole, arrowHead?, if_pos closes, distance]
    have taken : (list.reverse ++ opener :: far).take list.length = list.reverse := by
      rw [← List.length_reverse, List.take_left]
    have dropped : (list.reverse ++ opener :: far).drop list.length = opener :: far := by
      rw [← List.length_reverse, List.drop_left]
    simp [taken, dropped, listed.read]

/-- The definition has this name, these parameters and this body, and the body lies behind the
place `start` and before the place `stop`. -/
structure Tells (f : Definition) (name : String) (params : List String) (body : List Token)
    (start stop : Nat) : Prop where
  name : f.name = some name
  params : f.params = params
  body : f.body = body
  start : start < f.bodyStart
  stop : f.bodyStop ≤ stop

variable {name : String} {params : List String} {body head block target async : List Token}
  {word ident mark : Token}

theorem at?_declaration (keyword : word.spells "function" = true)
    (plain : ident.isIdentifier = true) (parameters : Head params head)
    (braces : Block body block) (far after : List Token) (place : Nat) :
    ∃ f, at? far place word (ident :: (head ++ (block ++ after))) = some f ∧
      f.Tells ident.text params body place (place + 2 + head.length + block.length) := by
  obtain ⟨list, read, parts, headLength, blockLength⟩ := parameters.braced braces after
  have noStar := isMark_of_isIdentifier plain "*"
  refine ⟨⟨some ident.text, params, body, place + list.length + 5,
    (withAsync word far).1.offset⟩, ?_, rfl, rfl, rfl, ?_, ?_⟩
  · rw [at?, if_pos keyword]
    simp only [ofKeyword?, afterStar, noStar, keywordName, plain, parts, read, if_true,
      Bool.false_eq_true, if_false, Option.bind_eq_bind, Option.bind_some, Option.some.injEq,
      Definition.mk.injEq, true_and, and_true]
    omega
  · dsimp only
    omega
  · simp only [bodyStop]
    omega

theorem at?_function (assigns : Assigns name target) (lead : Async async)
    (keyword : word.spells "function" = true) (parameters : Head params head)
    (braces : Block body block) (far after : List Token) (place : Nat) :
    ∃ f, at? (async.reverse ++ (target.reverse ++ far)) place word (head ++ (block ++ after)) =
        some f ∧
      f.Tells name params body place (place + 1 + head.length + block.length) := by
  obtain ⟨list, read, parts, headLength, blockLength⟩ := parameters.braced braces after
  obtain ⟨opener, rest, split, opens⟩ := parameters.opens
  obtain ⟨named, first, leads⟩ := assigns.gives_name lead word far
  have noStar : opener.isMark "*" = false := Token.isMark_of_ne opens (by decide)
  have noName : opener.isIdentifier = false := by
    rw [Token.isMark_iff] at opens
    simp [Token.isIdentifier, opens.1]
  have after' : head ++ (block ++ after) = opener :: (rest ++ (block ++ after)) := by
    rw [split]
    rfl
  refine ⟨⟨some name, params, body, place + list.length + 4, first.offset⟩, ?_, rfl, rfl, rfl,
    ?_, ?_⟩
  · rw [after'] at parts ⊢
    rw [at?, if_pos keyword]
    simp only [ofKeyword?, leads, afterStar, noStar, keywordName, noName, named, parts, read,
      Bool.false_eq_true, if_false, Option.bind_eq_bind, Option.bind_some, Option.some.injEq,
      Definition.mk.injEq, true_and, and_true]
    omega
  · dsimp only
    omega
  · simp only [bodyStop]
    omega

theorem at?_method {last : Token} (behind : last.isMark "\x7b" = true ∨ last.isMark "," = true)
    (plain : ident.isIdentifier = true) (parameters : Head params head)
    (braces : Block body block) (far after : List Token) (place : Nat) :
    ∃ f, at? (last :: far) place ident (head ++ (block ++ after)) = some f ∧
      f.Tells ident.text params body place (place + 1 + head.length + block.length) := by
  obtain ⟨list, read, parts, headLength, blockLength⟩ := parameters.braced braces after
  obtain ⟨kind, free⟩ := Token.isIdentifier_iff.1 plain
  have noMark := isMark_of_isIdentifier plain "=>"
  have noWord : ident.spells "function" = false := by
    rw [Bool.eq_false_iff, ne_eq, Token.spells_iff]
    rintro ⟨-, text⟩
    rw [text] at free
    exact absurd free (by decide)
  -- Words that stand before a parenthesis without naming a method are reserved.
  have noStatement : ident.text ∉ statementWords := by
    intro statement
    have reserved : ∀ word ∈ statementWords, Token.isReserved word = true := by
      decide
    rw [reserved ident.text statement] at free
    cases free
  have mayName : (last.isMark "\x7b" || last.isMark ",") = true := by
    simpa using behind
  refine ⟨⟨some ident.text, params, body, place + 1 + 1 + list.length + 2, ident.offset⟩, ?_, rfl,
    rfl, rfl, ?_, ?_⟩
  · simp [at?, noWord, noMark, ofShorthand?, shorthandParts?, kind, noStatement, mayName, parts,
      read]
  · dsimp only
    omega
  · simp only [bodyStop]
    omega

theorem at?_arrow (assigns : Assigns name target) (lead : Async async)
    (parameters : ArrowHead params head) (arrows : mark.isMark "=>" = true)
    (braces : Block body block) (far after : List Token) (place : Nat) :
    ∃ f, at? (head.reverse ++ (async.reverse ++ (target.reverse ++ far))) place mark
        (block ++ after) = some f ∧
      f.Tells name params body place (place + 1 + block.length) := by
  obtain ⟨opener, read⟩ := parameters.read (async.reverse ++ (target.reverse ++ far))
  obtain ⟨named, first, leads⟩ := assigns.gives_name lead opener far
  obtain @⟨brace, last, opens, balanced, closes⟩ := braces
  have noWord := spells_of_isMark "function" arrows
  have cut := cut?_balanced balanced (closes_of_isMark closes (.inr (.inr rfl))) after
  refine ⟨⟨some name, params, body, place + 2, first.offset⟩, ?_, rfl, rfl, rfl, ?_, ?_⟩
  · simp [at?, noWord, arrows, ofArrow?, read, leads, named, opens, cut]
  · dsimp only
    omega
  · simp only [bodyStop, List.length_cons, List.length_append]
    omega

theorem at?_shortArrow (assigns : Assigns name target) (lead : Async async)
    (parameters : ArrowHead params head) (arrows : mark.isMark "=>" = true) (nonempty : body ≠ [])
    (plain : ∀ first ∈ body.head?, first.isMark "\x7b" = false) (expression : IsExpression body)
    {after : List Token} (ends : ∀ next ∈ after.head?, next.separates = true ∨ next.closes = true)
    (far : List Token) (place : Nat) :
    ∃ f, at? (head.reverse ++ (async.reverse ++ (target.reverse ++ far))) place mark
        (body ++ after) = some f ∧
      f.Tells name params body place (place + 1 + body.length) := by
  obtain ⟨opener, read⟩ := parameters.read (async.reverse ++ (target.reverse ++ far))
  obtain ⟨named, first, leads⟩ := assigns.gives_name lead opener far
  have noWord := spells_of_isMark "function" arrows
  have length := expression.length_append ends
  have taken : (body ++ after).take (expressionLength (body ++ after)) = body := by
    rw [length, List.take_left]
  refine ⟨⟨some name, params, body, place + 1, first.offset⟩, ?_, rfl, rfl, rfl, ?_, ?_⟩
  · cases body with
    | nil => exact absurd rfl nonempty
    | cons token tokens =>
      have noBrace : token.isMark "\x7b" = false := plain token rfl
      rw [List.cons_append] at taken ⊢
      simp [at?, noWord, arrows, ofArrow?, read, leads, named, noBrace, taken]
  · dsimp only
    omega
  · simp only [bodyStop]
    omega

theorem exists_tells {f : Definition} {before text lead rest after : List Token} {token : Token}
    {stop : Nat} (form : text = lead ++ token :: rest)
    (found : at? (lead.reverse ++ before.reverse) (before.length + lead.length) token
      (rest ++ after) = some f)
    (tells : f.Tells name params body (before.length + lead.length) stop)
    (ends : stop = before.length + text.length) :
    ∃ f ∈ definitions (before ++ text ++ after),
      f.Tells name params body before.length (before.length + text.length) := by
  have member : f ∈ definitions ((before ++ lead) ++ token :: (rest ++ after)) := by
    refine mem_definitions_iff.2 ⟨before ++ lead, token, rest ++ after, rfl, ?_⟩
    rwa [List.reverse_append, List.length_append]
  have whole : before ++ text ++ after = (before ++ lead) ++ token :: (rest ++ after) := by
    simp [form]
  have start := tells.start
  rw [whole]
  exact ⟨f, member, tells.name, tells.params, tells.body, by omega, ends ▸ tells.stop⟩

/-- Every written form of a definition is found, wherever it stands. -/
theorem definitions_written {before text after : List Token}
    (written : Written name params body before text after) :
    ∃ f ∈ definitions (before ++ text ++ after),
      f.Tells name params body before.length (before.length + text.length) := by
  cases written with
  | @declaration word ident head block _ keyword plain named parameters braces =>
    subst named
    obtain ⟨f, found, tells⟩ :=
      at?_declaration keyword plain parameters braces before.reverse after before.length
    have form : word :: ident :: (head ++ block) = [] ++ word :: (ident :: (head ++ block)) := rfl
    refine exists_tells form ?_ tells ?_
    · simpa using found
    · simp
      omega
  | @function word target async head block _ assigns lead keyword parameters braces =>
    obtain ⟨f, found, tells⟩ := at?_function assigns lead keyword parameters braces before.reverse
      after (before.length + (target ++ async).length)
    have form := (List.append_assoc target async (word :: (head ++ block))).symm
    refine exists_tells form ?_ tells ?_
    · simpa using found
    · simp
      omega
  | @method ident head block _ behind plain named parameters braces =>
    subst named
    obtain ⟨last, nearest, mark⟩ := behind
    obtain ⟨far, reversed⟩ : ∃ far, before.reverse = last :: far := by
      rw [← List.head?_reverse] at nearest
      exact List.head?_eq_some_iff.1 nearest
    obtain ⟨f, found, tells⟩ := at?_method mark plain parameters braces far after before.length
    have form : ident :: (head ++ block) = [] ++ ident :: (head ++ block) := rfl
    refine exists_tells form ?_ tells ?_
    · rw [reversed]
      simpa using found
    · simp
      omega
  | @arrow mark target async head block _ assigns lead parameters arrows braces =>
    obtain ⟨f, found, tells⟩ := at?_arrow assigns lead parameters arrows braces before.reverse
      after (before.length + (target ++ (async ++ head)).length)
    have form : target ++ (async ++ (head ++ mark :: block)) =
        (target ++ (async ++ head)) ++ mark :: block := by
      simp
    refine exists_tells form ?_ tells ?_
    · simpa using found
    · simp
      omega
  | @shortArrow mark target async head _ assigns lead parameters arrows nonempty plain expression
      ends =>
    obtain ⟨f, found, tells⟩ := at?_shortArrow assigns lead parameters arrows nonempty plain
      expression ends before.reverse (before.length + (target ++ (async ++ head)).length)
    have form : target ++ (async ++ (head ++ mark :: body)) =
        (target ++ (async ++ head)) ++ mark :: body := by
      simp
    refine exists_tells form ?_ tells ?_
    · simpa using found
    · simp
      omega

/-- A member with a quoted name, between brackets without partners. -/
theorem definitions_written_quoted :
    let body : List Token :=
      [⟨.ident, "c", 25⟩, ⟨.punct, "(", 26⟩, ⟨.ident, "d", 27⟩, ⟨.punct, ")", 28⟩]
    let text : List Token :=
      [⟨.str, "'k'", 1⟩, ⟨.punct, ":", 4⟩] ++ ([⟨.ident, "async", 5⟩] ++ ⟨.ident, "function", 11⟩ ::
        ((⟨.punct, "(", 19⟩ :: ([⟨.ident, "a", 20⟩, ⟨.punct, ",", 21⟩, ⟨.ident, "b", 22⟩] ++
          [⟨.punct, ")", 23⟩])) ++ ⟨.punct, "\x7b", 24⟩ :: (body ++ [⟨.punct, "\x7d", 29⟩])))
    tokenize ")'k':async function(a,b)\x7bc(d)\x7d(" =
        [⟨.punct, ")", 0⟩] ++ text ++ [⟨.punct, "(", 30⟩] ∧
      Written "k" ["a", "b"] body [⟨.punct, ")", 0⟩] text [⟨.punct, "(", 30⟩] ∧
      ∃ f ∈ definitions ([⟨.punct, ")", 0⟩] ++ text ++ [⟨.punct, "(", 30⟩]),
        f.Tells "k" ["a", "b"] body 1 16 := by
  intro body text
  have listed : Listed ["a", "b"]
      [⟨.ident, "a", 20⟩, ⟨.punct, ",", 21⟩, ⟨.ident, "b", 22⟩] :=
    @Listed.more ⟨.ident, "a", 20⟩ _ _ _ rfl rfl (@Listed.last ⟨.ident, "b", 22⟩ rfl)
  have written : Written "k" ["a", "b"] body [⟨.punct, ")", 0⟩] text [⟨.punct, "(", 30⟩] :=
    .function (.mk (.inr (by decide)) (.inr (by decide))) (.word (by decide)) (by decide)
      (.mk (by decide) listed (by decide)) (.mk (by decide) rfl (by decide))
  refine ⟨?_, written, definitions_written written⟩
  unfold text body
  cbv

end Definition

end PlayerCipher
