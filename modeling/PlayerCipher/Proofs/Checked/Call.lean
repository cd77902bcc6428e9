import PlayerCipher.Driver.Call
import PlayerCipher.Proofs.Checked.Definition

/-! The checked walk over a body.
The walk jumps behind every function it meets and behind every helper call it reads. Each jump
lands inside the body or at its end, so that the walk moves on, ends and meets no fault. -/

namespace PlayerCipher

namespace Definition

theorem braced?_length {tokens head body : List Token}
    (found : braced? tokens = some (head, body)) :
    head.length + body.length + 4 ≤ tokens.length := by
  cases tokens with
  | nil => cases found
  | cons opener tokens =>
    rw [braced?] at found
    split_ifs at found
    cases first : Bracket.cut? tokens with
    | none =>
      rw [first] at found
      cases found
    | some outer =>
      have outerLength := congrArg List.length (Bracket.cut?_append first)
      rw [List.length_append, List.length_cons] at outerLength
      simp only [first, Option.bind_eq_bind, Option.bind_some] at found
      cases rest : outer.rest with
      | nil =>
        rw [rest] at found
        cases found
      | cons brace tokens' =>
        simp only [rest] at found
        split_ifs at found
        cases second : Bracket.cut? tokens' with
        | none =>
          rw [second] at found
          cases found
        | some block =>
          have blockLength := congrArg List.length (Bracket.cut?_append second)
          rw [List.length_append, List.length_cons] at blockLength
          rw [second] at found
          cases found
          rw [rest, List.length_cons] at outerLength
          rw [List.length_cons]
          omega

theorem shorthandParts?_braced {before after head body : List Token} {name : Token}
    (parts : shorthandParts? before name after = some (head, body)) :
    braced? after = some (head, body) := by
  unfold shorthandParts? at parts
  split_ifs at parts
  cases before with
  | nil => cases parts
  | cons last before =>
    dsimp only at parts
    split_ifs at parts
    exact parts

end Definition

namespace Call

variable {before after : List Token} {token : Token}

theorem nestedLength?_le {n : Nat} (found : nestedLength? before token after = some n) :
    n ≤ after.length := by
  unfold nestedLength? at found
  split_ifs at found with word arrow
  · obtain ⟨⟨head, body⟩, parts, rfl⟩ := Option.map_eq_some_iff.1 found
    have length := Definition.braced?_length parts
    rw [List.length_drop] at length
    dsimp only
    omega
  · cases after with
    | nil => cases found
    | cons brace tokens =>
      dsimp only at found
      split_ifs at found
      · obtain ⟨n, inside, rfl⟩ := Option.map_eq_some_iff.1 found
        have bound := Bracket.pairAt_bound tokens _ _ _ inside
        rw [List.length_cons]
        omega
      · cases found
        have bound := Statement.endFrom_le (brace :: tokens) 0 0
        rwa [Nat.zero_add] at bound
  · obtain ⟨⟨head, body⟩, parts, rfl⟩ := Option.map_eq_some_iff.1 found
    have length := Definition.braced?_length (Definition.shorthandParts?_braced parts)
    dsimp only
    omega

theorem callee?_append {callee : Callee} (found : callee? before token after = some callee) :
    ∃ near far bridge opener rest, before = near ++ far ∧ callee.lead = near.reverse ++ [token] ∧
      after = bridge ++ opener :: rest ∧ callee.bridge = bridge.length + 1 ∧
      opener.isMark "(" = true ∧ ∀ closer ∈ bridge, closer.isMark "]" = true := by
  unfold callee? at found
  split at found
  · cases after with
    | nil => cases found
    | cons opener rest =>
      dsimp only at found
      split_ifs at found with opens
      match before, found with
      | [], found =>
        cases found
        exact ⟨[], [], [], opener, rest, rfl, rfl, rfl, rfl, opens, by simp⟩
      | [last], found =>
        dsimp only at found
        split_ifs at found
        cases found
        exact ⟨[], [last], [], opener, rest, rfl, rfl, rfl, rfl, opens, by simp⟩
      | dot :: object :: before, found =>
        dsimp only at found
        split_ifs at found
        · cases found
          exact ⟨[dot, object], before, [], opener, rest, rfl, rfl, rfl, rfl, opens, by simp⟩
        · cases found
          exact ⟨[], dot :: object :: before, [], opener, rest, rfl, rfl, rfl, rfl, opens, by simp⟩
  · match before, after, found with
    | bracket :: object :: before, closer :: opener :: rest, found =>
      dsimp only at found
      split_ifs at found with marks
      obtain ⟨name, -, rfl⟩ := Option.map_eq_some_iff.1 found
      simp only [Bool.and_eq_true] at marks
      exact ⟨[bracket, object], before, [closer], opener, rest, rfl, rfl, rfl, rfl, marks.2,
        by simpa using marks.1.2⟩
  · cases found

end Call

namespace Checked

open Call (nestedLength? callee?)

def parenPass (tokens : List Token) (_ : Unit) (place : Nat) :
    Checked (Pass Unit (Option Nat)) := do
  let token ← get tokens place
  return if token.isMark "(" then .done (some place) else .next (place + 1) ()

def firstParen (tokens : List Token) (place : Nat) : Checked (Option Nat) :=
  loop tokens.length (parenPass tokens) (fun _ _ => none) () place

def skipWord (tokens : List Token) (place : Nat) : Checked (Option Nat) := do
  let some opener ← firstParen tokens place | return none
  let some parts ← braced tokens opener | return none
  return some (parts.stop + 1)

def skipArrow (tokens : List Token) (place : Nat) : Checked (Option Nat) := do
  let some brace := tokens[place + 1]? | return none
  if brace.isMark "\x7b" then
    let some block ← group tokens "\x7b" (place + 1) | return none
    return some (block.stop + 1)
  else
    let stop ← expressionStop tokens (place + 1)
    return some stop

def skipNested (tokens : List Token) (place : Nat) : Checked (Option Nat) := do
  let token ← get tokens place
  if token.spells "function" then skipWord tokens place
  else if token.isMark "=>" then skipArrow tokens place
  else
    let some parts ← methodParts tokens place | return none
    return some (parts.stop + 1)

/-- A callee: the name, and the places of the parenthesis and of the callee's first token. -/
structure Callee where
  name : String
  opener : Nat
  start : Nat

def precededBy (tokens : List Token) (test : Token → Bool) (place : Nat) : Checked Bool := do
  if 0 < place then
    let last ← get tokens (← sub place 1)
    return test last
  else return false

/-- Callee `name(` or `obj.name(`. -/
def wordCallee (tokens : List Token) (place : Nat) (token : Token) : Checked (Option Callee) := do
  let some opener := tokens[place + 1]? | return none
  if opener.isMark "(" then
    let dotted ← precededBy tokens (·.isMark ".") place
    let declared ← precededBy tokens (·.spells "function") place
    if 2 ≤ place ∧ dotted = true then
      let start ← sub place 2
      return some ⟨token.text, place + 1, start⟩
    else if declared then return none
    else return some ⟨token.text, place + 1, place⟩
  else return none

/-- Callee `obj["name"](`. -/
def keyCallee (tokens : List Token) (place : Nat) (token : Token) : Checked (Option Callee) := do
  if place < 2 then return none
  else
    let last ← get tokens (← sub place 1)
    let some closer := tokens[place + 1]? | return none
    let some opener := tokens[place + 2]? | return none
    if last.isMark "[" && closer.isMark "]" && opener.isMark "(" then
      let some name := token.contents? | return none
      let start ← sub place 2
      return some ⟨name, place + 2, start⟩
    else return none

def callee (tokens : List Token) (place : Nat) : Checked (Option Callee) := do
  let token ← get tokens place
  match token.kind with
  | .ident => wordCallee tokens place token
  | .str => keyCallee tokens place token
  | _ => return none

/-- Helper call between the first token of its callee and its closing parenthesis, with the place
just behind it. -/
def callFrom (kind : Operation.Kind) (tokens : List Token) (start opener : Nat) :
    Checked (Option (Call × Nat)) := do
  let some stop := Bracket.closerOf? tokens opener | return none
  let whole ← slice tokens start (stop + 1)
  let inside ← slice tokens (opener + 1) stop
  let parts ← statements inside
  return some (⟨kind, Token.render whole, Call.operationOfParts kind parts⟩, stop + 1)

def callAt (names : HelperNames) (tokens : List Token) (place : Nat) :
    Checked (Option (Call × Nat)) := do
  let some callee ← callee tokens place | return none
  let some kind := names.kindCalled? callee.name | return none
  callFrom kind tokens callee.start callee.opener

def callPass (names : HelperNames) (tokens : List Token) (found : List Call) (place : Nat) :
    Checked (Pass (List Call) (List Call)) := do
  match ← skipNested tokens place with
  | some behind => return .next (max behind (place + 1)) found
  | none =>
    match ← callAt names tokens place with
    | some (call, behind) => return .next behind (call :: found)
    | none => return .next (place + 1) found

def callsIn (names : HelperNames) (body : List Token) : Checked (List Call) :=
  loop body.length (callPass names body) (fun found _ => found.reverse) [] 0

variable {before after : List Token} {token : Token}

theorem firstParen_ok (after : List Token) :
    ∀ before, firstParen (before ++ after) before.length =
      .ok ((after.drop (after.takeWhile fun t => !t.isMark "(").length).head?.map fun _ =>
        before.length + (after.takeWhile fun t => !t.isMark "(").length) := by
  induction after with
  | nil =>
    intro before
    exact loop_finish (by simp)
  | cons token after ih =>
    intro before
    have inside : before.length < (before ++ token :: after).length := by
      simp
    have found : get (before ++ token :: after) before.length = .ok token := by
      apply get_ok
      simp
    have whole : before ++ token :: after = (before ++ [token]) ++ after := by
      simp
    by_cases opens : token.isMark "(" = true
    · have first : (token :: after).takeWhile (fun t => !t.isMark "(") = [] := by
        simp [opens]
      rw [first, firstParen]
      apply loop_done inside
      rw [parenPass, found, ok_bind, if_pos opens]
      rfl
    · have first : (token :: after).takeWhile (fun t => !t.isMark "(") =
          token :: after.takeWhile fun t => !t.isMark "(" := by
        simp [opens]
      have next := ih (before ++ [token])
      rw [← whole, List.length_append, List.length_singleton] at next
      have place : before.length + ((after.takeWhile fun t => !t.isMark "(").length + 1) =
          before.length + 1 + (after.takeWhile fun t => !t.isMark "(").length := by
        omega
      have step : parenPass (before ++ token :: after) () before.length =
          .ok (.next (before.length + 1) ()) := by
        rw [parenPass, found, ok_bind, if_neg opens]
        rfl
      rw [firstParen, loop_next inside step (Nat.lt_succ_self _), first, List.length_cons,
        List.drop_succ_cons, place]
      exact next

theorem skipWord_ok (other : token.isMark "(" = false) :
    skipWord (before.reverse ++ token :: after) before.length =
      .ok ((Definition.braced? (after.drop (after.takeWhile fun t => !t.isMark "(").length)).map
        fun (head, body) =>
          before.length + 1 + ((after.takeWhile fun t => !t.isMark "(").length + 1 +
            head.length + 2 + body.length + 1)) := by
  have paren := firstParen_ok (token :: after) before.reverse
  have lead : (token :: after).takeWhile (fun t => !t.isMark "(") =
      token :: after.takeWhile fun t => !t.isMark "(" := by
    simp [other]
  have short : (after.takeWhile fun t => !t.isMark "(").length ≤ after.length :=
    (List.takeWhile_sublist _).length_le
  rw [lead, List.length_cons, List.drop_succ_cons, List.length_reverse] at paren
  generalize (after.takeWhile fun t => !t.isMark "(").length = ahead at paren short ⊢
  have whole : before.reverse ++ token :: after =
      (before.reverse ++ token :: after.take ahead) ++ after.drop ahead := by
    simp
  have length : (before.reverse ++ token :: after.take ahead).length =
      before.length + (ahead + 1) := by
    simp [short]
  have parts := @braced_ok (before.reverse ++ token :: after.take ahead) (after.drop ahead)
  rw [← whole, length] at parts
  rw [skipWord, paren, ok_bind]
  cases rest : after.drop ahead with
  | nil => rfl
  | cons opener rest' =>
    rw [rest] at parts
    simp only [List.head?_cons, Option.map_some, parts, ok_bind]
    cases Definition.braced? (opener :: rest') with
    | none => rfl
    | some pair =>
      have place : before.length + (ahead + 1) + 1 + pair.1.length + 2 + pair.2.length + 1 =
          before.length + 1 + (ahead + 1 + pair.1.length + 2 + pair.2.length + 1) := by
        omega
      exact congrArg (Except.ok ∘ some) place

theorem skipArrow_ok :
    skipArrow (before.reverse ++ token :: after) before.length =
      .ok (match after with
        | [] => none
        | brace :: tokens =>
          if brace.isMark "\x7b" then
            (Bracket.inside? tokens).map fun n => before.length + 1 + (1 + n + 1)
          else some (before.length + 1 + Statement.expressionLength after)) := by
  have next := @getElem?_behind before after token 0
  have whole : before.reverse ++ token :: after = (before.reverse ++ [token]) ++ after := by
    simp
  have length : (before.reverse ++ [token]).length = before.length + 1 := by
    simp
  rw [Nat.add_zero] at next
  unfold skipArrow
  rw [next]
  cases after with
  | nil => rfl
  | cons brace tokens =>
    dsimp only [List.getElem?_cons_zero]
    split_ifs with opens
    · have block := @group_ok (before.reverse ++ [token]) (brace :: tokens) "\x7b" (.inr rfl)
      rw [← whole, length] at block
      dsimp only at block
      rw [block, if_pos opens, ok_bind, Bracket.inside?_eq]
      cases Bracket.cut? tokens with
      | none => rfl
      | some cut =>
        have place : before.length + 1 + 1 + cut.inner.length + 1 =
            before.length + 1 + (1 + cut.inner.length + 1) := by
          omega
        exact congrArg (Except.ok ∘ some) place
    · have stop := Statement.expressionStop_append (before.reverse ++ [token]) (brace :: tokens)
      rw [← whole, length] at stop
      rw [expressionStop_ok, stop]
      rfl

theorem skipNested_ok :
    skipNested (before.reverse ++ token :: after) before.length =
      .ok ((nestedLength? before token after).map (before.length + 1 + ·)) := by
  unfold skipNested nestedLength?
  rw [get_here, ok_bind]
  split_ifs with word arrow
  · have other : token.isMark "(" = false := by
      rw [Token.spells_iff] at word
      simp [Token.isMark, word.1]
    rw [skipWord_ok other, Option.map_map]
    rfl
  · rw [skipArrow_ok]
    cases after with
    | nil => rfl
    | cons brace tokens =>
      dsimp only
      split_ifs
      · rw [Option.map_map]
        rfl
      · rfl
  · rw [methodParts_ok, ok_bind]
    cases Definition.shorthandParts? before token after with
    | none => rfl
    | some parts =>
      have place : before.length + 1 + 1 + parts.1.length + 2 + parts.2.length + 1 =
          before.length + 1 + (1 + parts.1.length + 2 + parts.2.length + 1) := by
        omega
      exact congrArg (Except.ok ∘ some) place

theorem precededBy_ok {last : Token} {test : Token → Bool} :
    precededBy ((last :: before).reverse ++ after) test (last :: before).length =
      .ok (test last) := by
  have back : sub (last :: before).length 1 = .ok before.length := sub_ok rfl
  have found : get ((last :: before).reverse ++ after) before.length = .ok last := get_last
  have some : 0 < (last :: before).length := Nat.succ_pos _
  rw [precededBy, if_pos some, back, ok_bind, found]
  rfl

theorem wordCallee_ok (kind : token.kind = .ident) :
    wordCallee (before.reverse ++ token :: after) before.length token =
      .ok ((callee? before token after).map fun callee =>
        ⟨callee.name, before.length + callee.bridge, before.length + 1 - callee.lead.length⟩) := by
  have next := @getElem?_behind before after token 0
  rw [Nat.add_zero] at next
  unfold wordCallee callee?
  rw [next, kind]
  cases after with
  | nil => rfl
  | cons opener rest =>
    dsimp only [List.getElem?_cons_zero]
    split_ifs with opens
    · match before with
      | [] => rfl
      | [last] =>
        have near : ¬ (2 ≤ [last].length ∧ last.isMark "." = true) := by
          simp
        rw [precededBy_ok, ok_bind, precededBy_ok, ok_bind, if_neg near]
        dsimp only
        by_cases declared : last.spells "function" = true
        · rw [if_pos declared, if_pos declared]
          rfl
        · rw [if_neg declared, if_neg declared]
          rfl
      | dot :: object :: before =>
        have back : sub (dot :: object :: before).length 2 = .ok before.length := sub_ok rfl
        have far : 2 ≤ (dot :: object :: before).length := Nat.le_add_left _ _
        rw [precededBy_ok, ok_bind, precededBy_ok, ok_bind]
        dsimp only
        by_cases dotted : dot.isMark "." = true
        · rw [if_pos ⟨far, dotted⟩, if_pos dotted, back]
          rfl
        · rw [if_neg fun both => dotted both.2, if_neg dotted]
          by_cases declared : dot.spells "function" = true
          · rw [if_pos declared, if_pos declared]
            rfl
          · rw [if_neg declared, if_neg declared]
            rfl
    · rfl

theorem keyCallee_ok (kind : token.kind = .str) :
    keyCallee (before.reverse ++ token :: after) before.length token =
      .ok ((callee? before token after).map fun callee =>
        ⟨callee.name, before.length + callee.bridge, before.length + 1 - callee.lead.length⟩) := by
  have next := @getElem?_behind before after token 0
  have second := @getElem?_behind before after token 1
  rw [Nat.add_zero] at next
  unfold keyCallee callee?
  rw [kind]
  match before with
  | [] => rfl
  | [_] => rfl
  | last :: object :: before =>
    have far : ¬ (last :: object :: before).length < 2 := by
      simp
    have found : get ((last :: object :: before).reverse ++ token :: after) (before.length + 1) =
        .ok last := get_last
    have back : sub (last :: object :: before).length 1 = .ok (before.length + 1) := sub_ok rfl
    have start : sub (last :: object :: before).length 2 = .ok before.length := sub_ok rfl
    rw [if_neg far, back, ok_bind, found, ok_bind, next]
    match after with
    | [] => rfl
    | [closer] =>
      rw [second]
      rfl
    | closer :: opener :: rest =>
      rw [second, start]
      dsimp only [List.getElem?_cons_zero, List.getElem?_cons_succ]
      split_ifs
      · cases token.contents? <;> rfl
      · rfl

theorem callee_ok :
    callee (before.reverse ++ token :: after) before.length =
      .ok ((callee? before token after).map fun callee =>
        ⟨callee.name, before.length + callee.bridge, before.length + 1 - callee.lead.length⟩) := by
  unfold callee
  rw [get_here, ok_bind]
  cases kind : token.kind with
  | ident => exact wordCallee_ok kind
  | str => exact keyCallee_ok kind
  | _ =>
    unfold callee?
    rw [kind]
    rfl

theorem callFrom_ok {kind : Operation.Kind} {front lead rest : List Token} {opener : Token}
    (is : opener.isMark "(" = true) :
    callFrom kind (front ++ lead ++ opener :: rest) front.length (front ++ lead).length =
      .ok ((Bracket.cut? rest).map fun cut =>
        (⟨kind, Token.render (lead ++ opener :: (cut.inner ++ [cut.closer])),
          Call.operationOf kind cut.inner⟩,
          (front ++ lead).length + 1 + cut.inner.length + 1)) := by
  rw [callFrom, Bracket.closerOf?_append (opens_of_isMark (.inl rfl) is)]
  cases found : Bracket.cut? rest with
  | none => rfl
  | some cut =>
    have parts := Bracket.cut?_append found
    have whole : slice (front ++ lead ++ opener :: rest) front.length
        ((front ++ lead).length + 1 + cut.inner.length + 1) =
          .ok (lead ++ opener :: (cut.inner ++ [cut.closer])) := by
      apply @slice_ok _ _ front _ cut.rest
      · simp [← parts]
      · rfl
      · simp only [List.length_append, List.length_cons, List.length_nil]
        omega
    have inside : slice (front ++ lead ++ opener :: rest) ((front ++ lead).length + 1)
        ((front ++ lead).length + 1 + cut.inner.length) = .ok cut.inner := by
      apply @slice_ok _ _ (front ++ lead ++ [opener]) _ (cut.closer :: cut.rest)
      · simp [← parts]
      · simp only [List.length_append, List.length_cons, List.length_nil]
      · simp only [List.length_append, List.length_cons, List.length_nil]
    simp only [Option.map_some, whole, inside, ok_bind, statements_ok]
    rfl

theorem take_call {bridge rest : List Token} {opener : Token} {cut : Bracket.Cut}
    (parts : cut.inner ++ cut.closer :: cut.rest = rest) :
    (bridge ++ opener :: rest).take (bridge.length + 1 + cut.inner.length + 1) =
      bridge ++ opener :: (cut.inner ++ [cut.closer]) := by
  have whole : bridge ++ opener :: rest =
      (bridge ++ opener :: (cut.inner ++ [cut.closer])) ++ cut.rest := by
    simp [← parts]
  rw [whole]
  apply List.take_left'
  simp only [List.length_append, List.length_cons, List.length_nil]
  omega

theorem callAt_ok (names : HelperNames) :
    callAt names (before.reverse ++ token :: after) before.length =
      .ok ((Call.at? names before token after).map fun (call, n) =>
        (call, before.length + 1 + n)) := by
  rw [callAt, callee_ok, ok_bind, Call.at?]
  cases found : callee? before token after with
  | none => rfl
  | some callee =>
    obtain ⟨near, far, bridge, opener, rest, rfl, lead, rfl, length, is, -⟩ :=
      Call.callee?_append found
    simp only [Option.map_some, Option.bind_eq_bind, Option.bind_some]
    cases names.kindCalled? callee.name with
    | none => rfl
    | some kind =>
      have whole : (near ++ far).reverse ++ token :: (bridge ++ opener :: rest) =
          far.reverse ++ (callee.lead ++ bridge) ++ opener :: rest := by
        simp [lead]
      have start : (near ++ far).length + 1 - callee.lead.length = far.reverse.length := by
        simp [lead]
      have place : (near ++ far).length + callee.bridge =
          (far.reverse ++ (callee.lead ++ bridge)).length := by
        simp only [length, lead, List.length_append, List.length_reverse, List.length_singleton]
        omega
      have behind : (bridge ++ opener :: rest).drop callee.bridge = rest := by
        simp [length]
      dsimp only
      rw [whole, start, place, behind, callFrom_ok is, Bracket.inside?_eq, Option.bind_some]
      cases found : Bracket.cut? rest with
      | none => rfl
      | some cut =>
        have parts := Bracket.cut?_append found
        have inside : rest.take cut.inner.length = cut.inner := by
          rw [← parts, List.take_left]
        have next : (far.reverse ++ (callee.lead ++ bridge)).length + 1 + cut.inner.length + 1 =
            (near ++ far).length + 1 + (bridge.length + 1 + cut.inner.length + 1) := by
          rw [← place, length]
          omega
        simp only [Option.map_some, Option.bind_some, length, take_call parts, inside, next,
          List.append_assoc]

theorem at?_le {names : HelperNames} {call : Call} {n : Nat}
    (found : Call.at? names before token after = some (call, n)) : n ≤ after.length := by
  rw [Call.at?] at found
  obtain ⟨callee, -, found⟩ := Option.bind_eq_some_iff.1 found
  obtain ⟨kind, -, found⟩ := Option.bind_eq_some_iff.1 found
  obtain ⟨inside, pair, found⟩ := Option.bind_eq_some_iff.1 found
  have bound := Bracket.pairAt_bound _ _ _ _ pair
  rw [List.length_drop] at bound
  cases found
  omega

theorem callPass_ok (names : HelperNames) (found : List Call) :
    callPass names (before.reverse ++ token :: after) found before.length =
      .ok (match nestedLength? before token after with
        | some n => .next (before.length + 1 + n) found
        | none =>
          match Call.at? names before token after with
          | some (call, n) => .next (before.length + 1 + n) (call :: found)
          | none => .next (before.length + 1) found) := by
  rw [callPass, skipNested_ok, ok_bind]
  cases nestedLength? before token after with
  | some n =>
    have further : max (before.length + 1 + n) (before.length + 1) = before.length + 1 + n :=
      Nat.max_eq_left (Nat.le_add_right _ _)
    simp only [Option.map_some, further]
    rfl
  | none =>
    simp only [Option.map_none, callAt_ok, ok_bind]
    cases Call.at? names before token after <;> rfl

theorem jump_append (before : List Token) (token : Token) (after : List Token) (n : Nat) :
    before.reverse ++ token :: after =
      ((after.take n).reverse ++ token :: before).reverse ++ after.drop n := by
  simp

theorem jump_length {n : Nat} (inside : n ≤ after.length) :
    ((after.take n).reverse ++ token :: before).length = before.length + 1 + n := by
  simp only [List.length_append, List.length_reverse, List.length_take, List.length_cons,
    Nat.min_eq_left inside]
  omega

theorem callsIn_loop (names : HelperNames) (found : List Call) (before after : List Token) :
    loop (before.reverse ++ after).length (callPass names (before.reverse ++ after))
      (fun found _ => found.reverse) found before.length =
        .ok (Call.scan names found before after) := by
  fun_induction Call.scan names found before after with
  | case1 found before =>
    apply loop_finish
    simp
  | case2 found before token after n nested ih =>
    have inside : before.length < (before.reverse ++ token :: after).length := by
      simp
    have pass := @callPass_ok before after token names found
    rw [nested] at pass
    rw [loop_next inside pass (by omega), ← jump_length (Call.nestedLength?_le nested),
      jump_append before token after n]
    exact ih
  | case3 found before token after nested call n called ih =>
    have inside : before.length < (before.reverse ++ token :: after).length := by
      simp
    have pass := @callPass_ok before after token names found
    rw [nested, called] at pass
    rw [loop_next inside pass (by omega), ← jump_length (at?_le called),
      jump_append before token after n]
    exact ih
  | case4 found before token after nested called ih =>
    have inside : before.length < (before.reverse ++ token :: after).length := by
      simp
    have whole : before.reverse ++ token :: after = (token :: before).reverse ++ after := by
      simp
    have pass := @callPass_ok before after token names found
    rw [nested, called] at pass
    rw [loop_next inside pass (Nat.lt_succ_self _), whole]
    exact ih

theorem callsIn_ok (names : HelperNames) (body : List Token) :
    callsIn names body = .ok (PlayerCipher.callsIn names body) :=
  callsIn_loop names [] [] body

end Checked

end PlayerCipher
