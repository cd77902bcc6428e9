import PlayerCipher.Proofs.Checked.Bracket

/-! The checked search for functions.
Each form of definition is looked for around one place of the run: the tokens just before it, the
name's place, the parentheses and the body. A run with missing or crossed brackets gives no
definition there, and no fault. -/

namespace PlayerCipher

namespace Checked

open Definition

def assignedName (tokens : List Token) (start : Nat) : Checked (Option String) := do
  if start < 2 then return none
  else
    let op ← get tokens (← sub start 1)
    if op.isMark "=" || op.isMark ":" then
      let target ← get tokens (← sub start 2)
      match target.kind with
      | .ident => return if target.isIdentifier then some target.text else none
      | .str => return target.contents?
      | _ => return none
    else return none

/-- First place of a definition, when `async` may stand before `start`. -/
def asyncStart (tokens : List Token) (start : Nat) : Checked Nat := do
  if 0 < start then
    let place ← sub start 1
    let word ← get tokens place
    return if word.spells "async" then place else start
  else return start

structure Parts where
  head : List Token
  body : List Token
  bodyStart : Nat
  stop : Nat

def braced (tokens : List Token) (place : Nat) : Checked (Option Parts) := do
  let some head ← group tokens "(" place | return none
  let some block ← group tokens "\x7b" (head.stop + 1) | return none
  return some ⟨head.inner, block.inner, head.stop + 2, block.stop⟩

def keywordName (tokens : List Token) (start behind : Nat) (second : Token) :
    Checked (Option String × Nat) := do
  if second.isIdentifier then
    let word ← get tokens (← sub (behind + 1) 1)
    return (some word.text, behind + 1)
  else
    let name ← assignedName tokens start
    return (name, behind)

def keywordFrom (tokens : List Token) (start behind : Nat) : Checked (Option Definition) := do
  let some second := tokens[behind]? | return none
  let (name, opener) ← keywordName tokens start behind second
  let some parts ← braced tokens opener | return none
  let some params := parameters? parts.head | return none
  let first ← get tokens start
  return some ⟨name, params, parts.body, parts.bodyStart, first.offset⟩

def keywordDefinition (tokens : List Token) (place : Nat) : Checked (Option Definition) := do
  let some next := tokens[place + 1]? | return none
  let start ← asyncStart tokens place
  keywordFrom tokens start (if next.isMark "*" then place + 2 else place + 1)

/-- Parameters of an arrow whose head ends at `stop`, with the place where the head starts. -/
def arrowHead (tokens : List Token) (stop : Nat) : Checked (Option (List String × Nat)) := do
  let last ← get tokens stop
  if last.isMark ")" then
    let some opener ← openerOf? tokens stop | return none
    let inner ← slice tokens (opener + 1) stop
    let some params := parameters? inner | return none
    return some (params, opener)
  else if last.isIdentifier then return some ([last.text], stop)
  else return none

def arrowBody (tokens : List Token) (start : Nat) : Checked (Option (List Token × Nat)) := do
  let some token := tokens[start]? | return none
  if token.isMark "\x7b" then
    let some block ← group tokens "\x7b" start | return none
    return some (block.inner, start + 1)
  else
    let stop ← expressionStop tokens start
    let body ← slice tokens start stop
    return some (body, start)

def arrowDefinition (tokens : List Token) (place : Nat) : Checked (Option Definition) := do
  if place = 0 then return none
  else
    let some (params, opener) ← arrowHead tokens (← sub place 1) | return none
    let start ← asyncStart tokens opener
    let name ← assignedName tokens start
    let some (body, bodyStart) ← arrowBody tokens (place + 1) | return none
    let first ← get tokens start
    return some ⟨name, params, body, bodyStart, first.offset⟩

def methodParts (tokens : List Token) (place : Nat) : Checked (Option Parts) := do
  let name ← get tokens place
  if name.kind = .ident ∧ name.text ∉ statementWords then
    if place = 0 then return none
    else
      let last ← get tokens (← sub place 1)
      if last.isMark "\x7b" || last.isMark "," then braced tokens (place + 1) else return none
  else return none

def methodDefinition (tokens : List Token) (place : Nat) : Checked (Option Definition) := do
  let some parts ← methodParts tokens place | return none
  let some params := parameters? parts.head | return none
  let name ← get tokens place
  return some ⟨some name.text, params, parts.body, parts.bodyStart, name.offset⟩

def definitionPass (tokens : List Token) (found : List Definition) (place : Nat) :
    Checked (Pass (List Definition) (List Definition)) := do
  let token ← get tokens place
  let definition ←
    if token.spells "function" then keywordDefinition tokens place
    else if token.isMark "=>" then arrowDefinition tokens place
    else methodDefinition tokens place
  return .next (place + 1) (definition.toList ++ found)

def definitions (tokens : List Token) : Checked (List Definition) :=
  loop tokens.length (definitionPass tokens)
    (fun found _ => found.reverse.mergeSort fun f g => f.offset ≤ g.offset) [] 0

variable {before after : List Token}

theorem get_before {token : Token} {n place : Nat} (here : before[n]? = some token)
    (sum : before.length = place + (n + 1)) :
    get (before.reverse ++ after) place = .ok token := by
  have inside : place < before.length := by
    omega
  have mirrored : before.length - 1 - place = n := by
    omega
  apply get_ok
  rw [List.getElem?_append_left (by rwa [List.length_reverse]), List.getElem?_reverse inside,
    mirrored, here]

theorem get_last {last : Token} :
    get ((last :: before).reverse ++ after) before.length = .ok last :=
  @get_before (last :: before) after last 0 before.length rfl rfl

theorem get_here {token : Token} :
    get (before.reverse ++ token :: after) before.length = .ok token := by
  apply get_ok
  rw [← List.length_reverse, List.getElem?_append_right (Nat.le_refl _), Nat.sub_self]
  rfl

theorem assignedName_ok :
    assignedName (before.reverse ++ after) before.length = .ok (nameBefore? before) := by
  unfold assignedName
  match before with
  | [] => rfl
  | [_] => rfl
  | op :: target :: before =>
    have far : ¬ (op :: target :: before).length < 2 := by
      simp
    have first : get ((op :: target :: before).reverse ++ after) (before.length + 1) = .ok op := get_last
    have second : get ((op :: target :: before).reverse ++ after) before.length = .ok target :=
      @get_before (op :: target :: before) after target 1 before.length rfl rfl
    have back : sub (op :: target :: before).length 1 = .ok (before.length + 1) := sub_ok rfl
    have further : sub (op :: target :: before).length 2 = .ok before.length := sub_ok rfl
    rw [if_neg far, back, ok_bind, first, ok_bind, further, ok_bind, second, nameBefore?]
    by_cases gives : (op.isMark "=" || op.isMark ":") = true
    · rw [if_pos gives, if_pos gives, ok_bind]
      cases target.kind <;> rfl
    · rw [if_neg gives, if_neg gives]
      rfl

theorem asyncStart_ok {first : Token} :
    asyncStart (before.reverse ++ first :: after) before.length =
      .ok (withAsync first before).2.length := by
  unfold asyncStart
  cases before with
  | nil => rfl
  | cons word before =>
    have last : get ((word :: before).reverse ++ first :: after) before.length = .ok word := get_last
    have back : sub (word :: before).length 1 = .ok before.length := sub_ok rfl
    have some : 0 < (word :: before).length := Nat.succ_pos _
    rw [if_pos some, back, ok_bind, last, ok_bind, withAsync]
    split_ifs <;> rfl

theorem withAsync_append (first : Token) (before after : List Token) :
    ∃ after', before.reverse ++ first :: after =
      (withAsync first before).2.reverse ++ (withAsync first before).1 :: after' := by
  cases before with
  | nil => exact ⟨after, rfl⟩
  | cons word before =>
    rw [withAsync]
    split_ifs
    · exact ⟨first :: after, by simp⟩
    · exact ⟨after, rfl⟩

theorem braced_ok {rest : List Token} :
    braced (before ++ rest) before.length =
      .ok ((braced? rest).map fun (head, body) =>
        ⟨head, body, before.length + 1 + head.length + 2,
          before.length + 1 + head.length + 2 + body.length⟩) := by
  rw [braced, group_ok (.inl rfl)]
  cases rest with
  | nil => rfl
  | cons opener rest =>
    rw [braced?]
    dsimp only
    split_ifs with opens
    · cases head : Bracket.cut? rest with
      | none => rfl
      | some cut =>
        have parts := Bracket.cut?_append head
        have whole : before ++ opener :: rest =
            (before ++ opener :: (cut.inner ++ [cut.closer])) ++ cut.rest := by
          rw [← parts]
          simp
        have length : (before ++ opener :: (cut.inner ++ [cut.closer])).length =
            before.length + 1 + cut.inner.length + 1 := by
          simp
          omega
        have block := @group_ok (before ++ opener :: (cut.inner ++ [cut.closer])) cut.rest "\x7b"
          (.inr rfl)
        rw [← whole, length] at block
        simp only [Option.map_some, ok_bind, block, Option.bind_eq_bind, Option.bind_some]
        cases cut.rest with
        | nil => rfl
        | cons brace tokens =>
          dsimp only
          split_ifs
          · cases Bracket.cut? tokens with
            | none => rfl
            | some body => rfl
          · rfl
    · rfl

theorem keywordName_ok {front : List Token} {first second : Token} {rest rest' : List Token}
    (place : before.reverse ++ first :: rest = front ++ second :: rest') :
    keywordName (before.reverse ++ first :: rest) before.length front.length second =
      .ok ((Definition.keywordName before (second :: rest')).1,
        front.length + (Definition.keywordName before (second :: rest')).2.1) := by
  unfold keywordName
  rw [Definition.keywordName]
  split_ifs
  · have back : sub (front.length + 1) 1 = .ok front.length := sub_ok rfl
    have found : get (before.reverse ++ first :: rest) front.length = .ok second := by
      apply get_ok
      rw [place]
      simp
    rw [back, ok_bind, found]
    rfl
  · rw [assignedName_ok]
    rfl

theorem keywordName_append (before after : List Token) :
    ∃ named, after = named ++ (Definition.keywordName before after).2.2 ∧
      named.length = (Definition.keywordName before after).2.1 ∧
        ∀ token ∈ named, token.isIdentifier = true := by
  cases after with
  | nil => exact ⟨[], rfl, rfl, by simp⟩
  | cons token after =>
    rw [Definition.keywordName]
    split_ifs with identifier
    · exact ⟨[token], rfl, rfl, by simpa using identifier⟩
    · exact ⟨[], rfl, rfl, by simp⟩

theorem keywordFrom_ok {front behind : List Token} {first : Token} {rest : List Token}
    (place : before.reverse ++ first :: rest = front ++ behind) :
    keywordFrom (before.reverse ++ first :: rest) before.length front.length =
      .ok (do
        let (name, named, after) := Definition.keywordName before behind
        let (head, body) ← braced? after
        let params ← parameters? head
        some ⟨name, params, body, front.length + named + 1 + head.length + 2, first.offset⟩) := by
  unfold keywordFrom
  cases behind with
  | nil =>
    have outside : (before.reverse ++ first :: rest)[front.length]? = none := by
      rw [place, List.append_nil, List.getElem?_length]
    rw [outside]
    rfl
  | cons second behind =>
    have found : (before.reverse ++ first :: rest)[front.length]? = some second := by
      rw [place]
      simp
    obtain ⟨lead, split, length, -⟩ := keywordName_append before (second :: behind)
    rw [found]
    dsimp only
    rw [keywordName_ok place, ok_bind]
    generalize Definition.keywordName before (second :: behind) = result at split length ⊢
    obtain ⟨name, named, after⟩ := result
    dsimp only at split length ⊢
    have parts := @braced_ok (front ++ lead) after
    rw [List.append_assoc, ← split, ← place, List.length_append, length] at parts
    rw [parts, ok_bind]
    cases braced? after with
    | none => rfl
    | some pair =>
      simp only [Option.map_some, Option.bind_eq_bind, Option.bind_some]
      cases parameters? pair.1 with
      | none => rfl
      | some params =>
        simp only [get_here, ok_bind]
        rfl

theorem getElem?_behind {token : Token} (n : Nat) :
    (before.reverse ++ token :: after)[before.length + 1 + n]? = after[n]? := by
  have far : before.reverse.length ≤ before.length + 1 + n := by
    rw [List.length_reverse]
    omega
  have distance : before.length + 1 + n - before.reverse.length = n + 1 := by
    rw [List.length_reverse]
    omega
  rw [List.getElem?_append_right far, distance, List.getElem?_cons_succ]

theorem keywordDefinition_ok {word : Token} :
    keywordDefinition (before.reverse ++ word :: after) before.length =
      .ok (ofKeyword? before before.length word after) := by
  have next := @getElem?_behind before after word 0
  rw [Nat.add_zero] at next
  unfold keywordDefinition ofKeyword?
  rw [next]
  cases after with
  | nil => rfl
  | cons token after =>
    obtain ⟨after', place⟩ := withAsync_append word before (token :: after)
    rw [List.getElem?_cons_zero]
    dsimp only
    rw [asyncStart_ok, ok_bind, place, afterStar]
    split_ifs
    · have whole : before.reverse ++ word :: token :: after =
          (before.reverse ++ [word, token]) ++ after := by
        simp
      have behind := keywordFrom_ok (place.symm.trans whole)
      have length : (before.reverse ++ [word, token]).length = before.length + 2 := by
        simp
      rw [length] at behind
      exact behind
    · have whole : before.reverse ++ word :: token :: after =
          (before.reverse ++ [word]) ++ token :: after := by
        simp
      have behind := keywordFrom_ok (place.symm.trans whole)
      have length : (before.reverse ++ [word]).length = before.length + 1 := by
        simp
      rw [length] at behind
      exact behind

theorem openDistance?_append {last : Token} {distance : Nat} (closes : last.isMark ")" = true)
    (found : Bracket.openDistance? (last :: before) = some distance) :
    ∃ inner opener before', before = inner ++ opener :: before' ∧ distance = inner.length + 1 := by
  have up : last.closes = true := by
    rw [Token.isMark_iff] at closes
    simp [Token.closes, closes.1, closes.2]
  simp only [Bracket.openDistance?, Bracket.pairAt, if_pos up] at found
  have bound := Bracket.pairAt_bound before _ _ _ found
  have inside : distance - 1 < before.length := by
    omega
  refine ⟨before.take (distance - 1), before[distance - 1], before.drop (distance - 1 + 1), ?_, ?_⟩
  · rw [← List.drop_eq_getElem_cons inside, List.take_append_drop]
  · rw [List.length_take]
    omega

theorem arrowHead_ok {last : Token} :
    arrowHead (before.reverse ++ last :: after) before.length =
      .ok ((arrowHead? (last :: before)).map fun (params, _, before') =>
        (params, before'.length)) := by
  rw [arrowHead, arrowHead?, get_here, ok_bind]
  split_ifs with closes
  · rw [openerOf?_ok, ok_bind]
    cases found : Bracket.openDistance? (last :: before) with
    | none => rfl
    | some distance =>
      obtain ⟨inner, opener, before', rfl, rfl⟩ := openDistance?_append closes found
      have place : (inner ++ opener :: before').length - (inner.length + 1) = before'.length := by
        rw [List.length_append, List.length_cons]
        omega
      have whole : (inner ++ opener :: before').reverse ++ last :: after =
          (before'.reverse ++ [opener]) ++ inner.reverse ++ (last :: after) := by
        simp
      have between : slice ((inner ++ opener :: before').reverse ++ last :: after)
          (before'.length + 1) (inner ++ opener :: before').length = .ok inner.reverse := by
        apply slice_ok whole
        · simp
        · simp
          omega
      simp only [Option.map_some, place, between, ok_bind, Nat.add_sub_cancel, List.take_left,
        List.drop_left, Option.bind_eq_bind, Option.bind_some]
      cases parameters? inner.reverse <;> rfl
  · rfl
  · rfl

theorem arrowHead?_append {last opener : Token} {params : List String} {before' : List Token}
    (found : arrowHead? (last :: before) = some (params, opener, before')) (after : List Token) :
    ∃ after', before.reverse ++ last :: after = before'.reverse ++ opener :: after' := by
  rw [arrowHead?] at found
  split_ifs at found with closes
  · cases place : Bracket.openDistance? (last :: before) with
    | none =>
      rw [place] at found
      cases found
    | some distance =>
      obtain ⟨inner, opener', before'', rfl, rfl⟩ := openDistance?_append closes place
      simp only [place, Nat.add_sub_cancel, List.take_left, List.drop_left, Option.bind_eq_bind,
        Option.bind_some] at found
      cases read : parameters? inner.reverse with
      | none =>
        rw [read] at found
        cases found
      | some params =>
        rw [read] at found
        cases found
        exact ⟨inner.reverse ++ last :: after, by simp⟩
  · cases found
    exact ⟨after, rfl⟩

theorem arrowBody_ok {front : List Token} :
    arrowBody (front ++ after) front.length =
      .ok (match after with
        | [] => none
        | token :: tokens =>
          if token.isMark "\x7b" then
            (Bracket.cut? tokens).map fun block => (block.inner, front.length + 1)
          else some (after.take (Statement.expressionLength after), front.length)) := by
  unfold arrowBody
  cases after with
  | nil => simp
  | cons token after =>
    have found : (front ++ token :: after)[front.length]? = some token := by
      simp
    rw [found]
    dsimp only
    split_ifs with opens
    · rw [group_ok (.inr rfl)]
      dsimp only
      rw [if_pos opens]
      cases Bracket.cut? after <;> rfl
    · have length := Statement.endFrom_le (token :: after) 0 0
      have body : slice (front ++ token :: after) front.length
          (front.length + Statement.expressionLength (token :: after)) =
            .ok ((token :: after).take (Statement.expressionLength (token :: after))) := by
        apply slice_ok _ rfl
        · rw [List.length_take, Statement.expressionLength]
          omega
        · exact (token :: after).drop (Statement.expressionLength (token :: after))
        · rw [List.append_assoc, List.take_append_drop]
      rw [expressionStop_ok, Statement.expressionStop_append, ok_bind, body]
      rfl

theorem arrowDefinition_ok {arrow : Token} :
    arrowDefinition (before.reverse ++ arrow :: after) before.length =
      .ok (ofArrow? before before.length after) := by
  unfold arrowDefinition ofArrow?
  cases before with
  | nil => rfl
  | cons last before =>
    have whole : (last :: before).reverse ++ arrow :: after =
        before.reverse ++ last :: arrow :: after := by
      simp
    have back : sub (last :: before).length 1 = .ok before.length := sub_ok rfl
    have head := @arrowHead_ok before (arrow :: after) last
    have some : ¬ (last :: before).length = 0 := Nat.succ_ne_zero _
    rw [← whole] at head
    rw [if_neg some, back, ok_bind, head, ok_bind]
    cases found : arrowHead? (last :: before) with
    | none => rfl
    | some parts =>
      obtain ⟨params, opener, before'⟩ := parts
      obtain ⟨after', place⟩ := arrowHead?_append found (arrow :: after)
      obtain ⟨after'', start⟩ := withAsync_append opener before' after'
      have front : (last :: before).reverse ++ arrow :: after =
          ((last :: before).reverse ++ [arrow]) ++ after := by
        simp
      have length : ((last :: before).reverse ++ [arrow]).length = (last :: before).length + 1 := by
        simp
      have body := @arrowBody_ok after ((last :: before).reverse ++ [arrow])
      rw [← front, length] at body
      simp only [Option.map_some, Option.bind_eq_bind, Option.bind_some, body, ok_bind]
      rw [whole, place, asyncStart_ok, ok_bind, start, assignedName_ok, ok_bind, get_here]
      cases after with
      | nil => rfl
      | cons token after =>
        dsimp only
        split_ifs
        · cases Bracket.cut? after <;> rfl
        · rfl

theorem methodParts_ok {name : Token} :
    methodParts (before.reverse ++ name :: after) before.length =
      .ok ((shorthandParts? before name after).map fun (head, body) =>
        ⟨head, body, before.length + 1 + 1 + head.length + 2,
          before.length + 1 + 1 + head.length + 2 + body.length⟩) := by
  rw [methodParts, get_here, ok_bind]
  unfold shorthandParts?
  split_ifs with named start
  · rw [List.eq_nil_of_length_eq_zero start]
    rfl
  · cases before with
    | nil => exact absurd rfl start
    | cons last before =>
      have back : sub (last :: before).length 1 = .ok before.length := sub_ok rfl
      have found : get ((last :: before).reverse ++ name :: after) before.length = .ok last := get_last
      have front : (last :: before).reverse ++ name :: after =
          ((last :: before).reverse ++ [name]) ++ after := by
        simp
      have length : ((last :: before).reverse ++ [name]).length = (last :: before).length + 1 := by
        simp
      have parts := @braced_ok ((last :: before).reverse ++ [name]) after
      rw [← front, length] at parts
      rw [back, ok_bind, found, ok_bind, parts]
      dsimp only
      split_ifs <;> rfl
  · rfl

theorem methodDefinition_ok {name : Token} :
    methodDefinition (before.reverse ++ name :: after) before.length =
      .ok (ofShorthand? before before.length name after) := by
  rw [methodDefinition, methodParts_ok, ok_bind, ofShorthand?]
  cases shorthandParts? before name after with
  | none => rfl
  | some parts =>
    simp only [Option.map_some, Option.bind_eq_bind, Option.bind_some]
    cases parameters? parts.1 with
    | none => rfl
    | some params =>
      simp only [get_here, ok_bind]
      rfl

theorem definitionPass_ok {token : Token} (found : List Definition) :
    definitionPass (before.reverse ++ token :: after) found before.length =
      .ok (.next (before.length + 1)
        ((Definition.at? before before.length token after).toList ++ found)) := by
  rw [definitionPass, get_here, ok_bind, Definition.at?]
  split_ifs
  · rw [keywordDefinition_ok]
    rfl
  · rw [arrowDefinition_ok]
    rfl
  · rw [methodDefinition_ok]
    rfl

theorem definitions_loop (after : List Token) :
    ∀ before found, loop (before.reverse ++ after).length (definitionPass (before.reverse ++ after))
      (fun found _ => found.reverse.mergeSort fun f g => f.offset ≤ g.offset) found before.length =
        .ok ((Definition.scan found before before.length after).mergeSort
          fun f g => f.offset ≤ g.offset) := by
  induction after with
  | nil =>
    intro before found
    have ends : (before.reverse ++ []).length ≤ before.length := by
      simp
    rw [loop_finish ends]
    rfl
  | cons token after ih =>
    intro before found
    have inside : before.length < (before.reverse ++ token :: after).length := by
      simp
    have whole : before.reverse ++ token :: after = (token :: before).reverse ++ after := by
      simp
    rw [loop_next inside (definitionPass_ok found) (Nat.lt_succ_self _), Definition.scan]
    have next := ih (token :: before) ((Definition.at? before before.length token after).toList ++
      found)
    rw [← whole] at next
    cases here : Definition.at? before before.length token after <;>
      simp only [here] at next ⊢ <;> exact next

theorem definitions_ok (tokens : List Token) :
    definitions tokens = .ok (PlayerCipher.definitions tokens) :=
  definitions_loop tokens [] []

end Checked

end PlayerCipher
