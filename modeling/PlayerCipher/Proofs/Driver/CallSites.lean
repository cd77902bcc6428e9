import Mathlib
import PlayerCipher.Proofs.Checked.Call
import PlayerCipher.Proofs.Script.Nesting
import PlayerCipher.Script.Lexeme

/-! Call sites of functions.
The walk over a body jumps over the functions that are defined in it. It knows less than the
search for definitions: at the first token of a body it does not see what stands before, and behind
the word `function` it takes whatever parenthesis comes next. Where neither matters, each call
site belongs to one function: no jump lands between the token that reveals an inner function and
the end of that function's body. -/

namespace PlayerCipher

namespace Call

open PlayerCipher.Bracket Statement Definition

/-- Calls in the rest of a body, each with the place of its callee's name. -/
def sites (names : HelperNames) (before tokens : List Token) : List (Nat × Call) :=
  match tokens with
  | [] => []
  | token :: after =>
    match nestedLength? before token after with
    | some n => sites names ((after.take n).reverse ++ token :: before) (after.drop n)
    | none =>
      match at? names before token after with
      | some (call, n) =>
        (before.length, call) ::
          sites names ((after.take n).reverse ++ token :: before) (after.drop n)
      | none => sites names (token :: before) after
termination_by tokens.length
decreasing_by
  all_goals
    simp only [List.length_drop, List.length_cons]
    omega

theorem scan_eq_sites (names : HelperNames) (found : List Call) (before tokens : List Token) :
    scan names found before tokens =
      found.reverse ++ (sites names before tokens).map (·.2) := by
  fun_induction scan names found before tokens with
  | case1 => simp [sites]
  | case2 found before token after n nested ih =>
    rw [sites, nested]
    exact ih
  | case3 found before token after nested call n called ih =>
    rw [sites, nested, called]
    simpa using ih
  | case4 found before token after nested called ih =>
    rw [sites, nested, called]
    exact ih

/-- Number of tokens after `token` that the walk jumps over. -/
def stride (names : HelperNames) (before : List Token) (token : Token) (after : List Token) :
    Nat :=
  match nestedLength? before token after with
  | some n => n
  | none =>
    match at? names before token after with
    | some (_, n) => n
    | none => 0

theorem sites_clear {names : HelperNames} {start stop : Nat} {body : List Token}
    (steps : ∀ before token after, before.reverse ++ token :: after = body →
      before.length ≤ start → before.length + 1 + stride names before token after ≤ start ∨
        stop ≤ before.length + 1 + stride names before token after)
    (before tokens : List Token) (whole : before.reverse ++ tokens = body)
    (outside : before.length ≤ start ∨ stop ≤ before.length) :
    ∀ site ∈ sites names before tokens, site.1 ≤ start ∨ stop ≤ site.1 := by
  have lands : ∀ {before : List Token} {token after}, before.reverse ++ token :: after = body →
      (before.length ≤ start ∨ stop ≤ before.length) →
        before.length + 1 + stride names before token after ≤ start ∨
          stop ≤ before.length + 1 + stride names before token after := by
    intro before token after whole outside
    rcases outside with early | late
    · exact steps before token after whole early
    · exact .inr (by omega)
  fun_induction sites names before tokens with
  | case1 => simp
  | case2 before token after n nested ih =>
    have next := lands whole outside
    rw [stride, nested] at next
    apply ih
    · rw [← Checked.jump_append, whole]
    · rwa [Checked.jump_length (nestedLength?_le nested)]
  | case3 before token after nested call n called ih =>
    have next := lands whole outside
    rw [stride, nested, called] at next
    intro site inside
    rcases List.mem_cons.1 inside with rfl | later
    · exact outside
    · apply ih _ _ site later
      · rw [← Checked.jump_append, whole]
      · rwa [Checked.jump_length (Checked.at?_le called)]
  | case4 before token after nested called ih =>
    have next := lands whole outside
    rw [stride, nested, called] at next
    apply ih
    · rw [← whole]
      simp
    · exact next

def ahead (tokens : List Token) : Nat :=
  (tokens.takeWhile fun token => !token.isMark "(").length

theorem ahead_append {run : List Token} (quiet : ∀ token ∈ run, token.isMark "(" = false)
    (rest : List Token) : ahead (run ++ rest) = run.length + ahead rest := by
  unfold ahead
  rw [List.takeWhile_append_of_pos fun token inside => by simp [quiet token inside],
    List.length_append]

theorem quiet_of_ahead {run rest : List Token} (far : run.length ≤ ahead (run ++ rest)) :
    ∀ token ∈ run, token.isMark "(" = false := by
  induction run with
  | nil => simp
  | cons first run ih =>
    unfold ahead at far
    rw [List.cons_append, List.takeWhile_cons] at far
    split_ifs at far with quiet
    · intro token inside
      rcases List.mem_cons.1 inside with rfl | later
      · simpa using quiet
      · exact ih (Nat.le_of_succ_le_succ far) token later
    · cases far

variable {names : HelperNames} {before after front stretch behind : List Token}
  {token mark : Token}

theorem nestedLength?_word (word : token.spells "function" = true) :
    nestedLength? before token after =
      (braced? (after.drop (ahead after))).map fun (head, body) =>
        ahead after + 1 + head.length + 2 + body.length + 1 := by
  unfold nestedLength?
  rw [if_pos word]
  rfl

/-- A function that the walk takes to begin before an unbroken stretch ends before it or behind it,
unless it is taken to have the stretch's own parameters. -/
theorem nestedLength?_clears (unbroken : Unbroken (mark :: stretch)) (plain : mark.opens = false)
    {n : Nat} (found : nestedLength? before token (front ++ (mark :: stretch ++ behind)) = some n)
    (word : token.spells "function" = true →
      ahead (front ++ (mark :: stretch ++ behind)) < front.length ∨
        front.length + (mark :: stretch).length ≤ n) :
    n ≤ front.length ∨ front.length + (mark :: stretch).length ≤ n := by
  by_cases spelled : token.spells "function" = true
  · rcases word spelled with early | late
    · rw [nestedLength?_word spelled, List.drop_append_of_le_length (Nat.le_of_lt early)] at found
      obtain ⟨⟨head, body⟩, parts, rfl⟩ := Option.map_eq_some_iff.1 found
      have clears := braced?_clears unbroken plain parts
      rw [List.length_drop] at clears
      dsimp only
      omega
    · exact .inr late
  unfold nestedLength? at found
  rw [if_neg spelled] at found
  by_cases arrow : token.isMark "=>" = true
  · rw [if_pos arrow] at found
    cases front with
    | nil =>
      have noBrace : ¬mark.isMark "\x7b" = true := by
        simp [isMark_of_not_opens plain (.inr rfl)]
      simp only [List.nil_append, List.cons_append, if_neg noBrace] at found
      cases found
      exact expressionLength_clears unbroken [] behind
    | cons brace front =>
      simp only [List.cons_append] at found
      split_ifs at found with braces
      · obtain ⟨n, inside, rfl⟩ := Option.map_eq_some_iff.1 found
        have found : inside? (front ++ (mark :: stretch ++ behind)) = some n := inside
        have clears := inside?_clears unbroken found
        simp only [List.length_cons] at clears ⊢
        omega
      · cases found
        exact expressionLength_clears unbroken (brace :: front) behind
  · rw [if_neg arrow] at found
    obtain ⟨⟨head, body⟩, parts, rfl⟩ := Option.map_eq_some_iff.1 found
    have clears := braced?_clears unbroken plain (shorthandParts?_braced parts)
    dsimp only
    omega

theorem at?_clears (unbroken : Unbroken (mark :: stretch)) (level : IsLevel mark) {call : Call}
    {n : Nat}
    (found : at? names before token (front ++ (mark :: stretch ++ behind)) = some (call, n)) :
    n ≤ front.length ∨ front.length + (mark :: stretch).length ≤ n := by
  rw [at?] at found
  obtain ⟨callee, called, found⟩ := Option.bind_eq_some_iff.1 found
  obtain ⟨kind, -, found⟩ := Option.bind_eq_some_iff.1 found
  obtain ⟨inside, pair, found⟩ := Option.bind_eq_some_iff.1 found
  cases found
  obtain ⟨near, far, bridge, opener, rest, -, -, whole, length, opens, closers⟩ :=
    callee?_append called
  have notCloser : mark ∉ bridge := by
    intro inside
    have closes : mark.closes = true := by
      have is := closers mark inside
      rw [Token.isMark_iff] at is
      simp [Token.closes, is.1, is.2]
    rw [level.2.1] at closes
    cases closes
  have notOpener : opener ≠ mark := by
    rintro rfl
    rw [isMark_of_not_opens level.1 (.inl rfl)] at opens
    cases opens
  obtain ⟨front', split, tail⟩ : ∃ front', front = bridge ++ opener :: front' ∧
      rest = front' ++ (mark :: stretch ++ behind) := by
    rcases List.append_eq_append_iff.1 whole with ⟨more, longer, after⟩ | ⟨more, longer, after⟩
    · cases more with
      | nil => exact absurd (List.cons.inj after).1.symm notOpener
      | cons first more =>
        refine absurd ?_ notCloser
        rw [longer, (List.cons.inj after).1]
        simp
    · cases more with
      | nil => exact absurd (List.cons.inj after).1 notOpener
      | cons first more =>
        obtain ⟨rfl, tail⟩ := List.cons.inj after
        exact ⟨more, longer, tail⟩
  have behindOpener : (bridge ++ opener :: rest).drop (bridge.length + 1) = rest := by
    simp
  rw [whole, length, behindOpener, tail] at pair
  have clears := inside?_clears unbroken pair
  simp only [split, List.length_append, List.length_cons, length] at clears ⊢
  omega

theorem stride_clears (names : HelperNames) (unbroken : Unbroken (mark :: stretch))
    (level : IsLevel mark)
    (word : token.spells "function" = true →
      ∀ n, nestedLength? before token (front ++ (mark :: stretch ++ behind)) = some n →
        ahead (front ++ (mark :: stretch ++ behind)) < front.length ∨
          front.length + (mark :: stretch).length ≤ n) :
    stride names before token (front ++ (mark :: stretch ++ behind)) ≤ front.length ∨
      front.length + (mark :: stretch).length ≤
        stride names before token (front ++ (mark :: stretch ++ behind)) := by
  unfold stride
  cases nested : nestedLength? before token (front ++ (mark :: stretch ++ behind)) with
  | some n =>
    exact nestedLength?_clears unbroken level.1 nested fun spelled => word spelled n nested
  | none =>
    cases called : at? names before token (front ++ (mark :: stretch ++ behind)) with
    | some result => exact at?_clears unbroken level called
    | none => exact .inl (Nat.zero_le _)

theorem ahead_append_of_lt {run : List Token} (found : ahead run < run.length)
    (rest : List Token) : ahead (run ++ rest) = ahead run := by
  unfold ahead at found ⊢
  rw [List.takeWhile_append, if_neg (Nat.ne_of_lt found)]

theorem ahead_cons_of_isMark {opener : Token} (opens : opener.isMark "(" = true)
    (rest : List Token) : ahead (opener :: rest) = 0 := by
  simp [ahead, opens]

theorem braced?_ahead {lead head body : List Token} {opener closer brace last : Token}
    (quiet : ∀ t ∈ lead, t.isMark "(" = false) (braces : Braces opener head closer brace body last)
    (rest : List Token) :
    let after := lead ++ (opener :: (head ++ [closer, brace]) ++ (body ++ last :: rest))
    ahead after = lead.length ∧ braced? (after.drop (ahead after)) = some (head, body) := by
  intro after
  have place : ahead after = lead.length := by
    rw [ahead_append quiet, List.cons_append, ahead_cons_of_isMark braces.opener, Nat.add_zero]
  rw [place, List.drop_left]
  exact ⟨rfl, braces.reads rest⟩

variable {before' bridge body rest tail : List Token}

theorem cons_of_closed {last : Token} {more : List Token} (after : last :: more = behind ++ tail)
    (closed : behind ≠ []) : ∃ behind', behind = last :: behind' := by
  cases behind with
  | nil => exact absurd rfl closed
  | cons first behind' =>
    rw [(List.cons.inj after).1]
    exact ⟨behind', rfl⟩

theorem stride_reveal (names : HelperNames) (layout : Layout before' token bridge body rest)
    (after : rest = behind ++ tail) (closed : bridge ≠ [] → behind ≠ [])
    (method : NamesMethod before' token → NamesMethod before token) :
    bridge.length + body.length ≤ stride names before token (bridge ++ (body ++ behind)) := by
  cases layout with
  | @keyword lead opener head closer brace _ last more word leads braces =>
    obtain ⟨behind', rfl⟩ := cons_of_closed after (closed (by simp))
    have parts := braced?_ahead (lead_not_paren leads) braces behind'
    rw [← List.append_assoc] at parts
    rw [stride, nestedLength?_word word, parts.2, parts.1]
    simp only [Option.map_some, List.length_append, List.length_cons, List.length_nil]
    omega
  | @shorthand opener head closer brace _ last more names' braces =>
    obtain ⟨behind', rfl⟩ := cons_of_closed after (closed (by simp))
    obtain ⟨near, far, rfl, mark⟩ := (method names').behind
    have parts : shorthandParts? (near :: far) token
        (opener :: (head ++ [closer, brace]) ++ (body ++ last :: behind')) = some (head, body) := by
      rw [shorthandParts?, if_pos ⟨names'.kind, names'.other⟩]
      simp only [Bool.or_eq_true, mark, if_true]
      exact braces.reads behind'
    have nested : nestedLength? (near :: far) token
        (opener :: (head ++ [closer, brace]) ++ (body ++ last :: behind')) =
          some (1 + head.length + 2 + body.length + 1) := by
      unfold nestedLength?
      rw [if_neg names'.not_function, if_neg names'.not_arrow, parts]
      rfl
    rw [stride, nested]
    simp only [List.length_append, List.length_cons, List.length_nil]
    omega
  | @block brace _ last more arrow opens balanced ends =>
    obtain ⟨behind', rfl⟩ := cons_of_closed after (closed (by simp))
    have noWord : ¬token.spells "function" = true := by
      simp [spells_of_isMark "function" arrow]
    have nested : nestedLength? before token ([brace] ++ (body ++ last :: behind')) =
        some (1 + body.length + 1) := by
      unfold nestedLength?
      rw [if_neg noWord, if_pos arrow]
      simp [opens, inside?_balanced balanced ends]
    rw [stride, nested]
    simp only [List.length_singleton]
    omega
  | expression arrow plain length =>
    cases body with
    | nil => exact Nat.zero_le _
    | cons first body =>
      have noWord : ¬token.spells "function" = true := by
        simp [spells_of_isMark "function" arrow]
      have noBrace : ¬first.isMark "\x7b" = true := by
        simp [plain first rfl]
      have nested : nestedLength? before token ([] ++ (first :: body ++ behind)) =
          some (expressionLength (first :: body ++ behind)) := by
        unfold nestedLength?
        rw [if_neg noWord, if_pos arrow]
        simp only [List.nil_append, List.cons_append, if_neg noBrace]
      obtain ⟨depth, passed, -⟩ := Layout.through_expression_body length
      rw [stride, nested, expressionLength, endFrom_append _ behind 0 passed]
      simpa using endFrom_ge depth (first :: body).length behind

/-- A word `function` before a function is revealed makes the walk jump over that function as a
whole, unless the next parenthesis stands in its body. -/
theorem nestedLength?_reaches (layout : Layout before' mark bridge body rest)
    (after : rest = behind ++ tail) (closed : bridge ≠ [] → behind ≠ [])
    (word : token.spells "function" = true) {n : Nat}
    (found : nestedLength? before token (front ++ (mark :: (bridge ++ body) ++ behind)) = some n)
    (outside : ahead (front ++ (mark :: (bridge ++ body) ++ behind)) <
        front.length + 1 + bridge.length ∨
      front.length + 1 + bridge.length + body.length ≤
        ahead (front ++ (mark :: (bridge ++ body) ++ behind))) :
    ahead (front ++ (mark :: (bridge ++ body) ++ behind)) < front.length ∨
      front.length + (mark :: (bridge ++ body)).length ≤ n := by
  by_cases early : ahead (front ++ (mark :: (bridge ++ body) ++ behind)) < front.length
  · exact .inl early
  right
  rw [nestedLength?_word word] at found
  obtain ⟨⟨head', inner⟩, parts, rfl⟩ := Option.map_eq_some_iff.1 found
  have lengths : (mark :: (bridge ++ body)).length = 1 + bridge.length + body.length := by
    simp only [List.length_cons, List.length_append]
    omega
  rcases outside with near | far
  · have quietFront := quiet_of_ahead (Nat.le_of_not_lt early)
    have quietMark := isMark_of_not_opens layout.token_level.1 (.inl rfl)
    have quiet : ∀ {run : List Token}, (∀ t ∈ run, t.isMark "(" = false) →
        ∀ t ∈ front ++ mark :: run, t.isMark "(" = false := by
      intro run others t inside
      rcases List.mem_append.1 inside with inside | inside
      · exact quietFront t inside
      · rcases List.mem_cons.1 inside with rfl | inside
        · exact quietMark
        · exact others t inside
    rcases layout.bridge_paren with none | ⟨lead, opener, head, closer, brace, last, more, rfl, rfl,
      leads, braces⟩
    · have whole : front ++ (mark :: (bridge ++ body) ++ behind) =
          (front ++ mark :: bridge) ++ (body ++ behind) := by
        simp
      rw [whole, ahead_append (quiet none), List.length_append, List.length_cons] at near
      omega
    · obtain ⟨behind', rfl⟩ := cons_of_closed after (closed (by simp))
      have whole : front ++ (mark :: (lead ++ opener :: (head ++ [closer, brace]) ++ body) ++
          last :: behind') = (front ++ mark :: lead) ++
            (opener :: (head ++ [closer, brace]) ++ (body ++ last :: behind')) := by
        simp
      have own := braced?_ahead (quiet leads) braces behind'
      rw [whole, own.2] at parts
      cases parts
      rw [whole, own.1, lengths]
      simp only [List.length_append, List.length_cons, List.length_nil]
      omega
  · rw [lengths]
    dsimp only
    omega

/-- Ways for the walk over the body of `f` to get into the body of `g`. -/
inductive Leaks (tokens : List Token) (f g : Definition) : Prop where
  /-- The body of `f` begins with the name of the method `g`. -/
  | first {name after} (begins : tokens.drop f.bodyStart = name :: after)
      (shorthand : ofShorthand? (tokens.take f.bodyStart).reverse f.bodyStart name after = some g)
  /-- Behind a word `function` in the body of `f` the next parenthesis stands in the body of `g`,
  and begins what reads as parameters and a block. -/
  | word {passed word after} (whole : tokens = passed ++ word :: after)
      (spells : word.spells "function" = true) (inside : f.bodyStart ≤ passed.length)
      (before : passed.length < g.bodyStart) (paren : g.Covers (passed.length + 1 + ahead after))
      (reads : (braced? (after.drop (ahead after))).isSome = true)

theorem sites_bound (names : HelperNames) (before tokens : List Token) :
    ∀ site ∈ sites names before tokens, site.1 < before.length + tokens.length := by
  fun_induction sites names before tokens with
  | case1 => simp
  | case2 before token after n nested ih =>
    intro site inside
    have bound := ih site inside
    have jump := nestedLength?_le nested
    rw [Checked.jump_length jump, List.length_drop] at bound
    rw [List.length_cons]
    omega
  | case3 before token after nested call n called ih =>
    intro site inside
    rw [List.length_cons]
    rcases List.mem_cons.1 inside with rfl | later
    · dsimp only
      omega
    · have bound := ih site later
      have jump := Checked.at?_le called
      rw [Checked.jump_length jump, List.length_drop] at bound
      omega
  | case4 before token after nested called ih =>
    intro site inside
    have bound := ih site inside
    simp only [List.length_cons] at bound ⊢
    omega

end Call

def callSites (names : HelperNames) (f : Definition) : List (Nat × Call) :=
  (Call.sites names [] f.body).map fun (place, call) => (f.bodyStart + place, call)

theorem callSites_calls (names : HelperNames) (f : Definition) :
    (callSites names f).map (·.2) = callsIn names f.body := by
  rw [callsIn, Call.scan_eq_sites, callSites, List.map_map]
  rfl

theorem callSites_covered (names : HelperNames) (f : Definition) :
    ∀ site ∈ callSites names f, f.Covers site.1 := by
  intro site inside
  obtain ⟨⟨place, call⟩, found, rfl⟩ := List.mem_map.1 inside
  have bound := Call.sites_bound names [] f.body _ found
  simp only [List.length_nil, Nat.zero_add] at bound
  exact ⟨Nat.le_add_right _ _, Nat.add_lt_add_left bound _⟩

section

open Definition Call

variable {tokens before before' bridge bridge' rest rest' : List Token} {token token' : Token}
  {f g : Definition}

theorem namesMethod_inside (first : Reveals tokens f before token bridge rest)
    (second : Reveals tokens g before' token' bridge' rest') (sound : ¬Leaks tokens f g)
    {front : List Token} (reached : before' = front.reverse ++ (bridge.reverse ++ token :: before))
    (names : NamesMethod before' token') : NamesMethod front.reverse token' := by
  refine ⟨names.kind, names.other, ?_⟩
  obtain ⟨last, far, nearest, mark⟩ := names.behind
  cases near : front.reverse with
  | nil =>
    rw [near, List.nil_append] at reached
    have start : f.bodyStart = before'.reverse.length := by
      rw [first.start, reached]
      simp
      omega
    have begins : tokens.drop f.bodyStart = token' :: (bridge' ++ (g.body ++ rest')) := by
      rw [start, second.whole, List.drop_left]
    have shorthand : ofShorthand? (tokens.take f.bodyStart).reverse f.bodyStart token'
        (bridge' ++ (g.body ++ rest')) = some g := by
      rw [start, second.whole, List.take_left, List.reverse_reverse, List.length_reverse]
      have found := second.found
      rwa [Definition.at?, if_neg names.not_function, if_neg names.not_arrow] at found
    exact absurd (.first begins shorthand) sound
  | cons last' far' =>
    rw [near, nearest] at reached
    rw [← (List.cons.inj reached).1]
    exact ⟨last, far', rfl, mark⟩

theorem ahead_outside (first : Reveals tokens f before token bridge rest)
    (second : Reveals tokens g before' token' bridge' rest') (sound : ¬Leaks tokens f g)
    {passed front behind : List Token} {word : Token}
    (body : f.body = passed.reverse ++ word :: (front ++ (token' :: (bridge' ++ g.body) ++ behind)))
    (place : before'.length = f.bodyStart + (passed.length + (front.length + 1)))
    (spells : word.spells "function" = true) {n : Nat}
    (nested : nestedLength? passed word
      (front ++ (token' :: (bridge' ++ g.body) ++ behind)) = some n) :
    ahead (front ++ (token' :: (bridge' ++ g.body) ++ behind)) < front.length + 1 + bridge'.length ∨
      front.length + 1 + bridge'.length + g.body.length ≤
        ahead (front ++ (token' :: (bridge' ++ g.body) ++ behind)) := by
  by_contra inside
  have start := first.start
  have start' := second.start
  have found : ahead (front ++ (token' :: (bridge' ++ g.body) ++ behind)) <
      (front ++ (token' :: (bridge' ++ g.body) ++ behind)).length := by
    simp only [List.length_append, List.length_cons]
    omega
  have whole : tokens = (before.reverse ++ token :: (bridge ++ passed.reverse)) ++
      word :: (front ++ (token' :: (bridge' ++ g.body) ++ behind) ++ rest) := by
    rw [first.whole, body]
    simp
  have length : (before.reverse ++ token :: (bridge ++ passed.reverse)).length =
      f.bodyStart + passed.length := by
    simp only [List.length_append, List.length_reverse, List.length_cons]
    omega
  apply sound
  refine .word whole spells ?_ ?_ ?_ ?_
  · omega
  · omega
  · rw [ahead_append_of_lt found, length]
    unfold Covers bodyStop
    omega
  · rw [ahead_append_of_lt found, List.drop_append_of_le_length (Nat.le_of_lt found)]
    rw [nestedLength?_word spells] at nested
    obtain ⟨parts, read, -⟩ := Option.map_eq_some_iff.1 nested
    rw [braced?_append read]
    rfl

/-- The walk over a body does not get into the body of a function inside it. -/
theorem callSites_avoid (first : Reveals tokens f before token bridge rest)
    (second : Reveals tokens g before' token' bridge' rest') (differ : f ≠ g)
    (within : g.Within f) (sound : ¬Leaks tokens f g) (names : HelperNames) :
    ∀ site ∈ callSites names f, ¬g.Covers site.1 := by
  obtain ⟨front, behind, reached, place, body, after, closed⟩ :=
    first.split_within second differ within
  have steps : ∀ before token after, before.reverse ++ token :: after = f.body →
      before.length ≤ front.length →
        before.length + 1 + stride names before token after ≤ front.length ∨
          front.length + 1 + bridge'.length + g.body.length ≤
            before.length + 1 + stride names before token after := by
    intro passed here after' whole early
    have split := whole.trans body
    rcases Nat.lt_or_eq_of_le early with earlier | same
    · obtain ⟨front', rfl, tail⟩ := cut_later_cons split (by simpa using earlier)
      obtain rfl : after' = front' ++ (token' :: (bridge' ++ g.body) ++ behind) := by
        rw [tail]
        simp
      have word : here.spells "function" = true → ∀ n, nestedLength? passed here
          (front' ++ (token' :: (bridge' ++ g.body) ++ behind)) = some n →
            ahead (front' ++ (token' :: (bridge' ++ g.body) ++ behind)) < front'.length ∨
              front'.length + (token' :: (bridge' ++ g.body)).length ≤ n := fun spells n nested =>
        nestedLength?_reaches second.layout after closed spells nested
          (ahead_outside first second sound whole.symm (by simp [place]) spells nested)
      have clears := stride_clears names second.layout.unbroken second.layout.token_level word
      simp only [List.length_append, List.length_reverse, List.length_cons] at clears ⊢
      omega
    · obtain ⟨rfl, behindHere⟩ := List.append_inj split (by simpa using same)
      obtain ⟨rfl, rfl⟩ := List.cons.inj behindHere
      have method := namesMethod_inside first second sound reached
      rw [List.reverse_reverse] at method
      have jump := stride_reveal names second.layout after closed method
      right
      omega
  intro site inside covers
  obtain ⟨⟨distance, call⟩, found, rfl⟩ := List.mem_map.1 inside
  have clears := sites_clear steps [] f.body rfl (.inl (Nat.zero_le _)) _ found
  have start := second.start
  simp only [Covers, bodyStop] at covers clears
  omega

/-- A call site belongs to one function: the functions inside a body keep their calls to
themselves, and no site is that of two functions. The sites of a function are those of the calls
that are read from its body. -/
theorem callSites_apart (names : HelperNames) (fDefined : f ∈ definitions tokens)
    (gDefined : g ∈ definitions tokens) (differ : f ≠ g) (sound : ¬Leaks tokens f g) :
    (callSites names f).map (·.2) = callsIn names f.body ∧
      (g.Within f → ∀ site ∈ callSites names f, ¬g.Covers site.1) ∧
      (¬Leaks tokens g f → ∀ site ∈ callSites names f, ∀ other ∈ callSites names g,
        site.1 ≠ other.1) := by
  obtain ⟨before, token, bridge, rest, first⟩ := reveals_of_mem fDefined
  obtain ⟨before', token', bridge', rest', second⟩ := reveals_of_mem gDefined
  refine ⟨callSites_calls names f,
    fun within => callSites_avoid first second differ within sound names, ?_⟩
  intro sound' site ofFirst other ofSecond same
  have inFirst := callSites_covered names f site ofFirst
  have inSecond := callSites_covered names g other ofSecond
  rcases first.within_or_within second differ inFirst (same ▸ inSecond) with within | within
  · refine callSites_avoid first second differ within sound names site ofFirst ?_
    rw [same]
    exact inSecond
  · refine callSites_avoid second first differ.symm within sound' names other ofSecond ?_
    rw [← same]
    exact inFirst

theorem not_leaks (begins : ∀ first ∈ (tokens.drop f.bodyStart).head?, first.offset ≠ g.offset)
    (quiet : ∀ word ∈ (tokens.take g.bodyStart).drop f.bodyStart,
      word.spells "function" = false) : ¬Leaks tokens f g := by
  intro leak
  cases leak with
  | @first name after start shorthand =>
    obtain ⟨parts, -, found⟩ := Option.bind_eq_some_iff.1 shorthand
    obtain ⟨params, -, made⟩ := Option.bind_eq_some_iff.1 found
    obtain rfl := Option.some.inj made
    refine begins name ?_ rfl
    rw [start]
    rfl
  | @word passed word after whole spells inside early =>
    have member : word ∈ (tokens.take g.bodyStart).drop f.bodyStart := by
      obtain ⟨more, length⟩ := Nat.exists_eq_add_of_lt early
      rw [whole, length, Nat.add_assoc, List.take_length_add_append, List.drop_append_of_le_length
        inside, List.take_succ_cons]
      exact List.mem_append_right _ (.head _)
    rw [quiet word member] at spells
    cases spells

def sampleNames : HelperNames :=
  ⟨"Ab", "Zr", "k9", by decide, by decide, by decide, by decide, by decide, by decide⟩

/-- The call of a method in an object literal is not one of the function around it, which makes a
call of its own. -/
theorem callSites_apart_method :
    let tokens := tokenize "function f(a)\x7bo=\x7bk(b)\x7bXq.Zr(b)\x7d\x7d;Xq.Zr(a)\x7d"
    let f : Definition := ⟨some "f", ["a"], (tokens.drop 6).take 23, 6, 0⟩
    let g : Definition := ⟨some "k", ["b"], (tokens.drop 14).take 6, 14, 17⟩
    f ∈ definitions tokens ∧ g ∈ definitions tokens ∧ f ≠ g ∧ ¬Leaks tokens f g ∧ g.Within f ∧
      (∀ site ∈ callSites sampleNames f, ¬g.Covers site.1) ∧
        (callSites sampleNames f).map (·.1) = [25] ∧
          (callSites sampleNames g).map (·.1) = [16] := by
  intro tokens f g
  have read : definitions tokens = [f, g] ∧ f.bodyStop = 29 ∧ g.bodyStop = 20 ∧
      (tokens.drop 6).head? = some ⟨.ident, "o", 14⟩ ∧
      (((tokens.take 14).drop 6).all fun word => !word.spells "function") = true ∧
      (callSites sampleNames f).map (·.1) = [25] ∧ (callSites sampleNames g).map (·.1) = [16] := by
    unfold f g tokens
    cbv
  obtain ⟨found, fStop, gStop, begins, quiet, sites⟩ := read
  have fDefined : f ∈ definitions tokens := by
    rw [found]
    exact .head _
  have gDefined : g ∈ definitions tokens := by
    rw [found]
    exact .tail _ (.head _)
  have differ : f ≠ g := fun same => absurd (congrArg Definition.bodyStart same) (by decide)
  have sound : ¬Leaks tokens f g := by
    refine not_leaks (fun first start => ?_) fun word inside => ?_
    · rw [begins] at start
      cases start
      decide
    · simpa using List.all_eq_true.1 quiet word inside
  have within : g.Within f := ⟨by decide, by rw [fStop, gStop]; decide⟩
  exact ⟨fDefined, gDefined, differ, sound, within,
    (callSites_apart sampleNames fDefined gDefined differ sound).2.1 within, sites⟩

/-- Behind the key `function` the condition inside the arrow is taken for parameters, so that the
walk goes on in the arrow's body. -/
theorem callSites_leak :
    let tokens := tokenize
      "function f(a)\x7bo=\x7bfunction:x=>\x7bif(x)\x7by()\x7dXq.Zr(x)\x7d\x7d\x7d"
    let f : Definition := ⟨some "f", ["a"], (tokens.drop 6).take 25, 6, 0⟩
    let g : Definition := ⟨none, ["x"], (tokens.drop 14).take 15, 14, 26⟩
    f ∈ definitions tokens ∧ g ∈ definitions tokens ∧ f ≠ g ∧ g.Within f ∧ g.Covers 25 ∧
      (callSites sampleNames f).map (·.1) = [25] ∧ (callSites sampleNames g).map (·.1) = [25] := by
  intro tokens f g
  have read : definitions tokens = [f, g] ∧ f.bodyStop = 31 ∧ g.bodyStop = 29 ∧
      (callSites sampleNames f).map (·.1) = [25] ∧ (callSites sampleNames g).map (·.1) = [25] := by
    unfold f g tokens
    cbv
  obtain ⟨found, fStop, gStop, sites⟩ := read
  refine ⟨?_, ?_, ?_, ⟨by decide, ?_⟩, ⟨by decide, ?_⟩, sites⟩
  · rw [found]
    exact .head _
  · rw [found]
    exact .tail _ (.head _)
  · exact fun same => absurd (congrArg Definition.bodyStart same) (by decide)
  · rw [fStop, gStop]
    decide
  · rw [gStop]
    decide

/-- A method at the start of a body is taken for a part of it, and so is the call it makes. -/
example :
    (definitions (tokenize "function f(a)\x7bk(b)\x7bXq.Zr(b)\x7d\x7d")).map
        (fun f => (f.bodyStart, (callSites sampleNames f).map (·.1))) =
      [(6, [13]), (11, [13])] := by
  cbv

end

end PlayerCipher
