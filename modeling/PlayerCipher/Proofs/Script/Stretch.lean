import PlayerCipher.Proofs.Checked.Bracket
import PlayerCipher.Proofs.Script.Balance

/-! Unbroken stretches.
A run that closes no bracket but its own, and separates nothing outside of them, is passed over
whole: neither the bracket that closes an earlier one nor the end of an earlier expression can
lie inside it. -/

namespace PlayerCipher

section

variable {α : Type} {run front front' behind behind' : List α}

theorem cut_at {next : α} {place : Nat} (here : run[place]? = some next) :
    ∃ front behind, run = front ++ next :: behind ∧ front.length = place := by
  obtain ⟨inside, rfl⟩ := List.getElem?_eq_some_iff.1 here
  refine ⟨run.take place, run.drop (place + 1), ?_, ?_⟩
  · rw [List.getElem_cons_drop, List.take_append_drop]
  · rw [List.length_take, Nat.min_eq_left (Nat.le_of_lt inside)]

theorem cut_up_to {count : Nat} (within : count ≤ run.length) :
    ∃ front behind, run = front ++ behind ∧ front.length = count :=
  ⟨run.take count, run.drop count, (List.take_append_drop count run).symm,
    List.length_take_of_le within⟩

theorem cut_later (whole : front ++ behind = front' ++ behind')
    (later : front.length ≤ front'.length) :
    ∃ more, front' = front ++ more ∧ behind = more ++ behind' := by
  obtain ⟨more, rfl⟩ :=
    List.prefix_of_prefix_length_le (List.prefix_append front behind) ⟨behind', whole.symm⟩ later
  rw [List.append_assoc] at whole
  exact ⟨more, rfl, List.append_cancel_left whole⟩

theorem cut_later_cons {next : α} (whole : front ++ next :: behind = front' ++ behind')
    (later : front.length < front'.length) :
    ∃ more, front' = front ++ next :: more ∧ behind = more ++ behind' := by
  obtain ⟨more, rfl, rest⟩ := cut_later whole (Nat.le_of_lt later)
  cases more with
  | nil => simp at later
  | cons first more =>
    obtain ⟨rfl, tail⟩ := List.cons.inj rest
    exact ⟨more, rfl, tail⟩

end

namespace Statement

open PlayerCipher.Bracket

/-- Number of open brackets after a run that starts inside `depth` of them; `none` if an
expression that takes the run in would end on the way. -/
def through (depth : Nat) : List Token → Option Nat
  | [] => some depth
  | token :: tokens =>
    if token.opens then through (depth + 1) tokens
    else if token.closes then
      if depth = 0 then none else through (depth - 1) tokens
    else if depth = 0 ∧ token.separates = true then none
    else through depth tokens

def Unbroken (run : List Token) : Prop :=
  ∃ depth, through 0 run = some depth

theorem through_append (ts us : List Token) :
    ∀ depth, through depth (ts ++ us) = (through depth ts).bind (through · us) := by
  induction ts with
  | nil =>
    intro depth
    rfl
  | cons token ts ih =>
    intro depth
    rw [List.cons_append, through, through]
    split_ifs
    · exact ih _
    · rfl
    · exact ih _
    · rfl
    · exact ih _

theorem through_add (more : Nat) (run : List Token) :
    ∀ {depth after}, through depth run = some after →
      through (depth + more) run = some (after + more) := by
  induction run with
  | nil =>
    intro depth after passed
    cases passed
    rfl
  | cons token run ih =>
    intro depth after passed
    rw [through] at passed ⊢
    split_ifs at passed with opens closes bottom separates
    · rw [if_pos opens]
      have next := ih passed
      rwa [Nat.add_right_comm] at next
    · obtain ⟨below, rfl⟩ := Nat.exists_eq_succ_of_ne_zero bottom
      rw [if_neg opens, if_pos closes, if_neg (Nat.ne_of_gt (Nat.add_pos_left below.succ_pos _)),
        Nat.succ_add]
      exact ih passed
    · have inside : ¬(depth + more = 0 ∧ token.separates = true) := fun both =>
        separates ⟨Nat.eq_zero_of_add_eq_zero_right both.1, both.2⟩
      rw [if_neg opens, if_neg closes, if_neg inside]
      exact ih passed

theorem depthAfter_of_through (run : List Token) :
    ∀ {depth after}, through depth run = some after → depthAfter depth run = some after := by
  induction run with
  | nil =>
    intro depth after passed
    exact passed
  | cons token run ih =>
    intro depth after passed
    rw [through] at passed
    rw [depthAfter]
    split_ifs at passed with opens closes bottom separates
    · rw [if_pos opens]
      exact ih passed
    · rw [if_neg opens, if_pos closes, if_neg bottom]
      exact ih passed
    · rw [if_neg opens, if_neg closes]
      exact ih passed

theorem through_of_depthAfter (run : List Token) :
    ∀ {depth after}, depthAfter depth run = some after →
      through (depth + 1) run = some (after + 1) := by
  induction run with
  | nil =>
    intro depth after known
    cases known
    rfl
  | cons token run ih =>
    intro depth after known
    rw [depthAfter] at known
    have inside : ¬(depth + 1 = 0 ∧ token.separates = true) := fun both =>
      Nat.succ_ne_zero depth both.1
    rw [through]
    split_ifs at known with opens closes bottom
    · rw [if_pos opens]
      exact ih known
    · obtain ⟨below, rfl⟩ := Nat.exists_eq_succ_of_ne_zero bottom
      rw [if_neg opens, if_pos closes, if_neg (Nat.succ_ne_zero _)]
      exact ih known
    · rw [if_neg opens, if_neg closes, if_neg inside]
      exact ih known

theorem endFrom_append (run rest : List Token) :
    ∀ {depth after} (place : Nat), through depth run = some after →
      endFrom depth place (run ++ rest) = endFrom after (place + run.length) rest := by
  induction run with
  | nil =>
    intro depth after place passed
    cases passed
    rfl
  | cons token run ih =>
    intro depth after place passed
    rw [through] at passed
    have moved : place + (run.length + 1) = place + 1 + run.length := by
      omega
    simp only [List.cons_append, endFrom, List.length_cons, moved]
    split_ifs at passed with opens closes bottom separates
    · rw [if_pos opens]
      exact ih _ passed
    · obtain ⟨below, rfl⟩ := Nat.exists_eq_succ_of_ne_zero bottom
      rw [if_neg opens, if_pos closes]
      exact ih _ passed
    · rw [if_neg opens, if_neg closes, if_neg separates]
      exact ih _ passed

theorem piecesFrom_append (run rest : List Token) :
    ∀ {depth after} (piece : List Token), through depth run = some after →
      piecesFrom depth piece (run ++ rest) = piecesFrom after (run.reverse ++ piece) rest := by
  induction run with
  | nil =>
    intro depth after piece passed
    cases passed
    rfl
  | cons token run ih =>
    intro depth after piece passed
    rw [through] at passed
    rw [List.cons_append, piecesFrom, List.reverse_cons, List.append_assoc, List.singleton_append]
    split_ifs at passed with opens closes bottom separates
    · rw [if_pos opens]
      exact ih _ passed
    · rw [if_neg opens, if_pos closes]
      exact ih _ passed
    · rw [if_neg opens, if_neg closes, if_neg separates]
      exact ih _ passed

theorem endFrom_ge (depth place : Nat) (run : List Token) : place ≤ endFrom depth place run := by
  have further := endFrom_place run place depth 0
  rw [Nat.add_zero] at further
  rw [further]
  exact Nat.le_add_right _ _

/-- An expression passes over itself, and ends outside all its brackets unless its run does. -/
theorem through_expression (run : List Token) :
    ∀ depth, ∃ after, through depth (run.take (endFrom depth 0 run)) = some after ∧
      (endFrom depth 0 run < run.length → after = 0) := by
  induction run with
  | nil =>
    intro depth
    exact ⟨depth, rfl, fun inside => absurd inside (Nat.not_lt_zero _)⟩
  | cons token run ih =>
    intro depth
    have next : ∀ depth, endFrom depth 1 run = endFrom depth 0 run + 1 := by
      intro depth
      rw [endFrom_place run 1 depth 0, Nat.add_comm]
    simp only [endFrom]
    split_ifs with opens closes separates
    · obtain ⟨after, passed, ends⟩ := ih (depth + 1)
      refine ⟨after, ?_, fun inside => ends ?_⟩
      · rw [next, List.take_succ_cons, through, if_pos opens]
        exact passed
      · rw [next, List.length_cons] at inside
        exact Nat.lt_of_succ_lt_succ inside
    · cases depth with
      | zero => exact ⟨0, rfl, fun _ => rfl⟩
      | succ depth =>
        obtain ⟨after, passed, ends⟩ := ih depth
        refine ⟨after, ?_, fun inside => ends ?_⟩
        · dsimp only
          rw [next, List.take_succ_cons, through, if_neg opens, if_pos closes,
            if_neg (Nat.succ_ne_zero depth)]
          exact passed
        · dsimp only at inside
          rw [next, List.length_cons] at inside
          exact Nat.lt_of_succ_lt_succ inside
    · exact ⟨depth, rfl, fun _ => separates.1⟩
    · obtain ⟨after, passed, ends⟩ := ih depth
      refine ⟨after, ?_, fun inside => ends ?_⟩
      · rw [next, List.take_succ_cons, through, if_neg opens, if_neg closes, if_neg separates]
        exact passed
      · rw [next, List.length_cons] at inside
        exact Nat.lt_of_succ_lt_succ inside

/-- A run that closes the brackets it opens and no others, and that no `;` or `,` divides outside
of them. -/
structure IsExpression (run : List Token) : Prop where
  balanced : Balanced run
  undivided : ∀ front mark back, run = front ++ mark :: back → mark.separates = true →
    depthAfter 0 front ≠ some 0

theorem through_of_undivided {run : List Token} :
    ∀ {depth after}, depthAfter depth run = some after →
      (∀ front mark back, run = front ++ mark :: back → mark.separates = true →
        depthAfter depth front ≠ some 0) →
      through depth run = some after := by
  induction run with
  | nil =>
    intro depth after known _
    exact known
  | cons token run ih =>
    intro depth after known undivided
    have inside : ∀ depth', (∀ front, depthAfter depth (token :: front) = depthAfter depth' front) →
        ∀ front mark back, run = front ++ mark :: back → mark.separates = true →
          depthAfter depth' front ≠ some 0 := by
      intro depth' same front mark back split separates
      rw [← same]
      exact undivided (token :: front) mark back (by rw [split]; rfl) separates
    rw [depthAfter] at known
    rw [through]
    split_ifs at known with opens closes bottom
    · rw [if_pos opens]
      exact ih known (inside _ fun front => by rw [depthAfter, if_pos opens])
    · rw [if_neg opens, if_pos closes, if_neg bottom]
      exact ih known (inside _ fun front => by
        rw [depthAfter, if_neg opens, if_pos closes, if_neg bottom])
    · have joined : ¬(depth = 0 ∧ token.separates = true) := by
        rintro ⟨rfl, separates⟩
        exact undivided [] token run rfl separates rfl
      rw [if_neg opens, if_neg closes, if_neg joined]
      exact ih known (inside _ fun front => by rw [depthAfter, if_neg opens, if_neg closes])

theorem level_of_separates {token : Token} (separates : token.separates = true) :
    token.opens = false ∧ token.closes = false := by
  simp only [Token.separates, Bool.or_eq_true, Token.isMark_iff] at separates
  rcases separates with ⟨-, text⟩ | ⟨-, text⟩ <;> simp [Token.opens, Token.closes, text]

theorem balanced_cons_iff {mark : Token} {rest : List Token} (separates : mark.separates = true) :
    Balanced (mark :: rest) ↔ Balanced rest := by
  obtain ⟨noOpen, noClose⟩ := level_of_separates separates
  simp [Bracket.Balanced, depthAfter, noOpen, noClose]

theorem isExpression_iff {run : List Token} : IsExpression run ↔ through 0 run = some 0 := by
  refine ⟨fun expression => through_of_undivided expression.balanced expression.undivided,
    fun passed => ⟨depthAfter_of_through run passed, ?_⟩⟩
  rintro front mark back rfl separates closed
  rw [through_append] at passed
  obtain ⟨depth, reached, rest⟩ := Option.bind_eq_some_iff.1 passed
  obtain rfl := Option.some.inj ((depthAfter_of_through front reached).symm.trans closed)
  simp [through, level_of_separates separates, separates] at rest

instance (run : List Token) : Decidable (IsExpression run) :=
  decidable_of_iff _ isExpression_iff.symm

namespace IsExpression

variable {run : List Token}

theorem passed (expression : IsExpression run) : through 0 run = some 0 :=
  isExpression_iff.1 expression

theorem length_append (expression : IsExpression run) {rest : List Token}
    (ends : ∀ next ∈ rest.head?, next.separates = true ∨ next.closes = true) :
    expressionLength (run ++ rest) = run.length := by
  rw [expressionLength, endFrom_append run rest 0 expression.passed, Nat.zero_add]
  cases rest with
  | nil => rfl
  | cons next rest =>
    rw [endFrom]
    rcases ends next rfl with separates | closes
    · simp [level_of_separates separates, separates]
    · simp [opens_of_closes closes, closes]

theorem pieces_eq (expression : IsExpression run) : pieces run = [run] := by
  have passed := piecesFrom_append run [] [] expression.passed
  rw [List.append_nil] at passed
  simp [pieces, passed, piecesFrom]

theorem pieces_append (expression : IsExpression run) {mark : Token}
    (separates : mark.separates = true) (rest : List Token) :
    pieces (run ++ mark :: rest) = run :: pieces rest := by
  obtain ⟨noOpen, noClose⟩ := level_of_separates separates
  have passed := piecesFrom_append run (mark :: rest) [] expression.passed
  simp [pieces, passed, piecesFrom, noOpen, noClose, separates]

end IsExpression

variable {stretch : List Token}

theorem endFrom_clears (unbroken : Unbroken stretch) (front rest : List Token) :
    ∀ depth place, endFrom depth place (front ++ (stretch ++ rest)) ≤ place + front.length ∨
      place + front.length + stretch.length ≤
        endFrom depth place (front ++ (stretch ++ rest)) := by
  obtain ⟨after, passed⟩ := unbroken
  induction front with
  | nil =>
    intro depth place
    right
    have deeper := through_add depth stretch passed
    rw [Nat.zero_add] at deeper
    rw [List.nil_append, endFrom_append stretch rest place deeper]
    exact endFrom_ge _ _ _
  | cons token front ih =>
    intro depth place
    have moved : place + (token :: front).length = place + 1 + front.length := by
      rw [List.length_cons]
      omega
    simp only [List.cons_append, endFrom, moved]
    split_ifs
    · exact ih _ _
    · cases depth with
      | zero =>
        left
        dsimp only
        omega
      | succ depth => exact ih _ _
    · left
      omega
    · exact ih _ _

theorem expressionLength_clears (unbroken : Unbroken stretch) (front rest : List Token) :
    expressionLength (front ++ (stretch ++ rest)) ≤ front.length ∨
      front.length + stretch.length ≤ expressionLength (front ++ (stretch ++ rest)) := by
  have clears := endFrom_clears unbroken front rest 0 0
  rwa [Nat.zero_add] at clears

end Statement

namespace Bracket

open Statement

variable {front stretch rest : List Token}

theorem pairAt_clears (unbroken : Unbroken stretch) (front : List Token) :
    ∀ {depth place n}, pairAt Token.opens Token.closes (depth + 1) place
        (front ++ (stretch ++ rest)) = some n →
      n < place + front.length ∨ place + front.length + stretch.length ≤ n := by
  obtain ⟨after, passed⟩ := unbroken
  induction front with
  | nil =>
    intro depth place n found
    right
    have deeper := depthAfter_of_through stretch (through_add depth stretch passed)
    rw [Nat.zero_add] at deeper
    rw [List.nil_append, pairAt_append stretch rest place deeper] at found
    exact (pairAt_bound _ _ _ _ found).1
  | cons token front ih =>
    intro depth place n found
    have moved : place + (token :: front).length = place + 1 + front.length := by
      rw [List.length_cons]
      omega
    simp only [List.cons_append, pairAt] at found
    rw [moved]
    split_ifs at found
    · exact ih found
    · cases depth with
      | zero =>
        cases found
        left
        omega
      | succ depth => exact ih found
    · exact ih found

theorem inside?_clears (unbroken : Unbroken stretch) {n : Nat}
    (found : inside? (front ++ (stretch ++ rest)) = some n) :
    n < front.length ∨ front.length + stretch.length ≤ n := by
  have clears := pairAt_clears unbroken front found
  rwa [Nat.zero_add] at clears

theorem pairAt_balanced (tokens : List Token) :
    ∀ {depth place n}, pairAt Token.opens Token.closes (depth + 1) place tokens = some (place + n) →
      depthAfter depth (tokens.take n) = some 0 ∧
        ∃ closer rest, tokens.drop n = closer :: rest ∧ closer.closes = true := by
  induction tokens with
  | nil =>
    intro depth place n found
    cases found
  | cons token tokens ih =>
    intro depth place n found
    simp only [pairAt] at found
    have later : ∀ {depth}, pairAt Token.opens Token.closes depth (place + 1) tokens =
        some (place + n) → ∃ m, n = m + 1 ∧
          pairAt Token.opens Token.closes depth (place + 1) tokens = some (place + 1 + m) := by
      intro depth found
      have bound := (pairAt_bound _ _ _ _ found).1
      refine ⟨n - 1, by omega, ?_⟩
      rw [found]
      congr 1
      omega
    split_ifs at found with opens closes
    · obtain ⟨m, rfl, next⟩ := later found
      have rest := ih next
      rw [List.take_succ_cons, depthAfter, if_pos opens]
      exact rest
    · cases depth with
      | zero =>
        have here : n = 0 := by
          have same := Option.some.inj found
          omega
        subst here
        exact ⟨rfl, token, tokens, rfl, closes⟩
      | succ depth =>
        obtain ⟨m, rfl, next⟩ := later found
        have rest := ih next
        rw [List.take_succ_cons, depthAfter, if_neg opens, if_pos closes,
          if_neg (Nat.succ_ne_zero depth)]
        exact rest
    · obtain ⟨m, rfl, next⟩ := later found
      have rest := ih next
      rw [List.take_succ_cons, depthAfter, if_neg opens, if_neg closes]
      exact rest

theorem cut?_sound {tokens : List Token} {cut : Cut} (found : cut? tokens = some cut) :
    Balanced cut.inner ∧ cut.closer.closes = true := by
  unfold cut? at found
  cases inside : inside? tokens with
  | none =>
    rw [inside] at found
    cases found
  | some n =>
    have place : n = 0 + n := (Nat.zero_add n).symm
    rw [inside?, place] at inside
    obtain ⟨balanced, closer, rest, behind, closes⟩ := pairAt_balanced tokens inside
    rw [inside?, inside, ← place] at found
    simp only [behind] at found
    cases found
    exact ⟨balanced, closes⟩

end Bracket

namespace Definition

open PlayerCipher.Bracket Statement

variable {front stretch rest head body : List Token} {mark : Token}

theorem braced?_sound {tokens : List Token} (found : braced? tokens = some (head, body)) :
    ∃ opener closer brace last rest,
      tokens = opener :: (head ++ closer :: brace :: (body ++ last :: rest)) ∧
        opener.isMark "(" = true ∧ closer.closes = true ∧ brace.isMark "\x7b" = true ∧
          last.closes = true ∧ Balanced head ∧ Balanced body := by
  cases tokens with
  | nil => cases found
  | cons opener tokens =>
    rw [braced?] at found
    split_ifs at found with opens
    obtain ⟨outer, first, found⟩ := Option.bind_eq_some_iff.1 found
    cases behind : outer.rest with
    | nil =>
      rw [behind] at found
      cases found
    | cons brace tokens' =>
      simp only [behind] at found
      split_ifs at found with braces
      obtain ⟨block, second, found⟩ := Option.bind_eq_some_iff.1 found
      cases found
      refine ⟨opener, outer.closer, brace, block.closer, block.rest, ?_, opens,
        (cut?_sound first).2, braces, (cut?_sound second).2, (cut?_sound first).1,
        (cut?_sound second).1⟩
      rw [cut?_append second, ← behind, cut?_append first]

theorem braced?_append {tokens : List Token} (found : braced? tokens = some (head, body))
    (rest : List Token) : braced? (tokens ++ rest) = some (head, body) := by
  obtain ⟨opener, closer, brace, last, more, rfl, opens, closes, braces, ends, headBalanced,
    bodyBalanced⟩ := braced?_sound found
  have whole := braced?_balanced headBalanced bodyBalanced opens closes braces ends (more ++ rest)
  simpa using whole

/-- Parameters and a block are not continued behind a run that closes all its brackets, unless
one of their brackets stands there. -/
theorem braced?_within {tokens : List Token} {depth : Nat}
    (closed : depthAfter depth tokens = some 0)
    (apart : ∀ next ∈ rest.head?, next.isMark "(" = false ∧ next.isMark "\x7b" = false) :
    braced? (tokens ++ rest) = braced? tokens := by
  cases tokens with
  | nil =>
    cases rest with
    | nil => rfl
    | cons next rest => simp [braced?, (apart next rfl).1]
  | cons opener tokens =>
    by_cases opens : opener.isMark "(" = true
    · obtain ⟨head, closer, behind, rfl, balanced, closes, closed⟩ :=
        closed_of_opened (Checked.opens_of_isMark (.inl rfl) opens) closed
      have whole : opener :: (head ++ closer :: behind) ++ rest =
          opener :: (head ++ closer :: (behind ++ rest)) := by
        simp
      rw [whole]
      simp only [braced?, opens, if_true, cut?_balanced balanced closes, Option.bind_eq_bind,
        Option.bind_some]
      cases behind with
      | nil =>
        cases rest with
        | nil => rfl
        | cons next rest => simp [(apart next rfl).2]
      | cons brace behind =>
        by_cases braces : brace.isMark "\x7b" = true
        · obtain ⟨body, last, more, rfl, balanced, ends, -⟩ :=
            closed_of_opened (Checked.opens_of_isMark (.inr rfl) braces) closed
          have whole : brace :: (body ++ last :: more) ++ rest =
              brace :: (body ++ last :: (more ++ rest)) := by
            simp
          rw [whole]
          simp only [braces, if_true, cut?_balanced balanced ends, Option.bind_some]
        · simp only [List.cons_append, braces, Bool.false_eq_true, if_false]
    · simp only [List.cons_append, braced?, opens, Bool.false_eq_true, if_false]

theorem braced?_clears (unbroken : Unbroken (mark :: stretch)) (plain : mark.opens = false)
    (found : braced? (front ++ (mark :: stretch ++ rest)) = some (head, body)) :
    head.length + body.length + 4 ≤ front.length ∨
      front.length + (mark :: stretch).length ≤ head.length + body.length + 4 := by
  obtain ⟨opener, closer, brace, last, rest', whole, opens, closes, braces, ends, headBalanced,
    bodyBalanced⟩ := braced?_sound found
  have notMark : ∀ {token : Token}, token.opens = true → mark ≠ token := by
    rintro token opens rfl
    rw [plain] at opens
    cases opens
  cases front with
  | nil =>
    exact absurd (List.cons.inj whole).1 (notMark (Checked.opens_of_isMark (.inl rfl) opens))
  | cons first front =>
  have parts := (List.cons.inj whole).2
  have outer : inside? (front ++ (mark :: stretch ++ rest)) = some head.length := by
    rw [← List.append_eq, parts]
    exact inside?_balanced headBalanced closes _
  rcases inside?_clears unbroken outer with early | late
  · obtain ⟨front', split, behind⟩ := cut_later_cons parts.symm early
    cases front' with
    | nil =>
      exact absurd (List.cons.inj behind).1.symm
        (notMark (Checked.opens_of_isMark (.inr rfl) braces))
    | cons first front'' =>
      have inner : inside? (front'' ++ (mark :: stretch ++ rest)) = some body.length := by
        have tail : front'' ++ (mark :: stretch ++ rest) = body ++ last :: rest' :=
          (List.cons.inj behind).2.symm
        rw [tail]
        exact inside?_balanced bodyBalanced ends _
      have clears := inside?_clears unbroken inner
      simp only [split, List.length_append, List.length_cons] at clears ⊢
      omega
  · right
    simp only [List.length_cons] at late ⊢
    omega

end Definition

end PlayerCipher
