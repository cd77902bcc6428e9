import Mathlib
import PlayerCipher.Proofs.Script.Locality

/-! Brackets in pairs.
An opening and a closing bracket are a pair if the run between them is balanced, whatever their
kinds. The search forwards from the one finds the other, and the search backwards from the other
finds the one: a bracket for which nothing is found is in no pair. -/

namespace PlayerCipher.Bracket

open Token Statement

/-- An opening and a closing bracket with a balanced run between them. -/
structure IsPair (tokens : List Token) (start stop : Nat) : Prop where
  ordered : start < stop
  opener : ∃ opener, tokens[start]? = some opener ∧ opener.opens = true
  closer : ∃ closer, tokens[stop]? = some closer ∧ closer.closes = true
  balanced : Balanced ((tokens.take stop).drop (start + 1))

variable {tokens before inner rest : List Token} {opener closer : Token} {start stop : Nat}

/-- A run leads from one depth to another if no part of it from its start closes more brackets than
were open, and the whole makes up the difference. -/
theorem depthAfter_eq_some_iff (run : List Token) :
    ∀ {depth after : Nat}, depthAfter depth run = some after ↔
      (∀ n, (run.take n).countP closes ≤ depth + (run.take n).countP opens) ∧
        after + run.countP closes = depth + run.countP opens := by
  induction run with
  | nil =>
    intro depth after
    simp [depthAfter, eq_comm]
  | cons token run ih =>
    intro depth after
    rw [depthAfter, ← Nat.and_forall_add_one]
    simp only [List.take_succ_cons, List.take_zero, List.countP_cons, List.countP_nil, Nat.zero_le,
      true_and]
    by_cases up : token.opens = true
    · simp only [up, closes_of_opens up, if_true, Bool.false_eq_true, if_false, ih]
      grind
    by_cases down : token.closes = true
    · simp only [up, down, if_true, Bool.false_eq_true, if_false]
      cases depth with
      | zero =>
        constructor
        · intro known
          cases known
        · rintro ⟨level, -⟩
          have first := level 0
          simp at first
      | succ depth =>
        rw [if_neg (Nat.succ_ne_zero depth), Nat.add_sub_cancel, ih]
        grind
    · simp only [up, down, Bool.false_eq_true, if_false, ih, Nat.add_zero]

theorem between_eq (before inner rest : List Token) (opener closer : Token) :
    ((before ++ opener :: (inner ++ closer :: rest)).take (before.length + 1 + inner.length)).drop
      (before.length + 1) = inner := by
  have whole : before ++ opener :: (inner ++ closer :: rest) =
      (before ++ [opener]) ++ (inner ++ closer :: rest) := by
    simp
  have length : before.length + 1 = (before ++ [opener]).length := by
    simp
  rw [whole, length, List.take_length_add_append, List.drop_left, List.take_left]

theorem isPair_append (opens : opener.opens = true) (balanced : Balanced inner)
    (closes : closer.closes = true) :
    IsPair (before ++ opener :: (inner ++ closer :: rest)) before.length
      (before.length + 1 + inner.length) where
  ordered := by omega
  opener := ⟨opener, by simp, opens⟩
  closer := by
    refine ⟨closer, ?_, closes⟩
    rw [Nat.add_right_comm, Nat.add_assoc, List.getElem?_append_right (Nat.le_add_right _ _),
      Nat.add_sub_cancel_left, List.getElem?_cons_succ]
    simp
  balanced := by rwa [between_eq]

theorem Balanced.enclosed (balanced : Balanced inner) (opens : opener.opens = true)
    (closes : closer.closes = true) : Balanced (opener :: (inner ++ [closer])) := by
  have deeper : depthAfter 1 inner = some 1 :=
    depthAfter_of_through inner (through_of_depthAfter inner balanced)
  simp [Balanced, depthAfter, opens, depthAfter_append, deeper, opens_of_closes closes, closes]

theorem IsPair.split (pair : IsPair tokens start stop) :
    ∃ before opener inner closer rest,
      tokens = before ++ opener :: (inner ++ closer :: rest) ∧ before.length = start ∧
        before.length + 1 + inner.length = stop ∧ opener.opens = true ∧ Balanced inner ∧
          closer.closes = true := by
  obtain ⟨opener, here, opens⟩ := pair.opener
  obtain ⟨closer, there, closes⟩ := pair.closer
  obtain ⟨front, rest, rfl, length⟩ := cut_at there
  have ordered := pair.ordered
  rw [List.getElem?_append_left (by omega)] at here
  obtain ⟨before, inner, rfl, rfl⟩ := cut_at here
  have whole : before ++ opener :: inner ++ closer :: rest =
      before ++ opener :: (inner ++ closer :: rest) := by
    simp
  have place : before.length + 1 + inner.length = stop := by
    rw [← length, List.length_append, List.length_cons]
    omega
  refine ⟨before, opener, inner, closer, rest, whole, rfl, place, opens, ?_, closes⟩
  have balanced := pair.balanced
  rwa [whole, ← place, between_eq] at balanced

theorem cut?_eq_some_iff {cut : Cut} : cut? tokens = some cut ↔
    tokens = cut.inner ++ cut.closer :: cut.rest ∧ Balanced cut.inner ∧
      cut.closer.closes = true := by
  refine ⟨fun found => ⟨(cut?_append found).symm, cut?_sound found⟩, ?_⟩
  rintro ⟨rfl, balanced, closes⟩
  exact cut?_balanced balanced closes cut.rest

theorem closerOf?_eq_some_iff (here : tokens[start]? = some opener) (opens : opener.opens = true) :
    closerOf? tokens start = some stop ↔ IsPair tokens start stop := by
  constructor
  · intro found
    obtain ⟨before, behind, rfl, rfl⟩ := cut_at here
    rw [closerOf?_append opens] at found
    obtain ⟨cut, parts, rfl⟩ := Option.map_eq_some_iff.1 found
    obtain ⟨rfl, balanced, closes⟩ := cut?_eq_some_iff.1 parts
    exact isPair_append opens balanced closes
  · intro pair
    obtain ⟨before, opener, inner, closer, rest, rfl, rfl, rfl, opens, balanced, closes⟩ :=
      pair.split
    rw [closerOf?_append opens, cut?_balanced balanced closes]
    rfl

theorem depthAfter_of_pairAt (run : List Token) :
    ∀ {depth place n}, pairAt closes opens (depth + 1) place run = some (place + n) →
      depthAfter 0 (run.take n).reverse = some depth := by
  induction run with
  | nil =>
    intro depth place n found
    cases found
  | cons token run ih =>
    intro depth place n found
    simp only [pairAt] at found
    have later : ∀ {depth}, pairAt closes opens (depth + 1) (place + 1) run = some (place + n) →
        ∃ m, n = m + 1 ∧ depthAfter 0 (run.take m).reverse = some depth := by
      intro depth found
      have bound := (pairAt_bound _ _ _ _ found).1
      obtain ⟨m, rfl⟩ : ∃ m, n = m + 1 := ⟨n - 1, by omega⟩
      rw [← Nat.add_assoc, Nat.add_right_comm] at found
      exact ⟨m, rfl, ih found⟩
    -- The nearest token is the last one that is read forwards.
    split_ifs at found with down up
    · obtain ⟨m, rfl, level⟩ := later found
      simp [depthAfter_append, level, depthAfter, opens_of_closes down, down]
    · cases depth with
      | zero =>
        obtain rfl : n = 0 := by simpa using found
        rfl
      | succ depth =>
        obtain ⟨m, rfl, level⟩ := later found
        simp [depthAfter_append, level, depthAfter, up]
    · obtain ⟨m, rfl, level⟩ := later found
      simp [depthAfter_append, level, depthAfter, down, up]

theorem pairAt_reverse_eq_some_iff {run : List Token} {n : Nat} :
    pairAt closes opens 1 0 run = some n ↔ ∃ inner opener far, run = inner ++ opener :: far ∧
      inner.length = n ∧ Balanced inner.reverse ∧ opener.opens = true := by
  constructor
  · intro found
    obtain ⟨opener, here, opens⟩ := pairAt_down run found
    obtain ⟨inner, far, rfl, rfl⟩ := cut_at here
    rw [← Nat.zero_add inner.length] at found
    have balanced := depthAfter_of_pairAt _ found
    rw [List.take_left] at balanced
    exact ⟨inner, opener, far, rfl, rfl, balanced, opens⟩
  · rintro ⟨inner, opener, far, rfl, rfl, balanced, opens⟩
    have passed := pairAt_reverse inner.reverse (opener :: far) 0 0 balanced
    rw [List.reverse_reverse, List.length_reverse, Nat.zero_add, Nat.zero_add] at passed
    rw [passed, pairAt, if_neg (by simp [closes_of_opens opens]), if_pos opens]

theorem openerOf?_append (closes : closer.closes = true) :
    openerOf? (before ++ closer :: rest) before.length =
      (pairAt Token.closes Token.opens 1 0 before.reverse).map
        fun n => before.length - (1 + n) := by
  have run : ((before ++ closer :: rest).take (before.length + 1)).reverse =
      closer :: before.reverse := by
    rw [List.take_length_add_append]
    simp
  have first : (0 : Nat) + 1 = 1 + 0 := rfl
  rw [openerOf?, run, openDistance?, pairAt, if_pos closes, first, pairAt_place, Option.map_map]
  rfl

theorem openerOf?_eq_some_iff (here : tokens[stop]? = some closer) (closes : closer.closes = true) :
    openerOf? tokens stop = some start ↔ IsPair tokens start stop := by
  obtain ⟨front, rest, rfl, rfl⟩ := cut_at here
  rw [openerOf?_append closes, Option.map_eq_some_iff]
  constructor
  · rintro ⟨_, paired, rfl⟩
    obtain ⟨inner, opener, far, split, rfl, balanced, opens⟩ := pairAt_reverse_eq_some_iff.1 paired
    obtain rfl : front = far.reverse ++ opener :: inner.reverse := by
      rw [← List.reverse_reverse front, split]
      simp
    have place : (far.reverse ++ opener :: inner.reverse).length =
        far.reverse.length + 1 + inner.reverse.length := by
      rw [List.length_append, List.length_cons]
      omega
    have back : far.reverse.length + 1 + inner.reverse.length - (1 + inner.length) =
        far.reverse.length := by
      rw [@List.length_reverse _ inner]
      omega
    rw [place, back, List.append_assoc]
    exact isPair_append opens balanced closes
  · intro pair
    obtain ⟨before, opener, inner, last, more, whole, rfl, place, opens, balanced, -⟩ := pair.split
    obtain rfl : front = before ++ opener :: inner := by
      rw [← List.cons_append, ← List.append_assoc] at whole
      refine (List.append_inj whole ?_).1
      rw [← place, List.length_append, List.length_cons]
      omega
    refine ⟨inner.reverse.length, pairAt_reverse_eq_some_iff.2
      ⟨inner.reverse, opener, before.reverse, by simp, rfl, ?_, opens⟩, ?_⟩
    · rwa [List.reverse_reverse]
    · rw [List.length_append, List.length_cons, List.length_reverse]
      omega

theorem exists_isPair_iff (here : tokens[start]? = some opener) (opens : opener.opens = true) :
    (∃ stop, IsPair tokens start stop) ↔
      ∃ stop, start < stop ∧ stop < tokens.length ∧
        Balanced ((tokens.take (stop + 1)).drop start) := by
  constructor
  · rintro ⟨stop, pair⟩
    obtain ⟨before, opener, inner, closer, rest, rfl, rfl, rfl, opens, balanced, closes⟩ :=
      pair.split
    refine ⟨_, pair.ordered, ?_, ?_⟩
    · simp only [List.length_append, List.length_cons]
      omega
    · have whole : before ++ opener :: (inner ++ closer :: rest) =
          before ++ (opener :: (inner ++ [closer]) ++ rest) := by
        simp
      have length : before.length + 1 + inner.length + 1 =
          before.length + (opener :: (inner ++ [closer])).length := by
        simp only [List.length_append, List.length_cons, List.length_nil]
        omega
      rw [whole, length, List.take_length_add_append, List.drop_left, List.take_left]
      exact balanced.enclosed opens closes
  · rintro ⟨stop, ordered, -, balanced⟩
    obtain ⟨before, behind, rfl, rfl⟩ := cut_at here
    obtain ⟨count, rfl⟩ := Nat.exists_eq_add_of_lt ordered
    rw [Nat.add_assoc, Nat.add_assoc, List.take_length_add_append, List.drop_left,
      List.take_succ_cons] at balanced
    -- The run may go on behind the bracket that closes the first one.
    obtain ⟨inner, closer, more, split, level, closes, -⟩ := closed_of_opened opens balanced
    rw [← List.take_append_drop (count + 1) behind, split, List.append_assoc, List.cons_append]
    exact ⟨_, isPair_append opens level closes⟩

/-- The searches for a closing and for an opening bracket are inverse to each other: both find the
pairs of a run, and all of them. -/
theorem closerOf?_paired (tokens : List Token) :
    (∀ run, Balanced run ↔
      (∀ n, (run.take n).countP closes ≤ (run.take n).countP opens) ∧
        run.countP closes = run.countP opens) ∧
    (∀ start opener, tokens[start]? = some opener → opener.opens = true →
      (∀ stop, closerOf? tokens start = some stop →
        IsPair tokens start stop ∧ openerOf? tokens stop = some start) ∧
      (closerOf? tokens start = none ↔ ∀ stop, start < stop → stop < tokens.length →
        ¬Balanced ((tokens.take (stop + 1)).drop start))) ∧
    ∀ stop closer, tokens[stop]? = some closer → closer.closes = true →
      ∀ start, openerOf? tokens stop = some start →
        IsPair tokens start stop ∧ closerOf? tokens start = some stop := by
  refine ⟨fun run => ?_, fun start opener here opens => ⟨fun stop found => ?_, ?_⟩,
    fun stop closer here closes start found => ?_⟩
  · rw [Balanced, depthAfter_eq_some_iff]
    simp only [Nat.zero_add]
  · have pair := (closerOf?_eq_some_iff here opens).1 found
    obtain ⟨closer, there, closes⟩ := pair.closer
    exact ⟨pair, (openerOf?_eq_some_iff there closes).2 pair⟩
  · rw [Option.eq_none_iff_forall_ne_some]
    have pairs := (exists_isPair_iff here opens).not
    simp only [← closerOf?_eq_some_iff here opens] at pairs
    push Not at pairs
    exact pairs
  · have pair := (openerOf?_eq_some_iff here closes).1 found
    obtain ⟨opener, there, opens⟩ := pair.opener
    exact ⟨pair, (closerOf?_eq_some_iff there opens).2 pair⟩

/-- Brackets of two kinds in one pair, inside another, between two without partners. -/
theorem closerOf?_paired_mixed :
    let tokens := tokenize ")f(a[b)\x7d(c"
    closerOf? tokens 2 = some 7 ∧ IsPair tokens 2 7 ∧ openerOf? tokens 7 = some 2 ∧
      openerOf? tokens 6 = some 4 ∧ IsPair tokens 4 6 ∧ closerOf? tokens 4 = some 6 ∧
      closerOf? tokens 8 = none ∧
        ∀ stop, 8 < stop → stop < tokens.length →
          ¬Balanced ((tokens.take (stop + 1)).drop 8) := by
  intro tokens
  have read : closerOf? tokens 2 = some 7 ∧ openerOf? tokens 6 = some 4 ∧
      closerOf? tokens 8 = none ∧ tokens[2]? = some ⟨.punct, "(", 2⟩ ∧
      tokens[6]? = some ⟨.punct, ")", 6⟩ ∧ tokens[8]? = some ⟨.punct, "(", 8⟩ := by
    unfold tokens
    cbv
  obtain ⟨found, found', lone, outer, inner, last⟩ := read
  obtain ⟨-, forwards, backwards⟩ := closerOf?_paired tokens
  obtain ⟨pair, back⟩ := (forwards 2 _ outer rfl).1 7 found
  obtain ⟨pair', forth⟩ := backwards 6 _ inner rfl 4 found'
  exact ⟨found, pair, back, found', pair', forth, lone, (forwards 8 _ last rfl).2.1 lone⟩

end PlayerCipher.Bracket
