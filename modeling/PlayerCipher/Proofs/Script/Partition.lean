import Mathlib
import PlayerCipher.Proofs.Script.Stretch
import PlayerCipher.Script.Lexeme

/-! Statements as a partition.
The `;` and `,` outside all brackets divide a balanced run. Its statements are what stands between
two of them that follow each other, as far as anything does, and an expression in the run ends at
the next of them. Both are read off the expressions that the run is put together from. -/

namespace PlayerCipher.Statement

open PlayerCipher.Bracket

/-- Whether a `;` or `,` stands at the place, outside all brackets. -/
def DividesAt (tokens : List Token) (place : Nat) : Prop :=
  Bracket.Balanced (tokens.take place) ∧ ∃ mark ∈ tokens[place]?, mark.separates = true

instance (tokens : List Token) (place : Nat) : Decidable (DividesAt tokens place) :=
  inferInstanceAs (Decidable (depthAfter 0 (tokens.take place) = some 0 ∧
    ∃ mark ∈ tokens[place]?, mark.separates = true))

def dividers (tokens : List Token) : List Nat :=
  (List.range tokens.length).filter fun place => DividesAt tokens place

/-- The places of a piece, up to the one behind it. -/
structure Extent where
  start : Nat
  stop : Nat
deriving DecidableEq, Repr

namespace Extent

def Covers (extent : Extent) (place : Nat) : Prop :=
  extent.start ≤ place ∧ place < extent.stop

def piece (tokens : List Token) (extent : Extent) : List Token :=
  (tokens.take extent.stop).drop extent.start

def movedBy (count : Nat) (extent : Extent) : Extent :=
  ⟨count + extent.start, count + extent.stop⟩

end Extent

/-- What the places, in their order, leave between them from `start` up to `stop`. -/
def extentsFrom (start stop : Nat) : List Nat → List Extent
  | [] => [⟨start, stop⟩]
  | place :: places => ⟨start, place⟩ :: extentsFrom (place + 1) stop places

def extents (tokens : List Token) : List Extent :=
  extentsFrom 0 tokens.length (dividers tokens)

def rejoin : List (List Token) → List Token → List Token
  | piece :: pieces, mark :: marks => piece ++ mark :: rejoin pieces marks
  | pieces, marks => pieces.flatten ++ marks

/-- A run of expressions with a `;` or `,` between each two of them. -/
inductive Divided : List Token → Prop where
  | last {run : List Token} (expression : IsExpression run) : Divided run
  | more {run rest : List Token} {mark : Token} (expression : IsExpression run)
      (separates : mark.separates = true) (divided : Divided rest) : Divided (run ++ mark :: rest)

variable {tokens run rest : List Token} {mark : Token} {place count : Nat}

theorem dividesAt_iff : DividesAt tokens place ↔ ∃ front mark back,
    tokens = front ++ mark :: back ∧ front.length = place ∧ Bracket.Balanced front ∧
      mark.separates = true := by
  constructor
  · rintro ⟨balanced, mark, here, separates⟩
    obtain ⟨front, back, rfl, rfl⟩ := cut_at here
    rw [List.take_left] at balanced
    exact ⟨front, mark, back, rfl, rfl, balanced, separates⟩
  · rintro ⟨front, mark, back, rfl, rfl, balanced, separates⟩
    refine ⟨?_, mark, by simp, separates⟩
    rwa [List.take_left]

theorem isExpression_iff_undivided :
    IsExpression run ↔ Bracket.Balanced run ∧ ∀ place, ¬DividesAt run place := by
  constructor
  · intro expression
    refine ⟨expression.balanced, fun place divides => ?_⟩
    obtain ⟨front, mark, back, split, -, balanced, separates⟩ := dividesAt_iff.1 divides
    exact expression.undivided front mark back split separates balanced
  · rintro ⟨balanced, undivided⟩
    exact ⟨balanced, fun front mark back split separates closed =>
      undivided front.length (dividesAt_iff.2 ⟨front, mark, back, split, rfl, closed, separates⟩)⟩

theorem exists_expression (balanced : Bracket.Balanced tokens) :
    IsExpression tokens ∨ ∃ front mark back, tokens = front ++ mark :: back ∧
      IsExpression front ∧ mark.separates = true := by
  by_cases divides : ∃ place, DividesAt tokens place
  · -- Nothing divides the part before the first such place, since it would divide the run earlier.
    obtain ⟨front, mark, back, split, first, level, separates⟩ :=
      dividesAt_iff.1 (Nat.find_spec divides)
    refine .inr ⟨front, mark, back, split, ⟨level, ?_⟩, separates⟩
    intro front' mark' back' split' separates' closed
    have earlier : front'.length < Nat.find divides := by
      rw [← first, split']
      simp
    apply Nat.find_min divides earlier
    refine dividesAt_iff.2 ⟨front', mark', back' ++ mark :: back, ?_, rfl, closed, separates'⟩
    simp [split, split']
  · exact .inl (isExpression_iff_undivided.2
      ⟨balanced, fun place here => divides ⟨place, here⟩⟩)

theorem divided_of_balanced {tokens : List Token} (balanced : Bracket.Balanced tokens) :
    Divided tokens := by
  rcases exists_expression balanced with
    expression | ⟨front, mark, back, split, expression, separates⟩
  · exact .last expression
  · have shorter : back.length < tokens.length := by
      rw [split, List.length_append, List.length_cons]
      omega
    rw [split, balanced_append_iff expression.balanced, balanced_cons_iff separates] at balanced
    rw [split]
    exact .more expression separates (divided_of_balanced balanced)
termination_by tokens.length

theorem take_behind : (run ++ mark :: rest).take (run.length + 1 + place) =
    run ++ [mark] ++ rest.take place := by
  rw [Nat.add_assoc, List.take_length_add_append, Nat.add_comm 1, List.take_succ_cons]
  simp

theorem getElem?_behind : (run ++ mark :: rest)[run.length + 1 + place]? = rest[place]? := by
  rw [Nat.add_assoc, List.getElem?_append_right (Nat.le_add_right _ _), Nat.add_sub_cancel_left,
    Nat.add_comm 1, List.getElem?_cons_succ]

section

variable (expression : IsExpression run) (separates : mark.separates = true)

include expression separates

theorem balanced_take_behind :
    Bracket.Balanced ((run ++ mark :: rest).take (run.length + 1 + place)) ↔
      Bracket.Balanced (rest.take place) := by
  have level : Bracket.Balanced (run ++ [mark]) := by
    rw [balanced_append_iff expression.balanced, balanced_cons_iff separates]
    rfl
  rw [take_behind, balanced_append_iff level]

theorem dividesAt_behind :
    DividesAt (run ++ mark :: rest) (run.length + 1 + place) ↔ DividesAt rest place := by
  rw [DividesAt, DividesAt, balanced_take_behind expression separates, getElem?_behind]

theorem dividesAt_mark : DividesAt (run ++ mark :: rest) run.length :=
  dividesAt_iff.2 ⟨run, mark, rest, rfl, rfl, expression.balanced, separates⟩

omit separates in
theorem not_dividesAt_within (within : place < run.length) :
    ¬DividesAt (run ++ rest) place := by
  have undivided := (isExpression_iff_undivided.1 expression).2 place
  rwa [DividesAt, List.take_append_of_le_length (Nat.le_of_lt within),
    List.getElem?_append_left within]

theorem dividers_more :
    dividers (run ++ mark :: rest) =
      run.length :: (dividers rest).map (run.length + 1 + ·) := by
  have inside : (List.range run.length).filter
      (fun place => decide (DividesAt (run ++ mark :: rest) place)) = [] := by
    rw [List.filter_eq_nil_iff]
    intro place within
    simpa using not_dividesAt_within expression (List.mem_range.1 within)
  have here : DividesAt (run ++ mark :: rest) (run.length + 0) :=
    dividesAt_mark expression separates
  have behind : (run.length + ·) ∘ Nat.succ = (run.length + 1 + ·) := by
    funext place
    exact Nat.succ_add_eq_add_succ run.length place |>.symm
  rw [dividers, List.length_append, List.length_cons, List.range_add, List.filter_append, inside,
    List.range_succ_eq_map, List.map_cons, List.map_map, behind, List.filter_cons,
    if_pos (decide_eq_true here), List.filter_map, List.nil_append, Nat.add_zero]
  simp only [Function.comp_def, dividesAt_behind expression separates, dividers]

end

theorem dividers_expression (expression : IsExpression run) : dividers run = [] := by
  rw [dividers, List.filter_eq_nil_iff]
  intro place _
  simpa using (isExpression_iff_undivided.1 expression).2 place

theorem extentsFrom_moved (count : Nat) (places : List Nat) :
    ∀ start stop, extentsFrom (count + start) (count + stop) (places.map (count + ·)) =
      (extentsFrom start stop places).map (Extent.movedBy count) := by
  induction places with
  | nil =>
    intro start stop
    rfl
  | cons place places ih =>
    intro start stop
    rw [List.map_cons, extentsFrom, extentsFrom, Nat.add_assoc, ih]
    rfl

theorem extents_expression (expression : IsExpression run) : extents run = [⟨0, run.length⟩] := by
  rw [extents, dividers_expression expression]
  rfl

theorem extents_more (expression : IsExpression run) (separates : mark.separates = true) :
    extents (run ++ mark :: rest) =
      ⟨0, run.length⟩ :: (extents rest).map (Extent.movedBy (run.length + 1)) := by
  have length : (run ++ mark :: rest).length = run.length + 1 + rest.length := by
    rw [List.length_append, List.length_cons, Nat.add_assoc, Nat.add_comm 1]
  have behind := extentsFrom_moved (run.length + 1) (dividers rest) 0 rest.length
  rw [extents, dividers_more expression separates, extentsFrom, length]
  rw [Nat.add_zero] at behind
  rw [behind]
  rfl

theorem exists_extent_more (expression : IsExpression run) (separates : mark.separates = true)
    {p : Extent → Prop} : (∃ extent ∈ extents (run ++ mark :: rest), p extent) ↔
      p ⟨0, run.length⟩ ∨ ∃ extent ∈ extents rest, p (extent.movedBy (run.length + 1)) := by
  rw [extents_more expression separates]
  simp only [List.mem_cons, List.mem_map, exists_eq_or_imp, exists_exists_and_eq_and]

theorem piece_moved (extent : Extent) :
    (extent.movedBy (run.length + 1)).piece (run ++ mark :: rest) = extent.piece rest := by
  have length : run.length + 1 = (run ++ [mark]).length := by
    simp
  rw [Extent.piece, Extent.movedBy, take_behind, length, List.drop_length_add_append, Extent.piece]

theorem covers_first {stop : Nat} : Extent.Covers ⟨0, stop⟩ place ↔ place < stop := by
  simp [Extent.Covers]

theorem covers_moved (extent : Extent) :
    (extent.movedBy count).Covers (count + place) ↔ extent.Covers place := by
  simp only [Extent.Covers, Extent.movedBy]
  omega

theorem pieces_eq_extents (divided : Divided tokens) :
    pieces tokens = (extents tokens).map (Extent.piece tokens) := by
  induction divided with
  | last expression =>
    rw [expression.pieces_eq, extents_expression expression]
    simp [Extent.piece]
  | @more run rest mark expression separates _ ih =>
    have first : Extent.piece (run ++ mark :: rest) ⟨0, run.length⟩ = run := by
      simp [Extent.piece]
    have moved : Extent.piece (run ++ mark :: rest) ∘ Extent.movedBy (run.length + 1) =
        Extent.piece rest := funext piece_moved
    rw [expression.pieces_append separates, extents_more expression separates, ih, List.map_cons,
      first, List.map_map, moved]

theorem isExpression_of_mem (divided : Divided tokens) :
    ∀ piece ∈ pieces tokens, IsExpression piece := by
  induction divided with
  | last expression =>
    rw [expression.pieces_eq]
    simpa using expression
  | more expression separates _ ih =>
    rw [expression.pieces_append separates]
    exact List.forall_mem_cons.2 ⟨expression, ih⟩

theorem rejoin_pieces (divided : Divided tokens) :
    rejoin (pieces tokens) ((dividers tokens).filterMap (tokens[·]?)) = tokens := by
  induction divided with
  | last expression =>
    rw [expression.pieces_eq, dividers_expression expression]
    simp [rejoin]
  | @more run rest mark expression separates _ ih =>
    have here : (run ++ mark :: rest)[run.length]? = some mark := by
      simp
    have behind : ((run ++ mark :: rest)[·]?) ∘ (run.length + 1 + ·) = (rest[·]?) :=
      funext fun _ => getElem?_behind
    rw [expression.pieces_append separates, dividers_more expression separates,
      List.filterMap_cons_some here, List.filterMap_map, behind, rejoin, ih]

theorem extents_ascending (divided : Divided tokens) :
    (extents tokens).Pairwise fun earlier later => earlier.stop < later.start := by
  induction divided with
  | last expression =>
    rw [extents_expression expression]
    exact List.pairwise_singleton _ _
  | more expression separates _ ih =>
    rw [extents_more expression separates]
    refine List.pairwise_cons.2 ⟨?_, List.pairwise_map.2 (ih.imp fun apart => ?_)⟩
    · simp only [List.forall_mem_map, Extent.movedBy]
      intros
      omega
    · exact Nat.add_lt_add_left apart _

theorem covers_iff (divided : Divided tokens) :
    ∀ place < tokens.length,
      (∃ extent ∈ extents tokens, extent.Covers place) ↔ ¬DividesAt tokens place := by
  induction divided with
  | last expression =>
    intro place inside
    rw [extents_expression expression]
    simpa [covers_first, inside] using (isExpression_iff_undivided.1 expression).2 place
  | @more run rest mark expression separates _ ih =>
    intro place inside
    rw [exists_extent_more expression separates, covers_first]
    -- In front of the first token that divides the run, at it, or behind it.
    rcases Nat.lt_trichotomy place run.length with within | rfl | behind
    · have undivided : ¬DividesAt (run ++ mark :: rest) place :=
        not_dividesAt_within expression within
      simp only [within, undivided, true_or, not_false_eq_true]
    · have divides : DividesAt (run ++ mark :: rest) run.length :=
        dividesAt_mark expression separates
      simp only [divides, Nat.lt_irrefl, false_or, not_true_eq_false, iff_false]
      rintro ⟨extent, -, reached, -⟩
      dsimp only [Extent.movedBy] at reached
      omega
    · obtain ⟨later, rfl⟩ := Nat.exists_eq_add_of_le (Nat.succ_le_of_lt behind)
      rw [List.length_append, List.length_cons] at inside
      have next := ih later (by omega)
      have beyond : ¬run.length.succ + later < run.length := by
        omega
      simp only [beyond, false_or, Nat.succ_eq_add_one, covers_moved,
        dividesAt_behind expression separates, next]

theorem stop_of_mem {stop : Nat} {extent : Extent} {places : List Nat} :
    ∀ {start}, extent ∈ extentsFrom start stop places →
      extent.stop = stop ∨ extent.stop ∈ places := by
  induction places with
  | nil =>
    intro start member
    rw [List.mem_singleton.1 member]
    exact .inl rfl
  | cons place places ih =>
    intro start member
    rcases List.mem_cons.1 member with rfl | member
    · exact .inr (.head _)
    · exact (ih member).imp_right (.tail _)

/-- From a place outside all brackets an expression in an undivided part of a run reaches to the end
of the part. -/
theorem expressionStop_within (expression : IsExpression run)
    (ends : ∀ next ∈ rest.head?, next.separates = true) (within : place ≤ run.length)
    (level : Bracket.Balanced (run.take place)) :
    expressionStop (run ++ rest) place = run.length := by
  have passed := isExpression_iff.1 expression
  obtain ⟨front, back, rfl, rfl⟩ := cut_up_to within
  rw [List.take_left] at level
  have remainder : IsExpression back := by
    rw [through_append] at passed
    obtain ⟨depth, reached, behind⟩ := Option.bind_eq_some_iff.1 passed
    obtain rfl := Option.some.inj ((depthAfter_of_through front reached).symm.trans level)
    exact isExpression_iff.2 behind
  rw [List.append_assoc, expressionStop_append,
    remainder.length_append fun next here => .inl (ends next here), List.length_append]

theorem expressionStop_behind (within : place ≤ rest.length) :
    expressionStop (run ++ mark :: rest) (run.length + 1 + place) =
      run.length + 1 + expressionStop rest place := by
  obtain ⟨front, back, rfl, rfl⟩ := cut_up_to within
  have whole : run ++ mark :: (front ++ back) = (run ++ mark :: front) ++ back := by
    simp
  have length : run.length + 1 + front.length = (run ++ mark :: front).length := by
    rw [List.length_append, List.length_cons, Nat.add_right_comm, Nat.add_assoc]
  rw [whole, length, expressionStop_append, expressionStop_append, ← length, Nat.add_assoc]

theorem expressionStop_dividesAt (divides : DividesAt tokens place) :
    expressionStop tokens place = place := by
  obtain ⟨front, mark, back, rfl, rfl, -, separates⟩ := dividesAt_iff.1 divides
  obtain ⟨noOpen, noClose⟩ := level_of_separates separates
  rw [expressionStop_append]
  simp [expressionLength, endFrom, noOpen, noClose, separates]

theorem expressionStop_extent (divided : Divided tokens) :
    ∀ place ≤ tokens.length, Bracket.Balanced (tokens.take place) →
      ∃ extent ∈ extents tokens, extent.start ≤ place ∧ place ≤ extent.stop ∧
        expressionStop tokens place = extent.stop := by
  induction divided with
  | @last run expression =>
    intro place inside level
    rw [extents_expression expression]
    have stop : expressionStop (run ++ []) place = run.length :=
      expressionStop_within expression (by simp) inside level
    rw [List.append_nil] at stop
    exact ⟨_, .head _, Nat.zero_le _, inside, stop⟩
  | @more run rest mark expression separates _ ih =>
    intro place inside level
    rw [exists_extent_more expression separates]
    rcases Nat.lt_or_ge run.length place with behind | within
    · obtain ⟨later, rfl⟩ := Nat.exists_eq_add_of_le (Nat.succ_le_of_lt behind)
      rw [List.length_append, List.length_cons] at inside
      have within : later ≤ rest.length := by
        omega
      obtain ⟨extent, member, reached, ends, stop⟩ :=
        ih later within ((balanced_take_behind expression separates).1 level)
      refine .inr ⟨extent, member, ?_, ?_, ?_⟩
      · exact Nat.add_le_add_left reached _
      · exact Nat.add_le_add_left ends _
      · rw [Nat.succ_eq_add_one, expressionStop_behind within, stop, Extent.movedBy]
    · rw [List.take_append_of_le_length within] at level
      refine .inl ⟨Nat.zero_le _, within, expressionStop_within expression ?_ within level⟩
      rintro next ⟨⟩
      exact separates

/-- The statements of a balanced run are what is not empty between its top-level `;` and `,`. Put
together again with those between them, the pieces are the run; each token is one of those or stands
in a piece; and an expression that starts outside all brackets ends with its piece. -/
theorem statements_partition (balanced : Bracket.Balanced tokens) :
    statements tokens =
      ((extents tokens).map (Extent.piece tokens)).filter (fun piece => !piece.isEmpty) ∧
    (extents tokens).Pairwise (fun earlier later => earlier.stop < later.start) ∧
    rejoin ((extents tokens).map (Extent.piece tokens))
      ((dividers tokens).filterMap (tokens[·]?)) = tokens ∧
    (∀ piece ∈ statements tokens, piece ≠ [] ∧ ∀ place, ¬DividesAt piece place) ∧
    (∀ place < tokens.length,
      (∃ extent ∈ extents tokens, extent.Covers place) ↔ ¬DividesAt tokens place) ∧
    ∀ place ≤ tokens.length, Bracket.Balanced (tokens.take place) →
      (∃ extent ∈ extents tokens, extent.start ≤ place ∧ place ≤ extent.stop ∧
        expressionStop tokens place = extent.stop) ∧
      (DividesAt tokens place → expressionStop tokens place = place) ∧
      ((∀ later, place ≤ later → ¬DividesAt tokens later) →
        expressionStop tokens place = tokens.length) := by
  have divided := divided_of_balanced balanced
  have parts := pieces_eq_extents divided
  refine ⟨by rw [statements, parts], extents_ascending divided, ?_, ?_, covers_iff divided, ?_⟩
  · rw [← parts]
    exact rejoin_pieces divided
  · intro piece member
    rw [statements, List.mem_filter] at member
    have expression := isExpression_of_mem divided piece member.1
    exact ⟨by simpa using member.2, (isExpression_iff_undivided.1 expression).2⟩
  · intro place inside level
    have found := expressionStop_extent divided place inside level
    refine ⟨found, expressionStop_dividesAt, fun undivided => ?_⟩
    obtain ⟨extent, member, -, ends, stop⟩ := found
    rcases stop_of_mem member with last | divides
    · rw [stop, last]
    · have divides : DividesAt tokens extent.stop := by
        simpa using (List.mem_filter.1 divides).2
      exact absurd divides (undivided _ ends)

/-- Brackets with separators inside, and two separators with nothing between them. -/
theorem statements_partition_nested :
    let tokens := tokenize "f(a,b);;x=[c;d],y"
    Bracket.Balanced tokens ∧ extents tokens = [⟨0, 6⟩, ⟨7, 7⟩, ⟨8, 15⟩, ⟨16, 17⟩] ∧
      statements tokens = [tokens.take 6, (tokens.take 15).drop 8, (tokens.take 17).drop 16] ∧
      (∃ extent ∈ extents tokens, extent.Covers 12) ∧
      Bracket.Balanced (tokens.take 9) ∧ expressionStop tokens 9 = 15 ∧
      DividesAt tokens 6 ∧ expressionStop tokens 6 = 6 := by
  intro tokens
  have read : Bracket.Balanced tokens ∧ extents tokens = [⟨0, 6⟩, ⟨7, 7⟩, ⟨8, 15⟩, ⟨16, 17⟩] ∧
      Bracket.Balanced (tokens.take 9) ∧ Bracket.Balanced (tokens.take 6) ∧
      tokens[6]? = some ⟨.punct, ";", 6⟩ ∧ depthAfter 0 (tokens.take 12) = some 1 ∧
      tokens.length = 17 := by
    unfold tokens
    cbv
  obtain ⟨balanced, places, level, front, here, inside, length⟩ := read
  obtain ⟨found, -, -, -, covered, ends⟩ := statements_partition balanced
  have divides : DividesAt tokens 6 := ⟨front, _, here, rfl⟩
  have undivided : ¬DividesAt tokens 12 := by
    rintro ⟨outside, -⟩
    rw [Bracket.Balanced, inside] at outside
    cases outside
  have nonempty : (([⟨0, 6⟩, ⟨7, 7⟩, ⟨8, 15⟩, ⟨16, 17⟩] : List Extent).map
      (Extent.piece tokens)).filter (fun piece => !piece.isEmpty) =
        [tokens.take 6, (tokens.take 15).drop 8, (tokens.take 17).drop 16] := by
    unfold tokens
    cbv
  refine ⟨balanced, places, ?_, (covered 12 (by omega)).2 undivided, level, ?_, divides,
    (ends 6 (by omega) front).2.1 divides⟩
  · rw [found, places, nonempty]
  · obtain ⟨extent, member, reached, bound, stop⟩ := (ends 9 (by omega) level).1
    rw [places] at member
    simp only [List.mem_cons, List.not_mem_nil, or_false] at member
    rcases member with rfl | rfl | rfl | rfl
    · cases Nat.not_le.2 (by decide : 6 < 9) bound
    · cases Nat.not_le.2 (by decide : 7 < 9) bound
    · exact stop
    · cases Nat.not_le.2 (by decide : 9 < 16) reached

end PlayerCipher.Statement
