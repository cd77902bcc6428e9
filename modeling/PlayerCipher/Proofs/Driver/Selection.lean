import Mathlib
import PlayerCipher.Proofs.Driver.Ranking

/-! Selection of the driver.
Every function that makes a helper call may be the driver. One found by itself is the greatest in
a lexicographic order: being named at a call site, splitting its input, the number of its calls
and, last, standing earlier. One given by name is the earliest of that name. The calls of the
driver alone decide what is recorded. -/

namespace PlayerCipher

namespace Driver

def SplitsInput (function : Definition) : Prop :=
  ∃ param params front back, ∃ array dot method opener separator closer : Token,
    function.params = param :: params ∧
    function.body = front ++ array :: dot :: method :: opener :: separator :: closer :: back ∧
    array.spells param = true ∧ dot.isMark "." = true ∧ method.spells "split" = true ∧
    opener.isMark "(" = true ∧ separator.contents? = some "" ∧ closer.isMark ")" = true

theorem splits_iff {param : String} {tokens : List Token} :
    splits param tokens = true ↔ ∃ front rest, tokens = front ++ rest ∧
      splitsHere param rest = true := by
  induction tokens with
  | nil =>
    simp [splits, splitsHere]
  | cons token tokens ih =>
    rw [splits, Bool.or_eq_true, ih]
    constructor
    · rintro (here | ⟨front, rest, rfl, later⟩)
      · exact ⟨[], token :: tokens, rfl, here⟩
      · exact ⟨token :: front, rest, rfl, later⟩
    · rintro ⟨front, rest, whole, found⟩
      cases front with
      | nil =>
        left
        rwa [whole]
      | cons first front =>
        obtain ⟨rfl, same⟩ := List.cons.inj whole
        exact .inr ⟨front, rest, same, found⟩

theorem splitsInput_iff {function : Definition} :
    splitsInput function = true ↔ SplitsInput function := by
  unfold splitsInput SplitsInput
  cases function.params with
  | nil => simp
  | cons param params =>
    simp only [splits_iff, List.cons.injEq]
    constructor
    · rintro ⟨front, rest, body, here⟩
      unfold splitsHere at here
      split at here
      · rename_i array dot method opener separator closer back
        simp only [Bool.and_eq_true, beq_iff_eq] at here
        obtain ⟨⟨⟨⟨⟨splits, dots⟩, method⟩, opens⟩, empty⟩, closes⟩ := here
        exact ⟨param, params, front, back, _, _, _, _, _, _, ⟨rfl, rfl⟩, body, splits, dots, method,
          opens, empty, closes⟩
      · cases here
    · rintro ⟨_, _, front, back, array, dot, method, opener, separator, closer, ⟨rfl, rfl⟩, body,
        splits, dots, method, opens, empty, closes⟩
      refine ⟨front, _, body, ?_⟩
      simp [splitsHere, splits, dots, method, opens, empty, closes]

/-- What a function is ranked by, whatever its place: first that a call site names it, then that
it splits its input, then the number of its calls. -/
def rank (names : HelperNames) (located : Option String) (function : Definition) :
    Prop ×ₗ Prop ×ₗ ℕ :=
  toLex (located ≠ none ∧ function.name = located,
    toLex (SplitsInput function, (callsIn names function.body).length))

variable {names : HelperNames} {located : Option String}

theorem isLocated_iff (names : HelperNames) {function : Definition} :
    (candidateOf names function).isLocated located = true ↔
      located ≠ none ∧ function.name = located := by
  simp [Candidate.isLocated, candidateOf, Option.isSome_iff_ne_none]

theorem outranks_iff {f g : Definition} :
    (candidateOf names f).outranks located (candidateOf names g) = true ↔
      rank names located g < rank names located f := by
  have less : ∀ p q : Bool, (p = true) < (q = true) ↔ p = false ∧ q = true := by
    intro p q
    simp only [lt_iff_le_not_ge, le_Prop_eq]
    cases p <;> cases q <;> decide
  have compared : ∀ (a b s t : Bool) (m n : ℕ),
      (if a != b then a else if s != t then s else decide (n < m)) = true ↔
        b = false ∧ a = true ∨ (b = true) = (a = true) ∧
          (t = false ∧ s = true ∨ (t = true) = (s = true) ∧ n < m) := by
    intro a b s t m n
    cases a <;> cases b <;> cases s <;> cases t <;> simp
  simp only [rank, Prod.Lex.toLex_lt_toLex, ← isLocated_iff names, ← splitsInput_iff, less]
  exact compared _ _ _ _ _ _

theorem callsHelper_iff {function : Definition} :
    callsHelper names function = true ↔ callsIn names function.body ≠ [] := by
  simp [callsHelper]

theorem best?_eq_none {candidates : List Candidate} :
    Candidate.best? located candidates = none ↔ candidates = [] := by
  cases candidates with
  | nil => simp [Candidate.best?]
  | cons candidate candidates =>
    simp only [Candidate.best?, reduceCtorEq, iff_false]
    split
    · simp
    · split <;> simp

/-- The best candidate has a greater rank than those before it and no smaller one than those
behind it. -/
theorem best?_candidates {functions : List Definition} :
    ∀ {best : Candidate}, Candidate.best? located (candidates names functions) = some best →
      ∃ front function back, functions = front ++ function :: back ∧
        callsIn names function.body ≠ [] ∧ best = candidateOf names function ∧
        (∀ other ∈ front, callsIn names other.body ≠ [] →
          rank names located other < rank names located function) ∧
        (∀ other ∈ back, callsIn names other.body ≠ [] →
          rank names located other ≤ rank names located function) := by
  induction functions with
  | nil => simp [candidates, Candidate.best?]
  | cons first functions ih =>
    intro best found
    rw [candidates_eq, List.filter_cons] at found
    split_ifs at found with calls
    · rw [List.map_cons, ← candidates_eq, Candidate.best?] at found
      have calls := callsHelper_iff.1 calls
      cases rest : Candidate.best? located (candidates names functions) with
      | none =>
        rw [rest] at found
        obtain rfl := Option.some.inj found
        rw [best?_eq_none, candidates_eq, List.map_eq_nil_iff, List.filter_eq_nil_iff] at rest
        refine ⟨[], first, functions, rfl, calls, rfl, by simp, ?_⟩
        intro other behind calls'
        exact absurd (callsHelper_iff.2 calls') (rest other behind)
      | some other =>
        obtain ⟨front, function, back, rfl, calls', rfl, before, behind⟩ := ih rest
        simp only [rest, outranks_iff] at found
        split_ifs at found with less
        · obtain rfl := Option.some.inj found
          refine ⟨first :: front, function, back, rfl, calls', rfl, ?_, behind⟩
          simpa [calls, less] using before
        · obtain rfl := Option.some.inj found
          have least := not_lt.1 less
          refine ⟨[], first, front ++ function :: back, rfl, calls, rfl, by simp, ?_⟩
          intro other member calls
          rcases List.mem_append.1 member with early | late
          · exact ((before other early calls).trans_le least).le
          · rcases List.mem_cons.1 late with rfl | late
            · exact least
            · exact (behind other late calls).trans least
    · rw [← candidates_eq] at found
      obtain ⟨front, function, back, rfl, calls', rfl, before, behind⟩ := ih found
      refine ⟨first :: front, function, back, rfl, calls', rfl, ?_, behind⟩
      rw [callsHelper_iff] at calls
      simpa [calls] using before

/-- What functions with their places are compared by: their ranks, then their places, of which an
earlier one is the greater. -/
def preference (names : HelperNames) (located : Option String) (entry : Definition × ℕ) :
    (Prop ×ₗ Prop ×ₗ ℕ) ×ₗ ℕᵒᵈ :=
  toLex (rank names located entry.1, OrderDual.toDual entry.2)

/-- The function at its place makes a helper call and is preferred to all others that make one. -/
structure IsDriver (names : HelperNames) (located : Option String) (functions : List Definition)
    (entry : Definition × ℕ) : Prop where
  listed : entry ∈ functions.zipIdx
  calls : callsIn names entry.1.body ≠ []
  preferred : ∀ other ∈ functions.zipIdx, callsIn names other.1.body ≠ [] → other ≠ entry →
    preference names located other < preference names located entry

namespace IsDriver

variable {functions : List Definition} {entry other : Definition × ℕ}

theorem unique (driver : IsDriver names located functions entry)
    (driver' : IsDriver names located functions other) : other = entry := by
  by_contra differ
  have less := driver.preferred other driver'.listed driver'.calls differ
  have more := driver'.preferred entry driver.listed driver.calls (Ne.symm differ)
  exact lt_asymm less more

theorem of_split {front back : List Definition} {function : Definition}
    (calls : callsIn names function.body ≠ [])
    (before : ∀ other ∈ front, callsIn names other.body ≠ [] →
      rank names located other < rank names located function)
    (behind : ∀ other ∈ back, callsIn names other.body ≠ [] →
      rank names located other ≤ rank names located function) :
    IsDriver names located (front ++ function :: back) (function, front.length) := by
  refine ⟨by simp [List.mk_mem_zipIdx_iff_getElem?], calls, ?_⟩
  rintro ⟨other, place⟩ listed calls' differ
  rw [List.mk_mem_zipIdx_iff_getElem?] at listed
  rw [preference, preference, Prod.Lex.toLex_lt_toLex]
  rcases Nat.lt_trichotomy place front.length with early | rfl | late
  · rw [List.getElem?_append_left early] at listed
    exact .inl (before other (List.mem_of_getElem? listed) calls')
  · rw [List.getElem?_append_right le_rfl, Nat.sub_self, List.getElem?_cons_zero] at listed
    obtain rfl := Option.some.inj listed
    exact absurd rfl differ
  · obtain ⟨more, rfl⟩ := Nat.exists_eq_add_of_lt late
    have distance : front.length + more + 1 - front.length = more + 1 := by
      omega
    rw [List.getElem?_append_right late.le, distance, List.getElem?_cons_succ] at listed
    rcases (behind other (List.mem_of_getElem? listed) calls').lt_or_eq with less | same
    · exact .inl less
    · exact .inr ⟨same, OrderDual.toDual_lt_toDual.2 late⟩

end IsDriver

theorem exists_isDriver (located : Option String) {functions : List Definition}
    (present : ∃ function ∈ functions, callsIn names function.body ≠ []) :
    ∃ driver, IsDriver names located functions driver ∧
      select? functions .auto names located = some (candidateOf names driver.1) := by
  cases found : select? functions .auto names located with
  | none =>
    obtain ⟨function, member, calls⟩ := present
    simp only [select?, best?_eq_none, candidates_eq, List.map_eq_nil_iff,
      List.filter_eq_nil_iff] at found
    exact absurd (callsHelper_iff.2 calls) (found function member)
  | some best =>
    obtain ⟨front, function, back, rfl, calls, rfl, before, behind⟩ := best?_candidates found
    exact ⟨_, .of_split calls before behind, rfl⟩

inductive Recorded (function : Definition) (calls : List Call) :
    Except RecordError Recipe → Prop where
  | recipe {operations : List Operation}
      (read : calls.map Call.operation = operations.map .ok) :
      Recorded function calls (.ok ⟨operations⟩)
  | malformed {front back : List Call} {call : Call} {operations : List Operation}
      {reason : ArgumentError} (split : calls = front ++ call :: back)
      (read : front.map Call.operation = operations.map .ok)
      (refused : call.operation = .error reason) :
      Recorded function calls (.error (.malformedCall (function.name.getD "<anonymous>")
        call.kind call.text reason.message))

theorem operations_read (function : String) (calls : List Call) :
    (∃ ops : List Operation, operations function calls = .ok ops ∧
      calls.map Call.operation = ops.map .ok) ∨
    ∃ front call back, ∃ ops : List Operation, ∃ reason, calls = front ++ call :: back ∧
      front.map Call.operation = ops.map .ok ∧ call.operation = .error reason ∧
      operations function calls =
        .error (.malformedCall function call.kind call.text reason.message) := by
  induction calls with
  | nil => exact .inl ⟨[], rfl, rfl⟩
  | cons call calls ih =>
    rw [operations]
    cases read : call.operation with
    | error reason => exact .inr ⟨[], call, calls, [], reason, rfl, rfl, read, rfl⟩
    | ok operation =>
      rcases ih with ⟨ops, rest, same⟩ | ⟨front, other, back, ops, reason, rfl, same, refused, rest⟩
      · refine .inl ⟨operation :: ops, ?_, ?_⟩
        · rw [rest]
          rfl
        · rw [List.map_cons, read, same]
          rfl
      · refine .inr ⟨call :: front, other, back, operation :: ops, reason, rfl, ?_, refused, ?_⟩
        · rw [List.map_cons, read, same]
          rfl
        · rw [rest]
          rfl

theorem recipeOf_recorded (function : Definition) (calls : List Call) :
    Recorded function calls (recipeOf function calls) := by
  unfold recipeOf
  rcases operations_read (function.name.getD "<anonymous>") calls with
    ⟨ops, known, read⟩ | ⟨front, call, back, ops, reason, split, read, refused, known⟩
  · rw [known]
    exact .recipe read
  · rw [known]
    exact .malformed split read refused

theorem recipeOf_ne_noDriver (function : Definition) (calls : List Call) :
    recipeOf function calls ≠ .error .noDriver := by
  intro none
  have recorded := recipeOf_recorded function calls
  rw [none] at recorded
  cases recorded

theorem not_callsHelper_iff {function : Definition} {name : String} :
    (callsHelper names function && function.name == some name) = false ↔
      (function.name = some name → callsIn names function.body = []) := by
  rw [Bool.and_eq_false_iff, beq_eq_false_iff_ne, ← Bool.not_eq_true, callsHelper_iff, not_not]
  tauto

theorem select?_named {functions : List Definition} {name : String} :
    select? functions (.named name) names located =
      (functions.find? fun function => callsHelper names function && function.name == some name).map
        (candidateOf names) := by
  rw [select?, candidates_eq, List.head?_map, List.filter_filter, List.head?_filter]

theorem select?_congr {functions functions' : List Definition} (choice : DriverChoice)
    (same : functions'.filter (callsHelper names) = functions.filter (callsHelper names)) :
    select? functions' choice names located = select? functions choice names located := by
  cases choice with
  | auto => rw [select?, select?, candidates_eq, candidates_eq, same]
  | named name =>
    simp only [select?, candidates_eq, List.filter_comm (callsHelper names), same]

theorem record_eq_noDriver {functions : List Definition} {choice : DriverChoice} :
    record functions choice names located = .error .noDriver ↔
      select? functions choice names located = none := by
  unfold record
  cases select? functions choice names located with
  | none => simp
  | some driver => simp [recipeOf_ne_noDriver]

theorem record_named {front back : List Definition} {driver : Definition} {name : String}
    (named : driver.name = some name) (calls : callsIn names driver.body ≠ [])
    (before : ∀ function ∈ front, function.name = some name →
      callsIn names function.body = []) :
    record (front ++ driver :: back) (.named name) names located =
      recipeOf driver (callsIn names driver.body) := by
  have found : select? (front ++ driver :: back) (.named name) names located =
      some (candidateOf names driver) := by
    rw [select?_named, Option.map_eq_some_iff]
    refine ⟨driver, List.find?_eq_some_iff_append.2 ⟨?_, front, back, rfl, ?_⟩, rfl⟩
    · simp [callsHelper_iff, calls, named]
    · intro function member
      rw [Bool.not_eq_true', not_callsHelper_iff]
      exact before function member
  rw [record, found]
  rfl

/-- The driver is the first in the lexicographic order of its ranking, or the earliest with the
name that is given, among the functions that make a helper call; without one there is no driver.
The recipe or the error is that of the driver's calls, whatever the other functions call, and
functions without helper calls change nothing. -/
theorem record_driver (functions : List Definition) (names : HelperNames)
    (located : Option String) :
    (record functions .auto names located = .error .noDriver ↔
      ∀ function ∈ functions, callsIn names function.body = []) ∧
    ((∃ function ∈ functions, callsIn names function.body ≠ []) →
      ∃! driver, IsDriver names located functions driver) ∧
    (∀ driver, IsDriver names located functions driver →
      record functions .auto names located =
          recipeOf driver.1 (callsIn names driver.1.body) ∧
        Recorded driver.1 (callsIn names driver.1.body)
          (record functions .auto names located)) ∧
    (∀ functions' choice, functions'.filter (callsHelper names) =
        functions.filter (callsHelper names) →
      record functions' choice names located = record functions choice names located) ∧
    ∀ name,
      (record functions (.named name) names located = .error .noDriver ↔
        ∀ function ∈ functions, function.name = some name →
          callsIn names function.body = []) ∧
      ∀ front driver back, functions = front ++ driver :: back → driver.name = some name →
        callsIn names driver.body ≠ [] →
        (∀ function ∈ front, function.name = some name → callsIn names function.body = []) →
        record functions (.named name) names located =
            recipeOf driver (callsIn names driver.body) ∧
          Recorded driver (callsIn names driver.body)
            (record functions (.named name) names located) := by
  refine ⟨?_, ?_, ?_, ?_, fun name => ⟨?_, ?_⟩⟩
  · rw [record_eq_noDriver, select?, best?_eq_none, candidates_eq, List.map_eq_nil_iff,
      List.filter_eq_nil_iff]
    simp [callsHelper_iff]
  · intro present
    obtain ⟨driver, is, -⟩ := exists_isDriver located present
    exact ⟨driver, is, fun other is' => is.unique is'⟩
  · intro driver is
    obtain ⟨other, is', selected⟩ := exists_isDriver located
      ⟨driver.1, List.fst_mem_of_mem_zipIdx is.listed, is.calls⟩
    obtain rfl := is.unique is'
    have recorded : record functions .auto names located =
        recipeOf other.1 (callsIn names other.1.body) := by
      rw [record, selected]
      rfl
    exact ⟨recorded, recorded ▸ recipeOf_recorded _ _⟩
  · intro functions' choice same
    rw [record, record, select?_congr choice same]
  · rw [record_eq_noDriver, select?_named, Option.map_eq_none_iff, List.find?_eq_none]
    simp only [Bool.not_eq_true, not_callsHelper_iff]
  · rintro front driver back rfl named calls before
    have recorded : record (front ++ driver :: back) (.named name) names located =
        recipeOf driver (callsIn names driver.body) := record_named named calls before
    exact ⟨recorded, recorded ▸ recipeOf_recorded _ _⟩

/-- A function that a call site names goes before one that splits its input and makes more calls,
and the malformed call of the latter is no error. -/
theorem record_driver_located :
    let names : HelperNames :=
      ⟨"Ab", "Zr", "k9", by decide, by decide, by decide, by decide, by decide, by decide⟩
    let tokens := tokenize
      "function W(a)\x7ba=a.split(\"\");Xq.Ab(a,b);Xq.Ab(a,2)\x7dfunction Kt(a)\x7bXq.Zr(a)\x7d"
    let rival : Definition := ⟨some "W", ["a"], (tokens.drop 6).take 26, 6, 0⟩
    let driver : Definition := ⟨some "Kt", ["a"], (tokens.drop 39).take 6, 39, 50⟩
    definitions tokens = [rival, driver] ∧
      IsDriver names (some "Kt") [rival, driver] (driver, 1) ∧
      record [rival, driver] .auto names (some "Kt") = .ok ⟨[.reverse]⟩ := by
  intro names tokens rival driver
  have read : definitions tokens = [rival, driver] ∧ callsHelper names driver = true ∧
      (candidateOf names driver).outranks (some "Kt") (candidateOf names rival) = true ∧
      recipeOf driver (callsIn names driver.body) = .ok ⟨[.reverse]⟩ := by
    unfold rival driver tokens names
    cbv
  obtain ⟨defined, calls, outranks, recipe⟩ := read
  have is : IsDriver names (some "Kt") ([rival] ++ [driver]) (driver, [rival].length) := by
    refine .of_split (callsHelper_iff.1 calls) ?_ (by simp)
    intro other member _
    rw [List.mem_singleton.1 member]
    exact outranks_iff.1 outranks
  refine ⟨defined, is, ?_⟩
  rw [((record_driver [rival, driver] names (some "Kt")).2.2.1 _ is).1]
  exact recipe

end Driver

end PlayerCipher
