import Mathlib.Data.List.Basic
import PlayerCipher.Driver.Recording

/-! Candidates for the driver.
The candidates are the functions with a helper call, each with its calls. Which of them is best
depends on how they outrank each other and on their order alone. -/

namespace PlayerCipher

namespace Driver

namespace Candidate

theorem best?_congr {ι : Type} {located located' : Option String} {f g : ι → Candidate}
    (same : ∀ a b, (f a).outranks located (f b) = (g a).outranks located' (g b))
    (items : List ι) :
    ∃ chosen : Option ι, best? located (items.map f) = chosen.map f ∧
      best? located' (items.map g) = chosen.map g := by
  induction items with
  | nil => exact ⟨none, rfl, rfl⟩
  | cons item items ih =>
    obtain ⟨chosen, left, right⟩ := ih
    simp only [List.map_cons, best?, left, right]
    cases chosen with
    | none => exact ⟨some item, rfl, rfl⟩
    | some other =>
      simp only [Option.map_some, same other item]
      split
      · exact ⟨some other, rfl, rfl⟩
      · exact ⟨some item, rfl, rfl⟩

theorem best?_last {located : Option String} {best : Candidate} {others : List Candidate}
    (first : ∀ other ∈ others, best.outranks located other = true) :
    best? located (others ++ [best]) = some best := by
  induction others with
  | nil => rfl
  | cons other others ih =>
    have rest := ih fun candidate member => first candidate (List.mem_cons_of_mem other member)
    rw [List.cons_append, best?, rest]
    simp [first other List.mem_cons_self]

end Candidate

def candidateOf (names : HelperNames) (function : Definition) : Candidate :=
  ⟨function, callsIn names function.body⟩

def callsHelper (names : HelperNames) (function : Definition) : Bool :=
  !(callsIn names function.body).isEmpty

theorem candidates_eq (names : HelperNames) (functions : List Definition) :
    candidates names functions =
      (functions.filter (callsHelper names)).map (candidateOf names) := by
  unfold candidates
  rw [List.filter_map]
  rfl

theorem operations_ok (function : String) {calls : List Call} :
    ∀ {operations : List Operation},
      calls.map Call.operation = operations.map .ok →
      Driver.operations function calls = .ok operations := by
  induction calls with
  | nil =>
    intro operations same
    rw [List.map_nil, eq_comm, List.map_eq_nil_iff] at same
    rw [same]
    rfl
  | cons call calls ih =>
    intro operations same
    cases operations with
    | nil => cases same
    | cons operation operations =>
      rw [List.map_cons, List.map_cons, List.cons.injEq] at same
      rw [Driver.operations, same.1, ih same.2]
      rfl

end Driver

end PlayerCipher
