import PlayerCipher.Proofs.Operation.Selection

/-! When recipes fail.
Only removals change a length, so the length that each operation of a recipe meets is known before
any of them is carried out. A recipe fails at the first operation that does not fit its length, and
the error tells that operation as it is written. -/

namespace PlayerCipher

variable {α : Type}

namespace Operation

def Fits (operation : Operation) (length : Nat) : Prop :=
  match operation with
  | .swap _ => 0 < length
  | .reverse => True
  | .removeAt index => index < length

def index? : Operation → Option Nat
  | .swap index => some index
  | .reverse => none
  | .removeAt index => some index

structure Fails (operation : Operation) (length : Nat) (e : IndexError) : Prop where
  misfit : ¬operation.Fits length
  kind : e.kind = operation.kind
  index : operation.index? = some e.index
  length : e.length = length

theorem apply_isOk_iff (operation : Operation) (xs : List α) :
    (∃ ys, operation.apply xs = .ok ys) ↔ operation.Fits xs.length := by
  cases operation with
  | swap index =>
    simp only [apply, Fits]
    split_ifs with empty
    · simp [empty]
    · simp [Nat.pos_of_ne_zero empty]
  | reverse => simp [apply, Fits]
  | removeAt index =>
    simp only [apply, Fits]
    split_ifs with inside <;> simp [inside]

theorem apply_error_iff (operation : Operation) (xs : List α) (e : IndexError) :
    operation.apply xs = .error e ↔ operation.Fails xs.length e := by
  obtain ⟨kind, index, length⟩ := e
  constructor
  · intro failed
    have misfit : ¬operation.Fits xs.length := by
      rw [← apply_isOk_iff, failed]
      rintro ⟨ys, same⟩
      cases same
    cases operation with
    | swap index' =>
      simp only [apply] at failed
      split_ifs at failed with empty
      cases failed
      exact ⟨misfit, rfl, rfl, empty.symm⟩
    | reverse => cases failed
    | removeAt index' =>
      simp only [apply] at failed
      split_ifs at failed
      cases failed
      exact ⟨misfit, rfl, rfl, rfl⟩
  · rintro ⟨misfit, rfl, written, rfl⟩
    cases operation with
    | swap index' =>
      obtain rfl : index' = index := Option.some.inj written
      have empty : xs.length = 0 := Nat.eq_zero_of_not_pos misfit
      simp [apply, kind, empty]
    | reverse => cases written
    | removeAt index' =>
      obtain rfl : index' = index := Option.some.inj written
      exact if_neg misfit

end Operation

namespace Recipe

/-- Length that the operation at `place` meets in a sequence that had `length` entries at first. -/
def lengthAt (recipe : Recipe) (length place : Nat) : Nat :=
  length - removals ⟨recipe.operations.take place⟩

/-- Whether the operation at `place`, if there is one, fits the length that it meets. -/
def FitsAt (recipe : Recipe) (length place : Nat) : Prop :=
  ∀ operation ∈ recipe.operations[place]?, operation.Fits (recipe.lengthAt length place)

/-- The operation at `place` is the first that does not fit, and this is its error. -/
structure FailsAt (recipe : Recipe) (length place : Nat) (e : IndexError) : Prop where
  earlier : ∀ place' < place, recipe.FitsAt length place'
  here : ∃ operation, recipe.operations[place]? = some operation ∧
    operation.Fails (recipe.lengthAt length place) e

variable {operation : Operation} {operations : List Operation} {xs ys : List α}
  {length place : Nat} {e : IndexError}

theorem fitsAt_zero : FitsAt ⟨operation :: operations⟩ length 0 ↔ operation.Fits length := by
  simp [FitsAt, lengthAt, removals]

theorem lengthAt_succ (applied : operation.apply xs = .ok ys) (place : Nat) :
    lengthAt ⟨operation :: operations⟩ xs.length (place + 1) =
      lengthAt ⟨operations⟩ ys.length place := by
  have first := Operation.apply_length applied
  simp only [lengthAt, removals, List.take_succ_cons, List.countP_cons]
  omega

theorem fitsAt_succ (applied : operation.apply xs = .ok ys) (place : Nat) :
    FitsAt ⟨operation :: operations⟩ xs.length (place + 1) ↔
      FitsAt ⟨operations⟩ ys.length place := by
  simp only [FitsAt, lengthAt_succ applied, List.getElem?_cons_succ]

theorem failsAt_zero :
    FailsAt ⟨operation :: operations⟩ length 0 e ↔ operation.Fails length e := by
  constructor
  · rintro ⟨-, operation', here, fails⟩
    cases here
    exact fails
  · intro fails
    exact ⟨fun place' earlier => absurd earlier (Nat.not_lt_zero place'), operation, rfl, fails⟩

theorem failsAt_succ (applied : operation.apply xs = .ok ys) (place : Nat) :
    FailsAt ⟨operation :: operations⟩ xs.length (place + 1) e ↔
      FailsAt ⟨operations⟩ ys.length place e := by
  constructor
  · rintro ⟨earlier, here⟩
    rw [lengthAt_succ applied] at here
    exact ⟨fun place' before => (fitsAt_succ applied place').1
      (earlier (place' + 1) (Nat.succ_lt_succ before)), here⟩
  · rintro ⟨earlier, here⟩
    rw [← lengthAt_succ applied] at here
    refine ⟨fun place' before => ?_, here⟩
    cases place' with
    | zero => exact fitsAt_zero.2 ((operation.apply_isOk_iff xs).1 ⟨ys, applied⟩)
    | succ place' =>
      exact (fitsAt_succ applied place').2 (earlier place' (Nat.lt_of_succ_lt_succ before))

theorem run_isOk_iff (operations : List Operation) :
    ∀ xs : List α, (∃ ys, run operations xs = .ok ys) ↔
      ∀ place, FitsAt ⟨operations⟩ xs.length place := by
  induction operations with
  | nil =>
    intro xs
    simp [run, FitsAt]
  | cons operation operations ih =>
    intro xs
    cases applied : operation.apply xs with
    | error e =>
      have misfit := ((operation.apply_error_iff xs e).1 applied).misfit
      rw [run_cons_error applied]
      exact iff_of_false (by simp) fun fits => misfit (fitsAt_zero.1 (fits 0))
    | ok ys =>
      have fits := (operation.apply_isOk_iff xs).1 ⟨ys, applied⟩
      rw [run_cons_ok applied, ih]
      constructor
      · intro others place
        cases place with
        | zero => exact fitsAt_zero.2 fits
        | succ place => exact (fitsAt_succ applied place).2 (others place)
      · intro all place
        exact (fitsAt_succ applied place).1 (all (place + 1))

theorem run_error_iff (operations : List Operation) (e : IndexError) :
    ∀ xs : List α, run operations xs = .error e ↔
      ∃ place, FailsAt ⟨operations⟩ xs.length place e := by
  induction operations with
  | nil =>
    intro xs
    refine iff_of_false (by simp [run]) ?_
    rintro ⟨place, -, operation, none, -⟩
    cases none
  | cons operation operations ih =>
    intro xs
    cases applied : operation.apply xs with
    | error e' =>
      have fails := (operation.apply_error_iff xs e').1 applied
      rw [run_cons_error applied, Except.error.injEq]
      constructor
      · rintro rfl
        exact ⟨0, failsAt_zero.2 fails⟩
      · rintro ⟨place, failure⟩
        cases place with
        | zero =>
          have first := (operation.apply_error_iff xs e).2 (failsAt_zero.1 failure)
          exact Except.error.inj (applied.symm.trans first)
        | succ place =>
          exact absurd (fitsAt_zero.1 (failure.earlier 0 place.succ_pos)) fails.misfit
    | ok ys =>
      have fits := (operation.apply_isOk_iff xs).1 ⟨ys, applied⟩
      rw [run_cons_ok applied, ih]
      constructor
      · rintro ⟨place, failure⟩
        exact ⟨place + 1, (failsAt_succ applied place).2 failure⟩
      · rintro ⟨place, failure⟩
        cases place with
        | zero => exact absurd fits (failsAt_zero.1 failure).misfit
        | succ place => exact ⟨place, (failsAt_succ applied place).1 failure⟩

/-- A recipe succeeds exactly if every operation fits the length that it meets, and otherwise fails
with the error of the first that does not. -/
theorem apply_outcome (recipe : Recipe) (signature : String) :
    ((∃ text, recipe.apply signature = .ok text) ↔
      ∀ place, recipe.FitsAt signature.length place) ∧
    ∀ e, recipe.apply signature = .error e ↔
      ∃ place, recipe.FailsAt signature.length place e := by
  have succeeds := run_isOk_iff recipe.operations signature.toList
  have fails := fun e => run_error_iff recipe.operations e signature.toList
  rw [String.length_toList] at succeeds
  simp only [String.length_toList] at fails
  rw [← succeeds]
  simp only [← fails, apply]
  cases run recipe.operations signature.toList <;> simp [Except.map]

/-- A swap names its index as it is written, not reduced, when the text has been used up before. -/
example : Recipe.apply ⟨[.removeAt 0, .reverse, .removeAt 0, .swap 7]⟩ "ab" =
    .error ⟨.swap, 7, 0⟩ := by
  decide +kernel

end Recipe

end PlayerCipher
