import Mathlib.Data.List.Perm.Subperm
import PlayerCipher.Operation

/-! Recipes as selections of positions.
An operation moves entries or takes one away, and which one does not depend on what the entries
are: it commutes with every change of the entries, errors included. What a recipe does to the
positions `0, ..., n - 1` is therefore what it does to every sequence of `n` entries. -/

namespace PlayerCipher

variable {α β : Type}

theorem exchangeFirst_of_lt {xs : List α} {index : Nat} (inside : index < xs.length) :
    exchangeFirst xs index =
      (xs.set 0 xs[index]).set index (xs.get ⟨0, Nat.zero_lt_of_lt inside⟩) := by
  simp [exchangeFirst, inside, Nat.zero_lt_of_lt inside]

theorem exchangeFirst_map (f : α → β) {xs : List α} {index : Nat} (inside : index < xs.length) :
    exchangeFirst (xs.map f) index = (exchangeFirst xs index).map f := by
  have inside' : index < (xs.map f).length := by
    simpa using inside
  rw [exchangeFirst_of_lt inside, exchangeFirst_of_lt inside']
  simp only [List.get_eq_getElem, List.getElem_map, List.map_set]

theorem exchangeFirst_perm {xs : List α} {index : Nat} (inside : index < xs.length) :
    (exchangeFirst xs index).Perm xs := by
  rw [exchangeFirst_of_lt inside]
  exact List.set_set_perm (Nat.zero_lt_of_lt inside) inside

namespace Operation

theorem apply_map (operation : Operation) (f : α → β) (xs : List α) :
    operation.apply (xs.map f) = (operation.apply xs).map (List.map f) := by
  cases operation with
  | swap index =>
    simp only [apply, List.length_map]
    split
    · rfl
    · rename_i nonempty
      have inside : index % xs.length < xs.length := Nat.mod_lt _ (Nat.pos_of_ne_zero nonempty)
      rw [exchangeFirst_map f inside]
      rfl
  | reverse => simp [apply, Except.map]
  | removeAt index =>
    simp only [apply, List.length_map]
    split
    · rw [List.eraseIdx_map]
      rfl
    · rfl

theorem apply_subperm {operation : Operation} {xs ys : List α}
    (applied : operation.apply xs = .ok ys) : ys.Subperm xs := by
  cases operation with
  | swap index =>
    simp only [apply] at applied
    split at applied
    · cases applied
    · rename_i nonempty
      cases applied
      exact (exchangeFirst_perm (Nat.mod_lt _ (Nat.pos_of_ne_zero nonempty))).subperm
  | reverse =>
    cases applied
    exact (List.reverse_perm xs).subperm
  | removeAt index =>
    simp only [apply] at applied
    split at applied
    · cases applied
      exact (List.eraseIdx_sublist xs index).subperm
    · cases applied

theorem apply_length {operation : Operation} {xs ys : List α}
    (applied : operation.apply xs = .ok ys) :
    ys.length + (if operation.kind == .removeAt then 1 else 0) = xs.length := by
  cases operation with
  | swap index =>
    simp only [apply] at applied
    split at applied
    · cases applied
    · rename_i nonempty
      cases applied
      exact (exchangeFirst_perm (Nat.mod_lt _ (Nat.pos_of_ne_zero nonempty))).length_eq
  | reverse =>
    cases applied
    exact List.length_reverse
  | removeAt index =>
    simp only [apply] at applied
    split at applied
    · rename_i inside
      cases applied
      have shorter := List.length_eraseIdx_add_one inside
      simpa [kind] using shorter
    · cases applied

end Operation

namespace Recipe

def removals (recipe : Recipe) : Nat :=
  recipe.operations.countP fun operation => operation.kind == .removeAt

theorem run_cons_ok {operation : Operation} {operations : List Operation} {xs ys : List α}
    (applied : operation.apply xs = .ok ys) :
    run (operation :: operations) xs = run operations ys := by
  rw [run, applied]
  rfl

theorem run_cons_error {operation : Operation} {operations : List Operation} {xs : List α}
    {e : IndexError} (failed : operation.apply xs = .error e) :
    run (operation :: operations) xs = .error e := by
  rw [run, failed]
  rfl

theorem run_cons_eq_ok {operation : Operation} {operations : List Operation} {xs zs : List α} :
    run (operation :: operations) xs = .ok zs ↔
      ∃ ys, operation.apply xs = .ok ys ∧ run operations ys = .ok zs := by
  cases applied : operation.apply xs with
  | error e => simp [run_cons_error applied]
  | ok ys => simp [run_cons_ok applied]

theorem run_map (operations : List Operation) (f : α → β) :
    ∀ xs : List α, run operations (xs.map f) = (run operations xs).map (List.map f) := by
  induction operations with
  | nil =>
    intro xs
    rfl
  | cons operation operations ih =>
    intro xs
    rw [run, run, operation.apply_map]
    cases operation.apply xs with
    | error e => rfl
    | ok ys => exact ih ys

theorem run_subperm {operations : List Operation} :
    ∀ {xs ys : List α}, run operations xs = .ok ys → ys.Subperm xs := by
  induction operations with
  | nil =>
    intro xs ys done
    cases done
    exact List.Subperm.refl xs
  | cons operation operations ih =>
    intro xs ys done
    obtain ⟨zs, applied, rest⟩ := run_cons_eq_ok.1 done
    exact (ih rest).trans (Operation.apply_subperm applied)

theorem run_length {operations : List Operation} :
    ∀ {xs ys : List α}, run operations xs = .ok ys →
      ys.length + removals ⟨operations⟩ = xs.length := by
  induction operations with
  | nil =>
    intro xs ys done
    cases done
    rfl
  | cons operation operations ih =>
    intro xs ys done
    obtain ⟨zs, applied, rest⟩ := run_cons_eq_ok.1 done
    have later := ih rest
    have first := Operation.apply_length applied
    simp only [removals, List.countP_cons] at later ⊢
    omega

theorem map_some_eq_positions (xs : List α) :
    xs.map some = (List.range xs.length).map (xs[·]?) := by
  apply List.ext_getElem
  · simp
  · intro place inside _
    have inside' : place < xs.length := by
      simpa using inside
    simp [inside']

/-- What a recipe does to a list, from what it does to the list's positions. -/
theorem run_positions (operations : List Operation) (xs : List α) :
    (run operations xs).map (List.map some) =
      (run operations (List.range xs.length)).map (List.map (xs[·]?)) := by
  rw [← run_map, map_some_eq_positions, run_map]

/-- The text consists of the signature's characters at the positions, in their order. -/
def Picks (positions : List Nat) (signature text : String) : Prop :=
  text.toList.map some = positions.map (signature.toList[·]?)

theorem apply_picks {recipe : Recipe} {signature : String} {positions : List Nat}
    (selected : run recipe.operations (List.range signature.length) = .ok positions) :
    ∃ text, recipe.apply signature = .ok text ∧ Picks positions signature text := by
  have picked := run_positions recipe.operations signature.toList
  rw [String.length_toList, selected] at picked
  cases done : run recipe.operations signature.toList with
  | error e =>
    rw [done] at picked
    cases picked
  | ok chars =>
    rw [done] at picked
    refine ⟨String.ofList chars, by simp [apply, done, Except.map], ?_⟩
    simpa [Picks, Except.map] using picked

theorem apply_fails {recipe : Recipe} {signature : String} {e : IndexError}
    (failed : run recipe.operations (List.range signature.length) = .error e) :
    recipe.apply signature = .error e := by
  have same := run_positions recipe.operations signature.toList
  rw [String.length_toList, failed] at same
  cases done : run recipe.operations signature.toList with
  | error e' =>
    rw [done] at same
    cases same
    simp [apply, done, Except.map]
  | ok chars =>
    rw [done] at same
    cases same

theorem apply_map (recipe : Recipe) (f : Char → Char) (signature : String) :
    recipe.apply (signature.map f) = (recipe.apply signature).map (String.map f) := by
  unfold apply
  rw [String.toList_map, run_map]
  cases run recipe.operations signature.toList with
  | error e => rfl
  | ok chars =>
    simp only [Except.map]
    congr 1
    rw [← String.toList_inj]
    simp

/-- A recipe either selects fixed positions of the signatures of a length, none of them twice and
all but as many as it removes, or fails in the same way for all of them; and it commutes with
every change of the characters. -/
theorem apply_selection (recipe : Recipe) (n : Nat) :
    ((∃ positions : List Nat, positions.Nodup ∧ (∀ place ∈ positions, place < n) ∧
        positions.length + recipe.removals = n ∧
        ∀ signature : String, signature.length = n →
          ∃ text, recipe.apply signature = .ok text ∧ Picks positions signature text) ∨
      ∃ e, ∀ signature : String, signature.length = n → recipe.apply signature = .error e) ∧
    ∀ (f : Char → Char) (signature : String),
      recipe.apply (signature.map f) = (recipe.apply signature).map (String.map f) := by
  refine ⟨?_, recipe.apply_map⟩
  cases selected : run recipe.operations (List.range n) with
  | ok positions =>
    left
    obtain ⟨kept, same, inside⟩ := run_subperm selected
    refine ⟨positions, ?_, ?_, ?_, ?_⟩
    · exact same.nodup_iff.1 (inside.nodup List.nodup_range)
    · intro place member
      exact List.mem_range.1 (inside.subset (same.mem_iff.2 member))
    · exact (run_length selected).trans List.length_range
    · rintro signature rfl
      exact apply_picks selected
  | error e =>
    right
    refine ⟨e, ?_⟩
    rintro signature rfl
    exact apply_fails selected

example : run [.swap 2, .reverse, .removeAt 0] (List.range 6) = .ok [4, 3, 0, 1, 2] := rfl

end Recipe

end PlayerCipher
