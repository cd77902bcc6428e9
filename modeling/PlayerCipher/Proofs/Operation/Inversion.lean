import PlayerCipher.Proofs.Operation.Failure

/-! Recipes one after the other, and backwards.
A recipe followed by another is one recipe. Swaps and reversals undo themselves at the length that
they are carried out at, and they keep that length: a recipe without removals is undone by its
operations in the opposite order. -/

namespace PlayerCipher

variable {α : Type}

theorem exchangeFirst_exchangeFirst {xs : List α} {index : Nat} (inside : index < xs.length) :
    exchangeFirst (exchangeFirst xs index) index = xs := by
  have length := (exchangeFirst_perm inside).length_eq
  rw [exchangeFirst_of_lt (length.symm ▸ inside)]
  apply List.ext_getElem
  · simp only [List.length_set, length]
  · intro place _ inside'
    simp only [exchangeFirst_of_lt inside, List.get_eq_getElem, List.getElem_set]
    split_ifs <;> simp_all

namespace Operation

theorem apply_apply {operation : Operation} {xs ys : List α}
    (keeps : operation.kind ≠ .removeAt) (applied : operation.apply xs = .ok ys) :
    operation.apply ys = .ok xs := by
  have length := apply_length applied
  rw [if_neg (by simpa using keeps), Nat.add_zero] at length
  cases operation with
  | swap index =>
    simp only [apply] at applied ⊢
    split_ifs at applied with empty
    cases applied
    have inside : index % xs.length < xs.length := Nat.mod_lt _ (Nat.pos_of_ne_zero empty)
    rw [length, if_neg empty, exchangeFirst_exchangeFirst inside]
  | reverse =>
    cases applied
    simp [apply]
  | removeAt index => exact absurd rfl keeps

end Operation

namespace Recipe

instance : Append Recipe :=
  ⟨fun first second => ⟨first.operations ++ second.operations⟩⟩

@[simp] theorem operations_append (first second : Recipe) :
    (first ++ second).operations = first.operations ++ second.operations := rfl

def reversed (recipe : Recipe) : Recipe :=
  ⟨recipe.operations.reverse⟩

def KeepsEntries (recipe : Recipe) : Prop :=
  ∀ operation ∈ recipe.operations, operation.kind ≠ .removeAt

instance (recipe : Recipe) : Decidable recipe.KeepsEntries :=
  inferInstanceAs (Decidable (∀ operation ∈ recipe.operations, operation.kind ≠ .removeAt))

theorem run_append (first second : List Operation) :
    ∀ xs : List α, run (first ++ second) xs = run first xs >>= run second := by
  induction first with
  | nil =>
    intro xs
    rfl
  | cons operation first ih =>
    intro xs
    rw [List.cons_append]
    cases applied : operation.apply xs with
    | error e =>
      rw [run_cons_error applied, run_cons_error applied]
      rfl
    | ok ys => rw [run_cons_ok applied, run_cons_ok applied, ih]

theorem run_reverse (operations : List Operation) :
    ∀ {xs ys : List α}, KeepsEntries ⟨operations⟩ → run operations xs = .ok ys →
      run operations.reverse ys = .ok xs := by
  induction operations with
  | nil =>
    intro xs ys _ done
    cases done
    rfl
  | cons operation operations ih =>
    intro xs ys keeps done
    obtain ⟨zs, applied, rest⟩ := run_cons_eq_ok.1 done
    have back := ih (fun other inside => keeps other (.tail _ inside)) rest
    have last := Operation.apply_apply (keeps operation (.head _)) applied
    rw [List.reverse_cons, run_append, back]
    exact run_cons_ok last

variable {recipe : Recipe}

theorem KeepsEntries.removals_take (keeps : recipe.KeepsEntries) (place : Nat) :
    removals ⟨recipe.operations.take place⟩ = 0 := by
  apply List.countP_eq_zero.2
  intro operation inside
  simpa using keeps operation (List.mem_of_mem_take inside)

theorem KeepsEntries.fitsAt (keeps : recipe.KeepsEntries) {length : Nat} (some : 0 < length)
    (place : Nat) : recipe.FitsAt length place := by
  intro operation here
  have keeps' := keeps operation (List.mem_of_getElem? here)
  rw [lengthAt, keeps.removals_take, Nat.sub_zero]
  cases operation with
  | swap index => exact some
  | reverse => trivial
  | removeAt index => exact absurd rfl keeps'

theorem apply_append (first second : Recipe) (signature : String) :
    (first ++ second).apply signature = first.apply signature >>= second.apply := by
  rw [apply, operations_append, run_append]
  cases done : run first.operations signature.toList with
  | error e => simp [apply, done, Except.map, bind, Except.bind]
  | ok chars => simp [apply, done, Except.map, bind, Except.bind]

theorem KeepsEntries.apply_reversible (keeps : recipe.KeepsEntries) {signature : String}
    (some : signature ≠ "") :
    ∃ text, recipe.apply signature = .ok text ∧ text.length = signature.length ∧
      recipe.reversed.apply text = .ok signature := by
  have nonempty : 0 < signature.toList.length :=
    List.length_pos_of_ne_nil fun none => some (String.toList_inj.1 none)
  obtain ⟨chars, done⟩ :=
    (run_isOk_iff recipe.operations signature.toList).2 (keeps.fitsAt nonempty)
  have back := run_reverse recipe.operations keeps done
  have length := run_length done
  have none := keeps.removals_take recipe.operations.length
  rw [List.take_length] at none
  rw [none, Nat.add_zero] at length
  refine ⟨String.ofList chars, ?_, ?_, ?_⟩
  · simp [apply, done, Except.map]
  · rw [← String.length_toList, String.toList_ofList, length, String.length_toList]
  · simp [apply, reversed, back, Except.map]

/-- Recipes compose, and one without removals is undone by its operations in the opposite order. -/
theorem apply_reversed :
    (∀ (recipe : Recipe) (signature : String), recipe.KeepsEntries → signature ≠ "" →
      ∃ text, recipe.apply signature = .ok text ∧ text.length = signature.length ∧
        recipe.reversed.apply text = .ok signature) ∧
    ∀ (first second : Recipe) (signature : String),
      (first ++ second).apply signature = first.apply signature >>= second.apply :=
  ⟨fun _ _ keeps some => keeps.apply_reversible some, apply_append⟩

/-- A swap whose index is a multiple of the length, and characters of several bytes. -/
theorem apply_reversed_swaps :
    let recipe : Recipe := ⟨[.swap 9, .reverse, .swap 7]⟩
    recipe.KeepsEntries ∧ "aé€" ≠ "" ∧ recipe.apply "aé€" = .ok "é€a" ∧
      recipe.reversed.apply "é€a" = .ok "aé€" := by
  intro recipe
  have keeps : recipe.KeepsEntries := by decide
  have some : "aé€" ≠ "" := by decide
  have moved : recipe.apply "aé€" = .ok "é€a" := by decide +kernel
  obtain ⟨text, done, -, back⟩ := apply_reversed.1 recipe "aé€" keeps some
  rw [moved] at done
  cases done
  exact ⟨keeps, some, moved, back⟩

end Recipe

end PlayerCipher
