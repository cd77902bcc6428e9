import PlayerCipher.Cipher
import PlayerCipher.Proofs.Driver.Arguments
import PlayerCipher.Proofs.Driver.Selection

/-! Indexes of recorded operations.
Every operation of a recipe comes from a call of the driver whose arguments could be read, so the
indexes of a resolved cipher have 64 bits. -/

namespace PlayerCipher

namespace Call

variable {names : HelperNames} {operation : Operation}

theorem Reads.fits {kind : Operation.Kind} {parts : List (List Token)}
    (reads : Reads kind parts operation) : operation.fits := by
  cases reads with
  | @index kind array literal index needs plain known =>
    cases kind with
    | swap => exact known.fits
    | removeAt => exact known.fits
    | reverse => cases needs
  | reverse => exact trivial
  | reverseWith => exact trivial

theorem operation_of_at? {before after : List Token} {token : Token} {call : Call} {n : ℕ}
    (called : at? names before token after = some (call, n)) :
    ∃ arguments, call.operation = operationOf call.kind arguments := by
  simp only [at?, Option.bind_eq_bind, Option.bind_eq_some_iff, Option.some.injEq,
    Prod.mk.injEq] at called
  obtain ⟨callee, -, kind, -, inside, -, same, -⟩ := called
  subst same
  exact ⟨_, rfl⟩

theorem operation_of_scan (found : List Call) (before tokens : List Token) :
    ∀ call ∈ scan names found before tokens,
      call ∈ found ∨ ∃ arguments, call.operation = operationOf call.kind arguments := by
  fun_induction scan names found before tokens with
  | case1 => exact fun call member => .inl (List.mem_reverse.1 member)
  | case2 found before token after n nested ih => exact ih
  | case3 found before token after nested made n called ih =>
    intro call member
    cases ih call member with
    | inl known =>
      cases List.mem_cons.1 known with
      | inl same =>
        subst same
        exact .inr (operation_of_at? called)
      | inr known => exact .inl known
    | inr asked => exact .inr asked
  | case4 found before token after nested called ih => exact ih

theorem fits_of_mem {body : List Token} {call : Call} (member : call ∈ callsIn names body)
    (read : call.operation = .ok operation) : operation.fits := by
  cases operation_of_scan [] [] body call member with
  | inl known => cases known
  | inr asked =>
    obtain ⟨arguments, same⟩ := asked
    rw [same, operationOf, operationOfParts_ok_iff] at read
    exact read.fits

end Call

namespace Driver

variable {functions : List Definition} {choice : DriverChoice} {names : HelperNames}
variable {located : Option String}

theorem exists_candidateOf {driver : Candidate}
    (selected : select? functions choice names located = some driver) :
    ∃ function, driver = candidateOf names function := by
  cases choice with
  | auto =>
    obtain ⟨-, function, -, -, -, same, -⟩ := best?_candidates selected
    exact ⟨function, same⟩
  | named name =>
    rw [select?_named, Option.map_eq_some_iff] at selected
    obtain ⟨function, -, same⟩ := selected
    exact ⟨function, same.symm⟩

theorem record_fits {recipe : Recipe}
    (recorded : record functions choice names located = .ok recipe) :
    ∀ operation ∈ recipe.operations, operation.fits := by
  unfold record at recorded
  cases selected : select? functions choice names located with
  | none => simp [selected] at recorded
  | some driver =>
    obtain ⟨function, same⟩ := exists_candidateOf selected
    subst same
    simp only [selected] at recorded
    have read := recipeOf_recorded function (callsIn names function.body)
    rw [show recipeOf function (callsIn names function.body) = .ok recipe from recorded] at read
    cases read with
    | @recipe operations read =>
      intro operation member
      have among : Except.ok operation ∈ (callsIn names function.body).map Call.operation := by
        rw [read]
        exact List.mem_map_of_mem member
      obtain ⟨call, known, asked⟩ := List.mem_map.1 among
      exact Call.fits_of_mem known asked

end Driver

theorem Cipher.fits_of_ofScript {source : String} {version : ScriptVersion}
    {choice : DriverChoice} {cipher : Cipher}
    (resolved : ofScript source version choice = .ok cipher) :
    ∀ operation ∈ cipher.recipe.operations, operation.fits := by
  simp only [ofScript, ofTokens] at resolved
  split at resolved
  · cases resolved
  · split at resolved
    · cases resolved
    · rename_i recipe recorded
      cases resolved
      exact Driver.record_fits recorded

end PlayerCipher
