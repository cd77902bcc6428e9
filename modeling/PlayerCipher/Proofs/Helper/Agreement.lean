import PlayerCipher.Helper.Classify
import PlayerCipher.Proofs.Helper.Effect

/-! Bodies and the operations they stand for.
The body of an accepted function computes what its kind says, and the operation recorded for a
call of it does the same, with one gap: a removal takes the index of the call as it stands, also
where the body reduces it by the length. -/

namespace PlayerCipher

namespace Body

open Shape

variable {α : Type}

theorem hasRemainder_append (left right : List Token) :
    hasRemainder (left ++ right) = (hasRemainder left || hasRemainder right) :=
  List.any_append

theorem hasRemainder_cons (token : Token) (tokens : List Token) :
    hasRemainder (token :: tokens) = (token.isMark "%" || hasRemainder tokens) := rfl

theorem hasRemainder_nil : hasRemainder [] = false := rfl

theorem hasRemainder_index {params : List String} {modular : Bool} {index : List Token}
    (form : IsIndex params modular index) : hasRemainder index = modular := by
  cases form with
  | plain taken => simp [hasRemainder, isParam_not_mark taken]
  | remainder taken =>
    simp only [isRemainder, Bool.and_eq_true] at taken
    simp [hasRemainder, taken.1.1.1.2]

theorem hasRemainder_entry {params : List String} {index tokens : List Token}
    (entry : IsEntry params index tokens) : hasRemainder tokens = hasRemainder index := by
  cases entry with
  | access isArray opens closes =>
    have left : Token.isMark _ "%" = false := Token.isMark_of_ne opens (by decide)
    have right : Token.isMark _ "%" = false := Token.isMark_of_ne closes (by decide)
    simp [hasRemainder_cons, hasRemainder_append, hasRemainder_nil, isParam_not_mark isArray,
      left, right]

theorem hasRemainder_zero {zero : Token} (isZero : IsZero zero) :
    hasRemainder [zero] = false := by
  simp [hasRemainder, Token.isMark_of_kind, isZero.1]

theorem hasRemainder_keeps {params : List String} {statement : List Token} {name : Token}
    (keeps : Keeps params statement name) : hasRemainder statement = false := by
  obtain ⟨target, equals, source, zero, rfl, shape, isEquals, isZero, entry⟩ := keeps.parts
  have written : hasRemainder target = false := by
    rcases shape with rfl | ⟨word, rfl, declares⟩
    · simp [hasRemainder, isIdentifier_not_mark keeps.isIdentifier]
    · simp [hasRemainder, isIdentifier_not_mark keeps.isIdentifier,
        isDeclaration_not_mark declares]
  have operator : equals.isMark "%" = false := Token.isMark_of_ne isEquals (by decide)
  simp [hasRemainder_append, hasRemainder_cons, written, operator, hasRemainder_entry entry,
    hasRemainder_zero isZero]

theorem hasRemainder_moves {params : List String} {modular : Bool} {statement : List Token}
    (moves : Moves params modular statement) : hasRemainder statement = modular := by
  obtain ⟨target, equals, source, zero, index, rfl, isZero, entry, isEquals, form, entry'⟩ :=
    moves
  have operator : equals.isMark "%" = false := Token.isMark_of_ne isEquals (by decide)
  simp [hasRemainder_append, hasRemainder_cons, operator, hasRemainder_entry entry,
    hasRemainder_entry entry', hasRemainder_zero isZero, hasRemainder_index form]

theorem hasRemainder_restores {params : List String} {modular : Bool} {name : String}
    {statement : List Token} (restores : Restores params modular name statement) :
    hasRemainder statement = modular := by
  obtain ⟨target, equals, source, index, rfl, form, entry, isEquals, identifier, _⟩ := restores
  have operator : equals.isMark "%" = false := Token.isMark_of_ne isEquals (by decide)
  simp [hasRemainder_append, hasRemainder_cons, hasRemainder_nil, operator,
    hasRemainder_entry entry, hasRemainder_index form, isIdentifier_not_mark identifier]

theorem hasRemainder_returns {params : List String} {statement : List Token}
    (returns : Returns params statement) : hasRemainder statement = false := by
  obtain ⟨word, array, rfl, isReturn, isArray⟩ := returns
  simp [hasRemainder, spells_not_mark isReturn, isParam_not_mark isArray]

theorem hasRemainder_removal {params : List String} {modular : Bool} {statement : List Token}
    (removal : IsRemoval params modular statement) : hasRemainder statement = modular := by
  cases removal with
  | call isArray isDot isMethod opens form isComma countKind countText closes =>
    have dot : Token.isMark _ "%" = false := Token.isMark_of_ne isDot (by decide)
    have opener : Token.isMark _ "%" = false := Token.isMark_of_ne opens (by decide)
    have comma : Token.isMark _ "%" = false := Token.isMark_of_ne isComma (by decide)
    have closer : Token.isMark _ "%" = false := Token.isMark_of_ne closes (by decide)
    have number : ∀ {token : Token}, token.kind = .number → token.isMark "%" = false :=
      fun kind => Token.isMark_of_kind (by simp [kind]) "%"
    simp [hasRemainder_append, hasRemainder_cons, hasRemainder_nil, isParam_not_mark isArray,
      dot, spells_not_mark isMethod, opener, hasRemainder_index form, comma, number countKind,
      closer]

theorem computed?_eq (kind : Operation.Kind) (modular : Bool) (xs : List α) (index : Nat) :
    computed? kind modular xs index =
      match kind with
      | .swap => (place? modular xs.length index).map (exchangeFirst xs)
      | .reverse => some xs.reverse
      | .removeAt => (place? modular xs.length index).map xs.eraseIdx := by
  cases kind <;> simp only [computed?, place?_eq]

theorem meaning?_of_accepts {kind : Operation.Kind} {function : Definition}
    (accepted : (Shape.ofKind kind).accepts function = true)
    (distinct : function.params[0]? ≠ function.params[1]?) (xs : List α) (index : Nat) :
    meaning? function xs index = computed? kind (takesRemainder function) xs index := by
  have reads := start_reads distinct xs index
  rw [computed?_eq]
  cases kind with
  | swap =>
    obtain ⟨modular, keep, move, restore, name, rest, split, keeps, moves, restores, ending⟩ :=
      swap_of_accepts accepted
    have form : takesRemainder function = modular := by
      have last : rest.any hasRemainder = false := by
        rcases ending with rfl | ⟨last, rfl, returns⟩
        · rfl
        · simp [hasRemainder_returns returns]
      simp [takesRemainder, split, hasRemainder_keeps keeps, hasRemainder_moves moves,
        hasRemainder_restores restores, last]
    rw [meaning?, split, form]
    exact run?_swap reads keeps moves restores ending
  | reverse =>
    obtain ⟨call, reversal, shape⟩ := reversal_of_accepts accepted
    rw [meaning?, run?_call (isMethodCall_of_reversal reversal) shape,
      evaluate?_reversal reads reversal]
    rfl
  | removeAt =>
    obtain ⟨modular, call, removal, shape⟩ := removal_of_accepts accepted
    have form : takesRemainder function = modular := by
      rcases shape with split | ⟨word, split, returns⟩
      · simp [takesRemainder, split, hasRemainder_removal removal]
      · simp [takesRemainder, split, hasRemainder_cons, spells_not_mark returns,
          hasRemainder_removal removal]
    rw [meaning?, run?_call (isMethodCall_of_removal removal) shape,
      evaluate?_removal reads removal, form, Option.map_map]
    rfl

theorem apply_of_computed? {kind : Operation.Kind} {modular : Bool} {xs ys : List α}
    {index : Nat} (computed : computed? kind modular xs index = some ys) :
    ∃ operation, Operation.ofCall? kind (some index) = some operation ∧
      operation.apply xs =
        if kind = .removeAt ∧ xs.length ≤ index then .error ⟨.removeAt, index, xs.length⟩
        else .ok ys := by
  rw [computed?_eq] at computed
  cases kind with
  | swap =>
    refine ⟨.swap index, rfl, ?_⟩
    obtain ⟨n, placed, rfl⟩ := Option.map_eq_some_iff.1 computed
    have filled : xs.length ≠ 0 := by
      have := place?_lt placed
      omega
    have same : index % xs.length = n := by
      rw [place?_eq] at placed
      cases modular with
      | true => simpa [filled] using placed
      | false =>
        simp only [Bool.false_eq_true, if_false, Option.ite_none_right_eq_some,
          Option.some.injEq] at placed
        obtain ⟨below, rfl⟩ := placed
        exact Nat.mod_eq_of_lt below
    simp [Operation.apply, filled, same]
  | reverse =>
    refine ⟨.reverse, rfl, ?_⟩
    cases computed
    simp [Operation.apply]
  | removeAt =>
    refine ⟨.removeAt index, rfl, ?_⟩
    obtain ⟨n, placed, rfl⟩ := Option.map_eq_some_iff.1 computed
    by_cases below : index < xs.length
    · have same : n = index := by
        rw [place?_eq] at placed
        cases modular with
        | true =>
          have filled : xs.length ≠ 0 := by omega
          simpa [filled, Nat.mod_eq_of_lt below, eq_comm] using placed
        | false => simpa [below, eq_comm] using placed
      simp [Operation.apply, below, same]
    · have beyond : xs.length ≤ index := by omega
      simp [Operation.apply, below, beyond]

/-- The classifier and the interpreter give a helper the same meaning, except that a removal
whose index reaches the length is refused. The body may be defined there: it may delete the
entry at the remainder. -/
theorem meaning?_apply {kind : Operation.Kind} {function : Definition}
    (accepted : (Shape.ofKind kind).accepts function = true)
    (distinct : function.params[0]? ≠ function.params[1]?) (xs : List α) (index : Nat) :
    meaning? function xs index = computed? kind (takesRemainder function) xs index ∧
      ∀ ys, meaning? function xs index = some ys →
        ∃ operation, Operation.ofCall? kind (some index) = some operation ∧
          operation.apply xs =
            if kind = .removeAt ∧ xs.length ≤ index then
              .error ⟨.removeAt, index, xs.length⟩
            else .ok ys := by
  have computes := meaning?_of_accepts accepted distinct xs index
  refine ⟨computes, ?_⟩
  intro ys defined
  exact apply_of_computed? (computes.symm.trans defined)

def remainderRemoval : Definition where
  name := some "k9"
  params := ["a", "b"]
  body :=
    [⟨.ident, "a", 16⟩, ⟨.punct, ".", 17⟩, ⟨.ident, "splice", 18⟩, ⟨.punct, "(", 24⟩,
      ⟨.ident, "b", 25⟩, ⟨.punct, "%", 26⟩, ⟨.ident, "a", 27⟩, ⟨.punct, ".", 28⟩,
      ⟨.ident, "length", 29⟩, ⟨.punct, ",", 35⟩, ⟨.number, "1", 36⟩, ⟨.punct, ")", 37⟩]
  bodyStart := 5
  offset := 0

theorem meaning?_apply_removal :
    (Shape.ofKind .removeAt).accepts remainderRemoval = true ∧
      remainderRemoval.params[0]? ≠ remainderRemoval.params[1]? ∧
      meaning? remainderRemoval [10, 20, 30] 1 = some [10, 30] ∧
      (Operation.removeAt 1).apply [10, 20, 30] = .ok [10, 30] := by
  have accepted : (Shape.ofKind .removeAt).accepts remainderRemoval = true := by decide
  have distinct : remainderRemoval.params[0]? ≠ remainderRemoval.params[1]? := by decide
  obtain ⟨computes, agrees⟩ := meaning?_apply accepted distinct [10, 20, 30] 1
  have defined : meaning? remainderRemoval [10, 20, 30] 1 = some [10, 30] := by
    rw [computes]
    decide
  obtain ⟨operation, same, applied⟩ := agrees _ defined
  cases same
  exact ⟨accepted, distinct, defined, applied⟩

/-- Beyond the length the body deletes the entry at the remainder, and the recorded operation
fails. -/
theorem removal_beyond_length :
    ∃ (kind : Operation.Kind) (function : Definition) (xs ys : List Nat) (index : Nat)
      (operation : Operation),
      (Shape.ofKind kind).accepts function = true ∧
        function.params[0]? ≠ function.params[1]? ∧
        meaning? function xs index = some ys ∧
        Operation.ofCall? kind (some index) = some operation ∧
        operation.apply xs ≠ .ok ys := by
  refine ⟨.removeAt, remainderRemoval, [10, 20, 30], [10, 30], 4, .removeAt 4, ?_⟩
  decide

end Body

end PlayerCipher
