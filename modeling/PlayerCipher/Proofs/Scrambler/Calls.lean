import PlayerCipher.Proofs.Driver.Ranking
import PlayerCipher.Proofs.Scrambler.Functions

/-! Calls of a scrambling script's driver.
The driver's body holds one helper call for each step and no other, and each call asks for the
operation of its step. -/

namespace PlayerCipher

namespace Scrambler

open Lexeme Call

variable (scrambler : Scrambler)

def argumentTokens (step : Step) (offset : Nat) : List Token :=
  tokensFrom offset (word "a" :: argument step)

theorem balanced_argumentTokens (step : Step) (offset : Nat) :
    Bracket.Balanced (argumentTokens step offset) := by
  unfold argumentTokens argument
  cases step.argument? <;> rfl

theorem indexOf_toDigits {index : Nat} (fits : index < Text.indexLimit) (offset : Nat) :
    indexOf [⟨.number, String.ofList (Nat.toDigits 10 index), offset⟩] = .ok index := by
  simp only [indexOf, if_true, String.toList_ofList, Text.isDigit_toDigits,
    Text.decimalBelow?_toDigits fits]

theorem operationOf_argumentTokens {step : Step} (fits : step.operation.fits) (offset : Nat) :
    operationOf step.operation.kind (argumentTokens step offset) = .ok step.operation := by
  have numbered : ∀ digits : List Char, ∃ o,
      statements (tokensFrom offset [word "a", mark ',', numeral digits]) =
        [[⟨.ident, "a", offset⟩], [⟨.number, String.ofList digits, o⟩]] := by
    intro digits
    exact ⟨_, rfl⟩
  cases step with
  | swap index =>
    obtain ⟨o, split⟩ := numbered (Nat.toDigits 10 index)
    have read := indexOf_toDigits fits o
    unfold operationOf argumentTokens argument
    simp only [Step.argument?, split, Step.operation, Operation.kind, operationOfParts, read]
    rfl
  | removeAt index =>
    obtain ⟨o, split⟩ := numbered (Nat.toDigits 10 index)
    have read := indexOf_toDigits fits o
    unfold operationOf argumentTokens argument
    simp only [Step.argument?, split, Step.operation, Operation.kind, operationOfParts, read]
    rfl
  | reverse extra => cases extra <;> rfl

theorem scan_call {step : Step} (fits : step.operation.fits) (found : List Call)
    (before rest : List Token) (offset : Nat) :
    ∃ (call : Call) (before' : List Token), call.operation = .ok step.operation ∧
      Call.scan scrambler.names found before
          (tokensFrom offset (mark ';' :: scrambler.call step) ++ rest) =
        Call.scan scrambler.names (call :: found) before' rest := by
  let kind := step.operation.kind
  obtain ⟨o₁, o₂, o₃, o₄, o₅, o₆, shape⟩ : ∃ o₁ o₂ o₃ o₄ o₅ o₆,
      tokensFrom offset (mark ';' :: scrambler.call step) =
        [⟨.punct, ";", offset⟩, ⟨.ident, scrambler.object, o₁⟩, ⟨.punct, ".", o₂⟩] ++
          ⟨.ident, scrambler.names.get kind, o₃⟩ :: ⟨.punct, "(", o₄⟩ ::
            (argumentTokens step o₅ ++ [⟨.punct, ")", o₆⟩]) := by
    have shape := tokensFrom_mark offset ';' (scrambler.call step)
    conv at shape =>
      rhs
      rw [call, tokensFrom_word, tokensFrom_mark, tokensFrom_word, tokensFrom_mark,
        ← List.cons_append, tokensFrom_append]
    exact ⟨_, _, _, _, _, _, shape⟩
  have idle : idleRun scrambler.names before.head? (some ⟨.ident, scrambler.names.get kind, o₃⟩)
      [⟨.punct, ";", offset⟩, ⟨.ident, scrambler.object, o₁⟩, ⟨.punct, ".", o₂⟩] = true := by
    have object := isReserved_plain scrambler.object_plain
    simp only [idleRun, Bool.and_eq_true]
    exact ⟨rfl, isIdle_word o₁ object rfl, rfl, trivial⟩
  have passed := scan_idle _ (⟨.ident, scrambler.names.get kind, o₃⟩ :: ⟨.punct, "(", o₄⟩ ::
    (argumentTokens step o₅ ++ ⟨.punct, ")", o₆⟩ :: rest)) found idle
  have quiet : nestedLength? (⟨.punct, ".", o₂⟩ :: ⟨.ident, scrambler.object, o₁⟩ ::
      ⟨.punct, ";", offset⟩ :: before) ⟨.ident, scrambler.names.get kind, o₃⟩
      (⟨.punct, "(", o₄⟩ :: (argumentTokens step o₅ ++ ⟨.punct, ")", o₆⟩ :: rest)) = none :=
    Definition.nestedLength?_quiet
      (Definition.isQuiet_word o₃ (isReserved_plain (scrambler.names_plain kind)) (.inl rfl))
  have called : callee? (⟨.punct, ".", o₂⟩ :: ⟨.ident, scrambler.object, o₁⟩ ::
      ⟨.punct, ";", offset⟩ :: before) ⟨.ident, scrambler.names.get kind, o₃⟩
      (⟨.punct, "(", o₄⟩ :: (argumentTokens step o₅ ++ ⟨.punct, ")", o₆⟩ :: rest)) =
      some ⟨scrambler.names.get kind, [⟨.ident, scrambler.object, o₁⟩, ⟨.punct, ".", o₂⟩,
        ⟨.ident, scrambler.names.get kind, o₃⟩], 1⟩ := by
    simp [callee?, Token.isMark]
  obtain ⟨call, before', operation, goes⟩ := scan_called found quiet called
    (scrambler.names.kindCalled?_get kind) rfl (balanced_argumentTokens step o₅) rfl
  rw [shape]
  simp only [List.append_assoc, List.cons_append, List.nil_append] at passed ⊢
  rw [passed]
  exact ⟨call, before', operation.trans (operationOf_argumentTokens fits o₅), goes⟩

theorem scan_calls (steps : List Step) :
    ∀ (found : List Call) (before rest : List Token) (offset : Nat),
      (∀ step ∈ steps, step.operation.fits) →
      ∃ (read : List Call) (before' : List Token),
        read.map Call.operation = steps.map (fun step => .ok step.operation) ∧
        Call.scan scrambler.names found before
            (tokensFrom offset (scrambler.calls steps) ++ rest) =
          Call.scan scrambler.names (read.reverse ++ found) before' rest := by
  induction steps with
  | nil =>
    intro found before rest offset _
    exact ⟨[], before, rfl, rfl⟩
  | cons step steps ih =>
    intro found before rest offset fits
    let start := offset + Text.byteWidth (written (mark ';' :: scrambler.call step))
    obtain ⟨call, before₁, operation, first⟩ := scrambler.scan_call (fits step List.mem_cons_self)
      found before (tokensFrom start (scrambler.calls steps) ++ rest) offset
    obtain ⟨read, before₂, operations, others⟩ := ih (call :: found) before₁ rest start
      fun step member => fits step (List.mem_cons_of_mem _ member)
    refine ⟨call :: read, before₂, ?_, ?_⟩
    · rw [List.map_cons, List.map_cons, operation, operations]
    · rw [calls, List.flatMap_cons, tokensFrom_append, ← calls, List.append_assoc, first, others]
      simp

theorem idle_method {name : String} (free : Token.isReserved name = false)
    (other : ∀ kind, scrambler.names.get kind ≠ name) (dot offset : Nat) (next : Option Token) :
    isIdle scrambler.names (some ⟨.punct, ".", dot⟩) ⟨.ident, name, offset⟩ next = true :=
  isIdle_method offset free rfl (HelperNames.kindCalled?_other other)

theorem operations_driverBody {steps : List Step} (fits : ∀ step ∈ steps, step.operation.fits)
    (offset : Nat) :
    (callsIn scrambler.names (tokensFrom offset (scrambler.driverBody steps))).map Call.operation =
      steps.map fun step => .ok step.operation := by
  have split : ∀ offset next,
      idleRun scrambler.names none next (tokensFrom offset splitting) = true := by
    intro offset next
    have method := @idle_method scrambler "split" (by decide) scrambler.names_ne_split
    simp only [splitting, tokensFrom_word, tokensFrom_mark, idleRun, Bool.and_eq_true]
    exact ⟨rfl, rfl, rfl, rfl, method _ _ _, rfl, rfl⟩
  have join : ∀ offset last,
      idleRun scrambler.names last none (tokensFrom offset joining) = true := by
    intro offset last
    have method := @idle_method scrambler "join" (by decide) scrambler.names_ne_join
    simp only [joining, tokensFrom_word, tokensFrom_mark, tokensFrom_blank, idleRun,
      Bool.and_eq_true]
    exact ⟨rfl, rfl, rfl, rfl, method _ _ _, rfl, rfl⟩
  let callStart := offset + Text.byteWidth (written splitting)
  let joinStart := callStart + Text.byteWidth (written (scrambler.calls steps))
  have shape : tokensFrom offset (scrambler.driverBody steps) = tokensFrom offset splitting ++
      (tokensFrom callStart (scrambler.calls steps) ++ tokensFrom joinStart joining) := by
    rw [driverBody, tokensFrom_append, tokensFrom_append]
  obtain ⟨read, before, operations, called⟩ := scrambler.scan_calls steps []
    (tokensFrom offset splitting).reverse (tokensFrom joinStart joining) callStart fits
  have splits := @scan_idle scrambler.names (tokensFrom offset splitting)
    (tokensFrom callStart (scrambler.calls steps) ++ tokensFrom joinStart joining) [] []
    (split offset _)
  have joins := @scan_idle scrambler.names (tokensFrom joinStart joining) [] before read.reverse
    (join joinStart _)
  rw [List.append_nil] at splits called joins
  rw [callsIn, shape, splits, called, joins, Call.scan, List.reverse_reverse, operations]

end Scrambler

end PlayerCipher
