import PlayerCipher.Proofs.Driver.Segments
import PlayerCipher.Proofs.Scrambler.Functions

/-! Arguments of helper calls.
A call names the array and, for swap and remove-at, an index in decimal digits. Every other way to
write a number is one token for the scanner and no index for the call, and a number that does not
fit is refused, not cut down. -/

namespace PlayerCipher

namespace Text

theorem decimalBelow?_eq_some_iff {limit n : ℕ} {digits : List Char} :
    decimalBelow? limit digits = some n ↔
      digits ≠ [] ∧ digits.all Char.isDigit = true ∧ decimalValue digits = n ∧ n < limit := by
  rw [decimalBelow?]
  constructor
  · intro read
    split_ifs at read with digital
    rw [Option.some.injEq] at read
    subst read
    exact ⟨digital.1, digital.2.1, rfl, digital.2.2⟩
  · intro known
    obtain ⟨nonempty, digital, value, fits⟩ := known
    subst value
    rw [if_pos ⟨nonempty, digital, fits⟩]

end Text

theorem Operation.Kind.eq_reverse {kind : Operation.Kind} (free : kind.needsIndex = false) :
    kind = .reverse := by
  cases kind with
  | reverse => rfl
  | swap => cases free
  | removeAt => cases free

namespace Call

open Lexeme Statement Definition

/-- The operation of a kind with an index, which a reversal has none of. -/
def withIndex : Operation.Kind → ℕ → Operation
  | .swap, index => .swap index
  | .removeAt, index => .removeAt index
  | .reverse, _ => .reverse

inductive Reads : Operation.Kind → List (List Token) → Operation → Prop where
  | index {kind : Operation.Kind} {array literal : Token} {index : ℕ}
      (needs : kind.needsIndex = true) (plain : array.isIdentifier = true)
      (known : IsIndex literal index) : Reads kind [[array], [literal]] (withIndex kind index)
  | reverse {array : Token} (plain : array.isIdentifier = true) :
      Reads .reverse [[array]] .reverse
  | reverseWith {array : Token} {extra : List Token} (plain : array.isIdentifier = true) :
      Reads .reverse [[array], extra] .reverse

theorem indexOf_ok_iff {argument : List Token} {index : ℕ} :
    indexOf argument = .ok index ↔ ∃ literal, argument = [literal] ∧ IsIndex literal index := by
  constructor
  · intro read
    match argument with
    | [] => cases read
    | first :: second :: rest => cases read
    | [literal] =>
      simp only [indexOf] at read
      split_ifs at read with number digital
      cases below : Text.decimalBelow? Text.indexLimit literal.text.toList with
      | none => simp [below] at read
      | some value =>
        obtain ⟨nonempty, -, same, fits⟩ := Text.decimalBelow?_eq_some_iff.1 below
        simp only [below, Except.ok.injEq] at read
        subst read
        exact ⟨literal, rfl, number, nonempty, digital, same, fits⟩
  · intro known
    obtain ⟨literal, single, index⟩ := known
    rw [single, index.read]

theorem indexOf_notInteger {argument : List Token}
    (other : ∀ literal, argument = [literal] → literal.kind ≠ .number) :
    indexOf argument = .error (.notInteger (Token.render argument)) := by
  match argument with
  | [] => rfl
  | first :: second :: rest => rfl
  | [literal] => rw [indexOf, if_neg (other literal rfl)]

theorem indexOf_notDecimal {literal : Token} (number : literal.kind = .number)
    (mixed : literal.text.toList.all Char.isDigit = false) :
    indexOf [literal] = .error (.notDecimal literal.text) := by
  simp [indexOf, number, mixed]

theorem indexOf_tooLarge {literal : Token} (number : literal.kind = .number)
    (digital : literal.text.toList.all Char.isDigit = true)
    (large : Text.indexLimit ≤ Text.decimalValue literal.text.toList) :
    indexOf [literal] = .error (.tooLarge literal.text) := by
  have refused : Text.decimalBelow? Text.indexLimit literal.text.toList = none := by
    rw [Text.decimalBelow?, if_neg]
    intro known
    exact absurd known.2.2 (Nat.not_lt.2 large)
  simp [indexOf, number, digital, refused]

theorem indexOf_numeral {text : List Char} (nonempty : text ≠ []) (place : ℕ) :
    indexOf [⟨.number, String.ofList text, place⟩] =
      if text.all Char.isDigit = false then .error (.notDecimal (String.ofList text))
      else if 2 ^ 64 ≤ Text.decimalValue text then .error (.tooLarge (String.ofList text))
      else .ok (Text.decimalValue text) := by
  have chars : (String.ofList text).toList = text := String.toList_ofList
  split_ifs with mixed large
  · exact indexOf_notDecimal rfl (by rw [chars, mixed])
  · exact indexOf_tooLarge rfl (by simpa [chars] using mixed) (by rw [chars]; exact large)
  · refine IsIndex.read ⟨rfl, ?_, ?_, ?_, Nat.lt_of_not_le large⟩
    · rw [chars]
      exact nonempty
    · simpa [chars] using mixed
    · rw [chars]

theorem isPlainArray_iff {argument : List Token} :
    isPlainArray argument = true ↔ ∃ array, argument = [array] ∧ array.isIdentifier = true := by
  match argument with
  | [] => simp [isPlainArray]
  | [array] => simp [isPlainArray]
  | _ :: _ :: _ => simp [isPlainArray]

theorem operationOfParts_index {kind : Operation.Kind} (needs : kind.needsIndex = true)
    {array : Token} (plain : array.isIdentifier = true) (second : List Token) :
    operationOfParts kind [[array], second] = (indexOf second).map (withIndex kind) := by
  cases kind with
  | reverse => cases needs
  | swap => simp [operationOfParts, isPlainArray, plain, Except.map, withIndex]
  | removeAt => simp [operationOfParts, isPlainArray, plain, Except.map, withIndex]

theorem operationOfParts_missing {kind : Operation.Kind} (needs : kind.needsIndex = true)
    {array : Token} (plain : array.isIdentifier = true) :
    operationOfParts kind [[array]] = .error .missingIndex := by
  cases kind with
  | reverse => cases needs
  | swap => simp [operationOfParts, isPlainArray, plain, Operation.ofCall?]
  | removeAt => simp [operationOfParts, isPlainArray, plain, Operation.ofCall?]

theorem operationOfParts_reverse {array : Token} (plain : array.isIdentifier = true)
    (rest : List (List Token)) (few : rest.length ≤ 1) :
    operationOfParts .reverse ([array] :: rest) = .ok .reverse := by
  match rest with
  | [] => simp [operationOfParts, isPlainArray, plain, Operation.ofCall?]
  | [_] => simp [operationOfParts, isPlainArray, plain]
  | _ :: _ :: _ => simp at few

theorem operationOfParts_tooMany {kind : Operation.Kind} {array : Token}
    (plain : array.isIdentifier = true) (second third : List Token) (rest : List (List Token)) :
    operationOfParts kind ([array] :: second :: third :: rest) =
      .error (.tooMany (rest.length + 3)) := by
  simp [operationOfParts, isPlainArray, plain]

theorem operationOfParts_ok_iff {kind : Operation.Kind} {parts : List (List Token)}
    {operation : Operation} :
    operationOfParts kind parts = .ok operation ↔ Reads kind parts operation := by
  constructor
  · intro read
    match parts with
    | [] => cases read
    | argument :: rest =>
      by_cases alone : isPlainArray argument = true
      · obtain ⟨array, rfl, plain⟩ := isPlainArray_iff.1 alone
        match rest with
        | [] =>
          cases needs : kind.needsIndex with
          | true => simp [operationOfParts_missing needs plain] at read
          | false =>
            obtain rfl : kind = .reverse := Operation.Kind.eq_reverse needs
            rw [operationOfParts_reverse plain [] (Nat.zero_le 1)] at read
            cases read
            exact .reverse plain
        | [second] =>
          cases needs : kind.needsIndex with
          | true =>
            rw [operationOfParts_index needs plain] at read
            cases index : indexOf second with
            | error e => simp [index, Except.map] at read
            | ok value =>
              obtain ⟨literal, rfl, known⟩ := indexOf_ok_iff.1 index
              rw [index] at read
              cases read
              exact .index needs plain known
          | false =>
            obtain rfl : kind = .reverse := Operation.Kind.eq_reverse needs
            rw [operationOfParts_reverse plain [second] (Nat.le_refl 1)] at read
            cases read
            exact .reverseWith plain
        | second :: third :: rest => simp [operationOfParts_tooMany plain] at read
      · simp [operationOfParts, alone] at read
  · intro reads
    cases reads with
    | index needs plain known =>
      rw [operationOfParts_index needs plain, known.read]
      rfl
    | reverse plain => exact operationOfParts_reverse plain [] (Nat.zero_le 1)
    | reverseWith plain => exact operationOfParts_reverse plain [_] (Nat.le_refl 1)

theorem statements_numeral {array : String} {text : List Char} (plain : isPlainName array = true)
    (numeral : IsNumeral text) :
    ∃ place place', statements (tokenize (array ++ "," ++ String.ofList text)) =
      [[⟨.ident, array, place⟩], [⟨.number, String.ofList text, place'⟩]] := by
  have compact : compactRun none [word array, mark ',', Lexeme.numeral text] = true := by
    have name : (word array).endsBefore (some ',') = true := Scrambler.endsBefore_word plain rfl
    have number : (Lexeme.numeral text).endsBefore none = true :=
      isNumeralBefore_numeral rfl numeral
    simp only [compactRun, written_cons, written_nil, List.append_nil, Bool.and_eq_true]
    exact ⟨name, rfl, number, trivial⟩
  have source : String.ofList (written [word array, mark ',', Lexeme.numeral text]) =
      array ++ "," ++ String.ofList text := by
    apply String.toList_injective
    simp [word, mark, Lexeme.numeral]
  have identifier : (⟨.ident, array, 0⟩ : Token).isIdentifier = true :=
    Token.isIdentifier_iff.2 ⟨rfl, Scrambler.isReserved_plain plain⟩
  rw [← source, tokenize_written compact, tokensFrom_word, tokensFrom_mark]
  exact ⟨_, _, statements_pair identifier rfl (List.cons_ne_nil _ []) (through_number rfl)⟩

/-- A call is read exactly with arguments that ask for an operation of its kind. For a kind that
needs an index, a second argument that is no number token is refused, and a number literal in any
form is an index if it is made of digits and its value fits, and is refused otherwise. -/
theorem operationOf_outcome (kind : Operation.Kind) :
    (∀ arguments operation,
      operationOf kind arguments = .ok operation ↔ Reads kind (statements arguments) operation) ∧
    (kind.needsIndex = true →
      (∀ arguments array second, statements arguments = [[array], second] →
        array.isIdentifier = true → (∀ literal, second = [literal] → literal.kind ≠ .number) →
        operationOf kind arguments = .error (.notInteger (Token.render second))) ∧
      ∀ array text, isPlainName array = true → IsNumeral text →
        operationOf kind (tokenize (array ++ "," ++ String.ofList text)) =
          if text.all Char.isDigit = false then .error (.notDecimal (String.ofList text))
          else if 2 ^ 64 ≤ Text.decimalValue text then .error (.tooLarge (String.ofList text))
          else .ok (withIndex kind (Text.decimalValue text))) := by
  refine ⟨fun arguments operation => operationOfParts_ok_iff, fun needs => ⟨?_, ?_⟩⟩
  · intro arguments array second parts plain other
    rw [operationOf, parts, operationOfParts_index needs plain, indexOf_notInteger other]
    rfl
  · intro array text plain numeral
    have identifier (place : ℕ) : (⟨.ident, array, place⟩ : Token).isIdentifier = true :=
      Token.isIdentifier_iff.2 ⟨rfl, Scrambler.isReserved_plain plain⟩
    obtain ⟨place, place', parts⟩ := statements_numeral plain numeral
    rw [operationOf, parts, operationOfParts_index needs (identifier place),
      indexOf_numeral numeral.ne_nil]
    split_ifs <;> rfl

/-- Hexadecimal, octal, fractional and signed indexes, one with an exponent, one with separators,
one of a big integer and one of 65 bits are refused; zeros may lead. -/
theorem operationOf_outcome_swap :
    operationOf .swap (tokenize "a,0x1e") = .error (.notDecimal "0x1e") ∧
    operationOf .swap (tokenize "a,0o17") = .error (.notDecimal "0o17") ∧
    operationOf .swap (tokenize "a,1.5e-3") = .error (.notDecimal "1.5e-3") ∧
    operationOf .swap (tokenize "a,1_000") = .error (.notDecimal "1_000") ∧
    operationOf .swap (tokenize "a,5n") = .error (.notDecimal "5n") ∧
    operationOf .swap (tokenize "a,-5") = .error (.notInteger "-5") ∧
    operationOf .swap (tokenize "a,18446744073709551616") =
      .error (.tooLarge "18446744073709551616") ∧
    operationOf .swap (tokenize "a,00018446744073709551615") = .ok (.swap (2 ^ 64 - 1)) := by
  have outcome := (operationOf_outcome .swap).2 rfl
  have digits (run : List Char) (isRun : isDigitRun run = true) : IsNumeral (run ++ []) :=
    .decimal (.whole isRun rfl)
  have fraction : IsNumeral "1.5e-3".toList :=
    .decimal (@IsDecimal.point ['1'] ['5'] ['e', '-', '3'] rfl (.inr rfl) rfl)
  have signed : statements (tokenize "a,-5") =
      [[⟨.ident, "a", 0⟩], [⟨.punct, "-", 2⟩, ⟨.number, "5", 3⟩]] := by
    decide +kernel
  exact ⟨outcome.2 "a" "0x1e".toList rfl (.based (by decide) (by decide) rfl),
    outcome.2 "a" "0o17".toList rfl (.based (by decide) (by decide) rfl),
    outcome.2 "a" "1.5e-3".toList rfl fraction,
    outcome.2 "a" "1_000".toList rfl (digits "1_000".toList rfl),
    outcome.2 "a" "5n".toList rfl (@IsNumeral.big ['5'] rfl),
    outcome.1 _ _ _ signed rfl (by simp),
    outcome.2 "a" "18446744073709551616".toList rfl (digits "18446744073709551616".toList rfl),
    outcome.2 "a" "00018446744073709551615".toList rfl
      (digits "00018446744073709551615".toList rfl)⟩

end Call

end PlayerCipher
