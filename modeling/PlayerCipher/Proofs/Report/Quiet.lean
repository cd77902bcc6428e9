import Mathlib
import PlayerCipher.Proofs.Report.Lines

/-! Quiet reports.
The quiet text has a line for what was deciphered of each signature and one for the stream URL. A
failed signature has a line as well, which nothing that reads values line by line can use. So the
text is made of usable values alone exactly if every signature deciphers. -/

namespace PlayerCipher

namespace Report

open Text

abbrev Attempt := String × Except Error String

def ofAttempts (cipher : Cipher) (attempts : List Attempt) (streamUrl : Option String) : Report :=
  ⟨cipher, attempts.map fun attempt => .ofResult attempt.1 attempt.2, streamUrl⟩

def deciphered (attempts : List Attempt) : List String :=
  attempts.filterMap fun attempt => attempt.2.toOption

/-- Texts that can be used further: what was deciphered, and then the stream URL. -/
def usable (attempts : List Attempt) (streamUrl : Option String) : List String :=
  deciphered attempts ++ streamUrl.toList

/-- The line of one attempt: its value alone, or its signature and why it failed. -/
def quietLine (coloured : Bool) (attempt : Attempt) : String :=
  match attempt.2 with
  | .ok value => value ++ "\n"
  | .error e => attempt.1 ++ " -> " ++ Style.red.paint coloured e.message ++ "\n"

/-- Characters of a line that stands for no value. -/
def surplus (coloured : Bool) (attempt : Attempt) : ℕ :=
  if attempt.2.isOk then 0 else (quietLine coloured attempt).length

variable {cipher : Cipher} {attempts : List Attempt} {streamUrl : Option String} {coloured : Bool}

theorem said_ofResult (attempt : Attempt) :
    (Outcome.ofResult attempt.1 attempt.2).said .quiet coloured ++ "\n" =
      quietLine coloured attempt := by
  obtain ⟨input, result⟩ := attempt
  cases result <;> rfl

theorem text_quiet : (ofAttempts cipher attempts streamUrl).text .quiet coloured =
    String.join (attempts.map (quietLine coloured)) ++ asLines streamUrl.toList := by
  have outcomes : ((ofAttempts cipher attempts streamUrl).outcomes.map
      (Outcome.said .quiet coloured)).map (· ++ "\n") = attempts.map (quietLine coloured) := by
    rw [ofAttempts, List.map_map, List.map_map]
    exact List.map_congr_left fun attempt _ => said_ofResult attempt
  have url : (ofAttempts cipher attempts streamUrl).streamUrl.map (streamUrlSaid .quiet coloured) =
      streamUrl := by
    cases streamUrl <;> rfl
  rw [text_eq, if_pos rfl, said, url, asLines, List.map_append, outcomes, String.join_append,
    String.join_nil, String.empty_append, asLines]

theorem asLines_usable : asLines (usable attempts streamUrl) =
    asLines (deciphered attempts) ++ asLines streamUrl.toList := by
  rw [asLines, usable, List.map_append, String.join_append]
  rfl

theorem surplus_eq_zero_iff {attempt : Attempt} :
    surplus coloured attempt = 0 ↔ attempt.2.isOk = true := by
  obtain ⟨input, result⟩ := attempt
  cases result with
  | ok value => exact iff_of_true rfl rfl
  | error e =>
    have ending : "\n".length = 1 := rfl
    have long : 0 < (quietLine coloured (input, .error e)).length := by
      simp only [quietLine, String.length_append]
      omega
    exact iff_of_false (Nat.ne_of_gt long) nofun

theorem length_quietLines (coloured : Bool) (attempts : List Attempt) :
    (String.join (attempts.map (quietLine coloured))).length =
      (asLines (deciphered attempts)).length + (attempts.map (surplus coloured)).sum := by
  induction attempts with
  | nil => rfl
  | cons attempt attempts ih =>
    obtain ⟨input, result⟩ := attempt
    rw [List.map_cons, String.join_cons, String.length_append, ih, List.map_cons, List.sum_cons]
    cases result with
    | ok value =>
      have first : asLines (deciphered ((input, .ok value) :: attempts)) =
          value ++ "\n" ++ asLines (deciphered attempts) := String.join_cons
      have none : surplus coloured (input, .ok value) = 0 := rfl
      have line : quietLine coloured (input, .ok value) = value ++ "\n" := rfl
      rw [first, String.length_append, none, line]
      omega
    | error e =>
      have rest : deciphered ((input, .error e) :: attempts) = deciphered attempts := rfl
      have all : surplus coloured (input, .error e) =
          (quietLine coloured (input, .error e)).length := rfl
      rw [rest, all]
      omega

theorem quietLines_of_isOk (all : ∀ attempt ∈ attempts, attempt.2.isOk = true) :
    String.join (attempts.map (quietLine coloured)) = asLines (deciphered attempts) := by
  induction attempts with
  | nil => rfl
  | cons attempt attempts ih =>
    rw [List.forall_mem_cons] at all
    obtain ⟨input, result⟩ := attempt
    cases result with
    | error e => exact absurd all.1 nofun
    | ok value =>
      rw [List.map_cons, String.join_cons, ih all.2]
      exact String.join_cons.symm

theorem quietLines_eq_iff :
    String.join (attempts.map (quietLine coloured)) = asLines (deciphered attempts) ↔
      ∀ attempt ∈ attempts, attempt.2.isOk = true := by
  constructor
  · intro same attempt member
    have lengths := length_quietLines coloured attempts
    rw [same] at lengths
    have sum : (attempts.map (surplus coloured)).sum = 0 := by
      omega
    have none := List.sum_eq_zero_iff_forall_eq_nat.1 sum _ (List.mem_map_of_mem member)
    exact surplus_eq_zero_iff.1 none
  · exact quietLines_of_isOk

theorem deciphered_filter (attempts : List Attempt) :
    deciphered (attempts.filter fun attempt => attempt.2.isOk) = deciphered attempts := by
  rw [deciphered, deciphered, List.filterMap_filter]
  congr 1
  funext attempt
  obtain ⟨input, result⟩ := attempt
  cases result <;> rfl

/-- The quiet text has the lines of the attempts in their order and then that of the stream URL. It
is made of usable values alone exactly if every attempt succeeds; if the failures are left out of
the report, the usable values are what is left. -/
theorem text_quiet_usable (cipher : Cipher) (attempts : List Attempt) (streamUrl : Option String)
    (coloured : Bool) :
    let text (attempts : List Attempt) :=
      (ofAttempts cipher attempts streamUrl).text .quiet coloured
    (text attempts = asLines (usable attempts streamUrl) ↔
      ∀ attempt ∈ attempts, attempt.2.isOk = true) ∧
    text attempts =
      String.join (attempts.map (quietLine coloured)) ++ asLines streamUrl.toList ∧
    text (attempts.filter fun attempt => attempt.2.isOk) =
      asLines (usable attempts streamUrl) := by
  intro text
  refine ⟨?_, text_quiet, ?_⟩
  · rw [show text attempts = _ from text_quiet, asLines_usable, String.append_left_inj,
      quietLines_eq_iff]
  · have kept : ∀ attempt ∈ attempts.filter fun attempt => attempt.2.isOk,
        attempt.2.isOk = true := by
      intro attempt member
      exact (List.mem_filter.1 member).2
    rw [show text _ = _ from text_quiet, quietLines_of_isOk kept, deciphered_filter,
      ← asLines_usable]

/-- An empty signature fails, and its message stands behind the value of another one. -/
theorem text_quiet_failure :
    let cipher : Cipher := ⟨⟨"v1"⟩,
      ⟨"Ab", "Zr", "k9", by decide, by decide, by decide, by decide, by decide, by decide⟩,
      ⟨[.swap 2]⟩⟩
    let attempts : List Attempt :=
      [("abcdef", .ok "cbadef"), ("", .error (.interpretation ⟨.swap, 2, 0⟩))]
    (∀ attempt ∈ attempts,
      attempt.2 = (cipher.decipher attempt.1).mapError .interpretation) ∧
    asLines (usable attempts none) = "cbadef\n" ∧
    (ofAttempts cipher attempts none).text .quiet false = "cbadef\n" ++
      " -> Interpretation failed: swap index 2 out of range for signature of length 0\n" := by
  intro cipher attempts
  refine ⟨?_, by decide, by decide⟩
  simp only [attempts, List.forall_mem_cons]
  exact ⟨by rfl, by rfl, nofun⟩

end Report

end PlayerCipher
