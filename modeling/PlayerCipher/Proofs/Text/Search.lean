import Mathlib.Data.List.Basic
import PlayerCipher.Text.Pattern

/-! Pattern search.
A match takes the text apart piece by piece, and a search finds the leftmost suffix that matches.
Both are stated as what the text is made of. -/

namespace PlayerCipher

namespace Text

theorem after?_eq_some {lead cs rest : List Char} :
    after? lead cs = some rest ↔ cs = lead ++ rest := by
  unfold after?
  constructor
  · intro found
    split at found
    · rename_i leads
      cases found
      exact (List.prefix_iff_eq_append.1 (List.isPrefixOf_iff_prefix.1 leads)).symm
    · cases found
  · rintro rfl
    simp

theorem firstSuffix?_cons {α : Type} {found? : List Char → Option α} {c : Char} {cs : List Char} :
    firstSuffix? found? (c :: cs) = (found? (c :: cs)).or (firstSuffix? found? cs) := by
  rw [firstSuffix?]
  cases found? (c :: cs) <;> rfl

theorem firstSuffix?_eq_some {α : Type} {found? : List Char → Option α} {a : α}
    (cs : List Char) :
    firstSuffix? found? cs = some a ↔
      ∃ before rest, cs = before ++ rest ∧ found? rest = some a ∧
        ∀ left right, cs = left ++ right → left.length < before.length → found? right = none := by
  induction cs with
  | nil =>
    constructor
    · intro found
      exact ⟨[], [], rfl, found, fun _ _ _ shorter => absurd shorter (Nat.not_lt_zero _)⟩
    · rintro ⟨before, rest, whole, found, -⟩
      obtain ⟨-, rfl⟩ := List.append_eq_nil_iff.1 whole.symm
      exact found
  | cons c cs ih =>
    rw [firstSuffix?_cons, Option.or_eq_some_iff]
    constructor
    · rintro (here | ⟨here, found⟩)
      · exact ⟨[], c :: cs, rfl, here, fun _ _ _ shorter => absurd shorter (Nat.not_lt_zero _)⟩
      · obtain ⟨before, rest, whole, later, first⟩ := ih.1 found
        refine ⟨c :: before, rest, by rw [whole]; rfl, later, ?_⟩
        intro left right parts shorter
        cases left with
        | nil =>
          rw [List.nil_append] at parts
          rw [← parts]
          exact here
        | cons d left =>
          rw [List.cons_append, List.cons.injEq] at parts
          rw [List.length_cons, List.length_cons] at shorter
          exact first left right parts.2 (by omega)
    · rintro ⟨before, rest, whole, found, first⟩
      cases before with
      | nil =>
        rw [List.nil_append] at whole
        exact .inl (by rw [whole, found])
      | cons d before =>
        rw [List.cons_append, List.cons.injEq] at whole
        refine .inr ⟨first [] (c :: cs) rfl (by simp), ih.2 ⟨before, rest, whole.2, found, ?_⟩⟩
        intro left right parts shorter
        exact first (c :: left) right (by rw [parts]; rfl) (by simpa using shorter)

theorem firstSuffix?_eq_none {α : Type} {found? : List Char → Option α} (cs : List Char) :
    firstSuffix? found? cs = none ↔
      ∀ before rest, cs = before ++ rest → found? rest = none := by
  induction cs with
  | nil =>
    constructor
    · intro none before rest whole
      obtain ⟨-, rfl⟩ := List.append_eq_nil_iff.1 whole.symm
      exact none
    · intro none
      exact none [] [] rfl
  | cons c cs ih =>
    rw [firstSuffix?_cons, Option.or_eq_none_iff]
    constructor
    · rintro ⟨here, none⟩ before rest whole
      cases before with
      | nil =>
        rw [List.nil_append] at whole
        rw [← whole, here]
      | cons d before =>
        rw [List.cons_append, List.cons.injEq] at whole
        exact ih.1 none before rest whole.2
    · intro none
      exact ⟨none [] (c :: cs) rfl,
        ih.2 fun before rest whole => none (c :: before) rest (by rw [whole]; rfl)⟩

namespace Pattern

variable {captured result cs : List Char} {pieces : Pattern}

theorem matchFrom_text {expected : String} :
    matchFrom captured (.text expected :: pieces) cs = some result ↔
      ∃ rest, cs = expected.toList ++ rest ∧ matchFrom captured pieces rest = some result := by
  have unfolded : matchFrom captured (.text expected :: pieces) cs =
      (after? expected.toList cs).bind (matchFrom captured pieces) := by
    rw [matchFrom]
    cases after? expected.toList cs <;> rfl
  simp only [unfolded, Option.bind_eq_some_iff, after?_eq_some]

theorem matchFrom_oneOf {expected : List String} :
    matchFrom captured (.oneOf expected :: pieces) cs = some result ↔
      ∃ rest, expected.findSome? (fun text => after? text.toList cs) = some rest ∧
        matchFrom captured pieces rest = some result := by
  have unfolded : matchFrom captured (.oneOf expected :: pieces) cs =
      (expected.findSome? fun text => after? text.toList cs).bind (matchFrom captured pieces) := by
    rw [matchFrom]
    cases expected.findSome? fun text => after? text.toList cs <;> rfl
  rw [unfolded, Option.bind_eq_some_iff]

theorem matchFrom_run {isMember : Char → Bool} {least : Nat} :
    matchFrom captured (.run isMember least :: pieces) cs = some result ↔
      least ≤ (cs.takeWhile isMember).length ∧
        matchFrom captured pieces (cs.dropWhile isMember) = some result :=
  Option.ite_none_right_eq_some

theorem matchFrom_capture {isMember : Char → Bool} {least : Nat} :
    matchFrom captured (.capture isMember least :: pieces) cs = some result ↔
      least ≤ (cs.takeWhile isMember).length ∧
        matchFrom (cs.takeWhile isMember) pieces (cs.dropWhile isMember) = some result :=
  Option.ite_none_right_eq_some

def captures : Piece → Bool
  | .capture _ _ => true
  | _ => false

theorem matchFrom_captured (pieces : Pattern) :
    ∀ {cs : List Char}, (pieces.any captures) = false →
      matchFrom captured pieces cs = some result → result = captured := by
  induction pieces with
  | nil =>
    intro cs _ found
    cases found
    rfl
  | cons piece pieces ih =>
    intro cs plain found
    rw [List.any_cons, Bool.or_eq_false_iff] at plain
    cases piece with
    | text expected =>
      obtain ⟨rest, -, found⟩ := matchFrom_text.1 found
      exact ih plain.2 found
    | oneOf expected =>
      obtain ⟨rest, -, found⟩ := matchFrom_oneOf.1 found
      exact ih plain.2 found
    | run isMember least => exact ih plain.2 (matchFrom_run.1 found).2
    | capture isMember least => exact absurd plain.1 (by simp [captures])

theorem matchFrom_append {later : Pattern} (pieces : Pattern) :
    ∀ {captured cs : List Char}, matchFrom captured (pieces ++ later) cs = some result →
      ∃ before rest captured', cs = before ++ rest ∧
        matchFrom captured' later rest = some result := by
  induction pieces with
  | nil =>
    intro captured cs found
    exact ⟨[], cs, captured, rfl, found⟩
  | cons piece pieces ih =>
    intro captured cs found
    rw [List.cons_append] at found
    have shorter : ∃ taken rest captured', cs = taken ++ rest ∧
        matchFrom captured' (pieces ++ later) rest = some result := by
      cases piece with
      | text expected =>
        obtain ⟨rest, whole, found⟩ := matchFrom_text.1 found
        exact ⟨_, rest, captured, whole, found⟩
      | oneOf expected =>
        obtain ⟨rest, leads, found⟩ := matchFrom_oneOf.1 found
        obtain ⟨text, -, leads⟩ := List.exists_of_findSome?_eq_some leads
        exact ⟨_, rest, captured, after?_eq_some.1 leads, found⟩
      | run isMember least =>
        obtain ⟨-, found⟩ := matchFrom_run.1 found
        exact ⟨_, _, captured, List.takeWhile_append_dropWhile.symm, found⟩
      | capture isMember least =>
        obtain ⟨-, found⟩ := matchFrom_capture.1 found
        exact ⟨_, _, _, List.takeWhile_append_dropWhile.symm, found⟩
    obtain ⟨taken, rest, captured', whole, found⟩ := shorter
    obtain ⟨before, rest', captured'', parts, found⟩ := ih found
    exact ⟨taken ++ before, rest', captured'', by rw [whole, parts, List.append_assoc], found⟩

end Pattern

theorem append_cons_split {c : Char} {xs ys left right : List Char} (absent : c ∉ xs)
    (same : xs ++ c :: ys = left ++ c :: right) :
    (left = xs ∧ right = ys) ∨ ∃ left', left = xs ++ c :: left' ∧ ys = left' ++ c :: right := by
  rcases List.append_eq_append_iff.1 same with ⟨middle, whole, rest⟩ | ⟨middle, whole, rest⟩
  · cases middle with
    | nil =>
      rw [List.nil_append, List.cons.injEq] at rest
      exact .inl ⟨by rw [whole, List.append_nil], rest.2.symm⟩
    | cons d middle =>
      rw [List.cons_append, List.cons.injEq] at rest
      obtain ⟨rfl, rest⟩ := rest
      exact .inr ⟨middle, whole, rest⟩
  · cases middle with
    | nil =>
      rw [List.nil_append, List.cons.injEq] at rest
      exact .inl ⟨by rw [whole, List.append_nil], rest.2⟩
    | cons d middle =>
      rw [List.cons_append, List.cons.injEq] at rest
      exact absurd (by rw [whole, ← rest.1]; simp) absent

theorem append_split_last {c : Char} {xs ys left tail : List Char} (absent : c ∉ tail)
    (same : xs ++ c :: ys = left ++ tail) : ∃ middle, left = xs ++ c :: middle ∧
      ys = middle ++ tail := by
  rcases List.append_eq_append_iff.1 same with ⟨middle, whole, rest⟩ | ⟨middle, whole, rest⟩
  · cases middle with
    | nil =>
      rw [List.nil_append] at rest
      exact absurd (by rw [← rest]; simp) absent
    | cons d middle =>
      rw [List.cons_append, List.cons.injEq] at rest
      obtain ⟨rfl, rest⟩ := rest
      exact ⟨middle, whole, rest⟩
  · exact absurd (by rw [rest]; simp) absent

theorem isBlank_of_nameChar {c : Char} (named : isNameChar c = true) : isBlank c = false := by
  have bounds : (48 ≤ c.toNat ∧ c.toNat ≤ 57) ∨ (65 ≤ c.toNat ∧ c.toNat ≤ 90) ∨
      (97 ≤ c.toNat ∧ c.toNat ≤ 122) ∨ c.toNat = 95 ∨ c.toNat = 36 := by
    simp only [isNameChar, Bool.or_eq_true, beq_iff_eq] at named
    rcases named with (word | rfl) | rfl
    · have bounds := isAlphanum_bounds word
      omega
    · exact .inr (.inr (.inr (.inl rfl)))
    · exact .inr (.inr (.inr (.inr rfl)))
  simp only [isBlank, Bool.or_eq_false_iff, Bool.and_eq_false_imp, decide_eq_true_eq,
    decide_eq_false_iff_not, beq_eq_false_iff_ne]
  omega

end Text

end PlayerCipher
