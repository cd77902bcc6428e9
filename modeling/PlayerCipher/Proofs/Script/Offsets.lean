import Mathlib.Order.Monotone.Basic
import PlayerCipher.Proofs.Script.Compact

/-! Offsets of the tokens of a script.
A lexeme starts where the one before it ends and takes at least one byte, so the offsets of the
tokens ascend. What the offsets add to the kinds and texts of the tokens is an ascending
sequence of numbers and nothing else: the tokens are their numbered views, moved. -/

namespace PlayerCipher

namespace Lexeme

theorem scan_ascending (before : Option Token) (offset : Nat) (done : List (Lexeme × Nat))
    (source : List Char) :
    (done.Pairwise fun later earlier => earlier.2 < later.2) →
      (∀ entry ∈ done, entry.2 < offset) →
      (scan before offset done source).Pairwise fun earlier later => earlier.2 < later.2 := by
  fun_induction scan before offset done source with
  | case1 before offset done =>
    intro ascending _
    exact List.pairwise_reverse.2 ascending
  | case2 before offset done c cs lexeme ih =>
    intro ascending behind
    have advances : offset < offset + Text.byteWidth lexeme.text :=
      Nat.lt_add_of_pos_right (Text.byteWidth_pos (next_text_ne_nil before c cs))
    apply ih
    · exact List.pairwise_cons.2 ⟨behind, ascending⟩
    · intro entry member
      rcases List.mem_cons.1 member with rfl | earlier
      · exact advances
      · exact (behind entry earlier).trans advances

end Lexeme

theorem tokenize_ascending (source : String) :
    (tokenize source).Pairwise fun earlier later => earlier.offset < later.offset := by
  have ascending := Lexeme.scan_ascending none 0 [] source.toList .nil (by simp)
  apply ascending.filterMap
  rintro ⟨lexeme, offset⟩ ⟨lexeme', offset'⟩ before token read token' read'
  obtain ⟨kind, -, rfl⟩ := Option.map_eq_some_iff.1 read
  obtain ⟨kind', -, rfl⟩ := Option.map_eq_some_iff.1 read'
  exact before

namespace Token

/-- Tokens with the given kinds and texts, each with its place in the run as its offset. -/
def numbered (views : List (Kind × String)) : List Token :=
  views.mapIdx fun place view => ⟨view.1, view.2, place⟩

/-- A sequence of numbers that begins with those of a list, and goes on beyond all of them. -/
def extended (offsets : List Nat) (place : Nat) : Nat :=
  offsets[place]?.getD (offsets.getLast?.getD 0 + place + 1)

theorem extended_of_lt {offsets : List Nat} {place : Nat} (inside : place < offsets.length) :
    extended offsets place = offsets[place] := by
  simp [extended, inside]

theorem extended_strictMono {offsets : List Nat} (ascending : offsets.Pairwise (· < ·)) :
    StrictMono (extended offsets) := by
  apply strictMono_nat_of_lt_succ
  intro place
  by_cases inside : place < offsets.length
  · rw [extended_of_lt inside]
    by_cases last : place + 1 < offsets.length
    · rw [extended_of_lt last]
      exact List.pairwise_iff_getElem.1 ascending place (place + 1) inside last (by omega)
    · have ends : offsets.length - 1 = place := by omega
      have final : offsets.getLast?.getD 0 = offsets[place] := by
        rw [List.getLast?_eq_getElem?, ends, List.getElem?_eq_getElem inside, Option.getD_some]
      simp only [extended, List.getElem?_eq_none (Nat.le_of_not_lt last), Option.getD_none]
      omega
  · have here : offsets.length ≤ place := Nat.le_of_not_lt inside
    have next : offsets.length ≤ place + 1 := Nat.le_succ_of_le here
    simp only [extended, List.getElem?_eq_none here, List.getElem?_eq_none next,
      Option.getD_none]
    omega

theorem exists_moved {tokens : List Token}
    (ascending : tokens.Pairwise fun earlier later => earlier.offset < later.offset) :
    ∃ move : Nat → Nat, StrictMono move ∧
      tokens = (numbered (tokens.map view)).map fun token =>
        { token with offset := move token.offset } := by
  refine ⟨extended (tokens.map offset), extended_strictMono (List.pairwise_map.2 ascending), ?_⟩
  apply List.ext_getElem
  · simp [numbered]
  · intro place inside _
    simp [numbered, view, extended, inside]

end Token

end PlayerCipher
