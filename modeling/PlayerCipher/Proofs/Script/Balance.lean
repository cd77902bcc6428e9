import Mathlib.Data.List.Basic
import PlayerCipher.Script.Definition

/-! Balanced token runs.
A balanced run closes every bracket that it opens and no other. Between an opening bracket and
a closing one it is exactly what the search for the closing bracket passes over, so a braced
block is cut where it was put together. -/

namespace PlayerCipher

namespace Token

theorem isMark_of_kind {token : Token} (kind : token.kind ≠ .punct) (text : String) :
    token.isMark text = false := by
  simp [isMark, kind]

theorem isMark_of_ne {token : Token} {text other : String} (mark : token.isMark text = true)
    (different : text ≠ other) : token.isMark other = false := by
  rw [isMark_iff] at mark
  simp [isMark, mark.2, different]

end Token

namespace Bracket

/-- Number of open brackets after a run that starts inside `depth` of them; `none` if the run
closes one too many. -/
def depthAfter (depth : Nat) : List Token → Option Nat
  | [] => some depth
  | token :: tokens =>
    if token.opens then depthAfter (depth + 1) tokens
    else if token.closes then
      if depth = 0 then none else depthAfter (depth - 1) tokens
    else depthAfter depth tokens

def Balanced (tokens : List Token) : Prop :=
  depthAfter 0 tokens = some 0

theorem opens_of_closes {token : Token} (closes : token.closes = true) :
    token.opens = false := by
  simp only [Token.closes, Bool.and_eq_true, Bool.or_eq_true, beq_iff_eq] at closes
  obtain ⟨-, text⟩ := closes
  rcases text with (text | text) | text <;> simp [Token.opens, text]

theorem closes_of_opens {token : Token} (opens : token.opens = true) : token.closes = false := by
  by_contra closes
  rw [opens_of_closes (by simpa using closes)] at opens
  cases opens

theorem depthAfter_append (ts us : List Token) :
    ∀ depth, depthAfter depth (ts ++ us) = (depthAfter depth ts).bind (depthAfter · us) := by
  induction ts with
  | nil =>
    intro depth
    rfl
  | cons token ts ih =>
    intro depth
    rw [List.cons_append, depthAfter, depthAfter]
    split
    · exact ih _
    split
    · split
      · rfl
      · exact ih _
    · exact ih _

theorem balanced_append_iff {ts us : List Token} (left : Balanced ts) :
    Balanced (ts ++ us) ↔ Balanced us := by
  unfold Balanced at left ⊢
  rw [depthAfter_append, left]
  rfl

theorem Balanced.append {ts us : List Token} (left : Balanced ts) (right : Balanced us) :
    Balanced (ts ++ us) :=
  (balanced_append_iff left).2 right

/-- The search for a closing bracket passes over a run that leaves brackets open, and goes on
with those as well. -/
theorem pairAt_append (ts rest : List Token) :
    ∀ {depth after : Nat} (place : Nat), depthAfter depth ts = some after →
      pairAt Token.opens Token.closes (depth + 1) place (ts ++ rest) =
        pairAt Token.opens Token.closes (after + 1) (place + ts.length) rest := by
  induction ts with
  | nil =>
    intro depth after place known
    cases known
    rfl
  | cons token ts ih =>
    intro depth after place known
    rw [depthAfter] at known
    simp only [List.cons_append, pairAt, List.length_cons]
    have moved : place + (ts.length + 1) = place + 1 + ts.length := by
      omega
    rw [moved]
    split
    · rename_i opens
      rw [if_pos opens] at known
      exact ih _ known
    rename_i opens
    rw [if_neg opens] at known
    split
    · rename_i closes
      rw [if_pos closes] at known
      cases depth with
      | zero => cases known
      | succ depth => exact ih _ known
    · rename_i closes
      rw [if_neg closes] at known
      exact ih _ known

theorem inside?_balanced {inner : List Token} (balanced : Balanced inner) {closer : Token}
    (closes : closer.closes = true) (rest : List Token) :
    inside? (inner ++ closer :: rest) = some inner.length := by
  have passed := pairAt_append inner (closer :: rest) 0 balanced
  rw [Nat.zero_add] at passed
  rw [inside?, passed, pairAt]
  simp [closes, opens_of_closes closes]

theorem cut?_balanced {inner : List Token} (balanced : Balanced inner) {closer : Token}
    (closes : closer.closes = true) (rest : List Token) :
    cut? (inner ++ closer :: rest) = some ⟨inner, closer, rest⟩ := by
  simp [cut?, inside?_balanced balanced closes]

theorem closes_within (tokens : List Token) :
    ∀ {level depth}, depthAfter (level + 1 + depth) tokens = some 0 →
      ∃ inner closer behind, tokens = inner ++ closer :: behind ∧
        depthAfter level inner = some 0 ∧ closer.closes = true ∧
          depthAfter depth behind = some 0 := by
  induction tokens with
  | nil =>
    intro level depth closed
    simp [depthAfter] at closed
  | cons token tokens ih =>
    intro level depth closed
    rw [depthAfter] at closed
    split_ifs at closed with opens closes bottom
    · rw [Nat.add_right_comm] at closed
      obtain ⟨inner, closer, behind, rfl, balanced, closes, rest⟩ := ih closed
      refine ⟨token :: inner, closer, behind, rfl, ?_, closes, rest⟩
      rwa [depthAfter, if_pos opens]
    · cases level with
      | zero =>
        rw [Nat.zero_add, Nat.add_sub_cancel_left] at closed
        exact ⟨[], token, tokens, rfl, rfl, closes, closed⟩
      | succ level =>
        rw [Nat.add_right_comm _ 1 depth, Nat.add_sub_cancel] at closed
        obtain ⟨inner, closer, behind, rfl, balanced, closes', rest⟩ := ih closed
        refine ⟨token :: inner, closer, behind, rfl, ?_, closes', rest⟩
        rwa [depthAfter, if_neg opens, if_pos closes, if_neg (Nat.succ_ne_zero level)]
    · obtain ⟨inner, closer, behind, rfl, balanced, closes', rest⟩ := ih closed
      refine ⟨token :: inner, closer, behind, rfl, ?_, closes', rest⟩
      rwa [depthAfter, if_neg opens, if_neg closes]

theorem closed_of_opened {opener : Token} {tokens : List Token} {depth : Nat}
    (opens : opener.opens = true) (closed : depthAfter depth (opener :: tokens) = some 0) :
    ∃ inner closer behind, tokens = inner ++ closer :: behind ∧ Balanced inner ∧
      closer.closes = true ∧ depthAfter depth behind = some 0 := by
  rw [depthAfter, if_pos opens, Nat.add_comm, ← Nat.zero_add 1] at closed
  exact closes_within tokens closed

end Bracket

namespace Definition

open PlayerCipher.Bracket

theorem braced?_balanced {head body : List Token} (headBalanced : Balanced head)
    (bodyBalanced : Balanced body) {opener closer brace last : Token}
    (opens : opener.isMark "(" = true) (closes : closer.closes = true)
    (braces : brace.isMark "\x7b" = true) (ends : last.closes = true) (rest : List Token) :
    braced? (opener :: (head ++ closer :: brace :: (body ++ last :: rest))) =
      some (head, body) := by
  simp [braced?, opens, braces, cut?_balanced headBalanced closes,
    cut?_balanced bodyBalanced ends]

theorem spells_of_isMark {token : Token} {text : String} (word : String)
    (mark : token.isMark text = true) : token.spells word = false := by
  rw [Token.isMark_iff] at mark
  simp [Token.spells, mark.1]

theorem at?_assigned {op target word opener closer brace last : Token} {head body : List Token}
    {params : List String} (before rest : List Token) (place : Nat)
    (gives : (op.isMark "=" || op.isMark ":") = true) (named : target.isIdentifier = true)
    (keyword : word.spells "function" = true) (opens : opener.isMark "(" = true)
    (closes : closer.closes = true) (braces : brace.isMark "\x7b" = true)
    (ends : last.closes = true) (headBalanced : Balanced head) (bodyBalanced : Balanced body)
    (read : parameters? head = some params) :
    at? (op :: target :: before) place word
        (opener :: (head ++ closer :: brace :: (body ++ last :: rest))) =
      some ⟨some target.text, params, body, place + head.length + 4, word.offset⟩ := by
  have plain : op.spells "async" = false := by
    rcases Bool.or_eq_true_iff.1 gives with mark | mark
    · exact spells_of_isMark "async" mark
    · exact spells_of_isMark "async" mark
  have kind : target.kind = .ident := (Token.isIdentifier_iff.1 named).1
  have noStar : opener.isMark "*" = false := by
    rw [Token.isMark_iff] at opens
    simp [Token.isMark, opens.2]
  have noName : opener.isIdentifier = false := by
    rw [Token.isMark_iff] at opens
    simp [Token.isIdentifier, opens.1]
  have parts := braced?_balanced headBalanced bodyBalanced opens closes braces ends rest
  have noAsync : withAsync word (op :: target :: before) = (word, op :: target :: before) := by
    simp [withAsync, plain]
  have name : nameBefore? (op :: target :: before) = some target.text := by
    simp [nameBefore?, gives, kind, named]
  rw [at?, if_pos keyword]
  simp only [ofKeyword?, noAsync, afterStar, noStar, keywordName, noName, name, parts, read,
    Bool.false_eq_true, if_false, Option.bind_eq_bind, Option.bind_some]
  congr 2
  omega

end Definition

end PlayerCipher
