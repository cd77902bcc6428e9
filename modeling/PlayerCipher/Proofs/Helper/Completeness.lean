import Mathlib.Data.List.Nodup
import Mathlib.Data.List.Pairwise
import PlayerCipher.Helper.Classify
import PlayerCipher.Proofs.Helper.Derivation

/-! Completeness of the matcher of helper shapes.
The matcher tries the alternatives of an optional part in turn, so it does not refuse a
statement that has a derivation. It hands on the bindings of the first match, and no other
alternative of an earlier statement is tried later. This loses nothing where the length of a
statement tells how each of its parts was read: the statement then has one derivation. -/

namespace PlayerCipher.Shape

def Pattern.widths : Pattern → List Nat
  | .param _ | .temp | .punct _ | .word _ | .number _ => [1]
  | .index => [5, 1]
  | .declaration | .returning => [1, 0]

/-- The lengths of the statements that the patterns may take, one for each way to read them. -/
def widths : List Pattern → List Nat
  | [] => [0]
  | pattern :: patterns => pattern.widths.flatMap fun width => (widths patterns).map (width + ·)

theorem mem_widths {pattern : Pattern} {patterns : List Pattern} {width rest : Nat}
    (first : width ∈ pattern.widths) (others : rest ∈ widths patterns) :
    width + rest ∈ widths (pattern :: patterns) :=
  List.mem_flatMap.2 ⟨width, first, List.mem_map.2 ⟨rest, others, rfl⟩⟩

theorem widths_nodup {pattern : Pattern} {patterns : List Pattern}
    (distinct : (widths (pattern :: patterns)).Nodup) : (widths patterns).Nodup := by
  have each := (List.nodup_flatMap.1 distinct).1
  have some : ∃ width, width ∈ pattern.widths := by
    cases pattern <;> exact ⟨_, List.mem_cons_self⟩
  obtain ⟨width, member⟩ := some
  exact List.Nodup.of_map _ (each width member)

theorem width_unique {pattern : Pattern} {patterns : List Pattern}
    (distinct : (widths (pattern :: patterns)).Nodup) {width width' rest rest' : Nat}
    (first : width ∈ pattern.widths) (first' : width' ∈ pattern.widths)
    (others : rest ∈ widths patterns) (others' : rest' ∈ widths patterns)
    (same : width + rest = width' + rest') : width = width' := by
  by_contra different
  have apart := (List.nodup_flatMap.1 distinct).2
  have symmetric : Std.Symm (Function.onFun List.Disjoint fun width =>
      (widths patterns).map (width + ·)) := ⟨fun _ _ apart _ left right => apart right left⟩
  have disjoint := apart.forall first first' different
  exact disjoint (List.mem_map.2 ⟨rest, others, rfl⟩) (List.mem_map.2 ⟨rest', others', same.symm⟩)

section Statement

variable {params : List String} {patterns : List Pattern} {tokens : List Token}
  {before after : Binding}

theorem matchTokens_isSome (derived : Derives params patterns tokens before after) :
    (matchTokens params patterns tokens before).isSome = true := by
  induction derived with
  | done => rfl
  | param taken _ ih | punct taken _ ih | word taken _ ih => simpa [matchTokens, taken] using ih
  | temp taken _ ih => simpa [matchTokens, taken] using ih
  | number kind text _ ih => simpa [matchTokens, kind, text] using ih
  | declared taken _ ih | returned taken _ ih => simp [matchTokens, taken, Option.isSome_or, ih]
  | undeclared _ ih | unreturned _ ih => simp [matchTokens, Option.isSome_or, ih]
  | remainder form taken _ ih => simp [matchTokens, form, taken, Option.isSome_or, ih]
  | plain form taken _ ih => simp [matchTokens, form, taken, Option.isSome_or, ih]

theorem length_mem_widths (derived : Derives params patterns tokens before after) :
    tokens.length ∈ widths patterns := by
  induction derived with
  | done => exact List.mem_singleton.2 rfl
  | param _ _ ih | temp _ _ ih | punct _ _ ih | word _ _ ih | number _ _ _ ih =>
    rw [List.length_cons, Nat.add_comm]
    exact mem_widths List.mem_cons_self ih
  | declared _ _ ih | returned _ _ ih | plain _ _ _ ih =>
    rw [List.length_cons, Nat.add_comm]
    exact mem_widths (by decide) ih
  | undeclared _ ih | unreturned _ ih =>
    rw [← Nat.zero_add (List.length _)]
    exact mem_widths (by decide) ih
  | remainder _ _ _ ih =>
    simp only [List.length_cons, Nat.add_assoc]
    rw [Nat.add_comm]
    exact mem_widths (by decide) ih

theorem derives_unique (distinct : (widths patterns).Nodup) :
    ∀ {tokens : List Token} {before a b : Binding},
      Derives params patterns tokens before a → Derives params patterns tokens before b →
        a = b := by
  induction patterns with
  | nil =>
    rintro tokens before a b ⟨⟩ ⟨⟩
    rfl
  | cons pattern patterns ih =>
    intro tokens before a b first second
    have same {tokens : List Token} {before a b : Binding} :
        Derives params patterns tokens before a → Derives params patterns tokens before b →
          a = b := ih (widths_nodup distinct)
    -- The first pattern takes the same number of tokens both times.
    have width {left right : List Token} {bound bound' last last' : Binding} (n m : Nat)
        (first : n ∈ pattern.widths) (second : m ∈ pattern.widths)
        (derived : Derives params patterns left bound last)
        (derived' : Derives params patterns right bound' last')
        (whole : n + left.length = m + right.length) : n = m :=
      width_unique distinct first second (length_mem_widths derived)
        (length_mem_widths derived') whole
    cases first with
    | param _ rest => cases second with | param _ rest' => exact same rest rest'
    | punct _ rest => cases second with | punct _ rest' => exact same rest rest'
    | word _ rest => cases second with | word _ rest' => exact same rest rest'
    | number _ _ rest => cases second with | number _ _ rest' => exact same rest rest'
    | temp taken rest =>
      cases second with
      | temp taken' rest' =>
        rw [taken, Option.some.injEq] at taken'
        subst taken'
        exact same rest rest'
    | declared _ rest =>
      cases second with
      | declared _ rest' => exact same rest rest'
      | undeclared rest' => cases width 1 0 (by decide) (by decide) rest rest' (by simp; omega)
    | undeclared rest =>
      cases second with
      | declared _ rest' => cases width 0 1 (by decide) (by decide) rest rest' (by simp; omega)
      | undeclared rest' => exact same rest rest'
    | returned _ rest =>
      cases second with
      | returned _ rest' => exact same rest rest'
      | unreturned rest' => cases width 1 0 (by decide) (by decide) rest rest' (by simp; omega)
    | unreturned rest =>
      cases second with
      | returned _ rest' => cases width 0 1 (by decide) (by decide) rest rest' (by simp; omega)
      | unreturned rest' => exact same rest rest'
    | remainder _ _ rest =>
      cases second with
      | remainder _ _ rest' => exact same rest rest'
      | plain _ _ rest' => cases width 5 1 (by decide) (by decide) rest rest' (by simp; omega)
    | plain _ _ rest =>
      cases second with
      | remainder _ _ rest' => cases width 1 5 (by decide) (by decide) rest rest' (by simp; omega)
      | plain _ _ rest' => exact same rest rest'

theorem matchTokens_eq_some_iff (distinct : (widths patterns).Nodup) :
    matchTokens params patterns tokens before = some after ↔
      Derives params patterns tokens before after := by
  constructor
  · exact derives_of_matchTokens
  · intro derived
    obtain ⟨found, matched⟩ := Option.isSome_iff_exists.1 (matchTokens_isSome derived)
    rw [matched, derives_unique distinct (derives_of_matchTokens matched) derived]

end Statement

theorem matchStatements_eq_some_iff {params : List String} {form : List (List Pattern)}
    {statements : List (List Token)} {before after : Binding}
    (distinct : ∀ patterns ∈ form, (widths patterns).Nodup) :
    matchStatements params form statements before = some after ↔
      DerivesAll params form statements before after := by
  constructor
  · exact derivesAll_of_matchStatements
  · intro derived
    induction derived with
    | done => rfl
    | next first _ ih =>
      have matched := (matchTokens_eq_some_iff (distinct _ List.mem_cons_self)).2 first
      rw [matchStatements, matched, Option.bind_some]
      exact ih fun patterns member => distinct patterns (List.mem_cons_of_mem _ member)

/-- A shape whose statements show by their length how they were read accepts exactly the
functions that have enough parameters and a derivation of their statements in one of its
forms. -/
theorem accepts_iff_derivesAll {shape : Shape}
    (distinct : ∀ form ∈ shape.forms, ∀ patterns ∈ form, (widths patterns).Nodup)
    (function : Definition) :
    shape.accepts function = true ↔
      shape.minParams ≤ function.params.length ∧
        ∃ form ∈ shape.forms, ∃ after,
          DerivesAll function.params form (statements function.body) .none after := by
  constructor
  · exact derivesAll_of_accepts
  · rintro ⟨enough, form, member, after, derived⟩
    have matched := (matchStatements_eq_some_iff (distinct form member)).2 derived
    simp only [accepts, Bool.and_eq_true, decide_eq_true_eq, List.any_eq_true]
    exact ⟨enough, form, member, by rw [matched]; rfl⟩

theorem forms_widths_nodup (kind : Operation.Kind) :
    ∀ form ∈ (ofKind kind).forms, ∀ patterns ∈ form, (widths patterns).Nodup := by
  cases kind <;> decide

end PlayerCipher.Shape
