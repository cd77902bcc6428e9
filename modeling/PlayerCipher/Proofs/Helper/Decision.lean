import Mathlib
import PlayerCipher.Helper.Classify

/-! What a classification depends on.
For each kind only the names count under which functions of its shape are defined, each where it
stands first. Six rules say what follows from these names, and exactly one of them applies. A
successful classification therefore depends only on which functions have a shape at all. -/

namespace PlayerCipher

namespace Operation.Kind

/-- The kinds whose helpers are looked for before this one. -/
def earlier (kind : Kind) : List Kind :=
  all.takeWhile (· != kind)

@[simp] theorem earlier_swap : Kind.swap.earlier = [] := rfl

@[simp] theorem earlier_reverse : Kind.reverse.earlier = [.swap] := rfl

@[simp] theorem earlier_removeAt : Kind.removeAt.earlier = [.swap, .reverse] := rfl

theorem exists_first {rule : Kind → Prop} (broken : ¬ ∀ kind, rule kind) :
    ∃ kind, ¬ rule kind ∧ ∀ other ∈ kind.earlier, rule other := by
  by_cases swap : rule .swap
  · by_cases reverse : rule .reverse
    · refine ⟨.removeAt, ?_, by simp [swap, reverse]⟩
      intro removeAt
      exact broken fun kind => by cases kind <;> assumption
    · exact ⟨.reverse, reverse, by simp [swap]⟩
  · exact ⟨.swap, swap, by simp⟩

end Operation.Kind

namespace Helper

open Operation (Kind)

/-- Names of the named functions with the shape of a kind, repetitions included. -/
def acceptedNames (kind : Kind) (functions : List Definition) : List String :=
  (functions.filter (Shape.ofKind kind).accepts).filterMap Definition.name

/-- The list `firsts` has the entries of `names`, each once, in the order of their first
occurrence. -/
structure FirstOccurrences (names firsts : List String) : Prop where
  nodup : firsts.Nodup
  mem_iff : ∀ name, name ∈ firsts ↔ name ∈ names
  ordered : firsts.Pairwise fun a b => names.idxOf a < names.idxOf b

namespace FirstOccurrences

theorem nil : FirstOccurrences [] [] :=
  ⟨List.nodup_nil, fun _ => Iff.rfl, List.Pairwise.nil⟩

theorem repeated {names firsts : List String} {name : String}
    (before : FirstOccurrences names firsts) (seen : name ∈ firsts) :
    FirstOccurrences (names ++ [name]) firsts where
  nodup := before.nodup
  mem_iff other := by
    have known := (before.mem_iff name).1 seen
    rw [before.mem_iff, List.mem_append, List.mem_singleton]
    constructor
    · exact .inl
    · rintro (member | rfl)
      · exact member
      · exact known
  ordered := by
    apply before.ordered.imp_of_mem
    intro a b aMember bMember less
    rwa [List.idxOf_append_of_mem ((before.mem_iff a).1 aMember),
      List.idxOf_append_of_mem ((before.mem_iff b).1 bMember)]

theorem fresh {names firsts : List String} {name : String}
    (before : FirstOccurrences names firsts) (unseen : name ∉ firsts) :
    FirstOccurrences (names ++ [name]) (firsts ++ [name]) where
  nodup := by
    rw [List.nodup_append]
    refine ⟨before.nodup, List.nodup_singleton name, ?_⟩
    rintro a member b single rfl
    rw [List.mem_singleton] at single
    exact unseen (single ▸ member)
  mem_iff other := by
    rw [List.mem_append, List.mem_append, before.mem_iff]
  ordered := by
    have unknown : name ∉ names := fun member => unseen ((before.mem_iff name).2 member)
    have place : ∀ a ∈ firsts, (names ++ [name]).idxOf a = names.idxOf a := fun a member =>
      List.idxOf_append_of_mem ((before.mem_iff a).1 member)
    rw [List.pairwise_append]
    refine ⟨?_, List.pairwise_singleton _ _, ?_⟩
    · apply before.ordered.imp_of_mem
      intro a b aMember bMember less
      rwa [place a aMember, place b bMember]
    · intro a aMember b single
      rw [List.mem_singleton] at single
      have inside := List.idxOf_lt_length_of_mem ((before.mem_iff a).1 aMember)
      rw [single, place a aMember, List.idxOf_append_of_notMem unknown]
      omega

theorem unique {names firsts others : List String} (first : FirstOccurrences names firsts)
    (other : FirstOccurrences names others) : firsts = others := by
  have same : firsts.Perm others := by
    rw [List.perm_ext_iff_of_nodup first.nodup other.nodup]
    intro name
    rw [first.mem_iff, other.mem_iff]
  apply same.eq_of_pairwise _ first.ordered other.ordered
  intro a b _ _ less greater
  exact absurd (Nat.lt_trans less greater) (Nat.lt_irrefl _)

theorem singleton_iff {names firsts : List String} {name : String}
    (first : FirstOccurrences names firsts) :
    firsts = [name] ↔ ∀ other, other ∈ names ↔ other = name := by
  constructor
  · rintro rfl other
    rw [← first.mem_iff, List.mem_singleton]
  · intro only
    have members : ∀ other, other ∈ firsts ↔ other = name := fun other =>
      (first.mem_iff other).trans (only other)
    rw [← List.perm_singleton, List.perm_ext_iff_of_nodup first.nodup (List.nodup_singleton name)]
    intro other
    rw [members, List.mem_singleton]

end FirstOccurrences

theorem distinct_firstOccurrences (names : List String) :
    FirstOccurrences names (distinct names) := by
  -- The names read so far are kept beside those still to read.
  have folded : ∀ rest seen before, FirstOccurrences before seen →
      FirstOccurrences (before ++ rest)
        (rest.foldl (fun seen name => if seen.contains name then seen else seen ++ [name]) seen) := by
    intro rest
    induction rest with
    | nil =>
      intro seen before first
      rwa [List.append_nil]
    | cons name rest ih =>
      intro seen before first
      have split : before ++ name :: rest = (before ++ [name]) ++ rest := by simp
      rw [List.foldl_cons, split]
      apply ih
      split_ifs with known
      · exact first.repeated (List.contains_iff_mem.1 known)
      · exact first.fresh fun member => known (List.contains_iff_mem.2 member)
  exact folded names [] [] .nil

theorem candidates_firstOccurrences (kind : Kind) (functions : List Definition) :
    FirstOccurrences (acceptedNames kind functions) (candidates kind functions) :=
  distinct_firstOccurrences _

/-- Outcomes of a classification, for the names that each kind has. The first kind that has not
exactly one name decides; then the first kind whose name is empty; then a name that two kinds
share. -/
inductive Decides (names : Kind → List String) : Except ClassifyError HelperNames → Prop where
  | missing {kind : Kind} (single : ∀ other ∈ kind.earlier, ∃ name, names other = [name])
      (none : names kind = []) : Decides names (.error (.notFound kind))
  | several {kind : Kind} (single : ∀ other ∈ kind.earlier, ∃ name, names other = [name])
      (some : 2 ≤ (names kind).length) :
      Decides names (.error (.ambiguous kind (names kind)))
  | empty {name : Kind → String} {kind : Kind} (single : ∀ kind, names kind = [name kind])
      (filled : ∀ other ∈ kind.earlier, name other ≠ "") (empty : name kind = "") :
      Decides names (.error (.notFound kind))
  | sharedReverse {name : Kind → String} (single : ∀ kind, names kind = [name kind])
      (filled : ∀ kind, name kind ≠ "") (shared : name .reverse = name .swap) :
      Decides names (.error (.ambiguous .reverse [name .reverse]))
  | sharedRemoveAt {name : Kind → String} (single : ∀ kind, names kind = [name kind])
      (filled : ∀ kind, name kind ≠ "") (differ : name .reverse ≠ name .swap)
      (shared : name .removeAt = name .swap ∨ name .removeAt = name .reverse) :
      Decides names (.error (.ambiguous .removeAt [name .removeAt]))
  | found {helpers : HelperNames} (single : ∀ kind, names kind = [helpers.get kind]) :
      Decides names (.ok helpers)

theorem nameFor_single {kind : Kind} {functions : List Definition} {name : String}
    (single : candidates kind functions = [name]) : nameFor kind functions = .ok name := by
  rw [nameFor, single]
  rfl

theorem nameFor_missing {kind : Kind} {functions : List Definition}
    (none : candidates kind functions = []) :
    nameFor kind functions = .error (.notFound kind) := by
  rw [nameFor, none]
  rfl

theorem nameFor_several {kind : Kind} {functions : List Definition}
    (some : 2 ≤ (candidates kind functions).length) :
    nameFor kind functions = .error (.ambiguous kind (candidates kind functions)) := by
  unfold nameFor
  match candidates kind functions, some with
  | _ :: _ :: _, _ => rfl

theorem classify_error {kind : Kind} {functions : List Definition} {cause : ClassifyError}
    (single : ∀ other ∈ kind.earlier, ∃ name, candidates other functions = [name])
    (refused : nameFor kind functions = .error cause) :
    classify functions = .error cause := by
  have found : ∀ other ∈ kind.earlier, ∃ name, nameFor other functions = .ok name := by
    intro other member
    obtain ⟨name, only⟩ := single other member
    exact ⟨name, nameFor_single only⟩
  unfold classify
  cases kind with
  | swap => rw [refused]; rfl
  | reverse =>
    obtain ⟨swap, swapFound⟩ := found .swap (by decide)
    rw [swapFound, refused]
    rfl
  | removeAt =>
    obtain ⟨swap, swapFound⟩ := found .swap (by decide)
    obtain ⟨reverse, reverseFound⟩ := found .reverse (by decide)
    rw [swapFound, reverseFound, refused]
    rfl

theorem classify_single {functions : List Definition} {name : Kind → String}
    (single : ∀ kind, candidates kind functions = [name kind]) :
    classify functions =
      HelperNames.ofParts (name .swap) (name .reverse) (name .removeAt) := by
  unfold classify
  rw [nameFor_single (single .swap), nameFor_single (single .reverse),
    nameFor_single (single .removeAt)]
  rfl

theorem ofParts_get (helpers : HelperNames) :
    HelperNames.ofParts (helpers.get .swap) (helpers.get .reverse) (helpers.get .removeAt) =
      .ok helpers := by
  simp [HelperNames.ofParts, HelperNames.get, helpers.swap_ne_empty, helpers.reverse_ne_empty,
    helpers.removeAt_ne_empty, helpers.reverse_ne_swap, helpers.removeAt_ne_swap,
    helpers.removeAt_ne_reverse]

theorem classify_of_decides {functions : List Definition}
    {result : Except ClassifyError HelperNames}
    (decided : Decides (candidates · functions) result) : classify functions = result := by
  cases decided with
  | missing single none => exact classify_error single (nameFor_missing none)
  | several single some => exact classify_error single (nameFor_several some)
  | @empty name kind single filled empty =>
    rw [classify_single single, HelperNames.ofParts]
    cases kind with
    | swap => rw [dif_pos empty]
    | reverse => rw [dif_neg (filled .swap (by decide)), dif_pos empty]
    | removeAt =>
      rw [dif_neg (filled .swap (by decide)), dif_neg (filled .reverse (by decide)),
        dif_pos empty]
  | @sharedReverse name single filled shared =>
    rw [classify_single single, HelperNames.ofParts, dif_neg (filled .swap),
      dif_neg (filled .reverse), dif_neg (filled .removeAt), dif_pos shared]
  | @sharedRemoveAt name single filled differ shared =>
    rw [classify_single single, HelperNames.ofParts, dif_neg (filled .swap),
      dif_neg (filled .reverse), dif_neg (filled .removeAt), dif_neg differ]
    by_cases swap : name .removeAt = name .swap
    · rw [dif_pos swap]
    · rw [dif_neg swap, dif_pos (shared.resolve_left swap)]
  | found single => rw [classify_single single, ofParts_get]

theorem exists_decides (names : Kind → List String) : ∃ result, Decides names result := by
  by_cases single : ∀ kind, ∃ name, names kind = [name]
  · choose name only using single
    by_cases filled : ∀ kind, name kind ≠ ""
    · by_cases reverse : name .reverse = name .swap
      · exact ⟨_, .sharedReverse only filled reverse⟩
      · by_cases removeAt : name .removeAt = name .swap ∨ name .removeAt = name .reverse
        · exact ⟨_, .sharedRemoveAt only filled reverse removeAt⟩
        · rw [not_or] at removeAt
          have helpers : ∀ kind, names kind = [HelperNames.get
              ⟨name .swap, name .reverse, name .removeAt, filled .swap, filled .reverse,
                filled .removeAt, reverse, removeAt.1, removeAt.2⟩ kind] := by
            intro kind
            cases kind <;> exact only _
          exact ⟨_, .found helpers⟩
    · obtain ⟨kind, empty, earlier⟩ := Operation.Kind.exists_first filled
      exact ⟨_, .empty only earlier (not_not.1 empty)⟩
  · obtain ⟨kind, broken, earlier⟩ := Operation.Kind.exists_first single
    cases listed : names kind with
    | nil => exact ⟨_, .missing earlier listed⟩
    | cons first rest =>
      cases rest with
      | nil => exact absurd ⟨first, listed⟩ broken
      | cons second rest => exact ⟨_, .several earlier (by simp [listed])⟩

theorem decides_iff (functions : List Definition) (result : Except ClassifyError HelperNames) :
    Decides (candidates · functions) result ↔ classify functions = result := by
  constructor
  · exact classify_of_decides
  · rintro rfl
    obtain ⟨result, decided⟩ := exists_decides (candidates · functions)
    rw [classify_of_decides decided]
    exact decided

theorem classify_eq_ok_iff {functions : List Definition} {helpers : HelperNames} :
    classify functions = .ok helpers ↔
      ∀ kind name, name ∈ acceptedNames kind functions ↔ name = helpers.get kind := by
  have names : ∀ kind, candidates kind functions = [helpers.get kind] ↔
      ∀ name, name ∈ acceptedNames kind functions ↔ name = helpers.get kind := fun kind =>
    (candidates_firstOccurrences kind functions).singleton_iff
  rw [← decides_iff]
  constructor
  · intro decided kind
    cases decided with
    | found single => exact (names kind).1 (single kind)
  · intro only
    exact .found fun kind => (names kind).2 (only kind)

/-- Functions that add nothing: each of them stands in `functions`, or no shape accepts it. -/
def AddsNothing (functions others : List Definition) : Prop :=
  ∀ function ∈ others, function ∈ functions ∨
    ∀ kind, (Shape.ofKind kind).accepts function = false

theorem acceptedNames_congr {functions others : List Definition} (kind : Kind)
    (kept : functions ⊆ others) (added : AddsNothing functions others) (name : String) :
    name ∈ acceptedNames kind others ↔ name ∈ acceptedNames kind functions := by
  simp only [acceptedNames, List.mem_filterMap, List.mem_filter]
  constructor
  · rintro ⟨function, ⟨member, accepted⟩, named⟩
    rcases added function member with known | rejected
    · exact ⟨function, ⟨known, accepted⟩, named⟩
    · rw [rejected kind] at accepted
      cases accepted
  · rintro ⟨function, ⟨member, accepted⟩, named⟩
    exact ⟨function, ⟨kept member, accepted⟩, named⟩

/-- A script is classified by the first occurrences of the names that its accepted functions have,
as the rules say. The helpers found stay the same when the definitions of the script are listed
in another order, or repeatedly, or among functions that no shape accepts. -/
theorem classifyScript_decided {source : String} {names : Kind → List String}
    (listed : ∀ kind,
      FirstOccurrences (acceptedNames kind (definitions (tokenize source))) (names kind)) :
    (∀ result, Decides names result ↔ classifyScript source = result) ∧
      ∀ helpers others, classifyScript source = .ok helpers →
        definitions (tokenize source) ⊆ others →
        AddsNothing (definitions (tokenize source)) others → classify others = .ok helpers := by
  constructor
  · have same : names = (candidates · (definitions (tokenize source))) := by
      funext kind
      exact (listed kind).unique (candidates_firstOccurrences kind _)
    rw [same]
    exact decides_iff _
  · intro helpers others found kept added
    rw [classifyScript, classify_eq_ok_iff] at found
    rw [classify_eq_ok_iff]
    intro kind name
    rw [acceptedNames_congr kind kept added, found]

def twoReversals : String :=
  "\x7bA(a,b)\x7bc=a[0];a[0]=a[b];a[b]=c\x7d,R(a)\x7ba.reverse()\x7d," ++
    "S(b)\x7bb.reverse()\x7d,R(c)\x7bc.reverse()\x7d\x7d"

def twoReversalNames : Kind → List String
  | .swap => ["A"]
  | .reverse => ["R", "S"]
  | .removeAt => []

theorem classifyScript_twoReversals :
    Operation.Kind.all.map (acceptedNames · (definitions (tokenize twoReversals))) =
        [["A"], ["R", "S", "R"], []] ∧
      classifyScript twoReversals = .error (.ambiguous .reverse ["R", "S"]) := by
  have accepted : Operation.Kind.all.map (acceptedNames · (definitions (tokenize twoReversals))) =
      [["A"], ["R", "S", "R"], []] := by
    cbv
  refine ⟨accepted, ?_⟩
  simp only [Operation.Kind.all, List.map_cons, List.map_nil, List.cons.injEq, and_true]
    at accepted
  obtain ⟨swaps, reversals, removals⟩ := accepted
  have listed : ∀ kind,
      FirstOccurrences (acceptedNames kind (definitions (tokenize twoReversals)))
        (twoReversalNames kind) := by
    intro kind
    cases kind with
    | swap =>
      rw [swaps]
      exact ⟨by decide, fun _ => Iff.rfl, by decide⟩
    | reverse =>
      rw [reversals]
      exact ⟨by decide, by simp [twoReversalNames, or_comm], by decide⟩
    | removeAt =>
      rw [removals]
      exact .nil
  have several : Decides twoReversalNames (.error (.ambiguous .reverse ["R", "S"])) :=
    .several (by simp [twoReversalNames]) (by decide)
  exact ((classifyScript_decided listed).1 _).1 several

end Helper

end PlayerCipher
