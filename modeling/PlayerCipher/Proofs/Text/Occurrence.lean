import PlayerCipher.Proofs.Script.Compact
import PlayerCipher.Proofs.Text.Search

/-! Occurrences of patterns.
A pattern stands for every text that its pieces can spell one behind the other, with runs of any
allowed length. If a run is parted from whatever may follow it, such a text can be taken apart in
one way only. So the longest runs lose no occurrence, and a search finds the leftmost one. -/

namespace PlayerCipher.Text

/-- The texts that a piece stands for. -/
def Piece.Spells : Piece → List Char → Prop
  | .text expected, cs => cs = expected.toList
  | .oneOf expected, cs => ∃ text ∈ expected, cs = text.toList
  | .run isMember least, cs => least ≤ cs.length ∧ cs.all isMember = true
  | .capture isMember least, cs => least ≤ cs.length ∧ cs.all isMember = true

namespace Pattern

def Spells : Pattern → List Char → Prop
  | [], cs => cs = []
  | piece :: pieces, cs =>
    ∃ first rest, cs = first ++ rest ∧ piece.Spells first ∧ Spells pieces rest

/-- What a pattern with a captured run stands for: the text before the run, the run, and the text
behind it. -/
def Captures (pattern : Pattern) (lead run tail : List Char) : Prop :=
  ∃ front isMember least back, pattern = front ++ .capture isMember least :: back ∧
    Spells front lead ∧ (Piece.capture isMember least).Spells run ∧ Spells back tail

/-- A place of a text where a pattern occurs. -/
structure Occurrence (pattern : Pattern) (text : List Char) where
  before : List Char
  lead : List Char
  run : List Char
  tail : List Char
  after : List Char
  whole : text = before ++ (lead ++ run ++ tail ++ after)
  captures : pattern.Captures lead run tail

def Occurrence.IsLeftmost {pattern : Pattern} {text : List Char}
    (occurrence : Occurrence pattern text) : Prop :=
  ∀ other : Occurrence pattern text, occurrence.before.length ≤ other.before.length

def AreApart (isMember isOther : Char → Bool) : Prop :=
  ∀ c, isMember c = true → isOther c = false

/-- Whatever the pieces spell begins with a character that is no member. -/
def Parts (isMember : Char → Bool) : Pattern → Prop
  | [] => False
  | .text expected :: _ => expected.toList.head?.any (!isMember ·) = true
  | .oneOf expected :: _ => ∀ text ∈ expected, text.toList.head?.any (!isMember ·) = true
  | .run isOther least :: pieces | .capture isOther least :: pieces =>
    AreApart isOther isMember ∧ (0 < least ∨ Parts isMember pieces)

/-- Every run ends where its members end, and no text of a choice begins another one. -/
def Separated : Pattern → Prop
  | [] => True
  | .text _ :: pieces => Separated pieces
  | .oneOf expected :: pieces =>
    (∀ a ∈ expected, ∀ b ∈ expected, a.toList <+: b.toList → a = b) ∧ Separated pieces
  | .run isMember _ :: pieces | .capture isMember _ :: pieces =>
    Parts isMember pieces ∧ Separated pieces

/-- A pattern that takes a text apart in one way and captures one run. -/
structure IsUnambiguous (pattern : Pattern) : Prop where
  separated : pattern.Separated
  once : pattern.countP captures = 1

variable {captured result cs : List Char} {isMember : Char → Bool}
variable {pieces later front back : Pattern}

theorem spells_append : Spells (front ++ later) cs ↔
    ∃ lead rest, cs = lead ++ rest ∧ Spells front lead ∧ Spells later rest := by
  induction front generalizing cs with
  | nil =>
    constructor
    · intro spells
      exact ⟨[], cs, rfl, rfl, spells⟩
    · rintro ⟨lead, rest, rfl, rfl, spells⟩
      exact spells
  | cons piece front ih =>
    constructor
    · rintro ⟨first, rest, rfl, piece, spells⟩
      obtain ⟨lead, rest, rfl, front, later⟩ := ih.1 spells
      exact ⟨first ++ lead, rest, by rw [List.append_assoc], ⟨first, lead, rfl, piece, front⟩,
        later⟩
    · rintro ⟨_, rest, rfl, ⟨first, lead, rfl, piece, front⟩, later⟩
      exact ⟨first, lead ++ rest, by rw [List.append_assoc], piece,
        ih.2 ⟨lead, rest, rfl, front, later⟩⟩

theorem Parts.stops (parts : Parts isMember pieces) (spells : Spells pieces cs)
    (after : List Char) : (cs ++ after).head?.any isMember = false := by
  induction pieces generalizing cs with
  | nil => exact parts.elim
  | cons piece pieces ih =>
    obtain ⟨first, rest, rfl, here, spells⟩ := spells
    have begun (begins : first.head?.any (!isMember ·) = true) :
        (first ++ rest ++ after).head?.any isMember = false := by
      cases first with
      | nil => cases begins
      | cons c first => simpa using begins
    have run {isOther : Char → Bool} {least : ℕ}
        (parts : AreApart isOther isMember ∧ (0 < least ∨ Parts isMember pieces))
        (here : least ≤ first.length ∧ first.all isOther = true) :
        (first ++ rest ++ after).head?.any isMember = false := by
      cases first with
      | nil =>
        rcases parts.2 with long | parts
        · exact absurd here.1 (Nat.not_le_of_lt long)
        · exact ih parts spells
      | cons c first =>
        have member : isOther c = true := List.all_eq_true.1 here.2 c List.mem_cons_self
        simpa using parts.1 c member
    cases piece with
    | text expected =>
      cases here
      exact begun parts
    | oneOf expected =>
      obtain ⟨text, member, rfl⟩ := here
      exact begun (parts text member)
    | run isOther least => exact run parts here
    | capture isOther least => exact run parts here

theorem spells_of_matchFrom (found : matchFrom captured pieces cs = some result) :
    ∃ read after, cs = read ++ after ∧ Spells pieces read := by
  induction pieces generalizing captured cs with
  | nil => exact ⟨[], cs, rfl, rfl⟩
  | cons piece pieces ih =>
    have taken {first rest : List Char} {captured : List Char} (whole : cs = first ++ rest)
        (here : piece.Spells first) (found : matchFrom captured pieces rest = some result) :
        ∃ read after, cs = read ++ after ∧ Spells (piece :: pieces) read := by
      obtain ⟨read, after, rfl, spells⟩ := ih found
      exact ⟨first ++ read, after, by rw [whole, List.append_assoc], first, read, rfl, here, spells⟩
    cases piece with
    | text expected =>
      obtain ⟨rest, whole, found⟩ := matchFrom_text.1 found
      exact taken whole rfl found
    | oneOf expected =>
      obtain ⟨rest, leads, found⟩ := matchFrom_oneOf.1 found
      obtain ⟨text, member, leads⟩ := List.exists_of_findSome?_eq_some leads
      exact taken (after?_eq_some.1 leads) ⟨text, member, rfl⟩ found
    | run isMember least =>
      obtain ⟨long, found⟩ := matchFrom_run.1 found
      exact taken List.takeWhile_append_dropWhile.symm ⟨long, List.all_takeWhile⟩ found
    | capture isMember least =>
      obtain ⟨long, found⟩ := matchFrom_capture.1 found
      exact taken List.takeWhile_append_dropWhile.symm ⟨long, List.all_takeWhile⟩ found

theorem findSome?_after? {expected : List String} {text : String} (member : text ∈ expected)
    (apart : ∀ a ∈ expected, ∀ b ∈ expected, a.toList <+: b.toList → a = b) (rest : List Char) :
    (expected.findSome? fun text' => after? text'.toList (text.toList ++ rest)) = some rest := by
  cases found : expected.findSome? fun text' => after? text'.toList (text.toList ++ rest) with
  | none =>
    have missed := List.findSome?_eq_none_iff.1 found text member
    rw [after?_eq_some.2 rfl] at missed
    cases missed
  | some rest' =>
    obtain ⟨other, known, leads⟩ := List.exists_of_findSome?_eq_some found
    have whole := after?_eq_some.1 leads
    have same : other = text := by
      rcases List.prefix_or_prefix_of_prefix ⟨rest', whole.symm⟩ (List.prefix_append _ rest) with
        shorter | longer
      · exact apart other known text member shorter
      · exact (apart text member other known longer).symm
    rw [same] at whole
    rw [List.append_cancel_left whole]

theorem matchFrom_front (separated : Separated (front ++ later))
    (plain : front.any captures = false) :
    matchFrom captured (front ++ later) cs = some result ↔
      ∃ lead rest, cs = lead ++ rest ∧ Spells front lead ∧
        matchFrom captured later rest = some result := by
  induction front generalizing cs with
  | nil =>
    constructor
    · intro found
      exact ⟨[], cs, rfl, rfl, found⟩
    · rintro ⟨lead, rest, rfl, rfl, found⟩
      exact found
  | cons piece front ih =>
    rw [List.any_cons, Bool.or_eq_false_iff] at plain
    rw [List.cons_append] at separated ⊢
    have step (separated : Separated (front ++ later)) {first rest : List Char}
        (whole : cs = first ++ rest) (here : piece.Spells first)
        (found : matchFrom captured (front ++ later) rest = some result) :
        ∃ lead rest, cs = lead ++ rest ∧ Spells (piece :: front) lead ∧
          matchFrom captured later rest = some result := by
      obtain ⟨lead, rest, rfl, spells, found⟩ := (ih separated plain.2).1 found
      exact ⟨first ++ lead, rest, by rw [whole, List.append_assoc],
        ⟨first, lead, rfl, here, spells⟩, found⟩
    cases piece with
    | text expected =>
      rw [matchFrom_text]
      constructor
      · rintro ⟨rest, whole, found⟩
        exact step separated whole rfl found
      · rintro ⟨_, rest, rfl, ⟨_, lead, rfl, rfl, spells⟩, found⟩
        exact ⟨lead ++ rest, by rw [List.append_assoc],
          (ih separated plain.2).2 ⟨lead, rest, rfl, spells, found⟩⟩
    | oneOf expected =>
      rw [matchFrom_oneOf]
      constructor
      · rintro ⟨rest, leads, found⟩
        obtain ⟨text, member, leads⟩ := List.exists_of_findSome?_eq_some leads
        exact step separated.2 (after?_eq_some.1 leads) ⟨text, member, rfl⟩ found
      · rintro ⟨_, rest, rfl, ⟨_, lead, rfl, ⟨text, member, rfl⟩, spells⟩, found⟩
        refine ⟨lead ++ rest, ?_, (ih separated.2 plain.2).2 ⟨lead, rest, rfl, spells, found⟩⟩
        rw [List.append_assoc, findSome?_after? member separated.1]
    | run isMember least =>
      rw [matchFrom_run]
      constructor
      · rintro ⟨long, found⟩
        exact step separated.2 List.takeWhile_append_dropWhile.symm ⟨long, List.all_takeWhile⟩ found
      · rintro ⟨_, rest, rfl, ⟨first, lead, rfl, ⟨long, members⟩, spells⟩, found⟩
        obtain ⟨read, after, rfl, behind⟩ := spells_of_matchFrom found
        have stops : (lead ++ (read ++ after)).head?.any isMember = false := by
          rw [← List.append_assoc]
          exact separated.1.stops (spells_append.2 ⟨lead, read, rfl, spells, behind⟩) after
        obtain ⟨taken, left⟩ := Lexeme.takeWhile_run members stops
        rw [List.append_assoc first, taken, left]
        exact ⟨long, (ih separated.2 plain.2).2 ⟨lead, read ++ after, rfl, spells, found⟩⟩
    | capture isMember least => exact absurd plain.1 (by simp [captures])

theorem Separated.of_append :
    ∀ front : Pattern, Separated (front ++ later) → Separated later
  | [], separated => separated
  | .text _ :: front, separated => Separated.of_append front separated
  | .oneOf _ :: front, separated => Separated.of_append front separated.2
  | .run _ _ :: front, separated => Separated.of_append front separated.2
  | .capture _ _ :: front, separated => Separated.of_append front separated.2

theorem matchFrom_back (separated : Separated back) (plain : back.any captures = false) :
    matchFrom captured back cs = some result ↔
      result = captured ∧ ∃ tail after, cs = tail ++ after ∧ Spells back tail := by
  rw [← List.append_nil back] at separated
  rw [← List.append_nil back, matchFrom_front separated plain, List.append_nil]
  constructor
  · rintro ⟨lead, rest, whole, spells, same⟩
    exact ⟨(Option.some.inj same).symm, lead, rest, whole, spells⟩
  · rintro ⟨rfl, tail, after, whole, spells⟩
    exact ⟨tail, after, whole, spells, rfl⟩

theorem IsUnambiguous.split {pattern : Pattern} (unambiguous : pattern.IsUnambiguous) :
    ∃ front isMember least back, pattern = front ++ .capture isMember least :: back ∧
      front.any captures = false ∧ back.any captures = false := by
  have once := unambiguous.once
  obtain ⟨piece, member, captured⟩ := List.countP_pos_iff.1 (by rw [once]; exact Nat.one_pos)
  obtain ⟨front, back, whole⟩ := List.append_of_mem member
  rw [whole, List.countP_append, List.countP_cons_of_pos captured] at once
  have none (pieces : Pattern) (zero : pieces.countP captures = 0) :
      pieces.any captures = false := by
    simpa using zero
  cases piece with
  | capture isMember least =>
    exact ⟨front, isMember, least, back, whole, none front (by omega), none back (by omega)⟩
  | text expected => cases captured
  | oneOf expected => cases captured
  | run isMember least => cases captured

theorem captures_iff {least : ℕ} {lead run tail : List Char} (plain : front.any captures = false)
    (plain' : back.any captures = false) :
    Captures (front ++ .capture isMember least :: back) lead run tail ↔
      Spells front lead ∧ (least ≤ run.length ∧ run.all isMember = true) ∧ Spells back tail := by
  constructor
  · rintro ⟨front', isMember', least', back', whole, spells, here, spells'⟩
    rcases List.append_eq_append_iff.1 whole with ⟨middle, rfl, rest⟩ | ⟨middle, rfl, rest⟩
    · cases middle with
      | nil =>
        cases rest
        rw [List.append_nil] at spells
        exact ⟨spells, here, spells'⟩
      | cons piece middle =>
        rw [List.cons_append, List.cons.injEq] at rest
        rw [rest.2] at plain'
        simp [Pattern.captures] at plain'
    · cases middle with
      | nil =>
        cases rest
        rw [List.append_nil]
        exact ⟨spells, here, spells'⟩
      | cons piece middle =>
        rw [List.cons_append, List.cons.injEq] at rest
        rw [← rest.1] at plain
        simp [Pattern.captures] at plain
  · rintro ⟨spells, here, spells'⟩
    exact ⟨front, isMember, least, back, rfl, spells, here, spells'⟩

theorem IsUnambiguous.matchFrom_eq_some_iff {pattern : Pattern}
    (unambiguous : pattern.IsUnambiguous)
    {run : List Char} : matchFrom captured pattern cs = some run ↔
      ∃ lead tail after, cs = lead ++ run ++ tail ++ after ∧ pattern.Captures lead run tail := by
  obtain ⟨front, isMember, least, back, rfl, plain, plain'⟩ := unambiguous.split
  have separated := unambiguous.separated
  obtain ⟨parts, separated'⟩ := separated.of_append front
  simp only [matchFrom_front separated plain, matchFrom_capture, matchFrom_back separated' plain',
    captures_iff plain plain']
  constructor
  · rintro ⟨lead, rest, rfl, spells, long, rfl, tail, after, whole, spells'⟩
    refine ⟨lead, tail, after, ?_, spells, ⟨long, List.all_takeWhile⟩, spells'⟩
    rw [List.append_assoc, List.append_assoc, ← whole, List.takeWhile_append_dropWhile]
  · rintro ⟨lead, tail, after, rfl, spells, ⟨long, members⟩, spells'⟩
    obtain ⟨taken, left⟩ := Lexeme.takeWhile_run members (parts.stops spells' after)
    refine ⟨lead, run ++ (tail ++ after), by simp only [List.append_assoc], spells, ?_⟩
    rw [taken, left]
    exact ⟨long, rfl, tail, after, rfl, spells'⟩

theorem IsUnambiguous.search?_eq_some_iff {pattern : Pattern} (unambiguous : pattern.IsUnambiguous)
    {text run : List Char} : pattern.search? text = some run ↔
      ∃ occurrence : Occurrence pattern text,
        occurrence.run = run ∧ occurrence.IsLeftmost := by
  rw [search?, firstSuffix?_eq_some]
  constructor
  · rintro ⟨before, rest, whole, found, first⟩
    obtain ⟨lead, tail, after, rfl, captures⟩ := unambiguous.matchFrom_eq_some_iff.1 found
    refine ⟨⟨before, lead, run, tail, after, whole, captures⟩, rfl, fun other => ?_⟩
    by_contra shorter
    have missed := first other.before _ other.whole (Nat.lt_of_not_le shorter)
    rw [unambiguous.matchFrom_eq_some_iff.2 ⟨_, _, _, rfl, other.captures⟩] at missed
    cases missed
  · rintro ⟨occurrence, rfl, leftmost⟩
    refine ⟨occurrence.before, _, occurrence.whole,
      unambiguous.matchFrom_eq_some_iff.2 ⟨_, _, _, rfl, occurrence.captures⟩, ?_⟩
    intro left right parts shorter
    by_contra found
    obtain ⟨run, found⟩ := Option.ne_none_iff_exists'.1 found
    obtain ⟨lead, tail, after, rfl, captures⟩ := unambiguous.matchFrom_eq_some_iff.1 found
    exact absurd (leftmost ⟨left, lead, run, tail, after, parts, captures⟩)
      (Nat.not_le_of_lt shorter)

theorem IsUnambiguous.search?_eq_none_iff {pattern : Pattern} (unambiguous : pattern.IsUnambiguous)
    {text : List Char} : pattern.search? text = none ↔ IsEmpty (Occurrence pattern text) := by
  rw [search?, firstSuffix?_eq_none]
  constructor
  · intro none
    refine ⟨fun occurrence => ?_⟩
    have missed := none occurrence.before _ occurrence.whole
    rw [unambiguous.matchFrom_eq_some_iff.2 ⟨_, _, _, rfl, occurrence.captures⟩] at missed
    cases missed
  · intro empty before rest whole
    by_contra found
    obtain ⟨run, found⟩ := Option.ne_none_iff_exists'.1 found
    obtain ⟨lead, tail, after, rfl, captures⟩ := unambiguous.matchFrom_eq_some_iff.1 found
    exact empty.false ⟨before, lead, run, tail, after, whole, captures⟩

end Pattern

end PlayerCipher.Text
