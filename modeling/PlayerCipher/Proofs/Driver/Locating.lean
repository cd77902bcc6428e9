import PlayerCipher.Driver.CallSite
import PlayerCipher.Proofs.Text.Occurrence

/-! Locating the driver.
The name that is found is the one in the leftmost occurrence of the first idiom that occurs. The
name is never a part of a longer one: behind it each idiom goes on with a blank or a mark, three
idioms have one in front of it, and of the first idiom a longer name would start further left. -/

namespace PlayerCipher

namespace CallSite

open Text Text.Pattern

/-- The call site that names the driver: the leftmost one of its idiom, where no idiom before it
occurs. -/
structure IsDeciding {text : List Char} (i : Fin idioms.length)
    (site : Occurrence idioms[i] text) : Prop where
  leftmost : site.IsLeftmost
  lowest : ∀ j < i, IsEmpty (Occurrence idioms[j] text)

structure IsWholeName (before name after : List Char) : Prop where
  nonempty : name ≠ []
  named : name.all isNameChar = true
  starts : before.getLast?.any isNameChar = false
  stops : after.head?.any isNameChar = false

theorem blank_apart_name : AreApart isBlank isNameChar := by
  intro c blank
  by_contra named
  rw [isBlank_of_nameChar (by simpa using named)] at blank
  cases blank

theorem name_apart_blank : AreApart isNameChar isBlank :=
  fun _ => isBlank_of_nameChar

theorem unambiguous {idiom : Pattern} (known : idiom ∈ idioms) : idiom.IsUnambiguous := by
  have separated : ∀ idiom ∈ idioms, Separated idiom := by
    simp only [idioms, List.forall_mem_cons, List.not_mem_nil, false_implies, implies_true,
      definition, decoding, fallback, encoding, Separated, Parts, blanks, blank_apart_name,
      name_apart_blank, Nat.zero_lt_one, Nat.zero_lt_two, Nat.lt_irrefl, true_or, false_or,
      true_and, and_true]
    decide
  have once : ∀ idiom ∈ idioms, idiom.countP captures = 1 := by
    simp only [idioms, List.forall_mem_cons]
    exact ⟨rfl, rfl, rfl, rfl, nofun⟩
  exact ⟨separated idiom known, once idiom known⟩

/-- An idiom with a name of at least `least` characters, in front of which nothing stands or a mark
and blanks. -/
def Names (idiom : Pattern) (least : ℕ) : Prop :=
  ∃ front back, idiom = front ++ .capture isNameChar least :: back ∧
    front.any captures = false ∧ back.any captures = false ∧
    (front = [] ∨ ∃ start mark, front = start ++ [.text mark, blanks] ∧
      mark.toList.getLast?.any (!isNameChar ·) = true)

theorem names_idiom : ∀ i : Fin idioms.length,
    ∃ least, Names idioms[i] least ∧ 1 ≤ least ∧ (i.val < 2 → 2 ≤ least)
  | ⟨0, _⟩ => ⟨2, ⟨[], definition.tail, rfl, rfl, rfl, .inl rfl⟩, by decide, fun _ => Nat.le_refl 2⟩
  | ⟨1, _⟩ => ⟨2, ⟨decoding.take 2, decoding.drop 3, rfl, rfl, rfl, .inr ⟨[], "=", rfl, rfl⟩⟩,
      by decide, fun _ => Nat.le_refl 2⟩
  | ⟨2, _⟩ => ⟨1, ⟨fallback.take 4, fallback.drop 5, rfl, rfl, rfl,
      .inr ⟨fallback.take 2, "||", rfl, rfl⟩⟩, by decide, fun early => by simp at early⟩
  | ⟨3, _⟩ => ⟨1, ⟨encoding.take 10, encoding.drop 11, rfl, rfl, rfl,
      .inr ⟨encoding.take 8, "(", rfl, rfl⟩⟩, by decide, fun early => by simp at early⟩

theorem starts_behind_mark {start : Pattern} {mark : String} {lead : List Char}
    (ends : mark.toList.getLast?.any (!isNameChar ·) = true)
    (spells : Spells (start ++ [.text mark, blanks]) lead) (before : List Char) :
    (before ++ lead).getLast?.any isNameChar = false := by
  obtain ⟨front, _, rfl, -, _, _, rfl, rfl, spaces, _, rfl, ⟨-, blank⟩, rfl⟩ :=
    spells_append.1 spells
  rw [List.append_nil]
  rcases List.eq_nil_or_concat spaces with rfl | ⟨spaces, space, rfl⟩
  · cases last : mark.toList.getLast? with
    | none => simp [last] at ends
    | some c =>
      rw [last] at ends
      simpa [List.getLast?_append, last] using ends
  · have space : isBlank space = true := by
      simpa using List.all_eq_true.1 blank space (by simp)
    simpa [List.getLast?_append] using blank_apart_name _ space

theorem isWholeName {idiom : Pattern} {least : ℕ} (form : Names idiom least) (long : 1 ≤ least)
    (separated : idiom.Separated) {text : List Char} {site : Occurrence idiom text}
    (leftmost : site.IsLeftmost) :
    IsWholeName (site.before ++ site.lead) site.run (site.tail ++ site.after) ∧
      least ≤ site.run.length := by
  obtain ⟨front, back, rfl, plain, plain', anchored⟩ := form
  obtain ⟨parts, -⟩ := separated.of_append front
  obtain ⟨before, lead, run, tail, after, whole, captured⟩ := site
  obtain ⟨spells, ⟨enough, named⟩, spells'⟩ := (captures_iff plain plain').1 captured
  refine ⟨⟨?_, named, ?_, parts.stops spells' after⟩, enough⟩
  · rintro rfl
    exact absurd (Nat.le_trans long enough) (Nat.not_succ_le_zero 0)
  · rcases anchored with rfl | ⟨start, mark, rfl, ends⟩
    · cases spells
      rw [List.append_nil]
      rcases List.eq_nil_or_concat before with rfl | ⟨before, c, rfl⟩
      · rfl
      · by_contra goesOn
        have first : isNameChar c = true := by
          simpa using goesOn
        -- the same place, one character further left
        let longer : Occurrence (.capture isNameChar least :: back) text :=
          ⟨before, [], c :: run, tail, after, by simpa using whole,
            (captures_iff plain plain').2 ⟨rfl, ⟨by simp; omega, by simp [first, named]⟩, spells'⟩⟩
        exact absurd (leftmost longer) (by simp [longer])
    · exact starts_behind_mark ends spells before

theorem locate_eq_some_iff {script name : String} :
    locate script = some name ↔ ∃ i, ∃ site : Occurrence idioms[i] script.toList,
      IsDeciding i site ∧ site.run = name.toList := by
  have search (i : Fin idioms.length) := unambiguous (List.getElem_mem i.isLt)
  rw [locate, Option.map_eq_some_iff]
  constructor
  · rintro ⟨run, found, rfl⟩
    obtain ⟨before, idiom, after, whole, here, none⟩ := List.findSome?_eq_some_iff.1 found
    have bound : before.length < idioms.length := by
      simp [whole]
    have idiomAt : idioms[before.length] = idiom := by
      simp [whole]
    rw [← idiomAt] at here
    obtain ⟨site, rfl, leftmost⟩ := (search ⟨before.length, bound⟩).search?_eq_some_iff.1 here
    refine ⟨⟨before.length, bound⟩, site, ⟨leftmost, fun j lower => ?_⟩,
      by rw [String.toList_ofList]⟩
    have index : j.val < before.length := lower
    have earlier : idioms[j] ∈ before := by
      have place : idioms[j] = before[j.val] := by
        simp [whole, List.getElem_append_left index]
      rw [place]
      exact List.getElem_mem index
    exact (search j).search?_eq_none_iff.1 (none _ earlier)
  · rintro ⟨i, site, deciding, run⟩
    refine ⟨name.toList, List.findSome?_eq_some_iff.2
      ⟨idioms.take i, idioms[i], idioms.drop (i + 1), by simp, ?_, ?_⟩, String.ofList_toList⟩
    · exact (search i).search?_eq_some_iff.2 ⟨site, run, deciding.leftmost⟩
    · intro idiom lower
      obtain ⟨j, bound, rfl⟩ := List.mem_take_iff_getElem.1 lower
      have index : j < i.val := by omega
      exact (search ⟨j, by omega⟩).search?_eq_none_iff.2 (deciding.lowest ⟨j, by omega⟩ index)

theorem locate_eq_none_iff {script : String} :
    locate script = none ↔
      ∀ i : Fin idioms.length, IsEmpty (Occurrence idioms[i] script.toList) := by
  rw [locate, Option.map_eq_none_iff, List.findSome?_eq_none_iff]
  constructor
  · intro none i
    have known := List.getElem_mem i.isLt
    exact (unambiguous known).search?_eq_none_iff.1 (none _ known)
  · intro none idiom known
    obtain ⟨i, bound, rfl⟩ := List.mem_iff_getElem.1 known
    exact (unambiguous known).search?_eq_none_iff.2 (none ⟨i, bound⟩)

/-- Nothing is found exactly where no idiom occurs. Otherwise the name is the one in the leftmost
occurrence of the first idiom that occurs, wherever the other idioms occur, and no part of a longer
name; in the first two idioms it has two characters at least. -/
theorem locate_leftmost (script : String) :
    (locate script = none ↔
      ∀ i : Fin idioms.length, IsEmpty (Occurrence idioms[i] script.toList)) ∧
    (∀ name, locate script = some name ↔
      ∃ i, ∃ site : Occurrence idioms[i] script.toList,
        IsDeciding i site ∧ site.run = name.toList) ∧
    ∀ i, ∀ site : Occurrence idioms[i] script.toList, IsDeciding i site →
      IsWholeName (site.before ++ site.lead) site.run (site.tail ++ site.after) ∧
        (i.val < 2 → 2 ≤ site.run.length) := by
  refine ⟨locate_eq_none_iff, fun name => locate_eq_some_iff, fun i site deciding => ?_⟩
  obtain ⟨least, form, long, twice⟩ := names_idiom i
  obtain ⟨whole, enough⟩ := isWholeName form long
    (unambiguous (List.getElem_mem i.isLt)).separated deciding.leftmost
  exact ⟨whole, fun early => Nat.le_trans (twice early) enough⟩

/-- The third idiom comes first, then a call with no parenthesis behind the decoding, and then the
second idiom. -/
theorem locate_leftmost_second :
    let script := "$XY=Z.sig||b(Z.s);c=$XY(decodeURIComponent);c=\u00a0XY (decodeURIComponent(c))"
    locate script = some "XY" ∧
      ∃ i, ∃ site : Occurrence idioms[i] script.toList,
        IsDeciding i site ∧ site.run = "XY".toList ∧
          IsWholeName (site.before ++ site.lead) site.run (site.tail ++ site.after) := by
  intro script
  have found : locate script = some "XY" := by
    decide
  obtain ⟨-, sites, names⟩ := locate_leftmost script
  obtain ⟨i, site, deciding, run⟩ := (sites "XY").1 found
  exact ⟨found, i, site, deciding, run, (names i site deciding).1⟩

end CallSite

end PlayerCipher
