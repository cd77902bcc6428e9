import PlayerCipher.PlayerPage
import PlayerCipher.Proofs.Text.Occurrence
import PlayerCipher.Proofs.Url.Site

/-! References to player scripts.
A page refers to its script by the leftmost setting of the current name, else by that of the former
name, else by the first script tag that has the source of a player script. Of such a tag the last of
its sources counts; tags without one are passed over, also where a later tag has one. -/

namespace PlayerCipher.PlayerPage

open Text Text.Pattern

/-! ### Sources of script tags -/

/-- The source of a player script in a script tag of a page. At least one character of the tag
stands before the attribute and none that ends the tag; the value may go on past the tag's end. -/
structure TagSource (page : List Char) where
  before : List Char
  gap : List Char
  value : List Char
  after : List Char
  whole : page = before ++ ("<script".toList ++ gap ++ "src=\"".toList ++ value ++ '"' :: after)
  nonempty : gap ≠ []
  inside : '>' ∉ gap
  unquoted : '"' ∉ value
  player : "/base.js".toList <:+ value

/-- The source that counts: the last one of the first script tag that has one. -/
structure TagSource.IsFirst {page : List Char} (source : TagSource page) : Prop where
  leftmost : ∀ other : TagSource page, source.before.length ≤ other.before.length
  last : ∀ other : TagSource page, other.before.length = source.before.length →
    other.gap.length ≤ source.gap.length

variable {cs page value : List Char}

theorem source?_eq_some_iff : source? cs = some value ↔
    ∃ after, cs = "src=\"".toList ++ value ++ '"' :: after ∧ '"' ∉ value ∧
      "/base.js".toList <:+ value := by
  unfold source?
  constructor
  · intro found
    split at found
    · cases found
    · rename_i rest leads
      split at found
      · cases found
      · rename_i c after ends
        dsimp only at found
        split at found
        · rename_i player
          cases found
          have quote : c = '"' := by
            have head := List.head?_dropWhile_not (· != '"') rest
            simpa [ends] using head
          refine ⟨after, ?_, ?_, List.isSuffixOf_iff_suffix.1 player⟩
          · rw [quote] at ends
            rw [after?_eq_some.1 leads, List.append_assoc, ← ends, List.takeWhile_append_dropWhile]
          · intro member
            have other := List.all_eq_true.1 List.all_takeWhile _ member
            simp at other
        · cases found
  · rintro ⟨after, rfl, unquoted, player⟩
    have values : value.all (· != '"') = true := by
      simpa [List.all_eq_true] using fun c member => ne_of_mem_of_not_mem member unquoted
    have stops : ('"' :: after).head?.any (· != '"') = false := rfl
    obtain ⟨taken, left⟩ := Lexeme.takeWhile_run values stops
    rw [List.append_assoc, after?_eq_some.2 rfl]
    simp only [taken, left, List.isSuffixOf_iff_suffix.2 player, if_true]

def IsInside (cs gap rest : List Char) : Prop :=
  cs = gap ++ rest ∧ '>' ∉ gap

theorem isInside_cons {c : Char} {gap rest : List Char} : IsInside (c :: cs) gap rest ↔
    (gap = [] ∧ rest = c :: cs) ∨ ∃ gap', gap = c :: gap' ∧ c ≠ '>' ∧ IsInside cs gap' rest := by
  constructor
  · rintro ⟨whole, inside⟩
    cases gap with
    | nil => exact .inl ⟨rfl, whole.symm⟩
    | cons d gap =>
      rw [List.cons_append, List.cons.injEq] at whole
      rw [List.mem_cons, not_or] at inside
      exact .inr ⟨gap, by rw [whole.1], by rw [whole.1]; exact Ne.symm inside.1, whole.2, inside.2⟩
  · rintro (⟨rfl, rfl⟩ | ⟨gap, rfl, other, rfl, inside⟩)
    · exact ⟨rfl, List.not_mem_nil⟩
    · exact ⟨rfl, List.not_mem_cons_of_ne_of_not_mem (Ne.symm other) inside⟩

theorem lastSource?_cons_eq_none {c : Char} : lastSource? (c :: cs) = none ↔
    (c ≠ '>' → lastSource? cs = none) ∧ source? (c :: cs) = none := by
  rw [lastSource?]
  by_cases ends : c = '>'
  · simp [ends]
  · cases lastSource? cs <;> simp [ends]

theorem lastSource?_cons_eq_some {c : Char} : lastSource? (c :: cs) = some value ↔
    (c ≠ '>' ∧ lastSource? cs = some value) ∨
      ((c ≠ '>' → lastSource? cs = none) ∧ source? (c :: cs) = some value) := by
  rw [lastSource?]
  by_cases ends : c = '>'
  · simp [ends]
  · cases lastSource? cs <;> simp [ends]

theorem lastSource?_eq_none_iff : lastSource? cs = none ↔
    ∀ gap rest, IsInside cs gap rest → source? rest = none := by
  induction cs with
  | nil =>
    constructor
    · rintro - gap rest ⟨whole, -⟩
      obtain ⟨-, rfl⟩ := List.append_eq_nil_iff.1 whole.symm
      rfl
    · intro _
      rfl
  | cons c cs ih =>
    rw [lastSource?_cons_eq_none]
    constructor
    · rintro ⟨later, here⟩ gap rest inside
      obtain ⟨-, rfl⟩ | ⟨gap, -, other, inside⟩ := isInside_cons.1 inside
      · exact here
      · exact ih.1 (later other) gap rest inside
    · intro none
      refine ⟨fun other => ih.2 fun gap rest inside => ?_,
        none [] (c :: cs) ⟨rfl, List.not_mem_nil⟩⟩
      exact none (c :: gap) rest (isInside_cons.2 (.inr ⟨gap, rfl, other, inside⟩))

theorem lastSource?_eq_some_iff : lastSource? cs = some value ↔
    ∃ gap rest, IsInside cs gap rest ∧ source? rest = some value ∧
      ∀ gap' rest', IsInside cs gap' rest' → gap.length < gap'.length → source? rest' = none := by
  induction cs with
  | nil =>
    constructor
    · intro found
      cases found
    · rintro ⟨gap, rest, ⟨whole, -⟩, found, -⟩
      obtain ⟨-, rfl⟩ := List.append_eq_nil_iff.1 whole.symm
      exact found
  | cons c cs ih =>
    rw [lastSource?_cons_eq_some]
    constructor
    · rintro (⟨other, found⟩ | ⟨later, found⟩)
      · obtain ⟨gap, rest, inside, found, last⟩ := ih.1 found
        refine ⟨c :: gap, rest, isInside_cons.2 (.inr ⟨gap, rfl, other, inside⟩), found, ?_⟩
        intro gap' rest' inside' longer
        obtain ⟨rfl, -⟩ | ⟨gap', rfl, -, inside'⟩ := isInside_cons.1 inside'
        · exact absurd longer (Nat.not_lt_zero _)
        · exact last gap' rest' inside' (Nat.lt_of_succ_lt_succ longer)
      · refine ⟨[], c :: cs, ⟨rfl, List.not_mem_nil⟩, found, fun gap' rest' inside' longer => ?_⟩
        obtain ⟨rfl, -⟩ | ⟨gap', -, other, inside'⟩ := isInside_cons.1 inside'
        · exact absurd longer (Nat.lt_irrefl _)
        · exact lastSource?_eq_none_iff.1 (later other) gap' rest' inside'
    · rintro ⟨gap, rest, inside, found, last⟩
      have step {gap rest : List Char} (other : c ≠ '>') (inside : IsInside cs gap rest) :
          IsInside (c :: cs) (c :: gap) rest :=
        isInside_cons.2 (.inr ⟨gap, rfl, other, inside⟩)
      obtain ⟨rfl, rfl⟩ | ⟨gap, rfl, other, inside⟩ := isInside_cons.1 inside
      · exact .inr ⟨fun other => lastSource?_eq_none_iff.2 fun gap' rest' inside' =>
          last (c :: gap') rest' (step other inside') (Nat.succ_pos _), found⟩
      · exact .inl ⟨other, ih.2 ⟨gap, rest, inside, found, fun gap' rest' inside' longer =>
          last (c :: gap') rest' (step other inside') (Nat.succ_lt_succ longer)⟩⟩

def IsSourceAt (page before gap value : List Char) : Prop :=
  ∃ rest, page = before ++ ("<script".toList ++ (gap ++ rest)) ∧ gap ≠ [] ∧ '>' ∉ gap ∧
    source? rest = some value

theorem isSourceAt_iff {before gap : List Char} : IsSourceAt page before gap value ↔
    ∃ source : TagSource page,
      source.before = before ∧ source.gap = gap ∧ source.value = value := by
  constructor
  · rintro ⟨rest, whole, nonempty, inside, found⟩
    obtain ⟨after, rfl, unquoted, player⟩ := source?_eq_some_iff.1 found
    exact ⟨⟨before, gap, value, after, by simpa using whole, nonempty, inside, unquoted, player⟩,
      rfl, rfl, rfl⟩
  · rintro ⟨⟨before, gap, value, after, whole, nonempty, inside, unquoted, player⟩, rfl, rfl, rfl⟩
    exact ⟨_, by simpa using whole, nonempty, inside,
      source?_eq_some_iff.2 ⟨after, rfl, unquoted, player⟩⟩

theorem TagSource.isSourceAt (source : TagSource page) :
    IsSourceAt page source.before source.gap source.value :=
  isSourceAt_iff.2 ⟨source, rfl, rfl, rfl⟩

theorem isSourceAt_behind {before gap rest : List Char} (whole : page = before ++ rest) :
    IsSourceAt page before gap value ↔ IsSourceAt rest [] gap value := by
  simp only [IsSourceAt, whole, List.append_cancel_left_eq, List.nil_append]

theorem isSourceAt_tag {c : Char} {gap : List Char} :
    IsSourceAt ("<script".toList ++ c :: cs) [] gap value ↔
      ∃ gap' rest, gap = c :: gap' ∧ c ≠ '>' ∧ IsInside cs gap' rest ∧
        source? rest = some value := by
  constructor
  · rintro ⟨rest, whole, nonempty, inside, found⟩
    rw [List.nil_append, List.append_cancel_left_eq] at whole
    obtain ⟨rfl, -⟩ | ⟨gap', rfl, other, inside⟩ := isInside_cons.1 ⟨whole, inside⟩
    · exact absurd rfl nonempty
    · exact ⟨gap', rest, rfl, other, inside, found⟩
  · rintro ⟨gap', rest, rfl, other, ⟨rfl, inside⟩, found⟩
    exact ⟨rest, rfl, List.cons_ne_nil c gap',
      List.not_mem_cons_of_ne_of_not_mem (Ne.symm other) inside, found⟩

theorem exists_tag {gap : List Char} (here : IsSourceAt cs [] gap value) :
    ∃ c rest, cs = "<script".toList ++ c :: rest ∧ c ≠ '>' := by
  obtain ⟨rest, rfl, nonempty, inside, -⟩ := here
  obtain ⟨c, gap, rfl⟩ := List.exists_cons_of_ne_nil nonempty
  rw [List.mem_cons, not_or] at inside
  exact ⟨c, gap ++ rest, rfl, Ne.symm inside.1⟩

theorem scriptTag?_tag {c : Char} (other : c ≠ '>') :
    scriptTag? ("<script".toList ++ c :: cs) = lastSource? cs := by
  simp only [scriptTag?, after?_eq_some.2 rfl, if_neg other]

theorem scriptTag?_eq_none_iff :
    scriptTag? cs = none ↔ ∀ gap value, ¬ IsSourceAt cs [] gap value := by
  constructor
  · intro none gap value here
    obtain ⟨c, rest, rfl, other⟩ := exists_tag here
    obtain ⟨gap', rest', -, -, inside, found⟩ := isSourceAt_tag.1 here
    rw [scriptTag?_tag other, lastSource?_eq_none_iff] at none
    rw [none gap' rest' inside] at found
    cases found
  · intro none
    unfold scriptTag?
    split
    · rename_i c rest leads
      rw [after?_eq_some.1 leads] at none
      split
      · rfl
      · rename_i other
        refine lastSource?_eq_none_iff.2 fun gap rest' inside => ?_
        by_contra found
        obtain ⟨value, found⟩ := Option.ne_none_iff_exists'.1 found
        exact none _ value (isSourceAt_tag.2 ⟨gap, rest', rfl, other, inside, found⟩)
    · rfl

theorem scriptTag?_eq_some_iff : scriptTag? cs = some value ↔
    ∃ gap, IsSourceAt cs [] gap value ∧
      ∀ gap' value', IsSourceAt cs [] gap' value' → gap'.length ≤ gap.length := by
  constructor
  · intro found
    have some : ∃ gap value, IsSourceAt cs [] gap value := by
      by_contra none
      push Not at none
      rw [scriptTag?_eq_none_iff.2 none] at found
      cases found
    obtain ⟨_, _, here⟩ := some
    obtain ⟨c, rest, rfl, other⟩ := exists_tag here
    rw [scriptTag?_tag other, lastSource?_eq_some_iff] at found
    obtain ⟨gap, rest', inside, found, last⟩ := found
    refine ⟨c :: gap, isSourceAt_tag.2 ⟨gap, rest', rfl, other, inside, found⟩, ?_⟩
    intro gap' value' here
    obtain ⟨gap', rest', rfl, -, inside, found⟩ := isSourceAt_tag.1 here
    by_contra longer
    rw [last gap' rest' inside (by simpa using longer)] at found
    cases found
  · rintro ⟨gap, here, last⟩
    obtain ⟨c, rest, rfl, other⟩ := exists_tag here
    obtain ⟨gap, rest', rfl, -, inside, found⟩ := isSourceAt_tag.1 here
    rw [scriptTag?_tag other]
    refine lastSource?_eq_some_iff.2
      ⟨gap, rest', inside, found, fun gap' rest'' inside' longer => ?_⟩
    by_contra later
    obtain ⟨value', later⟩ := Option.ne_none_iff_exists'.1 later
    have shorter := last _ value' (isSourceAt_tag.2 ⟨gap', rest'', rfl, other, inside', later⟩)
    exact absurd longer (by simpa using shorter)

theorem firstTag_eq_some_iff : firstSuffix? scriptTag? page = some value ↔
    ∃ source : TagSource page, source.value = value ∧ source.IsFirst := by
  rw [firstSuffix?_eq_some]
  constructor
  · rintro ⟨before, rest, whole, found, first⟩
    obtain ⟨gap, here, last⟩ := scriptTag?_eq_some_iff.1 found
    obtain ⟨source, rfl, rfl, rfl⟩ := isSourceAt_iff.1 ((isSourceAt_behind whole).2 here)
    refine ⟨source, rfl, fun other => ?_, fun other same => ?_⟩
    · -- a source of a tag further left would have been found there
      by_contra shorter
      have missed := first other.before _ other.whole (Nat.lt_of_not_le shorter)
      exact scriptTag?_eq_none_iff.1 missed _ _ ((isSourceAt_behind other.whole).1 other.isSourceAt)
    · have place : other.before = source.before :=
        List.append_inj_left (other.whole.symm.trans source.whole) same
      have there := other.isSourceAt
      rw [place] at there
      exact last _ _ ((isSourceAt_behind whole).1 there)
  · rintro ⟨source, rfl, first⟩
    refine ⟨source.before, _, source.whole, scriptTag?_eq_some_iff.2
      ⟨source.gap, (isSourceAt_behind source.whole).1 source.isSourceAt, ?_⟩, ?_⟩
    · intro gap value there
      obtain ⟨other, place, rfl, -⟩ := isSourceAt_iff.1 ((isSourceAt_behind source.whole).2 there)
      exact first.last other (congrArg List.length place)
    · intro left right parts shorter
      refine scriptTag?_eq_none_iff.2 fun gap value there => ?_
      obtain ⟨other, rfl, -⟩ := isSourceAt_iff.1 ((isSourceAt_behind parts).2 there)
      exact absurd (first.leftmost other) (Nat.not_le_of_lt shorter)

theorem firstTag_eq_none_iff :
    firstSuffix? scriptTag? page = none ↔ IsEmpty (TagSource page) := by
  rw [firstSuffix?_eq_none]
  constructor
  · intro none
    refine ⟨fun source => ?_⟩
    exact scriptTag?_eq_none_iff.1 (none source.before _ source.whole) _ _
      ((isSourceAt_behind source.whole).1 source.isSourceAt)
  · intro empty before rest whole
    refine scriptTag?_eq_none_iff.2 fun gap value here => ?_
    obtain ⟨source, -⟩ := isSourceAt_iff.1 ((isSourceAt_behind whole).2 here)
    exact empty.false source

/-! ### Escaped slashes -/

def Unescapes (escaped plain : List Char) : Prop :=
  ∃ parts, escaped = "\\/".toList.intercalate parts ∧
    (∀ part ∈ parts, ¬ "\\/".toList <:+: part) ∧ plain = ['/'].intercalate parts

theorem intercalate_cons_head (sep : List Char) (c : Char) (part : List Char)
    (parts : List (List Char)) :
    sep.intercalate ((c :: part) :: parts) = c :: sep.intercalate (part :: parts) := by
  cases parts <;> simp [List.intercalate_cons_cons]

theorem unescapeSlashes_cons {c : Char} (other : c = '\\' → cs.head? ≠ some '/') :
    unescapeSlashes (c :: cs) = c :: unescapeSlashes cs := by
  rw [unescapeSlashes]
  rintro rest rfl rfl
  exact other rfl rfl

theorem unescapeSlashes_part {part rest : List Char} (free : ¬ "\\/".toList <:+: part)
    (goesOn : rest.head? ≠ some '/') :
    unescapeSlashes (part ++ rest) = part ++ unescapeSlashes rest := by
  induction part with
  | nil => rfl
  | cons c part ih =>
    rw [List.infix_cons_iff, not_or] at free
    rw [List.cons_append, List.cons_append, unescapeSlashes_cons, ih free.2]
    rintro rfl
    cases part with
    | nil => exact goesOn
    | cons d part =>
      rintro slash
      cases slash
      exact free.1 ⟨part, rfl⟩

theorem unescapeSlashes_parts {parts : List (List Char)}
    (free : ∀ part ∈ parts, ¬ "\\/".toList <:+: part) :
    unescapeSlashes ("\\/".toList.intercalate parts) = ['/'].intercalate parts := by
  induction parts with
  | nil => rfl
  | cons part parts ih =>
    rw [List.forall_mem_cons] at free
    cases parts with
    | nil =>
      have single : unescapeSlashes (part ++ []) = part ++ unescapeSlashes [] :=
        unescapeSlashes_part free.1 nofun
      rw [List.append_nil, unescapeSlashes, List.append_nil] at single
      rwa [List.intercalate_singleton, List.intercalate_singleton]
    | cons next parts =>
      have goesOn : ("\\/".toList ++ "\\/".toList.intercalate (next :: parts)).head? ≠ some '/' :=
        (by decide : some '\\' ≠ some '/')
      rw [List.intercalate_cons_cons, List.intercalate_cons_cons, List.append_assoc,
        unescapeSlashes_part free.1 goesOn, List.append_assoc, ← ih free.2]
      rfl

theorem exists_parts (cs : List Char) : ∃ part parts,
    cs = "\\/".toList.intercalate (part :: parts) ∧
      ∀ p ∈ part :: parts, ¬ "\\/".toList <:+: p := by
  fun_induction unescapeSlashes cs with
  | case1 cs ih =>
    obtain ⟨part, parts, rfl, free⟩ := ih
    exact ⟨[], part :: parts, rfl, List.forall_mem_cons.2 ⟨by decide, free⟩⟩
  | case2 c cs other ih =>
    obtain ⟨part, parts, rfl, free⟩ := ih
    rw [List.forall_mem_cons] at free
    refine ⟨c :: part, parts, (intercalate_cons_head _ c part parts).symm, ?_⟩
    refine List.forall_mem_cons.2 ⟨fun escaped => ?_, free.2⟩
    rcases List.infix_cons_iff.1 escaped with ⟨rest, begins⟩ | inside
    · have letters : '\\' :: '/' :: rest = c :: part := begins
      obtain ⟨rfl, rfl⟩ := List.cons.inj letters
      exact other _ rfl (intercalate_cons_head _ '/' rest parts)
    · exact free.1 inside
  | case3 => exact ⟨[], [], rfl, by decide⟩

theorem unescapes_iff {escaped plain : List Char} :
    Unescapes escaped plain ↔ plain = unescapeSlashes escaped := by
  constructor
  · rintro ⟨parts, rfl, free, rfl⟩
    exact (unescapeSlashes_parts free).symm
  · rintro rfl
    obtain ⟨part, parts, rfl, free⟩ := exists_parts escaped
    exact ⟨part :: parts, rfl, free, unescapeSlashes_parts free⟩

/-! ### References -/

inductive Refers (page : List Char) : List Char → Prop
  | current (site : Occurrence (setting "jsUrl") page) (leftmost : site.IsLeftmost) :
    Refers page site.run
  | former (absent : IsEmpty (Occurrence (setting "jsUrl") page))
    (site : Occurrence (setting "PLAYER_JS_URL") page) (leftmost : site.IsLeftmost) :
    Refers page site.run
  | tag (absent : IsEmpty (Occurrence (setting "jsUrl") page))
    (absent' : IsEmpty (Occurrence (setting "PLAYER_JS_URL") page)) (source : TagSource page)
    (first : source.IsFirst) : Refers page source.value

/-- A page in which none of the three forms occurs. -/
structure IsSilent (page : List Char) : Prop where
  current : IsEmpty (Occurrence (setting "jsUrl") page)
  former : IsEmpty (Occurrence (setting "PLAYER_JS_URL") page)
  tag : IsEmpty (TagSource page)

theorem unambiguous (key : String) : (setting key).IsUnambiguous := by
  refine ⟨?_, rfl⟩
  simp +decide [setting, Separated, Parts, blanks]

theorem reference?_eq_some_iff : reference? page = some value ↔ Refers page value := by
  have current := unambiguous "jsUrl"
  have former := unambiguous "PLAYER_JS_URL"
  unfold reference?
  constructor
  · intro found
    cases first : (setting "jsUrl").search? page with
    | some run =>
      rw [first] at found
      cases found
      obtain ⟨site, rfl, leftmost⟩ := current.search?_eq_some_iff.1 first
      exact .current site leftmost
    | none =>
      have absent := current.search?_eq_none_iff.1 first
      rw [first] at found
      cases second : (setting "PLAYER_JS_URL").search? page with
      | some run =>
        rw [second] at found
        cases found
        obtain ⟨site, rfl, leftmost⟩ := former.search?_eq_some_iff.1 second
        exact .former absent site leftmost
      | none =>
        rw [second] at found
        obtain ⟨source, rfl, first⟩ := firstTag_eq_some_iff.1 found
        exact .tag absent (former.search?_eq_none_iff.1 second) source first
  · rintro (⟨site, leftmost⟩ | ⟨absent, site, leftmost⟩ | ⟨absent, absent', source, first⟩)
    · rw [current.search?_eq_some_iff.2 ⟨site, rfl, leftmost⟩]
      rfl
    · rw [current.search?_eq_none_iff.2 absent, former.search?_eq_some_iff.2 ⟨site, rfl, leftmost⟩]
      rfl
    · rw [current.search?_eq_none_iff.2 absent, former.search?_eq_none_iff.2 absent',
        firstTag_eq_some_iff.2 ⟨source, rfl, first⟩]
      rfl

theorem reference?_eq_none_iff : reference? page = none ↔ IsSilent page := by
  have whole : reference? page = none ↔ (setting "jsUrl").search? page = none ∧
      (setting "PLAYER_JS_URL").search? page = none ∧ firstSuffix? scriptTag? page = none := by
    unfold reference?
    cases (setting "jsUrl").search? page <;> cases (setting "PLAYER_JS_URL").search? page <;> simp
  rw [whole, (unambiguous "jsUrl").search?_eq_none_iff,
    (unambiguous "PLAYER_JS_URL").search?_eq_none_iff, firstTag_eq_none_iff]
  exact ⟨fun ⟨current, former, tag⟩ => ⟨current, former, tag⟩,
    fun silent => ⟨silent.current, silent.former, silent.tag⟩⟩

theorem scriptUrl_reference {base : String} {site : Url} (parsed : Url.parse base = .ok site)
    (page : String) :
    (∀ value plain, Refers page.toList value → Unescapes value plain →
      scriptUrl page base =
        ((site.join (String.ofList plain)).map Url.render).mapError .unreadableUrl) ∧
    (IsSilent page.toList → scriptUrl page base = .error .noScriptReference) ∧
    (IsSilent page.toList ∨ ∃ value plain, Refers page.toList value ∧ Unescapes value plain) := by
  refine ⟨fun value plain refers escaped => ?_, fun silent => ?_, ?_⟩
  · rw [scriptUrl, reference?_eq_some_iff.2 refers, unescapes_iff.1 escaped]
    simp only [parsed]
    cases site.join (String.ofList (unescapeSlashes value)) <;> rfl
  · rw [scriptUrl, reference?_eq_none_iff.2 silent]
  · cases found : reference? page.toList with
    | none => exact .inl (reference?_eq_none_iff.1 found)
    | some value =>
      exact .inr ⟨value, _, reference?_eq_some_iff.1 found, unescapes_iff.2 rfl⟩

theorem scriptUrl_reference_tag :
    Url.parse "https://www.youtube.com" = .ok (Url.ofSite "www.youtube.com".toList []) ∧
    scriptUrl "<script src=\"/a.js\"><script src=\"\\/s\\/base.js\" src=\"\\/t\\/base.js\">"
      "https://www.youtube.com" = .ok "https://www.youtube.com/t/base.js" := by
  have plain : Url.IsPlainName "www.youtube.com".toList :=
    ⟨by decide, by decide, by decide, by decide⟩
  have spelled : lower "https://www.youtube.com".toList =
      "https://".toList ++ "www.youtube.com".toList := by decide
  have parsed : Url.parse "https://www.youtube.com" =
      .ok (Url.ofSite "www.youtube.com".toList []) := by
    have visible : ([] : List Char).all Url.isVisible = true := rfl
    have site := Url.parse_site plain spelled visible rfl
    rwa [List.append_nil, String.ofList_toList] at site
  refine ⟨parsed, ?_⟩
  exact (scriptUrl_reference parsed _).1 "\\/t\\/base.js".toList "/t/base.js".toList
    (reference?_eq_some_iff.1 (by decide)) (unescapes_iff.2 (by decide))

end PlayerCipher.PlayerPage
