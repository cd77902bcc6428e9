import PlayerCipher.Proofs.Script.Layout

/-! Nested definitions.
A definition is known by the place of the token that reveals it. Two bodies are apart, or one lies
in the other together with the token that reveals it. -/

namespace PlayerCipher

namespace Definition

open PlayerCipher.Bracket Statement

def bodyStop (f : Definition) : Nat :=
  f.bodyStart + f.body.length

def Covers (f : Definition) (place : Nat) : Prop :=
  f.bodyStart ≤ place ∧ place < f.bodyStop

def Within (g f : Definition) : Prop :=
  f.bodyStart ≤ g.bodyStart ∧ g.bodyStop ≤ f.bodyStop

/-- The token behind `before` reveals the definition, and `rest` stands behind its body. -/
structure Reveals (tokens : List Token) (f : Definition) (before : List Token) (token : Token)
    (bridge rest : List Token) : Prop where
  whole : tokens = before.reverse ++ token :: (bridge ++ (f.body ++ rest))
  start : f.bodyStart = before.length + 1 + bridge.length
  found : at? before before.length token (bridge ++ (f.body ++ rest)) = some f
  layout : Layout before token bridge f.body rest

variable {tokens : List Token} {f g : Definition}

/-- Definitions that the tokens of a run reveal behind the tokens `before`, in their order. -/
def revealed (before : List Token) (place : Nat) : List Token → List Definition
  | [] => []
  | token :: after =>
    (at? before place token after).toList ++ revealed (token :: before) (place + 1) after

theorem scan_eq_revealed (after : List Token) :
    ∀ found before place, scan found before place after =
      found.reverse ++ revealed before place after := by
  induction after with
  | nil =>
    intro found before place
    exact (List.append_nil _).symm
  | cons token after ih =>
    intro found before place
    rw [scan, revealed, ih]
    cases at? before place token after <;> simp

theorem definitions_eq_revealed (tokens : List Token) :
    definitions tokens = (revealed [] 0 tokens).mergeSort fun f g => f.offset ≤ g.offset := by
  rw [definitions, scan_eq_revealed]
  rfl

theorem mem_revealed {after : List Token} :
    ∀ {before place}, f ∈ revealed before place after ↔
      ∃ front token behind, after = front ++ token :: behind ∧
        at? (front.reverse ++ before) (place + front.length) token behind = some f := by
  induction after with
  | nil => simp [revealed]
  | cons token after ih =>
    intro before place
    have near : ∀ front : List Token,
        (token :: front).reverse ++ before = front.reverse ++ token :: before := by
      simp
    have further : ∀ front : List Token,
        place + (token :: front).length = place + 1 + front.length := by
      intro front
      rw [List.length_cons]
      omega
    rw [revealed, List.mem_append, Option.mem_toList, ih]
    constructor
    · rintro (here | ⟨front, token', behind, rfl, later⟩)
      · exact ⟨[], token, after, rfl, here⟩
      · rw [← near, ← further] at later
        exact ⟨token :: front, token', behind, rfl, later⟩
    · rintro ⟨front, token', behind, split, found⟩
      cases front with
      | nil =>
        cases split
        exact .inl found
      | cons first front =>
        cases split
        rw [near, further] at found
        exact .inr ⟨front, token', behind, rfl, found⟩

theorem mem_definitions_iff : f ∈ definitions tokens ↔
    ∃ front token behind, tokens = front ++ token :: behind ∧
      at? front.reverse front.length token behind = some f := by
  rw [definitions_eq_revealed, List.mem_mergeSort, mem_revealed]
  simp only [List.append_nil, Nat.zero_add]

theorem reveals_of_mem (member : f ∈ definitions tokens) :
    ∃ before token bridge rest, Reveals tokens f before token bridge rest := by
  obtain ⟨front, token, behind, whole, found⟩ := mem_definitions_iff.1 member
  rw [← List.length_reverse] at found
  obtain ⟨bridge, rest, rfl, start, layout⟩ := at?_layout found
  refine ⟨front.reverse, token, bridge, rest, ?_, start, found, layout⟩
  rw [whole, List.reverse_reverse]

theorem Braces.lead_eq {lead mid tail head body : List Token}
    {opener closer brace last next : Token} (braces : Braces opener head closer brace body last)
    (leads : ∀ t ∈ lead, t.isMark "(" = false) (paren : next.isMark "(" = true)
    (split : lead ++ opener :: (head ++ [closer, brace]) = mid ++ next :: tail) : lead = mid := by
  rcases List.append_eq_append_iff.1 split with ⟨more, front, behind⟩ | ⟨more, front, behind⟩
  · cases more with
    | nil => simpa using front.symm
    | cons first more =>
      have inside : next ∈ head ++ [closer, brace] := by
        rw [(List.cons.inj behind).2]
        simp
      rw [braces.not_paren next inside] at paren
      cases paren
  · cases more with
    | nil => simpa using front
    | cons first more =>
      have inside : next ∈ lead := by
        rw [front, (List.cons.inj behind).1]
        simp
      rw [leads next inside] at paren
      cases paren

theorem Braces.lead_eq_of_name {lead mid tail head body : List Token}
    {opener closer brace last name : Token} (braces : Braces opener head closer brace body last)
    (leads : ∀ t ∈ lead, t.isMark "(" = false) (kind : name.kind = .ident)
    (paren : ∀ next ∈ tail.head?, next.isMark "(" = true)
    (split : lead ++ opener :: (head ++ [closer, brace]) = mid ++ name :: tail) :
    lead = mid ++ [name] := by
  cases tail with
  | nil =>
    have ends := congrArg List.getLast? split
    have same : brace = name := by
      simpa [List.getLast?_append, List.getLast?_cons] using ends
    have mark := (Token.isMark_iff.1 braces.brace).1
    rw [same, kind] at mark
    cases mark
  | cons next tail =>
    apply braces.lead_eq leads (paren next rfl)
    rw [split, List.append_assoc, List.singleton_append]

theorem Layout.name_in_bridge {before bridge body rest mid tail : List Token} {token name : Token}
    (layout : Layout before token bridge body rest) (parts : bridge = mid ++ name :: tail)
    (kind : name.kind = .ident) (paren : ∀ next ∈ tail.head?, next.isMark "(" = true) :
    ∀ last ∈ (mid.reverse ++ [token]).head?,
      last.isMark "\x7b" = false ∧ last.isMark "," = false := by
  cases layout with
  | @keyword lead _ _ _ _ _ _ _ word leads braces =>
    have whole := braces.lead_eq_of_name (lead_not_paren leads) kind paren parts
    intro last nearest
    cases reversed : mid.reverse with
    | nil =>
      rw [reversed] at nearest
      cases nearest
      have kind := (Token.spells_iff.1 word).1
      simp [Token.isMark, kind]
    | cons near far =>
      rw [reversed] at nearest
      cases nearest
      have inside : last ∈ lead := by
        rw [whole, List.mem_append, ← List.mem_reverse, reversed]
        exact .inl (.head _)
      rcases leads last inside with star | identifier
      · exact ⟨Token.isMark_of_ne star (by decide), Token.isMark_of_ne star (by decide)⟩
      · exact ⟨isMark_of_isIdentifier identifier _, isMark_of_isIdentifier identifier _⟩
  | @shorthand opener head closer brace _ _ _ names braces =>
    have split : [] ++ opener :: (head ++ [closer, brace]) = mid ++ name :: tail := parts
    have none := braces.lead_eq_of_name (by simp) kind paren split
    simp at none
  | @block brace _ _ _ arrow opens =>
    have same : name ∈ [brace] := by
      rw [parts]
      simp
    rw [← List.mem_singleton.1 same, Token.isMark_iff, kind] at opens
    cases opens.1
  | expression => simp at parts

namespace Reveals

variable {before before' bridge bridge' rest rest' : List Token} {token token' : Token}

theorem unique (first : Reveals tokens f before token bridge rest)
    (second : Reveals tokens g before' token' bridge' rest')
    (same : before.length = before'.length) : f = g := by
  have split := first.whole.symm.trans second.whole
  have lengths : before.reverse.length = before'.reverse.length := by
    simpa using same
  obtain ⟨front, behind⟩ := List.append_inj split lengths
  obtain ⟨rfl, after⟩ := List.cons.inj behind
  have found := first.found
  rw [List.reverse_inj.1 front, after] at found
  exact Option.some.inj (found.symm.trans second.found)

theorem between (first : Reveals tokens f before token bridge rest)
    (second : Reveals tokens g before' token' bridge' rest')
    (later : before.length < before'.length) :
    ∃ mid, before'.reverse = before.reverse ++ token :: mid ∧
      before'.length = before.length + 1 + mid.length ∧
      bridge ++ (f.body ++ rest) = mid ++ token' :: (bridge' ++ (g.body ++ rest')) := by
  obtain ⟨mid, front, after⟩ :=
    cut_later_cons (first.whole.symm.trans second.whole) (by simpa using later)
  have lengths := congrArg List.length front
  simp only [List.length_reverse, List.length_append, List.length_cons] at lengths
  exact ⟨mid, front, by omega, after⟩

theorem not_in_bridge (first : Reveals tokens f before token bridge rest)
    (second : Reveals tokens g before' token' bridge' rest')
    (later : before.length < before'.length) : f.bodyStart ≤ before'.length := by
  obtain ⟨mid, front, place, split⟩ := first.between second later
  by_contra early
  have short : mid.length < bridge.length := by
    have start := first.start
    omega
  obtain ⟨tail, parts, behind⟩ := cut_later_cons split.symm short
  have inside : token' ∈ bridge := by
    simp [parts]
  have quiet := first.layout.bridge_quiet token' inside
  cases second.layout with
  | keyword word =>
    rw [quiet.1] at word
    cases word
  | block arrow =>
    rw [quiet.2] at arrow
    cases arrow
  | expression arrow =>
    rw [quiet.2] at arrow
    cases arrow
  | shorthand names braces' =>
    have paren : ∀ next ∈ tail.head?, next.isMark "(" = true := by
      intro next head
      cases tail with
      | nil => cases head
      | cons opener tail =>
        cases head
        rw [← (List.cons.inj behind).1]
        exact braces'.opener
    obtain ⟨last, far, reached, mark⟩ := names.behind
    have reversed : last :: far = (mid.reverse ++ [token]) ++ before := by
      rw [← reached, ← List.reverse_reverse before', front]
      simp
    have nearest : last ∈ (mid.reverse ++ [token]).head? := by
      cases near : mid.reverse ++ [token] with
      | nil => simp at near
      | cons first others =>
        rw [near] at reversed
        rw [(List.cons.inj reversed).1]
        rfl
    have quiet := first.layout.name_in_bridge parts names.kind paren last nearest
    rcases mark with mark | mark
    · rw [quiet.1] at mark
      cases mark
    · rw [quiet.2] at mark
      cases mark

theorem revealed_inside (first : Reveals tokens f before token bridge rest)
    (second : Reveals tokens g before' token' bridge' rest') (differ : f ≠ g)
    (inside : f.bodyStart ≤ g.bodyStart) : f.bodyStart ≤ before'.length := by
  rcases Nat.lt_trichotomy before.length before'.length with later | same | earlier
  · exact first.not_in_bridge second later
  · exact absurd (first.unique second same) differ
  · have behind := second.not_in_bridge first earlier
    have start := first.start
    omega

theorem split_body (first : Reveals tokens f before token bridge rest)
    (second : Reveals tokens g before' token' bridge' rest')
    (inside : f.bodyStart ≤ before'.length) :
    ∃ front, before' = front.reverse ++ (bridge.reverse ++ token :: before) ∧
      before'.length = f.bodyStart + front.length ∧
        f.body ++ rest = front ++ (token' :: (bridge' ++ g.body) ++ rest') := by
  have start := first.start
  obtain ⟨mid, reached, place, split⟩ := first.between second (by omega)
  obtain ⟨front, rfl, behind⟩ := cut_later split (by omega)
  refine ⟨front, ?_, ?_, ?_⟩
  · rw [← List.reverse_reverse before', reached]
    simp
  · rw [List.length_append] at place
    omega
  · rw [behind]
    simp

theorem within_of_revealed (first : Reveals tokens f before token bridge rest)
    (second : Reveals tokens g before' token' bridge' rest')
    (inside : f.bodyStart ≤ before'.length) (reached : before'.length < f.bodyStop) :
    g.Within f := by
  obtain ⟨front, -, place, split⟩ := first.split_body second inside
  unfold bodyStop at reached
  have short : front.length < f.body.length := by
    omega
  have ends := first.layout.body_clears second.layout.unbroken split short
  have start := second.start
  simp only [List.length_cons, List.length_append] at ends
  constructor
  · omega
  · unfold bodyStop
    omega

theorem within_or_within (first : Reveals tokens f before token bridge rest)
    (second : Reveals tokens g before' token' bridge' rest') (differ : f ≠ g) {place : Nat}
    (inFirst : f.Covers place) (inSecond : g.Covers place) : g.Within f ∨ f.Within g := by
  have start := first.start
  have start' := second.start
  unfold Covers at inFirst inSecond
  rcases Nat.lt_trichotomy before.length before'.length with later | same | earlier
  · left
    exact first.within_of_revealed second (first.not_in_bridge second later) (by omega)
  · exact absurd (first.unique second same) differ
  · right
    exact second.within_of_revealed first (second.not_in_bridge first earlier) (by omega)

/-- A body with a definition inside it. What closes that definition's body, if anything does, is
inside as well. -/
theorem split_within (first : Reveals tokens f before token bridge rest)
    (second : Reveals tokens g before' token' bridge' rest') (differ : f ≠ g)
    (within : g.Within f) :
    ∃ front behind, before' = front.reverse ++ (bridge.reverse ++ token :: before) ∧
      before'.length = f.bodyStart + front.length ∧
        f.body = front ++ token' :: (bridge' ++ (g.body ++ behind)) ∧
          rest' = behind ++ rest ∧ (bridge' ≠ [] → behind ≠ []) := by
  obtain ⟨front, reached, place, split⟩ :=
    first.split_body second (first.revealed_inside second differ within.1)
  have start := second.start
  have stop := within.2
  unfold bodyStop at stop
  have length : (front ++ token' :: (bridge' ++ g.body)).length ≤ f.body.length := by
    simp only [List.length_append, List.length_cons]
    omega
  rw [← List.append_assoc] at split
  obtain ⟨behind, body, after⟩ := cut_later split.symm length
  refine ⟨front, behind, reached, place, by rw [body]; simp, after, ?_⟩
  rintro bridged rfl
  rcases second.layout.braced_or_expression with
    ⟨opened, balanced, last, more, closed, -⟩ | ⟨none, -⟩
  · -- The brace that `g` opens would be left open in the body of `f`.
    rcases first.layout.balanced_or_last with whole | none
    · rw [List.append_nil] at body
      rw [Bracket.Balanced, body, depthAfter_append] at whole
      obtain ⟨depth, -, known⟩ := Option.bind_eq_some_iff.1 whole
      have deeper := through_add depth _ (second.layout.through_braced opened balanced)
      rw [Nat.zero_add] at deeper
      rw [depthAfter_of_through _ deeper] at known
      simp at known
    · rw [none, List.append_nil, closed] at after
      cases after
  · exact bridged none

end Reveals

end Definition

end PlayerCipher
