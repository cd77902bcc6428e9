import Mathlib
import PlayerCipher.Proofs.Script.Contents

/-! The tree of definitions.
Two bodies stand one behind the other, or one holds the other. No two definitions begin with the
same token, so their offsets tell them apart; and a bracket that is opened in a body with braces is
closed there. -/

namespace PlayerCipher

namespace Bracket

variable {up down : Token → Bool}

theorem pairAt_down (tokens : List Token) :
    ∀ {depth n}, pairAt up down depth 0 tokens = some n →
      ∃ token, tokens[n]? = some token ∧ down token = true := by
  induction tokens with
  | nil =>
    intro depth n found
    cases found
  | cons token tokens ih =>
    have further : ∀ {depth n}, pairAt up down depth 1 tokens = some n →
        ∃ token', (token :: tokens)[n]? = some token' ∧ down token' = true := by
      intro depth n found
      rw [← Nat.add_zero 1, pairAt_place] at found
      obtain ⟨m, here, rfl⟩ := Option.map_eq_some_iff.1 found
      rw [Nat.add_comm, List.getElem?_cons_succ]
      exact ih here
    intro depth n found
    simp only [pairAt, Nat.zero_add] at found
    split_ifs at found with ups downs
    · exact further found
    · rcases depth with _ | _ | depth
      · cases found
      · cases found
        exact ⟨token, rfl, downs⟩
      · exact further found
    · exact further found

end Bracket

namespace Definition

open PlayerCipher.Bracket

variable {tokens before after front far lead : List Token} {token opener first : Token}
  {f g : Definition} {place : Nat}

/-- What the head of an arrow is made of, the nearest token first. Any bracket may open it. -/
theorem arrowHead?_sound {params : List String}
    (found : arrowHead? before = some (params, opener, far)) :
    (opener.isIdentifier = true ∧ before = opener :: far) ∨
      ∃ closer inner, before = closer :: (inner ++ opener :: far) ∧ opener.opens = true ∧
        closer.isMark ")" = true ∧
          ∀ t ∈ inner, t.isIdentifier = true ∨ t.isMark "," = true := by
  cases before with
  | nil => cases found
  | cons last before =>
    rw [arrowHead?] at found
    split_ifs at found with closes identifier
    · obtain ⟨distance, paired, found⟩ := Option.bind_eq_some_iff.1 found
      obtain ⟨inner, opener', before', rfl, rfl⟩ := Checked.openDistance?_append closes paired
      simp only [Nat.add_sub_cancel, List.take_left, List.drop_left] at found
      obtain ⟨names, read, found⟩ := Option.bind_eq_some_iff.1 found
      cases found
      obtain ⟨token, here, opens⟩ := pairAt_down _ paired
      obtain rfl : opener = token := by simpa using here
      refine .inr ⟨last, inner, rfl, opens, closes, fun t inside => ?_⟩
      exact parameters?_sound read t (List.mem_reverse.2 inside)
    · cases found
      exact .inl ⟨identifier, rfl⟩

theorem withAsync_cases (first : Token) (before : List Token) :
    withAsync first before = (first, before) ∨
      ∃ word far, before = word :: far ∧ word.spells "async" = true ∧
        withAsync first before = (word, far) := by
  cases before with
  | nil => exact .inl rfl
  | cons word far =>
    rw [withAsync]
    split_ifs with async
    · exact .inr ⟨word, far, rfl, async, rfl⟩
    · exact .inl rfl

/-- The tokens of a definition before the one that reveals it. None of them is a keyword or an
arrow, and the first is not the name of a method, as no parameters and block stand behind it. -/
structure Lead (before : List Token) (token : Token) (after : List Token) (f : Definition)
    (far lead : List Token) : Prop where
  whole : before.reverse = far.reverse ++ lead
  starts : ∀ first ∈ (lead ++ [token]).head?, f.offset = first.offset
  quiet : ∀ t ∈ lead, t.spells "function" = false ∧ t.isMark "=>" = false
  unbraced : ∀ name rest, lead = name :: rest → braced? (rest ++ token :: after) = none
  method : token.spells "function" = false → token.isMark "=>" = false → lead = []

theorem Lead.begins (starts : Lead before token after f far lead) (rest : List Token) :
    ∃ first more, lead ++ token :: rest = first :: more ∧ f.offset = first.offset := by
  cases lead with
  | nil => exact ⟨token, rest, rfl, starts.starts token rfl⟩
  | cons first lead => exact ⟨first, lead ++ token :: rest, rfl, starts.starts first rfl⟩

theorem braced?_eq_none (plain : first.isMark "(" = false) (rest : List Token) :
    braced? (first :: rest) = none := by
  rw [braced?, if_neg (by simp [plain])]

theorem quiet_of_spells {word : String} (spells : token.spells word = true)
    (other : word ≠ "function") : token.spells "function" = false ∧ token.isMark "=>" = false := by
  rw [Token.spells_iff] at spells
  simp [Token.spells, Token.isMark, spells.1, spells.2, other]

theorem quiet_of_opens (opens : token.opens = true) :
    token.spells "function" = false ∧ token.isMark "=>" = false := by
  simp only [Token.opens, Bool.and_eq_true, Bool.or_eq_true, beq_iff_eq] at opens
  obtain ⟨kind, (text | text) | text⟩ := opens <;> simp [Token.spells, Token.isMark, kind, text]

theorem arrowHead?_lead {params : List String} (arrow : token.isMark "=>" = true)
    (found : arrowHead? before = some (params, opener, far)) (after : List Token) :
    ∃ inner, before.reverse = far.reverse ++ opener :: inner ∧
      (∀ t ∈ opener :: inner, t.spells "function" = false ∧ t.isMark "=>" = false) ∧
      braced? (inner ++ token :: after) = none ∧
      braced? (opener :: inner ++ token :: after) = none := by
  have noParen : token.isMark "(" = false := Token.isMark_of_ne arrow (by decide)
  rcases arrowHead?_sound found with ⟨plain, rfl⟩ | ⟨closer, inner, rfl, opens, closes, listed⟩
  · refine ⟨[], by simp, ?_, braced?_eq_none noParen after,
      braced?_eq_none (isMark_of_isIdentifier plain "(") _⟩
    intro t inside
    rw [List.mem_singleton.1 inside]
    exact quiet_of_isIdentifier plain
  · have listed' : ∀ t ∈ inner.reverse, t.isIdentifier = true ∨ t.isMark "," = true :=
      fun t inside => listed t (List.mem_reverse.1 inside)
    have noCloser : closer.isMark "(" = false := Token.isMark_of_ne closes (by decide)
    refine ⟨inner.reverse ++ [closer], by simp, ?_, ?_, ?_⟩
    · intro t inside
      simp only [List.mem_cons, List.mem_append, List.not_mem_nil, or_false] at inside
      rcases inside with rfl | inside | rfl
      · exact quiet_of_opens opens
      · rcases listed' t inside with plain | comma
        · exact quiet_of_isIdentifier plain
        · exact quiet_of_isMark comma (by decide)
      · exact quiet_of_isMark closes (by decide)
    · cases first : inner.reverse with
      | nil => exact braced?_eq_none noCloser _
      | cons t rest =>
        have inside : t ∈ inner.reverse := by
          simp [first]
        rcases listed' t inside with plain | comma
        · exact braced?_eq_none (isMark_of_isIdentifier plain "(") _
        · exact braced?_eq_none (Token.isMark_of_ne comma (by decide)) _
    · have cut := cut?_balanced (balanced_of_listed listed')
        (closes_of_isMark closes (.inl rfl)) (token :: after)
      have noBrace : ¬token.isMark "\x7b" = true := by
        simp [Token.isMark_of_ne arrow (show "=>" ≠ "\x7b" by decide)]
      simp [braced?, cut, noBrace]

theorem ofKeyword?_lead (keyword : token.spells "function" = true)
    (found : ofKeyword? before place token after = some f) :
    ∃ far lead, Lead before token after f far lead := by
  simp only [ofKeyword?] at found
  obtain ⟨parts, -, found⟩ := Option.bind_eq_some_iff.1 found
  obtain ⟨params, -, found⟩ := Option.bind_eq_some_iff.1 found
  obtain rfl := Option.some.inj found
  rcases withAsync_cases token before with same | ⟨word, far, rfl, async, same⟩
  · refine ⟨before, [], by simp, ?_, by simp, by simp, fun _ _ => rfl⟩
    simp [same]
  · refine ⟨far, [word], by simp, ?_, ?_, ?_, ?_⟩
    · simp [same]
    · simpa using quiet_of_spells async (by decide)
    · rintro name rest ⟨⟩
      have kind : token.kind ≠ .punct := by
        simp [(Token.spells_iff.1 keyword).1]
      exact braced?_eq_none (Token.isMark_of_kind kind "(") after
    · simp [keyword]

theorem ofArrow?_lead (arrow : token.isMark "=>" = true)
    (found : ofArrow? before place after = some f) :
    ∃ far lead, Lead before token after f far lead := by
  simp only [ofArrow?] at found
  obtain ⟨⟨params, opener, far⟩, head, made⟩ := Option.bind_eq_some_iff.1 found
  obtain ⟨inner, whole, quiet, behind, all⟩ := arrowHead?_lead arrow head after
  have starts : f.offset = (withAsync opener far).1.offset := by
    cases after with
    | nil => cases made
    | cons next rest =>
      dsimp only at made
      split_ifs at made
      · obtain ⟨block, -, made⟩ := Option.bind_eq_some_iff.1 made
        cases made
        rfl
      · cases made
        rfl
  rcases withAsync_cases opener far with same | ⟨word, far', rfl, async, same⟩
  · refine ⟨far, opener :: inner, whole, ?_, quiet, ?_, ?_⟩
    · simp [starts, same]
    · rintro name rest ⟨⟩
      exact behind
    · simp [arrow]
  · refine ⟨far', word :: opener :: inner, by simp [whole], ?_, ?_, ?_, ?_⟩
    · simp [starts, same]
    · intro t inside
      rcases List.mem_cons.1 inside with rfl | inside
      · exact quiet_of_spells async (by decide)
      · exact quiet t inside
    · rintro name rest ⟨⟩
      exact all
    · simp [arrow]

theorem ofShorthand?_lead (found : ofShorthand? before place token after = some f) :
    ∃ far lead, Lead before token after f far lead := by
  unfold ofShorthand? at found
  obtain ⟨parts, -, found⟩ := Option.bind_eq_some_iff.1 found
  obtain ⟨params, -, found⟩ := Option.bind_eq_some_iff.1 found
  obtain rfl := Option.some.inj found
  exact ⟨before, [], by simp, by simp, by simp, by simp, fun _ _ => rfl⟩

theorem at?_lead (found : at? before place token after = some f) :
    ∃ far lead, Lead before token after f far lead := by
  unfold at? at found
  split_ifs at found with keyword arrow
  · exact ofKeyword?_lead keyword found
  · exact ofArrow?_lead arrow found
  · exact ofShorthand?_lead found

theorem offset_ne {place' : Nat} {token' : Token} {after' : List Token}
    (ascending : (before.reverse ++ token :: (front ++ token' :: after')).Pairwise
      fun earlier later => earlier.offset < later.offset)
    (found : at? before place token (front ++ token' :: after') = some f)
    (found' : at? (front.reverse ++ token :: before) place' token' after' = some g) :
    f.offset ≠ g.offset := by
  intro same
  obtain ⟨far, lead, first⟩ := at?_lead found
  obtain ⟨far', lead', second⟩ := at?_lead found'
  have whole : before.reverse ++ token :: (front ++ token' :: after') =
      far.reverse ++ (lead ++ token :: (front ++ token' :: after')) := by
    rw [first.whole, List.append_assoc]
  have whole' : before.reverse ++ token :: (front ++ token' :: after') =
      far'.reverse ++ (lead' ++ token' :: after') := by
    rw [← List.append_assoc, ← second.whole]
    simp
  obtain ⟨start, more, begins, here⟩ := first.begins (front ++ token' :: after')
  obtain ⟨start', more', begins', here'⟩ := second.begins after'
  rw [begins] at whole
  rw [begins'] at whole'
  rw [whole] at ascending whole'
  obtain ⟨reached, -⟩ := cut_unique ascending whole' (by rw [← here, ← here', same])
  -- Both begin at one place, so the second reaches over the token that reveals the first.
  have longer : lead' = lead ++ token :: front := by
    have split := second.whole
    rw [← reached, List.reverse_append, List.reverse_reverse, List.reverse_cons,
      first.whole] at split
    simpa using split.symm
  obtain ⟨noWord, noArrow⟩ := second.quiet token (by simp [longer])
  rw [first.method noWord noArrow, List.nil_append] at longer
  have unread := second.unbraced token front longer
  obtain ⟨bridge, rest, split, -, layout⟩ := at?_layout found
  cases layout with
  | keyword word =>
    rw [noWord] at word
    cases word
  | block arrow =>
    rw [noArrow] at arrow
    cases arrow
  | expression arrow =>
    rw [noArrow] at arrow
    cases arrow
  | shorthand names braces =>
    rw [split, braces.reads] at unread
    cases unread

theorem revealed_apart {after : List Token} :
    ∀ {before place}, (before.reverse ++ after).Pairwise
        (fun earlier later => earlier.offset < later.offset) →
      (revealed before place after).Pairwise fun f g => f.offset ≠ g.offset := by
  induction after with
  | nil =>
    intro before place _
    exact .nil
  | cons token after ih =>
    intro before place ascending
    have later : (revealed (token :: before) (place + 1) after).Pairwise
        fun f g => f.offset ≠ g.offset := by
      apply ih
      simpa using ascending
    rw [revealed]
    cases found : at? before place token after with
    | none => exact later
    | some f =>
      refine List.pairwise_cons.2 ⟨fun g member => ?_, later⟩
      obtain ⟨front, token', behind, rfl, found'⟩ := mem_revealed.1 member
      exact offset_ne ascending found found'

theorem definitions_ascending
    (ascending : tokens.Pairwise fun earlier later => earlier.offset < later.offset) :
    (definitions tokens).Pairwise fun f g => f.offset < g.offset := by
  have sorted : (definitions tokens).Pairwise fun f g => f.offset ≤ g.offset := by
    have sorted := @List.pairwise_mergeSort _ (fun f g : Definition => f.offset ≤ g.offset)
      (fun f g h => by simpa using Nat.le_trans) (fun f g => by simpa using Nat.le_total _ _)
      (revealed [] 0 tokens)
    simpa [definitions_eq_revealed] using sorted
  have apart : (definitions tokens).Pairwise fun f g => f.offset ≠ g.offset := by
    rw [definitions_eq_revealed]
    have perm := (revealed [] 0 tokens).mergeSort_perm fun f g => decide (f.offset ≤ g.offset)
    exact (perm.pairwise_iff fun differ => differ.symm).2 (revealed_apart ascending)
  exact (sorted.and apart).imp fun both => Nat.lt_of_le_of_ne both.1 both.2

def Apart (f g : Definition) : Prop :=
  f.bodyStop ≤ g.bodyStart ∨ g.bodyStop ≤ f.bodyStart

def IsBraced (tokens : List Token) (f : Definition) : Prop :=
  ∃ brace, tokens[f.bodyStart - 1]? = some brace ∧ brace.isMark "\x7b" = true

namespace Reveals

variable {before' bridge bridge' rest rest' : List Token} {token' : Token}

theorem apart_or_within (first : Reveals tokens f before token bridge rest)
    (second : Reveals tokens g before' token' bridge' rest') :
    f.Apart g ∨ f.Within g ∨ g.Within f := by
  by_cases shared : ∃ place, f.Covers place ∧ g.Covers place
  · obtain ⟨place, inFirst, inSecond⟩ := shared
    by_cases same : f = g
    · exact .inr (.inl (same ▸ ⟨Nat.le_refl _, Nat.le_refl _⟩))
    · exact .inr (first.within_or_within second same inFirst inSecond).symm
  · -- Only an empty body lies inside another without sharing a place with it.
    have early : ¬(f.Covers f.bodyStart ∧ g.Covers f.bodyStart) := fun both => shared ⟨_, both⟩
    have late : ¬(f.Covers g.bodyStart ∧ g.Covers g.bodyStart) := fun both => shared ⟨_, both⟩
    simp only [Covers, Apart, Within, bodyStop] at early late ⊢
    omega

theorem split (reveals : Reveals tokens f before token bridge rest) :
    ∃ front, tokens = front ++ (f.body ++ rest) ∧ front.length = f.bodyStart := by
  refine ⟨before.reverse ++ token :: bridge, by simp [reveals.whole], ?_⟩
  rw [reveals.start]
  simp
  omega

theorem body_eq (reveals : Reveals tokens f before token bridge rest) :
    f.body = (tokens.take f.bodyStop).drop f.bodyStart := by
  obtain ⟨front, whole, length⟩ := reveals.split
  rw [whole, bodyStop, ← length, List.take_length_add_append, List.drop_left, List.take_left]

theorem balanced_of_isBraced (reveals : Reveals tokens f before token bridge rest)
    (braced : f.IsBraced tokens) : Balanced f.body := by
  rcases reveals.layout.braced_or_expression with ⟨-, balanced, -⟩ | ⟨rfl, -⟩
  · exact balanced
  · obtain ⟨brace, here, mark⟩ := braced
    have nearest : tokens[f.bodyStart - 1]? = some token := by
      rw [reveals.whole, reveals.start]
      simp
    obtain rfl := Option.some.inj (nearest.symm.trans here)
    rw [isMark_of_not_opens reveals.layout.token_level.1 (.inr rfl)] at mark
    cases mark

theorem closer_inside (reveals : Reveals tokens f before token bridge rest)
    (balanced : Balanced f.body) (covers : f.Covers place) (here : tokens[place]? = some opener)
    (opens : opener.opens = true) :
    ∃ stop, closerOf? tokens place = some stop ∧ place < stop ∧ f.Covers stop := by
  obtain ⟨ahead, whole, length⟩ := reveals.split
  obtain ⟨distance, rfl⟩ := Nat.exists_eq_add_of_le covers.1
  have inside : distance < f.body.length := Nat.lt_of_add_lt_add_left covers.2
  rw [whole, ← length, List.getElem?_append_right (Nat.le_add_right _ _), Nat.add_sub_cancel_left,
    List.getElem?_append_left inside] at here
  obtain ⟨near, far, body, nearLength⟩ := cut_at here
  rw [Bracket.Balanced, body, depthAfter_append] at balanced
  obtain ⟨depth, -, closed⟩ := Option.bind_eq_some_iff.1 balanced
  obtain ⟨inner, closer, more, rfl, level, closes, -⟩ := closed_of_opened opens closed
  have run : tokens = (ahead ++ near) ++ opener :: (inner ++ closer :: (more ++ rest)) := by
    rw [whole, body]
    simp
  have found := @closerOf?_append (ahead ++ near) (inner ++ closer :: (more ++ rest)) opener opens
  rw [← run, cut?_balanced level closes, Option.map_some, List.length_append, length,
    nearLength] at found
  refine ⟨_, found, by dsimp only; omega, ?_, ?_⟩
  · dsimp only
    omega
  · simp only [bodyStop, body, List.length_append, List.length_cons]
    omega

end Reveals

end Definition

open Definition PlayerCipher.Bracket

/-- The bodies of a script's functions form a tree, and the functions come in the order of their
offsets. A body in braces closes every bracket that it opens. -/
theorem definitions_tree (source : String) :
    let tokens := tokenize source
    (definitions tokens).Pairwise (fun f g => f.offset < g.offset) ∧
    (∀ f ∈ definitions tokens, ∀ g ∈ definitions tokens, f.Apart g ∨ f.Within g ∨ g.Within f) ∧
    ∀ f ∈ definitions tokens, f.body = (tokens.take f.bodyStop).drop f.bodyStart ∧
      (f.IsBraced tokens → Balanced f.body ∧
        ∀ place opener, f.Covers place → tokens[place]? = some opener → opener.opens = true →
          ∃ stop, closerOf? tokens place = some stop ∧ place < stop ∧ f.Covers stop) := by
  intro tokens
  refine ⟨definitions_ascending (tokenize_ascending source), ?_, ?_⟩
  · intro f fDefined g gDefined
    obtain ⟨_, _, _, _, first⟩ := reveals_of_mem fDefined
    obtain ⟨_, _, _, _, second⟩ := reveals_of_mem gDefined
    exact first.apart_or_within second
  · intro f defined
    obtain ⟨_, _, _, _, reveals⟩ := reveals_of_mem defined
    refine ⟨reveals.body_eq, fun braced => ?_⟩
    have balanced := reveals.balanced_of_isBraced braced
    exact ⟨balanced, fun place opener covers here opens =>
      reveals.closer_inside balanced covers here opens⟩

/-- Two arrows in a function, one with braces, between brackets without partners. -/
theorem definitions_tree_stray :
    let tokens := tokenize ")function f(a)\x7bk(b=>\x7bc(b)\x7d);h=(x)=>[x]\x7d("
    let f : Definition := ⟨some "f", ["a"], (tokens.drop 7).take 21, 7, 1⟩
    let g : Definition := ⟨none, ["b"], (tokens.drop 12).take 4, 12, 17⟩
    let h : Definition := ⟨some "h", ["x"], (tokens.drop 25).take 3, 25, 30⟩
    definitions tokens = [f, g, h] ∧ f.offset < g.offset ∧ g.offset < h.offset ∧
      g.Within f ∧ g.Apart h ∧ f.IsBraced tokens ∧ Balanced f.body ∧
        ∃ stop, closerOf? tokens 8 = some stop ∧ 8 < stop ∧ f.Covers stop := by
  intro tokens f g h
  have read : definitions tokens = [f, g, h] ∧ f.bodyStop = 28 ∧ g.bodyStop = 16 ∧
      h.bodyStop = 28 ∧ tokens[6]? = some ⟨.punct, "\x7b", 14⟩ ∧
      tokens[8]? = some ⟨.punct, "(", 16⟩ := by
    unfold f g h tokens
    cbv
  obtain ⟨found, fStop, gStop, hStop, brace, paren⟩ := read
  have starts : f.bodyStart = 7 ∧ g.bodyStart = 12 ∧ h.bodyStart = 25 := ⟨rfl, rfl, rfl⟩
  obtain ⟨ascending, tree, bodies⟩ := definitions_tree
    ")function f(a)\x7bk(b=>\x7bc(b)\x7d);h=(x)=>[x]\x7d("
  change (definitions tokens).Pairwise _ at ascending
  rw [found] at ascending
  obtain ⟨first, second⟩ := List.pairwise_cons.1 ascending
  have fDefined : f ∈ definitions tokens := by simp [found]
  have gDefined : g ∈ definitions tokens := by simp [found]
  have braced : f.IsBraced tokens := ⟨_, brace, rfl⟩
  obtain ⟨balanced, closers⟩ := (bodies f fDefined).2 braced
  have covers : f.Covers 8 := ⟨by decide, by rw [fStop]; decide⟩
  refine ⟨found, first g (by simp), (List.pairwise_cons.1 second).1 h (by simp), ?_, ?_, braced,
    balanced, closers 8 _ covers paren rfl⟩
  · have nested := tree f fDefined g gDefined
    simp only [Apart, Within, fStop, gStop, starts] at nested ⊢
    omega
  · simp only [Apart, gStop, starts]
    omega

end PlayerCipher
