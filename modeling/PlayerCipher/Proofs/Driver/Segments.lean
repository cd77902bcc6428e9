import PlayerCipher.Proofs.Driver.Selection
import PlayerCipher.Proofs.Script.Layout
import PlayerCipher.Proofs.Script.Quiet

/-! Segments of a driver's body.
Between its semicolons a driver calls helpers and does other things. Each call, in whichever of
the three ways it is written, gives its operation, and nothing else in the body gives any. -/

namespace PlayerCipher

namespace Call

open PlayerCipher.Bracket Statement Definition

structure IsIndex (token : Token) (index : ℕ) : Prop where
  kind : token.kind = .number
  nonempty : token.text.toList ≠ []
  digits : token.text.toList.all Char.isDigit = true
  value : Text.decimalValue token.text.toList = index
  fits : index < UInt64.size

/-- The tokens of a call up to its parenthesis: `obj.name`, `obj["name"]` or `name`. -/
inductive Addresses (name : String) : List Token → Prop where
  | member {object dot word : Token} (plain : object.isIdentifier = true)
      (dots : dot.isMark "." = true) (spells : word.spells name = true) :
      Addresses name [object, dot, word]
  | index {object opener key closer : Token} (plain : object.isIdentifier = true)
      (opens : opener.isMark "[" = true) (quoted : key.contents? = some name)
      (closes : closer.isMark "]" = true) : Addresses name [object, opener, key, closer]
  | bare {word : Token} (spells : word.spells name = true) : Addresses name [word]

inductive Asks : Operation → List Token → Prop where
  | swap {array comma literal : Token} {index : ℕ} (plain : array.isIdentifier = true)
      (commas : comma.isMark "," = true) (known : IsIndex literal index) :
      Asks (.swap index) [array, comma, literal]
  | removeAt {array comma literal : Token} {index : ℕ} (plain : array.isIdentifier = true)
      (commas : comma.isMark "," = true) (known : IsIndex literal index) :
      Asks (.removeAt index) [array, comma, literal]
  | reverse {array : Token} (plain : array.isIdentifier = true) : Asks .reverse [array]
  | reverseWith {array comma : Token} {extra : List Token} (plain : array.isIdentifier = true)
      (commas : comma.isMark "," = true) (nonempty : extra ≠ []) (expression : IsExpression extra) :
      Asks .reverse (array :: comma :: extra)

/-- A run that calls no helper and defines no function: it names no helper, neither by a word nor
by a string. -/
structure IsNoise (names : HelperNames) (run : List Token) : Prop where
  balanced : Balanced run
  unnamed : ∀ token ∈ run, ∀ kind, (token.kind = .ident → token.text ≠ names.get kind) ∧
    token.contents? ≠ some (names.get kind)
  plain : ∀ token ∈ run, token.spells "function" = false ∧ token.isMark "=>" = false
  methodless : ∀ place, shorthandEnd? run place = none

theorem isNoise_iff {names : HelperNames} {run : List Token} :
    IsNoise names run ↔ depthAfter 0 run = some 0 ∧
      (∀ token ∈ run, ∀ kind ∈ Operation.Kind.all,
        (token.kind = .ident → token.text ≠ names.get kind) ∧
          token.contents? ≠ some (names.get kind)) ∧
      (∀ token ∈ run, token.spells "function" = false ∧ token.isMark "=>" = false) ∧
      ∀ place < run.length, shorthandEnd? run place = none := by
  constructor
  · exact fun noise => ⟨noise.balanced, fun token inside kind _ => noise.unnamed token inside kind,
      noise.plain, fun place _ => noise.methodless place⟩
  · rintro ⟨balanced, unnamed, plain, methodless⟩
    refine ⟨balanced, fun token inside kind => unnamed token inside kind (by cases kind <;> decide),
      plain, fun place => ?_⟩
    rcases Nat.lt_or_ge place run.length with inside | behind
    · exact methodless place inside
    · rw [shorthandEnd?, List.drop_eq_nil_of_le behind]

instance (names : HelperNames) (run : List Token) : Decidable (IsNoise names run) :=
  decidable_of_iff _ isNoise_iff.symm

/-- A piece of a body between semicolons, with the operation that it asks for. -/
inductive Segment (names : HelperNames) : Option Operation → List Token → Prop where
  | call {operation : Operation} {callee arguments : List Token} {opener closer : Token}
      (addresses : Addresses (names.get operation.kind) callee) (opens : opener.isMark "(" = true)
      (asks : Asks operation arguments) (closes : closer.isMark ")" = true) :
      Segment names (some operation) (callee ++ opener :: (arguments ++ [closer]))
  | noise {run : List Token} (noise : IsNoise names run) : Segment names none run

inductive Body (names : HelperNames) : List (Option Operation) → List Token → Prop where
  | last {asked : Option Operation} {run : List Token} (segment : Segment names asked run) :
      Body names [asked] run
  | more {asked : Option Operation} {others : List (Option Operation)} {run tokens : List Token}
      {mark : Token} (segment : Segment names asked run) (separates : mark.isMark ";" = true)
      (rest : Body names others tokens) :
      Body names (asked :: others) (run ++ mark :: tokens)

variable {names : HelperNames} {before after rest arguments : List Token}
  {token opener closer : Token}

theorem isExpression_identifier {array : Token} (plain : array.isIdentifier = true) :
    IsExpression [array] := by
  have level : IsLevel array := isLevel_of_kind (Token.isIdentifier_iff.1 plain).1
  exact isExpression_iff.2 (through_level (by simpa using level) 0)

theorem statements_pair {array comma : Token} {extra : List Token}
    (plain : array.isIdentifier = true) (commas : comma.isMark "," = true) (nonempty : extra ≠ [])
    (passed : through 0 extra = some 0) :
    statements (array :: comma :: extra) = [[array], extra] := by
  have separates : comma.separates = true := by
    simp [Token.separates, commas]
  have parts : pieces (array :: comma :: extra) = [[array], extra] := by
    rw [← List.singleton_append, (isExpression_identifier plain).pieces_append separates,
      (isExpression_iff.2 passed).pieces_eq]
  simp [statements, parts, nonempty]

theorem balanced_pair {array comma : Token} {extra : List Token}
    (plain : array.isIdentifier = true) (commas : comma.isMark "," = true)
    (passed : through 0 extra = some 0) : Balanced (array :: comma :: extra) := by
  have separates : comma.separates = true := by
    simp [Token.separates, commas]
  rw [← List.singleton_append, balanced_append_iff (isExpression_identifier plain).balanced,
    balanced_cons_iff separates]
  exact depthAfter_of_through extra passed

theorem through_number {literal : Token} (number : literal.kind = .number) :
    through 0 [literal] = some 0 := by
  have level : IsLevel literal := isLevel_of_ne_punct (by simp [number])
  exact through_level (by simpa using level) 0

namespace IsIndex

variable {literal : Token} {index : ℕ}

theorem passed (known : IsIndex literal index) : through 0 [literal] = some 0 :=
  through_number known.kind

theorem read (known : IsIndex literal index) : indexOf [literal] = .ok index := by
  have fits : index < Text.indexLimit := known.fits
  simp [indexOf, known.kind, known.digits, Text.decimalBelow?, known.nonempty, known.value, fits]

end IsIndex

namespace Asks

variable {operation : Operation}

theorem balanced (asks : Asks operation arguments) : Balanced arguments := by
  cases asks with
  | swap plain commas known => exact balanced_pair plain commas known.passed
  | removeAt plain commas known => exact balanced_pair plain commas known.passed
  | reverse plain => exact (isExpression_identifier plain).balanced
  | reverseWith plain commas _ expression => exact balanced_pair plain commas expression.passed

theorem read (asks : Asks operation arguments) :
    operationOf operation.kind arguments = .ok operation := by
  rw [operationOf]
  cases asks with
  | swap plain commas known =>
    rw [statements_pair plain commas (List.cons_ne_nil _ []) known.passed]
    simp [operationOfParts, isPlainArray, plain, Operation.kind, known.read, Except.map]
  | removeAt plain commas known =>
    rw [statements_pair plain commas (List.cons_ne_nil _ []) known.passed]
    simp [operationOfParts, isPlainArray, plain, Operation.kind, known.read, Except.map]
  | @reverse array plain =>
    have single : statements [array] = [[array]] := by
      simp [statements, (isExpression_identifier plain).pieces_eq]
    rw [single]
    simp [operationOfParts, isPlainArray, plain, Operation.kind, Operation.ofCall?]
  | reverseWith plain commas nonempty expression =>
    rw [statements_pair plain commas nonempty expression.passed]
    simp [operationOfParts, isPlainArray, plain, Operation.kind]

end Asks

/-- A word that does not stand where a method may reveals no function by a balanced pair of
parentheses behind it, if no brace follows. -/
theorem nestedLength?_callee (word : token.kind = .ident) (opens : opener.isMark "(" = true)
    (balanced : Balanced arguments) (closes : closer.closes = true)
    (apart : ∀ last ∈ before.head?, last.isMark "\x7b" = false ∧ last.isMark "," = false)
    (stops : ∀ next ∈ rest.head?, next.isMark "\x7b" = false) :
    nestedLength? before token (opener :: (arguments ++ closer :: rest)) = none := by
  have unbraced : braced? (opener :: (arguments ++ closer :: rest)) = none := by
    cases rest with
    | nil => simp [braced?, opens, cut?_balanced balanced closes]
    | cons next rest => simp [braced?, opens, cut?_balanced balanced closes, stops next rfl]
  have noArrow : token.isMark "=>" = false := Token.isMark_of_kind (by simp [word]) _
  have noMethod : shorthandParts? before token (opener :: (arguments ++ closer :: rest)) = none := by
    cases before with
    | nil => simp [shorthandParts?]
    | cons last before => simp [shorthandParts?, apart last rfl]
  by_cases keyword : token.spells "function" = true
  · simp [nestedLength?, keyword, opens, unbraced]
  · simp [nestedLength?, keyword, noArrow, noMethod]

def AtSemicolon (tokens : List Token) : Prop :=
  ∀ next ∈ tokens.head?, next.isMark ";" = true

theorem AtSemicolon.not_mark {tokens : List Token} (stops : AtSemicolon tokens) (text : String)
    (other : ";" ≠ text) : ∀ next ∈ tokens.head?, next.isMark text = false :=
  fun next behind => Token.isMark_of_ne (stops next behind) other

theorem scan_object {object mark word : Token} {text : String} (found : List Call)
    (plain : object.isIdentifier = true) (marks : mark.isMark text = true)
    (other : text ≠ "(" ∧ text ≠ "=>") :
    scan names found before (object :: mark :: word :: rest) =
      scan names found (mark :: object :: before) (word :: rest) := by
  obtain ⟨kind, free⟩ := Token.isIdentifier_iff.1 plain
  have first : isIdle names before.head? object (some mark) = true := by
    have idle := @isIdle_word names before.head? (some mark) object.text object.offset free
      (by simp [Token.isMark_of_ne marks other.1])
    rwa [← kind] at idle
  have second : isIdle names (some object) mark (some word) = true := by
    have noArrow := Token.isMark_of_ne marks other.2
    have noWord := spells_of_isMark "function" marks
    rw [Token.isMark_iff] at marks
    simp [isIdle, isQuiet, noArrow, noWord, marks.1]
  have idle : idleRun names before.head? (word :: rest).head? [object, mark] = true := by
    simp [idleRun, first, second]
  exact scan_idle [object, mark] (word :: rest) found idle

theorem scan_call {operation : Operation} {callee : List Token} (found : List Call)
    (addresses : Addresses (names.get operation.kind) callee) (opens : opener.isMark "(" = true)
    (asks : Asks operation arguments) (closes : closer.isMark ")" = true)
    (fresh : AtSemicolon before) (stops : AtSemicolon rest) :
    ∃ call before', call.operation = .ok operation ∧
      scan names found before (callee ++ opener :: (arguments ++ closer :: rest)) =
        scan names (call :: found) before' rest := by
  have known := names.kindCalled?_get operation.kind
  have ends : closer.closes = true := by
    rw [Token.isMark_iff] at closes
    simp [Token.closes, closes.1, closes.2]
  have unbraced := stops.not_mark "\x7b" (by decide)
  rw [← asks.read]
  -- The token with the name reveals no method: a dot, a bracket or the semicolon stands before it.
  cases addresses with
  | @member object dot word plain dots spells =>
    obtain ⟨kind, text⟩ := Token.spells_iff.1 spells
    have quiet : nestedLength? (dot :: object :: before) word
        (opener :: (arguments ++ closer :: rest)) = none := by
      refine nestedLength?_callee kind opens asks.balanced ends ?_ unbraced
      rintro _ ⟨⟩
      exact ⟨Token.isMark_of_ne dots (by decide), Token.isMark_of_ne dots (by decide)⟩
    have called : callee? (dot :: object :: before) word
        (opener :: (arguments ++ closer :: rest)) =
        some ⟨names.get operation.kind, [object, dot, word], 1⟩ := by
      simp [callee?, kind, opens, dots, text]
    obtain ⟨call, before', operation, goes⟩ :=
      scan_called found quiet called known rfl asks.balanced ends
    exact ⟨call, before', operation, (scan_object found plain dots (by decide)).trans goes⟩
  | @index object bracket key last plain opens' quoted closes' =>
    have kind : key.kind = .str := by
      by_contra other
      simp [Token.contents?, other] at quoted
    have quiet : nestedLength? (bracket :: object :: before) key
        (last :: opener :: (arguments ++ closer :: rest)) = none := by
      apply nestedLength?_quiet
      simp [isQuiet, Token.spells, Token.isMark, kind]
    have called : callee? (bracket :: object :: before) key
        (last :: opener :: (arguments ++ closer :: rest)) =
        some ⟨names.get operation.kind, [object, bracket, key], 2⟩ := by
      simp [callee?, kind, opens, opens', closes', quoted]
    obtain ⟨call, before', operation, goes⟩ :=
      scan_called found quiet called known rfl asks.balanced ends
    exact ⟨call, before', operation, (scan_object found plain opens' (by decide)).trans goes⟩
  | @bare word spells =>
    obtain ⟨kind, text⟩ := Token.spells_iff.1 spells
    have quiet : nestedLength? before word (opener :: (arguments ++ closer :: rest)) = none := by
      refine nestedLength?_callee kind opens asks.balanced ends ?_ unbraced
      exact fun last behind => ⟨fresh.not_mark _ (by decide) last behind,
        fresh.not_mark _ (by decide) last behind⟩
    have called : callee? before word (opener :: (arguments ++ closer :: rest)) =
        some ⟨names.get operation.kind, [word], 1⟩ := by
      cases before with
      | nil => simp [callee?, kind, opens, text]
      | cons last before =>
        have semicolon := fresh last rfl
        have noDot : last.isMark "." = false := Token.isMark_of_ne semicolon (by decide)
        have noWord := spells_of_isMark "function" semicolon
        cases before <;> simp [callee?, kind, opens, noDot, noWord, text]
    exact scan_called found quiet called known rfl asks.balanced ends

theorem at?_unnamed (unnamed : ∀ kind, (token.kind = .ident → token.text ≠ names.get kind) ∧
    token.contents? ≠ some (names.get kind)) : at? names before token after = none := by
  unfold at?
  cases found : callee? before token after with
  | none => rfl
  | some callee =>
    have unknown : names.kindCalled? callee.name = none := by
      apply HelperNames.kindCalled?_other
      intro kind same
      cases word : token.kind with
      | ident => exact (unnamed kind).1 word (same.trans (callee?_ident word found).1).symm
      | str =>
        apply (unnamed kind).2
        rw [same]
        exact (callee?_str word found).1
      | number => simp [callee?, word] at found
      | regex => simp [callee?, word] at found
      | punct => simp [callee?, word] at found
    simp [unknown]

theorem shorthandParts?_noise {done todo : List Token}
    (noise : IsNoise names (done ++ token :: todo)) (fresh : AtSemicolon before)
    (stops : AtSemicolon rest) :
    shorthandParts? (done.reverse ++ before) token (todo ++ rest) = none := by
  have alone : shorthandParts? done.reverse token todo = none := by
    simpa [shorthandEnd?] using noise.methodless done.length
  obtain ⟨depth, -, closed⟩ : ∃ depth, depthAfter 0 (done ++ [token]) = some depth ∧
      depthAfter depth todo = some 0 := by
    have balanced := noise.balanced
    rw [List.append_cons, Bracket.Balanced, depthAfter_append] at balanced
    exact Option.bind_eq_some_iff.1 balanced
  have apart : ∀ next ∈ rest.head?, next.isMark "(" = false ∧ next.isMark "\x7b" = false :=
    fun next behind => ⟨stops.not_mark _ (by decide) next behind,
      stops.not_mark _ (by decide) next behind⟩
  have parts := braced?_within closed apart
  -- The first token of the run stands behind the semicolon, any other one behind a token of the run.
  cases reversed : done.reverse with
  | nil =>
    cases before with
    | nil => simp [shorthandParts?]
    | cons last before =>
      have noBrace := fresh.not_mark "\x7b" (by decide) last rfl
      have noComma := fresh.not_mark "," (by decide) last rfl
      simp [shorthandParts?, noBrace, noComma]
  | cons last far =>
    rw [reversed] at alone
    simpa [shorthandParts?, parts] using alone

theorem scan_noise {run : List Token} (found : List Call) (noise : IsNoise names run)
    (fresh : AtSemicolon before) (stops : AtSemicolon rest) :
    scan names found before (run ++ rest) = scan names found (run.reverse ++ before) rest := by
  -- What stands before a token of the run, and what follows it there, decide whether it reveals
  -- a method, so the induction keeps the whole run.
  have passed : ∀ todo done, run = done ++ todo →
      scan names found (done.reverse ++ before) (todo ++ rest) =
        scan names found (run.reverse ++ before) rest := by
    intro todo
    induction todo with
    | nil =>
      rintro done rfl
      simp
    | cons token todo ih =>
      intro done split
      have inside : token ∈ run := by
        simp [split]
      have noMethod := shorthandParts?_noise (split ▸ noise) fresh stops
      have quiet : nestedLength? (done.reverse ++ before) token (todo ++ rest) = none := by
        obtain ⟨noWord, noArrow⟩ := noise.plain token inside
        simp [nestedLength?, noWord, noArrow, noMethod]
      have uncalled : at? names (done.reverse ++ before) token (todo ++ rest) = none :=
        at?_unnamed (noise.unnamed token inside)
      have next := ih (done ++ [token]) (by rw [split, List.append_assoc, List.singleton_append])
      rw [List.reverse_append, List.reverse_singleton] at next
      rw [List.cons_append, scan, quiet, uncalled]
      exact next
  exact passed run [] rfl

/-- A segment gives its operation, if it asks for one, and nothing else. -/
theorem scan_segment {asked : Option Operation} {run : List Token} (rest : List Token)
    (found : List Call) (segment : Segment names asked run) (fresh : AtSemicolon before)
    (stops : AtSemicolon rest) :
    ∃ (read : List Call) (before' : List Token),
      read.map Call.operation = asked.toList.map .ok ∧
      scan names found before (run ++ rest) = scan names (read.reverse ++ found) before' rest := by
  cases segment with
  | @call operation callee arguments opener closer addresses opens asks closes =>
    obtain ⟨call, before', operation, goes⟩ :=
      scan_call found addresses opens asks closes fresh stops
    refine ⟨[call], before', by rw [List.map_singleton, operation]; rfl, ?_⟩
    rw [List.reverse_singleton, List.singleton_append, ← goes]
    simp
  | noise noise => exact ⟨[], _, rfl, scan_noise found noise fresh stops⟩

theorem scan_semicolon {mark : Token} (found : List Call) (semicolon : mark.isMark ";" = true) :
    scan names found before (mark :: rest) = scan names found (mark :: before) rest := by
  have noArrow : mark.isMark "=>" = false := Token.isMark_of_ne semicolon (by decide)
  have noWord := spells_of_isMark "function" semicolon
  have kind := (Token.isMark_iff.1 semicolon).1
  have idle : isIdle names before.head? mark rest.head? = true := by
    simp [isIdle, isQuiet, noArrow, noWord, kind]
  exact scan_idle [mark] rest found (by simp [idleRun, idle])

theorem scan_body {asked : List (Option Operation)} {body : List Token}
    (is : Body names asked body) :
    ∀ {before} (found : List Call), AtSemicolon before →
      (scan names found before body).map Call.operation =
        found.reverse.map Call.operation ++ asked.reduceOption.map .ok := by
  have others : ∀ (asked : Option Operation) (others : List (Option Operation)),
      (asked :: others).reduceOption = asked.toList ++ others.reduceOption := by
    intro asked others
    cases asked <;> rfl
  induction is with
  | @last asked run segment =>
    intro before found fresh
    obtain ⟨read, before', operations, goes⟩ :=
      scan_segment [] found segment fresh (by simp [AtSemicolon])
    rw [List.append_nil] at goes
    rw [goes, scan, others]
    simp [operations]
  | @more asked _ run tokens mark segment semicolon _ ih =>
    intro before found fresh
    obtain ⟨read, before', operations, goes⟩ :=
      scan_segment (mark :: tokens) found segment fresh (by simpa [AtSemicolon])
    rw [goes, scan_semicolon _ semicolon, ih _ (by simpa [AtSemicolon]), others]
    simp [operations]

theorem callsIn_body {asked : List (Option Operation)} {body : List Token}
    (is : Body names asked body) :
    (callsIn names body).map Call.operation = asked.reduceOption.map .ok := by
  rw [callsIn, scan_body is [] (by simp [AtSemicolon])]
  rfl

end Call

namespace Driver

open Call

/-- The one function of its name, if its body asks for operations between semicolons, records
these in their order. What else stands between the semicolons does not matter. -/
theorem record_segments {names : HelperNames} {front back : List Definition}
    {driver : Definition} {name : String} {asked : List (Option Operation)}
    (located : Option String) (body : Body names asked driver.body)
    (calls : asked.reduceOption ≠ []) (named : driver.name = some name)
    (sole : ∀ other ∈ front ++ back, other.name ≠ some name) :
    record (front ++ driver :: back) (.named name) names located =
        .ok ⟨asked.reduceOption⟩ ∧
      ∀ asked' body', Body names asked' body' → asked'.reduceOption = asked.reduceOption →
        record (front ++ { driver with body := body' } :: back) (.named name) names located =
          record (front ++ driver :: back) (.named name) names located := by
  have recorded : ∀ (driver : Definition) (asked : List (Option Operation)),
      Body names asked driver.body → asked.reduceOption ≠ [] → driver.name = some name →
      record (front ++ driver :: back) (.named name) names located =
        .ok ⟨asked.reduceOption⟩ := by
    intro driver asked body calls named
    have operations := callsIn_body body
    have some : callsIn names driver.body ≠ [] := by
      intro none
      rw [none, List.map_nil, eq_comm, List.map_eq_nil_iff] at operations
      exact calls operations
    rw [record_named named some fun function member same =>
      absurd same (sole function (List.mem_append_left back member)), recipeOf,
      operations_ok _ operations]
    rfl
  have whole := recorded driver asked body calls named
  refine ⟨whole, fun asked' body' segments same => ?_⟩
  rw [whole, ← same]
  exact recorded _ asked' segments (same ▸ calls) named

/-- Two calls, by index and by name, among runs that call nothing. -/
theorem record_segments_two :
    let names : HelperNames :=
      ⟨"Ab", "Zr", "k9", by decide, by decide, by decide, by decide, by decide, by decide⟩
    let body := tokenize "a=f(b,\"c\");Xq[\"Ab\"](a,12);;Zr(a,b[1,2]);return a"
    let driver : Definition := ⟨some "Kt", ["a"], body, 5, 0⟩
    Body names [none, some (.swap 12), none, some .reverse, none] body ∧
      record [driver] (.named "Kt") names none = .ok ⟨[.swap 12, .reverse]⟩ := by
  intro names body driver
  let word text offset : Token := ⟨.ident, text, offset⟩
  let mark text offset : Token := ⟨.punct, text, offset⟩
  let assigned := [word "a" 0, mark "=" 1, word "f" 2, mark "(" 3, word "b" 4, mark "," 5,
    ⟨.str, "\"c\"", 6⟩, mark ")" 9]
  let index := [word "Xq" 11, mark "[" 13, ⟨.str, "\"Ab\"", 14⟩, mark "]" 18]
  let numbered := [word "a" 20, mark "," 21, ⟨.number, "12", 22⟩]
  let extra := [word "b" 32, mark "[" 33, ⟨.number, "1", 34⟩, mark "," 35, ⟨.number, "2", 36⟩,
    mark "]" 37]
  have whole : body = assigned ++ mark ";" 10 :: ((index ++ mark "(" 19 :: (numbered ++
      [mark ")" 24])) ++ mark ";" 25 :: ([] ++ mark ";" 26 :: (([word "Zr" 27] ++ mark "(" 29 ::
        ((word "a" 30 :: mark "," 31 :: extra) ++ [mark ")" 38])) ++ mark ";" 39 ::
          [word "return" 40, word "a" 47]))) := by
    unfold assigned index numbered extra word mark body
    cbv
  have segments : Body names [none, some (.swap 12), none, some .reverse, none] body := by
    rw [whole]
    refine .more (.noise (by decide)) rfl (.more (.call (.index rfl rfl rfl rfl) rfl
      (.swap rfl rfl ⟨rfl, ?_, rfl, rfl, by decide⟩) rfl) rfl (.more (.noise (by decide)) rfl
        (.more (.call (.bare rfl) rfl (.reverseWith rfl rfl ?_ (by decide)) rfl) rfl
          (.last (.noise (by decide))))))
    · decide
    · decide
  exact ⟨segments, (@record_segments names [] [] driver "Kt" _ none segments (by decide) rfl
    (by simp)).1⟩

end Driver

end PlayerCipher
