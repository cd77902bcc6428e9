import PlayerCipher.Driver.CallSite
import PlayerCipher.Proofs.Scrambler.Basic
import PlayerCipher.Proofs.Text.Search

/-! Call sites in a scrambling script.
The driver is defined in the script and nowhere called, so only the first idiom can occur, and
only at the driver: it needs `=function`, and the functions of the helpers follow a colon. -/

namespace PlayerCipher

namespace Scrambler

open Text Text.Pattern

variable (scrambler : Scrambler)

def isCallChar (c : Char) : Bool :=
  Lexeme.isLiteralChar c || c == '(' || c == ')' || c == ',' || c == ';'

theorem written_call (step : Step) :
    Lexeme.written (Lexeme.mark ';' :: scrambler.call step) =
      ';' :: (scrambler.object.toList ++ '.' ::
        ((scrambler.names.get step.operation.kind).toList ++
          '(' :: 'a' :: (Lexeme.written (argument step) ++ [')']))) := by
  simp [call, Lexeme.word, Lexeme.mark]

theorem written_argument (step : Step) :
    Lexeme.written (argument step) = [] ∨
      ∃ text, Lexeme.written (argument step) = ',' :: text ∧ Lexeme.IsDecimal text := by
  have numbered : ∀ text, Lexeme.IsDecimal text → ∃ literal,
      Lexeme.written [Lexeme.mark ',', Lexeme.numeral text] = ',' :: literal ∧
        Lexeme.IsDecimal literal := by
    intro text decimal
    exact ⟨text, by simp [Lexeme.mark, Lexeme.numeral], decimal⟩
  cases step with
  | swap index => exact .inr (numbered _ (Lexeme.isDecimal_toDigits index))
  | removeAt index => exact .inr (numbered _ (Lexeme.isDecimal_toDigits index))
  | reverse extra =>
    cases extra with
    | none => exact .inl rfl
    | some extra => exact .inr (numbered _ extra.2)

theorem all_calls (steps : List Step) :
    (Lexeme.written (scrambler.calls steps)).all isCallChar = true := by
  have name : ∀ {text : String}, isPlainName text = true → text.toList.all isCallChar = true := by
    intro text plain
    rw [List.all_eq_true]
    intro c member
    have named := List.all_eq_true.1 (all_nameChar plain) c member
    simp [isCallChar, Lexeme.isLiteralChar, named]
  have second : ∀ step, (Lexeme.written (argument step)).all isCallChar = true := by
    intro step
    rcases written_argument step with none | ⟨text, whole, decimal⟩
    · rw [none]
      rfl
    · rw [whole, List.all_cons, List.all_eq_true.2]
      · rfl
      · intro c member
        have literal := List.all_eq_true.1 (Lexeme.all_of_decimal decimal) c member
        simp [isCallChar, literal]
  have object := name scrambler.object_plain
  induction steps with
  | nil => rfl
  | cons step steps ih =>
    have helper := name (scrambler.names_plain step.operation.kind)
    rw [calls, List.flatMap_cons, Lexeme.written_append, ← calls, List.all_append, ih, written_call]
    simp only [List.all_cons, List.all_append, object, helper, second]
    rfl

theorem not_mem_calls {c : Char} (other : isCallChar c = false) (steps : List Step) :
    c ∉ Lexeme.written (scrambler.calls steps) := by
  intro member
  have known := List.all_eq_true.1 (scrambler.all_calls steps) c member
  exact absurd known (by simp [other])

/-- The script up to the driver's name, and after the equals sign behind it. -/
def opening : List Char :=
  "var ".toList ++ scrambler.object.toList ++ '=' :: ('\x7b' :: scrambler.names.swap.toList ++
    ":function(a,b)\x7bvar c".toList ++ '=' :: ("a[0];a[0]".toList ++
      '=' :: ("a[b%a.length];a[b%a.length]".toList ++ '=' :: ("c\x7d,".toList ++
        scrambler.names.reverse.toList ++ ":function(a)\x7ba.reverse()\x7d,".toList ++
          scrambler.names.removeAt.toList ++ ":function(a,b)\x7ba.splice(b,1)\x7d\x7d;".toList))))

def closing (steps : List Step) : List Char :=
  "function(a)\x7ba".toList ++ '=' :: ("a.split(\"\")".toList ++
    Lexeme.written (scrambler.calls steps) ++ ";return a.join(\"\")\x7d;".toList)

theorem script_split {steps : List Step} (nonempty : steps ≠ []) :
    (scrambler.script steps).toList =
      scrambler.opening ++ scrambler.driver.toList ++ '=' :: scrambler.closing steps := by
  have joined := scrambler.joined_toList nonempty
  have swapText :
      ":function(a,b)\x7bvar c=a[0];a[0]=a[b%a.length];a[b%a.length]=c\x7d,".toList =
        ":function(a,b)\x7bvar c".toList ++ '=' :: ("a[0];a[0]".toList ++
          '=' :: ("a[b%a.length];a[b%a.length]".toList ++ '=' :: "c\x7d,".toList)) := by
    decide
  have driverText : "=function(a)\x7ba=a.split(\"\");".toList =
      '=' :: ("function(a)\x7ba".toList ++ '=' :: ("a.split(\"\")".toList ++ [';'])) := by
    decide
  unfold script opening closing
  simp only [String.toList_append, swapText, driverText, ← joined]
  simp

/-- Whether the text after an equals sign is none that a call site has there. -/
def isAside (right : List Char) : Bool :=
  (right.takeWhile isNameChar).length ≤ 1 &&
    right.head?.any fun c => c == '\x7b' || c == 'a' || c == 'c'

theorem aside_not_blank {right : List Char} (aside : isAside right = true) :
    right.dropWhile isBlank = right ∧ (right.takeWhile isNameChar).length ≤ 1 := by
  rw [isAside, Bool.and_eq_true, decide_eq_true_eq] at aside
  refine ⟨?_, aside.1⟩
  cases right with
  | nil => rfl
  | cons c right =>
    have known := aside.2
    simp only [List.head?_cons, Option.any_some, Bool.or_eq_true, beq_iff_eq] at known
    rcases known with (rfl | rfl) | rfl <;> rfl

theorem equals_follow {steps : List Step} {left right : List Char}
    (same : scrambler.opening ++ scrambler.driver.toList ++ '=' :: scrambler.closing steps =
      left ++ '=' :: right) :
    isAside right = true ∨
      (left = scrambler.opening ++ scrambler.driver.toList ∧ right = scrambler.closing steps) := by
  have noEquals : ∀ {text : String}, isPlainName text = true → '=' ∉ text.toList := fun plain =>
    not_mem_name plain (by decide)
  have object := noEquals scrambler.object_plain
  have swap := noEquals (scrambler.names_plain .swap)
  have reverse := noEquals (scrambler.names_plain .reverse)
  have removeAt := noEquals (scrambler.names_plain .removeAt)
  have driver := noEquals scrambler.driver_plain
  have calls := scrambler.not_mem_calls (c := '=') (by decide) steps
  let s₀ := "var ".toList ++ scrambler.object.toList
  let s₁ := '\x7b' :: scrambler.names.swap.toList ++ ":function(a,b)\x7bvar c".toList
  let s₂ := "a[0];a[0]".toList
  let s₃ := "a[b%a.length];a[b%a.length]".toList
  let s₄ := "c\x7d,".toList ++ scrambler.names.reverse.toList ++
    ":function(a)\x7ba.reverse()\x7d,".toList ++ scrambler.names.removeAt.toList ++
      ":function(a,b)\x7ba.splice(b,1)\x7d\x7d;".toList ++ scrambler.driver.toList
  let s₅ := "function(a)\x7ba".toList
  let s₆ := "a.split(\"\")".toList ++ Lexeme.written (scrambler.calls steps) ++
    ";return a.join(\"\")\x7d;".toList
  have whole : scrambler.opening ++ scrambler.driver.toList =
      s₀ ++ '=' :: (s₁ ++ '=' :: (s₂ ++ '=' :: (s₃ ++ '=' :: s₄))) := by
    unfold opening
    simp [s₀, s₁, s₂, s₃, s₄]
  have rest : scrambler.closing steps = s₅ ++ '=' :: s₆ := rfl
  have free₀ : '=' ∉ s₀ := by
    simp [s₀, object]
  have free₁ : '=' ∉ s₁ := by
    have name : '=' ∉ scrambler.names.swap.toList := swap
    simp [s₁, name]
  have free₂ : '=' ∉ s₂ := by decide
  have free₃ : '=' ∉ s₃ := by decide
  have free₄ : '=' ∉ s₄ := by
    have first : '=' ∉ scrambler.names.reverse.toList := reverse
    have second : '=' ∉ scrambler.names.removeAt.toList := removeAt
    simp [s₄, first, second, driver]
  have free₅ : '=' ∉ s₅ := by decide
  have free₆ : '=' ∉ s₆ := by
    simp [s₆, calls]
  rw [whole] at same ⊢
  simp only [List.append_assoc, List.cons_append] at same
  -- one equals sign of the script after the other
  rcases append_cons_split free₀ same with ⟨-, rfl⟩ | ⟨left₀, rfl, same₁⟩
  · exact .inl rfl
  rcases append_cons_split free₁ same₁ with ⟨-, rfl⟩ | ⟨left₁, rfl, same₂⟩
  · exact .inl rfl
  rcases append_cons_split free₂ same₂ with ⟨-, rfl⟩ | ⟨left₂, rfl, same₃⟩
  · exact .inl rfl
  rcases append_cons_split free₃ same₃ with ⟨-, rfl⟩ | ⟨left₃, rfl, same₄⟩
  · exact .inl rfl
  rcases append_cons_split free₄ same₄ with ⟨rfl, rfl⟩ | ⟨left₄, -, same₅⟩
  · exact .inr ⟨rfl, rfl⟩
  rw [rest] at same₅
  rcases append_cons_split free₅ same₅ with ⟨-, rfl⟩ | ⟨left₅, -, same₆⟩
  · exact .inl rfl
  · exact absurd (by rw [same₆]; simp) free₆

/-- Whether a parenthesis that opened before `rest` holds at most a name before the next
mark, and that mark opens no other one. -/
def closesSoon (rest : List Char) : Bool :=
  (rest.dropWhile isNameChar).head?.any fun c => c == ',' || c == ')' || c == '"'

def parensClosed : List Char → Bool
  | [] => true
  | c :: cs => (c != '(' || closesSoon cs) && parensClosed cs

theorem closesSoon_append {cs : List Char} (ds : List Char) (closes : closesSoon cs = true) :
    closesSoon (cs ++ ds) = true := by
  unfold closesSoon at closes ⊢
  rw [List.dropWhile_append]
  cases rest : cs.dropWhile isNameChar with
  | nil => simp [rest] at closes
  | cons d rest' => simpa [rest] using closes

theorem parensClosed_append {cs ds : List Char} (left : parensClosed cs = true)
    (right : parensClosed ds = true) : parensClosed (cs ++ ds) = true := by
  induction cs with
  | nil => exact right
  | cons c cs ih =>
    rw [parensClosed, Bool.and_eq_true, Bool.or_eq_true] at left
    rw [List.cons_append, parensClosed, ih left.2, Bool.and_true, Bool.or_eq_true]
    exact left.1.imp_right (closesSoon_append ds)

theorem parensClosed_of_not_mem {cs : List Char} (absent : '(' ∉ cs) :
    parensClosed cs = true := by
  induction cs with
  | nil => rfl
  | cons c cs ih =>
    rw [List.mem_cons, not_or] at absent
    have other : (c != '(') = true := by
      simpa using Ne.symm absent.1
    rw [parensClosed, ih absent.2, other]
    rfl

theorem closesSoon_of_parensClosed {left right : List Char} :
    parensClosed (left ++ '(' :: right) = true → closesSoon right = true := by
  induction left with
  | nil =>
    intro closed
    rw [List.nil_append, parensClosed, Bool.and_eq_true] at closed
    simpa using closed.1
  | cons c left ih =>
    intro closed
    rw [List.cons_append, parensClosed, Bool.and_eq_true] at closed
    exact ih closed.2

theorem parensClosed_calls (steps : List Step) :
    parensClosed (Lexeme.written (scrambler.calls steps)) = true := by
  have name : ∀ {text : String}, isPlainName text = true → '(' ∉ text.toList := fun plain =>
    not_mem_name plain (by decide)
  have object := name scrambler.object_plain
  induction steps with
  | nil => rfl
  | cons step steps ih =>
    have helper := name (scrambler.names_plain step.operation.kind)
    have argument :
        parensClosed ('(' :: 'a' :: (Lexeme.written (argument step) ++ [')'])) = true := by
      rcases written_argument step with none | ⟨text, whole, decimal⟩
      · rw [none]
        rfl
      · rw [whole]
        have literal : '(' ∉ text := by
          intro member
          have known := List.all_eq_true.1 (Lexeme.all_of_decimal decimal) _ member
          exact absurd known (by decide)
        have tail : parensClosed ('a' :: (',' :: text ++ [')'])) = true :=
          parensClosed_of_not_mem (by simp [literal])
        rw [parensClosed, tail]
        rfl
    have start : parensClosed (';' :: (scrambler.object.toList ++ '.' ::
        (scrambler.names.get step.operation.kind).toList)) = true :=
      parensClosed_of_not_mem (by simp [object, helper])
    have first := parensClosed_append start argument
    rw [calls, List.flatMap_cons, Lexeme.written_append, ← calls]
    refine parensClosed_append ?_ ih
    rw [written_call]
    simpa using first

def fixedTexts : List String :=
  ["var ", "=\x7b", ":function(a,b)\x7bvar c=a[0];a[0]=a[b%a.length];a[b%a.length]=c\x7d,",
    ":function(a)\x7ba.reverse()\x7d,", ":function(a,b)\x7ba.splice(b,1)\x7d\x7d;",
    "=function(a)\x7ba=a.split(\"\");", ";return a.join(\"\")\x7d;"]

theorem script_parts {P : List Char → Prop} (append : ∀ {cs ds}, P cs → P ds → P (cs ++ ds))
    (name : ∀ {text : String}, isPlainName text = true → P text.toList)
    (fixed : ∀ text ∈ fixedTexts, P text.toList) (steps : List Step)
    (joined : P (joinWith ";" (steps.map scrambler.callText)).toList) :
    P (scrambler.script steps).toList := by
  unfold fixedTexts at fixed
  unfold script
  simp only [List.forall_mem_cons] at fixed
  obtain ⟨var, object, swap, reverse, removeAt, split, join, -⟩ := fixed
  simp only [String.toList_append]
  have names := scrambler.names_plain
  exact append (append (append (append (append (append (append (append (append (append (append
    (append var (name scrambler.object_plain)) object) (name (names .swap))) swap)
    (name (names .reverse))) reverse) (name (names .removeAt))) removeAt)
    (name scrambler.driver_plain)) split) joined) join

theorem parensClosed_script {steps : List Step} (nonempty : steps ≠ []) :
    parensClosed (scrambler.script steps).toList = true := by
  have joined : parensClosed (joinWith ";" (steps.map scrambler.callText)).toList = true := by
    have calls := scrambler.parensClosed_calls steps
    rw [← scrambler.joined_toList nonempty, parensClosed, Bool.and_eq_true] at calls
    exact calls.2
  exact scrambler.script_parts (P := fun cs => parensClosed cs = true) parensClosed_append
    (fun plain => parensClosed_of_not_mem (not_mem_name plain (by decide))) (by decide) steps joined

theorem no_bar {steps : List Step} (nonempty : steps ≠ []) :
    '|' ∉ (scrambler.script steps).toList := by
  have joined : '|' ∉ (joinWith ";" (steps.map scrambler.callText)).toList := by
    have calls := scrambler.not_mem_calls (c := '|') (by decide) steps
    rw [← scrambler.joined_toList nonempty, List.mem_cons, not_or] at calls
    exact calls.2
  exact scrambler.script_parts (P := fun cs => '|' ∉ cs) List.not_mem_append
    (fun plain => not_mem_name plain (by decide)) (by decide) steps joined

theorem no_decoding {steps : List Step} (nonempty : steps ≠ []) :
    CallSite.decoding.search? (scrambler.script steps).toList = none := by
  rw [search?, firstSuffix?_eq_none, script_split _ nonempty]
  intro before rest whole
  cases found : matchFrom [] CallSite.decoding rest with
  | none => rfl
  | some result =>
    obtain ⟨right, rfl, afterEquals⟩ := matchFrom_text.1 found
    rcases @equals_follow scrambler steps before right whole with aside | ⟨-, rfl⟩
    · obtain ⟨blank, short⟩ := aside_not_blank aside
      obtain ⟨-, afterBlanks⟩ := matchFrom_run.1 afterEquals
      obtain ⟨long, -⟩ := matchFrom_capture.1 afterBlanks
      rw [blank] at long
      omega
    · have other : matchFrom [] CallSite.decoding.tail (scrambler.closing steps) = none := rfl
      exact absurd (other.symm.trans afterEquals) (by simp)

theorem no_fallback {steps : List Step} (nonempty : steps ≠ []) :
    CallSite.fallback.search? (scrambler.script steps).toList = none := by
  rw [search?, firstSuffix?_eq_none]
  intro before rest whole
  cases found : matchFrom [] CallSite.fallback rest with
  | none => rfl
  | some result =>
    obtain ⟨before', rest', captured, rfl, bars⟩ :=
      matchFrom_append (CallSite.fallback.take 2) found
    obtain ⟨right, rfl, -⟩ := matchFrom_text.1 bars
    refine absurd ?_ (scrambler.no_bar nonempty)
    rw [whole]
    simp

theorem dropWhile_of_head {p : Char → Bool} {cs : List Char} (stops : cs.head?.any p = false) :
    cs.dropWhile p = cs := by
  cases cs with
  | nil => rfl
  | cons c cs =>
    have fails : p c = false := by
      simpa using stops
    simp [fails]

theorem not_nested {right rest : List Char} (closes : closesSoon right = true) :
    ((right.dropWhile isBlank).dropWhile isNameChar).dropWhile isBlank ≠ '(' :: rest := by
  intro opens
  have noBlank : right.head?.any isBlank = false := by
    cases right with
    | nil => rfl
    | cons c right =>
      by_contra blank
      have blank : isBlank c = true := by
        simpa using blank
      have other : isNameChar c = false := by
        by_contra named
        rw [isBlank_of_nameChar (by simpa using named)] at blank
        cases blank
      simp only [closesSoon, List.dropWhile_cons, other, Bool.false_eq_true, if_false,
        List.head?_cons, Option.any_some, Bool.or_eq_true, beq_iff_eq] at closes
      rcases closes with (rfl | rfl) | rfl <;> exact absurd blank (by decide)
  rw [dropWhile_of_head noBlank] at opens
  unfold closesSoon at closes
  cases marks : right.dropWhile isNameChar with
  | nil => simp [marks] at closes
  | cons d marks' =>
    rw [marks] at opens closes
    simp only [List.head?_cons, Option.any_some, Bool.or_eq_true, beq_iff_eq] at closes
    rcases closes with (rfl | rfl) | rfl
    all_goals
      rw [dropWhile_of_head rfl, List.cons.injEq] at opens
      exact absurd opens.1 (by decide)

theorem no_encoding {steps : List Step} (nonempty : steps ≠ []) :
    CallSite.encoding.search? (scrambler.script steps).toList = none := by
  rw [search?, firstSuffix?_eq_none]
  intro before rest whole
  cases found : matchFrom [] CallSite.encoding rest with
  | none => rfl
  | some result =>
    obtain ⟨before', rest', captured, rfl, nested⟩ :=
      matchFrom_append (CallSite.encoding.take 8) found
    obtain ⟨right, rfl, afterParen⟩ := matchFrom_text.1 nested
    obtain ⟨-, afterBlanks⟩ := matchFrom_run.1 afterParen
    obtain ⟨-, afterName⟩ := matchFrom_capture.1 afterBlanks
    obtain ⟨-, afterBlanks'⟩ := matchFrom_run.1 afterName
    obtain ⟨last, opens, -⟩ := matchFrom_text.1 afterBlanks'
    have closed := scrambler.parensClosed_script nonempty
    rw [whole, ← List.append_assoc] at closed
    exact absurd opens (not_nested (closesSoon_of_parensClosed closed))

theorem matchFrom_driver (steps : List Step) (long : 2 ≤ scrambler.driver.toList.length) :
    matchFrom [] CallSite.definition (scrambler.driver.toList ++ '=' :: scrambler.closing steps) =
      some scrambler.driver.toList := by
  have stops : ('=' :: scrambler.closing steps).head?.any isNameChar = false := rfl
  obtain ⟨taken, left⟩ := Lexeme.takeWhile_run (all_nameChar scrambler.driver_plain) stops
  rw [CallSite.definition, matchFrom_capture, taken, left]
  refine ⟨long, ?_⟩
  unfold closing
  simp [matchFrom, after?, blanks, isBlank, isNameChar]

theorem opening_semicolon : ∃ front, scrambler.opening = front ++ [';'] := by
  unfold opening
  have last : ":function(a,b)\x7ba.splice(b,1)\x7d\x7d;".toList =
      ":function(a,b)\x7ba.splice(b,1)\x7d\x7d".toList ++ [';'] := by
    decide
  rw [last]
  simp only [← List.append_assoc, ← List.cons_append]
  exact ⟨_, rfl⟩

theorem definition_captures {cs name : List Char}
    (found : matchFrom [] CallSite.definition cs = some name) :
    ∃ spaces right, cs = name ++ spaces ++ '=' :: right ∧ 2 ≤ name.length ∧
      name.all isNameChar = true ∧ spaces.all isBlank = true ∧ isAside right = false := by
  obtain ⟨long, afterName⟩ := matchFrom_capture.1 found
  obtain rfl : name = cs.takeWhile isNameChar := matchFrom_captured _ rfl afterName
  obtain ⟨-, afterBlanks⟩ := matchFrom_run.1 afterName
  obtain ⟨right, equals, afterEquals⟩ := matchFrom_text.1 afterBlanks
  refine ⟨(cs.dropWhile isNameChar).takeWhile isBlank, right, ?_, long, List.all_takeWhile,
    List.all_takeWhile, ?_⟩
  · have behind : (cs.dropWhile isNameChar).dropWhile isBlank = '=' :: right := equals
    rw [← behind, List.append_assoc, List.takeWhile_append_dropWhile,
      List.takeWhile_append_dropWhile]
  · by_contra aside
    obtain ⟨blank, -⟩ := aside_not_blank (by simpa using aside)
    obtain ⟨-, afterBlanks'⟩ := matchFrom_run.1 afterEquals
    rw [blank] at afterBlanks'
    obtain ⟨_, rfl, -⟩ := matchFrom_text.1 afterBlanks'
    exact aside rfl

theorem name_behind_semicolon {front text left name spaces : List Char}
    (plain : text.all isNameChar = true) (named : name.all isNameChar = true)
    (blank : spaces.all isBlank = true) (same : front ++ ';' :: text = left ++ (name ++ spaces)) :
    spaces = [] ∧ ∃ middle, left = front ++ ';' :: middle ∧ text = middle ++ name := by
  have absent : ';' ∉ name ++ spaces := by
    rw [List.mem_append, not_or]
    exact ⟨fun member => absurd (List.all_eq_true.1 named _ member) (by decide),
      fun member => absurd (List.all_eq_true.1 blank _ member) (by decide)⟩
  obtain ⟨middle, start, whole⟩ := append_split_last absent same
  have noSpaces : spaces = [] := by
    rw [List.eq_nil_iff_forall_not_mem]
    intro c member
    have inName : isNameChar c = true :=
      List.all_eq_true.1 plain c (by rw [whole]; simp [member])
    have inBlanks := List.all_eq_true.1 blank c member
    rw [isBlank_of_nameChar inName] at inBlanks
    cases inBlanks
  rw [noSpaces, List.append_nil] at whole
  exact ⟨noSpaces, middle, start, whole⟩

theorem definition_of_driver {steps : List Step} (nonempty : steps ≠ []) {name : List Char}
    (found : CallSite.definition.search? (scrambler.script steps).toList = some name) :
    name = scrambler.driver.toList := by
  rw [search?, firstSuffix?_eq_some, script_split _ nonempty] at found
  obtain ⟨before, rest, whole, here, first⟩ := found
  obtain ⟨spaces, right, rfl, long, named, blank, noAside⟩ := definition_captures here
  rw [← List.append_assoc] at whole
  rcases @equals_follow scrambler steps _ right whole with aside | ⟨left, rfl⟩
  · rw [noAside] at aside
    cases aside
  · obtain ⟨front, ends⟩ := scrambler.opening_semicolon
    rw [ends, List.append_assoc, List.singleton_append] at left
    obtain ⟨-, middle, start, driver⟩ :=
      name_behind_semicolon (all_nameChar scrambler.driver_plain) named blank left.symm
    cases middle with
    | nil => exact driver.symm
    | cons c middle =>
      -- a longer suffix of the script would match first
      have enough : 2 ≤ scrambler.driver.toList.length := by
        rw [driver, List.length_append]
        omega
      have earlier := first scrambler.opening
        (scrambler.driver.toList ++ '=' :: scrambler.closing steps) (by rw [List.append_assoc])
        (by rw [start, ends]; simp)
      rw [scrambler.matchFrom_driver steps enough] at earlier
      cases earlier

theorem locate_script {steps : List Step} (nonempty : steps ≠ []) {name : String}
    (found : CallSite.locate (scrambler.script steps) = some name) : name = scrambler.driver := by
  unfold CallSite.locate CallSite.idioms at found
  obtain ⟨text, site, rfl⟩ := Option.map_eq_some_iff.1 found
  simp only [List.findSome?_cons, scrambler.no_decoding nonempty, scrambler.no_fallback nonempty,
    scrambler.no_encoding nonempty, List.findSome?_nil] at site
  cases here : CallSite.definition.search? (scrambler.script steps).toList with
  | none =>
    rw [here] at site
    cases site
  | some name =>
    rw [here] at site
    have same : name = text := Option.some.inj site
    rw [← same, scrambler.definition_of_driver nonempty here, String.ofList_toList]

end Scrambler

end PlayerCipher
