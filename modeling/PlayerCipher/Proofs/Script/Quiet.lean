import PlayerCipher.Proofs.Script.Balance
import PlayerCipher.Driver.Call

/-! Quiet tokens.
A token reveals a definition only as the word `function`, as an arrow, or as a name between a
brace or comma and a parenthesis. Any other token is quiet: the search for definitions and the
search for calls step over it. A helper call is stepped over with its arguments. -/

namespace PlayerCipher

namespace Definition

/-- Whether no definition is revealed at `token` between these neighbours. -/
def isQuiet (last : Option Token) (token : Token) (next : Option Token) : Bool :=
  !token.spells "function" && !token.isMark "=>" &&
    !(token.kind == .ident && last.any (fun t => t.isMark "\x7b" || t.isMark ",") &&
      next.any (·.isMark "("))

variable {before after : List Token} {token : Token}

theorem shorthandParts?_quiet (quiet : isQuiet before.head? token after.head? = true) :
    shorthandParts? before token after = none := by
  unfold shorthandParts?
  split
  · rename_i named
    cases before with
    | nil => rfl
    | cons last before =>
      by_cases leads : (last.isMark "\x7b" || last.isMark ",") = true
      · cases after with
        | nil => simp [braced?, leads]
        | cons opener after =>
          simp only [isQuiet, List.head?_cons, Option.any_some, named.1, leads] at quiet
          have closed : opener.isMark "(" = false := by
            simp_all
          simp [braced?, leads, closed]
      · simp only [if_neg leads]
  · rfl

theorem at?_quiet (place : Nat) (quiet : isQuiet before.head? token after.head? = true) :
    at? before place token after = none := by
  have parts := shorthandParts?_quiet quiet
  simp only [isQuiet, Bool.and_eq_true, Bool.not_eq_true'] at quiet
  simp [at?, quiet.1.1, quiet.1.2, ofShorthand?, parts]

theorem nestedLength?_quiet (quiet : isQuiet before.head? token after.head? = true) :
    Call.nestedLength? before token after = none := by
  have parts := shorthandParts?_quiet quiet
  simp only [isQuiet, Bool.and_eq_true, Bool.not_eq_true'] at quiet
  simp [Call.nestedLength?, quiet.1.1, quiet.1.2, parts]

/-- Whether all tokens of a run are quiet between the neighbours `last` and `next` of the run. -/
def quietRun (last next : Option Token) : List Token → Bool
  | [] => true
  | token :: tokens =>
    isQuiet last token (tokens.head?.or next) && quietRun (some token) next tokens

theorem quietRun_append (us : List Token) (next : Option Token) (ts : List Token) :
    ∀ last, quietRun last next (ts ++ us) =
      (quietRun last (us.head?.or next) ts && quietRun (ts.getLast?.or last) next us) := by
  induction ts with
  | nil =>
    intro last
    simp [quietRun]
  | cons token ts ih =>
    intro last
    have ends : (token :: ts).getLast?.or last = ts.getLast?.or (some token) := by
      cases ts <;> simp [List.getLast?_cons]
    simp only [List.cons_append, quietRun, ih, ends, List.head?_append, Option.or_assoc,
      Bool.and_assoc]

theorem scan_quiet (run rest : List Token) :
    ∀ {before : List Token} (found : List Definition) (place : Nat),
      quietRun before.head? rest.head? run = true →
      scan found before place (run ++ rest) =
        scan found (run.reverse ++ before) (place + run.length) rest := by
  induction run with
  | nil =>
    intro before found place _
    rfl
  | cons token run ih =>
    intro before found place quiet
    rw [quietRun, ← List.head?_append, Bool.and_eq_true] at quiet
    rw [List.cons_append, scan, at?_quiet place quiet.1]
    have moved : place + (run.length + 1) = place + 1 + run.length := by
      omega
    have rest := @ih (token :: before) found (place + 1) quiet.2
    simp only [rest, List.reverse_cons, List.append_assoc, List.singleton_append,
      List.length_cons, moved]

theorem isQuiet_word {last next : Option Token} {text : String} (offset : Nat)
    (free : Token.isReserved text = false)
    (apart : last.any (fun t => t.isMark "\x7b" || t.isMark ",") = false ∨
      next.any (·.isMark "(") = false) : isQuiet last ⟨.ident, text, offset⟩ next = true := by
  have other : text ≠ "function" := by
    rintro rfl
    exact absurd free (by decide)
  have noKeyword : (⟨.ident, text, offset⟩ : Token).spells "function" = false := by
    simp [Token.spells, other]
  have noArrow : (⟨.ident, text, offset⟩ : Token).isMark "=>" = false := rfl
  rw [isQuiet, noKeyword, noArrow]
  rcases apart with left | right
  · simp [left]
  · simp [right]

end Definition

namespace HelperNames

theorem kindCalled?_get (names : HelperNames) (kind : Operation.Kind) :
    names.kindCalled? (names.get kind) = some kind := by
  have reverseSwap := names.reverse_ne_swap.symm
  have removeSwap := names.removeAt_ne_swap.symm
  have removeReverse := names.removeAt_ne_reverse.symm
  cases kind <;>
    simp [kindCalled?, Operation.Kind.all, get, reverseSwap, removeSwap, removeReverse]

theorem kindCalled?_other {names : HelperNames} {name : String}
    (other : ∀ kind, names.get kind ≠ name) : names.kindCalled? name = none := by
  simp [kindCalled?, Operation.Kind.all, other]

end HelperNames

namespace Call

open Definition

/-- Whether a quiet token makes no helper call, judged by its neighbours. -/
def isIdle (names : HelperNames) (last : Option Token) (token : Token) (next : Option Token) :
    Bool :=
  isQuiet last token next &&
    match token.kind with
    | .ident => !next.any (·.isMark "(") || (names.kindCalled? token.text).isNone
    | .str => !last.any (·.isMark "[") || (token.contents?.bind names.kindCalled?).isNone
    | _ => true

def idleRun (names : HelperNames) (last next : Option Token) : List Token → Bool
  | [] => true
  | token :: tokens =>
    isIdle names last token (tokens.head?.or next) && idleRun names (some token) next tokens

variable {names : HelperNames} {before after : List Token} {token : Token}

theorem isIdle_word {last next : Option Token} {text : String} (offset : Nat)
    (free : Token.isReserved text = false) (apart : next.any (·.isMark "(") = false) :
    isIdle names last ⟨.ident, text, offset⟩ next = true := by
  rw [isIdle, isQuiet_word offset free (.inr apart)]
  simp [apart]

theorem isIdle_method {dot : Token} {next : Option Token} {text : String} (offset : Nat)
    (free : Token.isReserved text = false) (dots : dot.isMark "." = true)
    (unknown : names.kindCalled? text = none) :
    isIdle names (some dot) ⟨.ident, text, offset⟩ next = true := by
  rw [Token.isMark_iff] at dots
  have apart : (some dot).any (fun t => t.isMark "\x7b" || t.isMark ",") = false := by
    simp [Token.isMark, dots.2]
  rw [isIdle, isQuiet_word offset free (.inl apart)]
  simp [unknown]

theorem callee?_ident {callee : Callee} (kind : token.kind = .ident)
    (found : callee? before token after = some callee) :
    callee.name = token.text ∧ after.head?.any (·.isMark "(") = true := by
  unfold callee? at found
  rw [kind] at found
  cases after with
  | nil => cases found
  | cons opener after =>
    simp only at found
    split at found
    · rename_i opens
      refine ⟨?_, opens⟩
      split at found
      · split at found
        · cases found
          rfl
        · split at found <;> cases found
          rfl
      · split at found <;> cases found
        rfl
      · cases found
        rfl
    · cases found

theorem callee?_str {callee : Callee} (kind : token.kind = .str)
    (found : callee? before token after = some callee) :
    token.contents? = some callee.name ∧ before.head?.any (·.isMark "[") = true := by
  unfold callee? at found
  rw [kind] at found
  simp only at found
  split at found
  · split at found
    · rename_i marks
      obtain ⟨name, contents, same⟩ := Option.map_eq_some_iff.1 found
      cases same
      simp only [Bool.and_eq_true] at marks
      exact ⟨contents, marks.1.1⟩
    · cases found
  · cases found

theorem at?_idle (idle : isIdle names before.head? token after.head? = true) :
    at? names before token after = none := by
  rw [isIdle, Bool.and_eq_true] at idle
  unfold at?
  cases found : callee? before token after with
  | none => rfl
  | some callee =>
    cases kind : token.kind with
    | ident =>
      obtain ⟨name, opens⟩ := callee?_ident kind found
      have unknown : names.kindCalled? token.text = none := by
        simpa [kind, opens] using idle.2
      simp [name, unknown]
    | str =>
      obtain ⟨contents, opens⟩ := callee?_str kind found
      have unknown : names.kindCalled? callee.name = none := by
        simpa [kind, opens, contents] using idle.2
      simp [unknown]
    | number => simp [callee?, kind] at found
    | regex => simp [callee?, kind] at found
    | punct => simp [callee?, kind] at found

theorem scan_idle (run rest : List Token) :
    ∀ {before : List Token} (found : List Call),
      idleRun names before.head? rest.head? run = true →
      scan names found before (run ++ rest) = scan names found (run.reverse ++ before) rest := by
  induction run with
  | nil =>
    intro before found _
    rfl
  | cons token run ih =>
    intro before found idle
    rw [idleRun, ← List.head?_append, Bool.and_eq_true] at idle
    have quiet := (Bool.and_eq_true_iff.1 idle.1).1
    rw [List.cons_append, scan, nestedLength?_quiet quiet, at?_idle idle.1]
    have rest := @ih (token :: before) found idle.2
    simp only [rest, List.reverse_cons, List.append_assoc, List.singleton_append]

theorem scan_called {callee : Callee} {kind : Operation.Kind} {arguments rest : List Token}
    {closer : Token} (found : List Call)
    (quiet : nestedLength? before token after = none)
    (called : callee? before token after = some callee)
    (known : names.kindCalled? callee.name = some kind)
    (behind : after.drop callee.bridge = arguments ++ closer :: rest)
    (balanced : Bracket.Balanced arguments) (closes : closer.closes = true) :
    ∃ call before', call.operation = operationOf kind arguments ∧
      scan names found before (token :: after) = scan names (call :: found) before' rest := by
  have inside := Bracket.inside?_balanced balanced closes rest
  have read : at? names before token after =
      some (⟨kind, Token.render (callee.lead ++ after.take (callee.bridge + arguments.length + 1)),
        operationOf kind arguments⟩, callee.bridge + arguments.length + 1) := by
    simp only [at?, called, known, behind, inside, Option.bind_eq_bind, Option.bind_some,
      List.take_left']
  have left : after.drop (callee.bridge + arguments.length + 1) = rest := by
    rw [Nat.add_assoc, ← List.drop_drop, behind, List.drop_length_add_append]
    rfl
  rw [scan, quiet, read]
  exact ⟨_, _, rfl, congrArg _ left⟩

end Call

end PlayerCipher
