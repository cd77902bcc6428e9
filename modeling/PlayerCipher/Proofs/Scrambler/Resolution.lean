import PlayerCipher.Cipher
import PlayerCipher.Proofs.Scrambler.CallSite
import PlayerCipher.Proofs.Scrambler.Calls

/-! Resolution undoes scrambling.
A helper of the script may call another one by accident, as its body may use a helper's name for
a method of arrays. The driver is still told apart: it alone splits its argument, and nothing
else is found at a call site. -/

namespace PlayerCipher

namespace Scrambler

open Lexeme Driver

variable (scrambler : Scrambler)

theorem splitsInput_driver {definition : Definition} {name : String} {steps : List Step}
    (defines : Defines definition name ["a"] (scrambler.driverBody steps)) :
    splitsInput definition = true := by
  obtain ⟨_, params, body, start, offset⟩ := definition
  obtain ⟨_, rfl, bodyOffset, rfl⟩ := defines
  have separator : ∀ offset, (⟨.str, String.ofList ['"', '"'], offset⟩ : Token).contents? =
      some "" := by
    intro offset
    simp [Token.contents?]
  have shape : ∃ o₁ o₂ o₃ o₄ o₅ o₆ o₇ o₈, tokensFrom bodyOffset splitting =
      [⟨.ident, "a", o₁⟩, ⟨.punct, "=", o₂⟩, ⟨.ident, "a", o₃⟩, ⟨.punct, ".", o₄⟩,
        ⟨.ident, "split", o₅⟩, ⟨.punct, "(", o₆⟩, ⟨.str, String.ofList ['"', '"'], o₇⟩,
        ⟨.punct, ")", o₈⟩] := ⟨_, _, _, _, _, _, _, _, rfl⟩
  obtain ⟨o₁, o₂, o₃, o₄, o₅, o₆, o₇, o₈, shape⟩ := shape
  rw [splitsInput, driverBody, tokensFrom_append, shape]
  simp [splits, splitsHere, separator, Token.spells, Token.isMark]

theorem splitsInput_helper {definition : Definition} {name : String} {params : List String}
    {body : List Lexeme} (defines : Defines definition name ("a" :: params) body)
    (plain : ∀ offset, splits "a" (tokensFrom offset body) = false) :
    splitsInput definition = false := by
  obtain ⟨_, _, _, start, offset⟩ := definition
  obtain ⟨_, rfl, _, rfl⟩ := defines
  exact plain _

theorem outranks_helper {located : Option String} {driver helper : Candidate}
    (driverSplits : splitsInput driver.function = true)
    (helperSplits : splitsInput helper.function = false)
    (elsewhere : helper.isLocated located = false) : driver.outranks located helper = true := by
  unfold Candidate.outranks
  rw [driverSplits, helperSplits, elsewhere]
  cases driver.isLocated located <;> rfl

structure Functions (steps : List Step) (swap reverse removeAt driver : Definition) : Prop where
  swap : Defines swap scrambler.names.swap ["a", "b"] swapBody
  reverse : Defines reverse scrambler.names.reverse ["a"] reverseBody
  removeAt : Defines removeAt scrambler.names.removeAt ["a", "b"] removeBody
  driver : Defines driver scrambler.driver ["a"] (scrambler.driverBody steps)

section

variable {scrambler} {steps : List Step} {swap reverse removeAt driver : Definition}

theorem Functions.helper (functions : scrambler.Functions steps swap reverse removeAt driver)
    {helper : Definition} (member : helper ∈ [swap, reverse, removeAt]) :
    splitsInput helper = false ∧ ∃ kind, helper.name = some (scrambler.names.get kind) := by
  simp only [List.mem_cons, List.not_mem_nil, or_false] at member
  rcases member with rfl | rfl | rfl
  · exact ⟨splitsInput_helper functions.swap fun _ => rfl, .swap, functions.swap.name⟩
  · exact ⟨splitsInput_helper functions.reverse fun _ => rfl, .reverse, functions.reverse.name⟩
  · exact ⟨splitsInput_helper functions.removeAt fun _ => rfl, .removeAt, functions.removeAt.name⟩

theorem Functions.calls (functions : scrambler.Functions steps swap reverse removeAt driver)
    (fits : ∀ step ∈ steps, step.operation.fits) :
    (callsIn scrambler.names driver.body).map Call.operation =
      (steps.map Step.operation).map .ok := by
  obtain ⟨offset, body⟩ := functions.driver.body
  rw [body, scrambler.operations_driverBody fits, List.map_map]
  rfl

theorem Functions.outranks (functions : scrambler.Functions steps swap reverse removeAt driver)
    {located : Option String} (site : ∀ name, located = some name → name = scrambler.driver)
    {helper : Definition} (member : helper ∈ [swap, reverse, removeAt]) :
    (candidateOf scrambler.names driver).outranks located (candidateOf scrambler.names helper) =
      true := by
  obtain ⟨plain, kind, named⟩ := functions.helper member
  have elsewhere : (candidateOf scrambler.names helper).isLocated located = false := by
    cases located with
    | none => rfl
    | some name =>
      have other : scrambler.names.get kind ≠ name := by
        rw [site name rfl]
        exact scrambler.names_ne_driver kind
      simp [Candidate.isLocated, candidateOf, named, other]
  exact outranks_helper (splitsInput_driver scrambler functions.driver) plain elsewhere

theorem Functions.callsHelper (functions : scrambler.Functions steps swap reverse removeAt driver)
    (nonempty : steps ≠ []) (fits : ∀ step ∈ steps, step.operation.fits) :
    Driver.callsHelper scrambler.names driver = true := by
  have length := congrArg List.length (functions.calls fits)
  simp only [List.length_map] at length
  have some := List.length_pos_iff.2 nonempty
  rw [Driver.callsHelper, Bool.not_eq_true', List.isEmpty_eq_false_iff, ← List.length_pos_iff]
  omega

theorem Functions.select (functions : scrambler.Functions steps swap reverse removeAt driver)
    (nonempty : steps ≠ []) (fits : ∀ step ∈ steps, step.operation.fits)
    {choice : DriverChoice} (chosen : choice = .auto ∨ choice = .named scrambler.driver)
    {located : Option String} (site : ∀ name, located = some name → name = scrambler.driver) :
    select? [swap, reverse, removeAt, driver] choice scrambler.names located =
      some (candidateOf scrambler.names driver) := by
  have calling := functions.callsHelper nonempty fits
  rcases chosen with rfl | rfl
  · have split : [swap, reverse, removeAt, driver] = [swap, reverse, removeAt] ++ [driver] := rfl
    rw [select?, candidates_eq, split, List.filter_append, List.filter_cons_of_pos calling,
      List.filter_nil, List.map_append, List.map_singleton]
    refine Candidate.best?_last fun other member => ?_
    obtain ⟨helper, among, rfl⟩ := List.mem_map.1 member
    exact functions.outranks site (List.mem_filter.1 among).1
  · have swapOther : scrambler.names.swap ≠ scrambler.driver := scrambler.names_ne_driver .swap
    have reverseOther : scrambler.names.reverse ≠ scrambler.driver :=
      scrambler.names_ne_driver .reverse
    have removeOther : scrambler.names.removeAt ≠ scrambler.driver :=
      scrambler.names_ne_driver .removeAt
    have named : [swap, reverse, removeAt, driver].filter
        (fun function => function.name == some scrambler.driver) = [driver] := by
      simp [functions.swap.name, functions.reverse.name, functions.removeAt.name,
        functions.driver.name, swapOther, reverseOther, removeOther]
    rw [select?, named, candidates_eq, List.filter_cons_of_pos calling]
    rfl

end

/-- Whatever the names are, the cipher of a scrambling script is the recipe that it was made
for. -/
theorem resolution_script {recipe : Recipe} {steps : List Step}
    (carries : steps.map Step.operation = recipe.operations)
    (nonempty : recipe.operations ≠ []) (fits : ∀ operation ∈ recipe.operations, operation.fits)
    (version : ScriptVersion) {choice : DriverChoice}
    (chosen : choice = .auto ∨ choice = .named scrambler.driver) :
    Cipher.ofScript (scrambler.script steps) version choice =
      .ok ⟨version, scrambler.names, recipe⟩ := by
  have someStep : steps ≠ [] := by
    rintro rfl
    exact nonempty carries.symm
  have stepFits : ∀ step ∈ steps, step.operation.fits := by
    intro step member
    apply fits
    rw [← carries]
    exact List.mem_map_of_mem member
  obtain ⟨swap, reverse, removeAt, driver, found, swapDefines, reverseDefines, removeDefines,
    driverDefines⟩ := scrambler.definitions_lexemes steps
  have functions : scrambler.Functions steps swap reverse removeAt driver :=
    ⟨swapDefines, reverseDefines, removeDefines, driverDefines⟩
  have names := scrambler.classify_functions swapDefines reverseDefines removeDefines driverDefines
  have site : ∀ name, located? (scrambler.script steps) choice = some name →
      name = scrambler.driver := by
    intro name located
    rcases chosen with rfl | rfl
    · exact scrambler.locate_script someStep located
    · cases located
  have selected := functions.select someStep stepFits chosen site
  have operations := functions.calls stepFits
  rw [carries] at operations
  have read : ∀ name, Driver.operations name (callsIn scrambler.names driver.body) =
      .ok recipe.operations := by
    intro name
    exact operations_ok name operations
  unfold Cipher.ofScript Cipher.ofTokens
  rw [scrambler.tokenize_script someStep, found]
  simp only [names, record, selected, recipeOf, candidateOf, read]
  rfl

/-- A script whose helpers have the names of methods that its bodies call. -/
def colliding : Scrambler where
  object := "a"
  names :=
    { swap := "reverse"
      reverse := "splice"
      removeAt := "length"
      swap_ne_empty := by decide
      reverse_ne_empty := by decide
      removeAt_ne_empty := by decide
      reverse_ne_swap := by decide
      removeAt_ne_swap := by decide
      removeAt_ne_reverse := by decide }
  driver := "async"
  object_plain := by decide
  names_plain kind := by cases kind <;> decide
  driver_plain := by decide
  names_ne_driver kind := by cases kind <;> decide
  names_ne_split kind := by cases kind <;> decide
  names_ne_join kind := by cases kind <;> decide

theorem resolution_colliding :
    let steps : List Step := [.swap 18446744073709551615,
      .reverse (some ⟨['0'], isDecimal_toDigits 0⟩), .removeAt 2, .reverse none]
    let recipe : Recipe := ⟨[.swap 18446744073709551615, .reverse, .removeAt 2, .reverse]⟩
    steps.map Step.operation = recipe.operations ∧ recipe.operations ≠ [] ∧
      (∀ operation ∈ recipe.operations, operation.fits) ∧
      Cipher.ofScript (colliding.script steps) ⟨"v1"⟩ .auto =
        .ok ⟨⟨"v1"⟩, colliding.names, recipe⟩ ∧
      Cipher.ofScript (colliding.script steps) ⟨"v1"⟩ (.named "async") =
        .ok ⟨⟨"v1"⟩, colliding.names, recipe⟩ := by
  intro steps recipe
  have carries : steps.map Step.operation = recipe.operations := rfl
  have nonempty : recipe.operations ≠ [] := List.cons_ne_nil _ _
  have fits : ∀ operation ∈ recipe.operations, operation.fits := by
    simp [recipe, Operation.fits, Text.indexLimit, UInt64.size]
  exact ⟨carries, nonempty, fits,
    resolution_script colliding carries nonempty fits ⟨"v1"⟩ (.inl rfl),
    resolution_script colliding carries nonempty fits ⟨"v1"⟩ (.inr rfl)⟩

end Scrambler

end PlayerCipher
