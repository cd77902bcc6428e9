import Mathlib.Data.List.TakeWhile
import PlayerCipher.Proofs.Helper.Form
import PlayerCipher.Proofs.Helper.Meaning

/-! Running the forms of accepted bodies.
A store that knows the first parameter as the array and the second as the index gives each
form its effect: the three assignments of a swap exchange the first entry with the indexed one,
`reverse` reverses, `splice` drops the indexed entry. -/

namespace PlayerCipher

namespace Body

open Shape

variable {α : Type}

/-- The store knows the first parameter as the array and the second as the index. -/
structure Reads (params : List String) (index : Nat) (store : Store α) : Prop where
  array : ∀ token, isParam params 0 token = true → store.value? token = some .array
  index : ∀ token, isParam params 1 token = true → store.value? token = some (.number index)

theorem start_reads {params : List String} (distinct : params[0]? ≠ params[1]?) (xs : List α)
    (index : Nat) : Reads params index (start params xs index) := by
  match params with
  | [] => simp at distinct
  | [first] =>
    constructor
    · intro token taken
      simp only [isParam, Bool.and_eq_true, beq_iff_eq] at taken
      simp_all [Store.value?, start]
    · intro token taken
      simp [isParam] at taken
  | first :: second :: params =>
    have different : second ≠ first := by simpa [eq_comm] using distinct
    constructor
    · intro token taken
      simp only [isParam, Bool.and_eq_true, beq_iff_eq] at taken
      simp_all [Store.value?, start]
    · intro token taken
      simp only [isParam, Bool.and_eq_true, beq_iff_eq] at taken
      have text : token.text = second := by simpa using taken.2.symm
      have missed : (second == first) = false := by simpa using different
      simp [Store.value?, start, taken.1, text, List.lookup_cons, missed]

theorem Reads.bind {params : List String} {index : Nat} {store : Store α}
    (reads : Reads params index store) {name : String} (fresh : name ∉ params) (x : α) :
    Reads params index { store with names := (name, .entry x) :: store.names } := by
  have other : ∀ position token, isParam params position token = true → token.text ≠ name := by
    intro position token taken same
    simp only [isParam, Bool.and_eq_true, beq_iff_eq] at taken
    rw [same] at taken
    exact fresh (List.mem_of_getElem? taken.2)
  constructor
  · intro token taken
    have missed : (token.text == name) = false := by simpa using other 0 token taken
    have known := reads.array token taken
    simpa [Store.value?, List.lookup_cons, missed] using known
  · intro token taken
    have missed : (token.text == name) = false := by simpa using other 1 token taken
    have known := reads.index token taken
    simpa [Store.value?, List.lookup_cons, missed] using known

theorem Reads.set {params : List String} {index : Nat} {store : Store α}
    (reads : Reads params index store) (entries : List α) :
    Reads params index { store with entries } :=
  ⟨reads.array, reads.index⟩

theorem Reads.isArray {params : List String} {index : Nat} {store : Store α}
    (reads : Reads params index store) {token : Token}
    (taken : isParam params 0 token = true) : store.isArray token = true := by
  simp [Store.isArray, reads.array token taken]

/-- The index that a body works with, before it is compared with the length. -/
def reduced? (modular : Bool) (length index : Nat) : Option Nat :=
  if modular then if length = 0 then none else some (index % length) else some index

theorem arithmetic?_index {params : List String} {index : Nat} {store : Store α}
    (reads : Reads params index store) {modular : Bool} {tokens : List Token}
    (form : IsIndex params modular tokens) :
    store.arithmetic? tokens = reduced? modular store.entries.length index := by
  cases form with
  | plain taken =>
    simp [Store.arithmetic?, Store.operand?, Store.number?, isParam_kind taken,
      reads.index _ taken, reduced?]
  | remainder taken =>
    simp only [isRemainder, Bool.and_eq_true] at taken
    obtain ⟨⟨⟨⟨index, percent⟩, array⟩, dot⟩, length⟩ := taken
    simp [Store.arithmetic?, Store.operand?, Store.number?, isParam_kind index,
      reads.index _ index, reads.isArray array, percent, dot, length, reduced?]

def place? (modular : Bool) (length index : Nat) : Option Nat :=
  (reduced? modular length index).filter fun n => n < length

theorem place?_eq (modular : Bool) (length index : Nat) :
    place? modular length index =
      if modular then if length = 0 then none else some (index % length)
      else if index < length then some index else none := by
  unfold place? reduced?
  cases modular with
  | false => simp [Option.filter]
  | true =>
    by_cases empty : length = 0
    · simp [empty]
    · have below : index % length < length := Nat.mod_lt _ (Nat.pos_of_ne_zero empty)
      simp [empty, below]

theorem arithmetic?_zero (store : Store α) {zero : Token} (isZero : IsZero zero) :
    store.arithmetic? [zero] = some 0 := by
  have read : Text.decimalBelow? Text.indexLimit ['0'] = some 0 := by decide
  simp [Store.arithmetic?, Store.operand?, Store.number?, isZero.1, isZero.2, read]

theorem position?_entry {params : List String} {i : Nat} {store : Store α}
    (reads : Reads params i store) {index tokens : List Token}
    (entry : IsEntry params index tokens) :
    store.position? tokens =
      (store.arithmetic? index).filter fun n => n < store.entries.length := by
  cases entry with
  | access isArray opens closes =>
    simp [Store.position?, reads.isArray isArray, opens, closes]

theorem step?_assignment {store : Store α} {target source : List Token} {equals : Token}
    (isEquals : equals.isMark "=" = true)
    (free : ∀ token ∈ target, token.isMark "=" = false) :
    store.step? (target ++ equals :: source) = store.assign? target source := by
  have all : ∀ token ∈ target, (!token.isMark "=") = true := by simpa using free
  simp [Store.step?, List.dropWhile_append_of_pos all, List.takeWhile_append_of_pos all,
    isEquals]

theorem step?_expression {store : Store α} {statement : List Token}
    (free : ∀ token ∈ statement, token.isMark "=" = false) :
    store.step? statement = store.evaluate? statement := by
  have all : ∀ token ∈ statement, (!token.isMark "=") = true := by simpa using free
  have dropped : (statement.dropWhile fun token => !token.isMark "=") = [] :=
    List.dropWhile_eq_nil_iff.2 all
  simp only [Store.step?, dropped]

theorem last?_of_step? {store result : Store α} {statement : List Token}
    (stepped : store.step? statement = some result) : store.last? statement = some result := by
  simp [Store.last?, stepped]

theorem last?_returned {store : Store α} {word : Token} {rest : List Token}
    (returns : word.spells "return" = true) (stuck : store.step? (word :: rest) = none) :
    store.last? (word :: rest) = store.evaluate? rest := by
  simp [Store.last?, stuck, returns]

theorem evaluate?_reversal {params : List String} {i : Nat} {store : Store α}
    (reads : Reads params i store) {statement : List Token}
    (form : IsReversal params statement) :
    store.evaluate? statement = some { store with entries := store.entries.reverse } := by
  cases form with
  | call isArray isDot isMethod opens closes =>
    simp [Store.evaluate?, Store.method?, reads.isArray isArray, isDot, isMethod, opens, closes]

theorem method?_splice {params : List String} {i : Nat} {store : Store α}
    (reads : Reads params i store) {modular : Bool} {method comma count : Token}
    {index : List Token} (isMethod : method.spells "splice" = true)
    (form : IsIndex params modular index) (isComma : comma.isMark "," = true)
    (countKind : count.kind = .number) (countText : count.text = "1") :
    store.method? method (index ++ [comma, count]) =
      (place? modular store.entries.length i).map fun n =>
        { store with entries := store.entries.eraseIdx n } := by
  have notReverse : method.spells "reverse" = false := by
    simp [Token.spells, (Token.spells_iff.1 isMethod).2]
  have free : ∀ token ∈ index, (!token.isMark ",") = true := by
    have other : ∀ token ∈ index, token.isMark "," = false :=
      isIndex_not_mark form (by decide) (by decide)
    simpa using other
  have one : Text.decimalBelow? Text.indexLimit ['1'] = some 1 := by decide
  have counted : store.number? count = some 1 := by
    simp [Store.number?, countKind, countText, one]
  have started := arithmetic?_index reads form
  simp only [Store.method?, notReverse, isMethod, List.dropWhile_append_of_pos free,
    List.takeWhile_append_of_pos free, place?]
  simp only [Bool.false_and, Bool.false_eq_true, if_false, if_true, List.dropWhile_cons,
    List.takeWhile_cons, isComma, Bool.not_true, List.append_nil, started, counted]
  cases reduced? modular store.entries.length i with
  | none => rfl
  | some n =>
    rw [Option.filter_some]
    by_cases below : n < store.entries.length
    · rw [if_pos (decide_eq_true below), Option.map_some, List.eraseIdx_eq_take_drop_succ]
      exact if_pos below
    · rw [if_neg (by simpa using below)]
      exact if_neg below

theorem evaluate?_removal {params : List String} {i : Nat} {store : Store α}
    (reads : Reads params i store) {modular : Bool} {statement : List Token}
    (form : IsRemoval params modular statement) :
    store.evaluate? statement =
      (place? modular store.entries.length i).map fun n =>
        { store with entries := store.entries.eraseIdx n } := by
  cases form with
  | @call array dot method opener comma count closer index isArray isDot isMethod opens form
      isComma countKind countText closes =>
    rw [← method?_splice reads isMethod form isComma countKind countText]
    have tail : index ++ [comma, count, closer] = (index ++ [comma, count]) ++ [closer] := by
      simp
    simp only [tail, Store.evaluate?, List.getLast?_concat, List.dropLast_concat,
      reads.isArray isArray, isDot, opens, closes, Bool.and_self, if_true]

theorem evaluate?_dot {store : Store α} {dot : Token} (isDot : dot.isMark "." = true)
    (rest : List Token) : store.evaluate? (dot :: rest) = none := by
  have kind : dot.kind ≠ .ident := by simp [(Token.isMark_iff.1 isDot).1]
  have unknown : store.value? dot = none := by simp [Store.value?, kind]
  have noArray : store.isArray dot = false := by simp [Store.isArray, unknown]
  match rest with
  | [] => simp [Store.evaluate?, unknown]
  | [_] | [_, _] => rfl
  | _ :: _ :: _ :: rest =>
    simp only [Store.evaluate?, noArray, Bool.false_and]
    split <;> rfl

theorem run?_call {store : Store α} {call : List Token} {statements : List (List Token)}
    (isCall : IsMethodCall call)
    (shape : statements = [call] ∨
      ∃ word, statements = [word :: call] ∧ word.spells "return" = true) :
    store.run? statements = store.evaluate? call := by
  obtain ⟨array, dot, rest, rfl, notDot, isDot⟩ := isCall.starts
  rcases shape with rfl | ⟨word, rfl, returns⟩
  · change store.last? _ = _
    rw [Store.last?, step?_expression isCall.free, evaluate?_dot isDot]
    cases store.evaluate? (array :: dot :: rest) <;> simp
  · have free : ∀ token ∈ word :: array :: dot :: rest, token.isMark "=" = false :=
      List.forall_mem_cons.2 ⟨spells_not_mark returns "=", isCall.free⟩
    have stuck : store.step? (word :: array :: dot :: rest) = none := by
      rw [step?_expression free]
      cases rest with
      | nil => rfl
      | cons opener rest =>
        simp only [Store.evaluate?, notDot, Bool.and_false, Bool.false_and]
        split <;> rfl
    exact last?_returned returns stuck

theorem position?_zero {params : List String} {i : Nat} {store : Store α}
    (reads : Reads params i store) {zero : Token} {tokens : List Token} (isZero : IsZero zero)
    (entry : IsEntry params [zero] tokens) :
    store.position? tokens = if 0 < store.entries.length then some 0 else none := by
  simp [position?_entry reads entry, arithmetic?_zero store isZero, Option.filter_some]

theorem position?_index {params : List String} {i : Nat} {store : Store α}
    (reads : Reads params i store) {modular : Bool} {index tokens : List Token}
    (form : IsIndex params modular index) (entry : IsEntry params index tokens) :
    store.position? tokens = place? modular store.entries.length i := by
  rw [position?_entry reads entry, arithmetic?_index reads form]
  rfl

theorem isIdentifier_not_mark {token : Token} (identifier : token.isIdentifier = true)
    (text : String) : token.isMark text = false :=
  Token.isMark_of_kind (by simp [(Token.isIdentifier_iff.1 identifier).1]) text

theorem isDeclaration_not_mark {token : Token} (declares : isDeclaration token = true)
    (text : String) : token.isMark text = false := by
  simp only [isDeclaration, Bool.or_eq_true] at declares
  rcases declares with (spelled | spelled) | spelled <;> exact spells_not_mark spelled text

theorem assign?_name {params : List String} {store : Store α} {target source index : List Token}
    {name : Token} (shape : target = [name] ∨
      ∃ word, target = [word, name] ∧ isDeclaration word = true)
    (identifier : name.isIdentifier = true) (entry : IsEntry params index source) :
    store.assign? target source =
      ((store.position? source).bind fun n => store.entries[n]?).map fun x =>
        { store with names := (name.text, .entry x) :: store.names } := by
  have noEntry : store.position? target = none := by
    rcases shape with rfl | ⟨word, rfl, _⟩ <;> rfl
  cases entry with
  | @access array opener closer isArray opens closes =>
    simp only [Store.assign?, noEntry]
    cases store.position? (array :: opener :: (index ++ [closer])) with
    | none => rfl
    | some n =>
      cases read : store.entries[n]? with
      | none => simp [read]
      | some x => rcases shape with rfl | ⟨word, rfl, declares⟩ <;> simp_all

theorem step?_keeps {params : List String} {i : Nat} {store : Store α}
    (reads : Reads params i store) {statement : List Token} {name : Token}
    (keeps : Keeps params statement name) :
    store.step? statement =
      store.entries[0]?.map fun x =>
        { store with names := (name.text, .entry x) :: store.names } := by
  obtain ⟨target, equals, source, zero, rfl, shape, isEquals, isZero, entry⟩ := keeps.parts
  have free : ∀ token ∈ target, token.isMark "=" = false := by
    rcases shape with rfl | ⟨word, rfl, declares⟩
    · simp [isIdentifier_not_mark keeps.isIdentifier]
    · simp [isIdentifier_not_mark keeps.isIdentifier, isDeclaration_not_mark declares]
  rw [step?_assignment isEquals free, assign?_name shape keeps.isIdentifier entry,
    position?_zero reads isZero entry]
  congr 1
  cases store.entries <;> simp

theorem step?_moves {params : List String} {i : Nat} {store : Store α}
    (reads : Reads params i store) {modular : Bool} {statement : List Token}
    (moves : Moves params modular statement) :
    store.step? statement =
      (place? modular store.entries.length i).bind fun n =>
        store.entries[n]?.map fun x => { store with entries := store.entries.set 0 x } := by
  obtain ⟨target, equals, source, zero, index, rfl, isZero, entry, isEquals, form, entry'⟩ :=
    moves
  rw [step?_assignment isEquals (isEntry_not_equals entry (isZero_not_equals isZero))]
  have target := position?_zero reads isZero entry
  have source := position?_index reads form entry'
  cases entry' with
  | access isArray opens closes =>
    by_cases empty : store.entries = []
    · have nowhere : place? modular store.entries.length i = none := by
        simp [place?_eq, empty]
      simp only [empty, List.length_nil, Nat.lt_irrefl, if_false] at target
      simp only [Store.assign?, target, source, nowhere]
      rfl
    · have filled : 0 < store.entries.length := List.length_pos_iff.2 empty
      simp only [filled, if_true] at target
      simp only [Store.assign?, target, source]
      cases place? modular store.entries.length i with
      | none => rfl
      | some n => cases read : store.entries[n]? <;> simp [read]

theorem step?_restores {params : List String} {i : Nat} {store : Store α}
    (reads : Reads params i store) {modular : Bool} {name : String} {statement : List Token}
    (restores : Restores params modular name statement) {x : α}
    (known : store.names.lookup name = some (.entry x)) :
    store.step? statement =
      (place? modular store.entries.length i).map fun n =>
        { store with entries := store.entries.set n x } := by
  obtain ⟨target, equals, source, index, rfl, form, entry, isEquals, identifier, rfl⟩ := restores
  have free := isEntry_not_equals entry (isIndex_not_mark form (by decide) (by decide))
  have value : store.value? source = some (.entry x) := by
    simp [Store.value?, (Token.isIdentifier_iff.1 identifier).1, known]
  rw [step?_assignment isEquals free]
  have target := position?_index reads form entry
  unfold Store.assign?
  rw [target]
  cases place? modular store.entries.length i with
  | none => rfl
  | some n => simp [value]

theorem last?_returns {params : List String} {i : Nat} {store : Store α}
    (reads : Reads params i store) {statement : List Token}
    (returns : Returns params statement) : store.last? statement = some store := by
  obtain ⟨word, array, rfl, isReturn, isArray⟩ := returns
  have free : ∀ token ∈ [word, array], token.isMark "=" = false := by
    simp [spells_not_mark isReturn, isParam_not_mark isArray]
  have stuck : store.step? [word, array] = none := by
    rw [step?_expression free]
    rfl
  rw [last?_returned isReturn stuck]
  simp [Store.evaluate?, reads.array array isArray]

theorem place?_lt {modular : Bool} {length i n : Nat}
    (found : place? modular length i = some n) : n < length := by
  unfold place? at found
  simpa using (Option.filter_eq_some_iff.1 found).2

theorem run?_next {store : Store α} {statement next : List Token}
    {statements : List (List Token)} :
    store.run? (statement :: next :: statements) =
      (store.step? statement).bind fun store => store.run? (next :: statements) := rfl

theorem run?_ending {params : List String} {i : Nat} {store result : Store α}
    (reads : Reads params i result) {statement : List Token} {rest : List (List Token)}
    (stepped : store.step? statement = some result)
    (ending : rest = [] ∨ ∃ last, rest = [last] ∧ Returns params last) :
    store.run? (statement :: rest) = some result := by
  rcases ending with rfl | ⟨last, rfl, returns⟩
  · exact last?_of_step? stepped
  · rw [run?_next, stepped]
    exact last?_returns reads returns

theorem run?_swap {params : List String} {i : Nat} {store : Store α}
    (reads : Reads params i store) {modular : Bool} {keep move restore : List Token}
    {name : Token} {rest : List (List Token)} (keeps : Keeps params keep name)
    (moves : Moves params modular move) (restores : Restores params modular name.text restore)
    (ending : rest = [] ∨ ∃ last, rest = [last] ∧ Returns params last) :
    (store.run? (keep :: move :: restore :: rest)).map Store.entries =
      (place? modular store.entries.length i).map (exchangeFirst store.entries) := by
  rw [run?_next, step?_keeps reads keeps]
  cases first : store.entries[0]? with
  | none =>
    have empty : store.entries = [] := by simpa using first
    simp [place?_eq, empty]
  | some x =>
    have reads₁ := reads.bind keeps.fresh x
    rw [Option.map_some, Option.bind_some, run?_next, step?_moves reads₁ moves]
    cases placed : place? modular store.entries.length i with
    | none => rfl
    | some n =>
      have below := place?_lt placed
      have other : store.entries[n]? = some store.entries[n] := List.getElem?_eq_getElem below
      have reads₂ := reads₁.set (store.entries.set 0 store.entries[n])
      have known : (List.lookup name.text ((name.text, Value.entry x) :: store.names)) =
          some (.entry x) := by simp
      have restored := step?_restores reads₂ restores known
      simp only [List.length_set, placed, Option.map_some] at restored
      have reads₃ := reads₂.set ((store.entries.set 0 store.entries[n]).set n x)
      simp only [Option.bind_some, other, Option.map_some]
      rw [run?_ending reads₃ restored ending]
      simp [exchangeFirst, first, other]

end Body

end PlayerCipher
