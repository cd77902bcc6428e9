import Mathlib.Data.List.Basic

/-! Checked steps.
Scanning goes by places: bytes of a source, tokens of a run. A checked step names what it needs.
A read needs a place inside, a slice needs ends in order and inside, a difference must not fall
below zero, and each pass of a loop must move on. What is missing is a fault. -/

namespace PlayerCipher

inductive Fault where
  /-- A place past the end. -/
  | index
  /-- A slice with its ends crossed or past the end. -/
  | range
  /-- A slice that cuts a character. -/
  | boundary
  /-- A difference below zero. -/
  | underflow
  /-- A pass of a loop that does not move on. -/
  | stuck
deriving DecidableEq, Repr

abbrev Checked := Except Fault

namespace Checked

variable {α β σ : Type}

@[simp] theorem ok_bind (a : α) (f : α → Checked β) : ((.ok a : Checked α) >>= f) = f a := rfl

@[simp] theorem pure_eq_ok (a : α) : (pure a : Checked α) = .ok a := rfl

def get (items : List α) (place : Nat) : Checked α :=
  match items[place]? with
  | some item => .ok item
  | none => .error .index

def slice (items : List α) (start stop : Nat) : Checked (List α) :=
  if start ≤ stop ∧ stop ≤ items.length then .ok ((items.drop start).take (stop - start))
  else .error .range

def sub (a b : Nat) : Checked Nat :=
  if b ≤ a then .ok (a - b) else .error .underflow

def filter (test : α → Checked Bool) : List α → Checked (List α)
  | [] => .ok []
  | item :: items => do
    let holds ← test item
    let rest ← filter test items
    return if holds then item :: rest else rest

def map (f : α → Checked β) : List α → Checked (List β)
  | [] => .ok []
  | item :: items => do
    let image ← f item
    let rest ← map f items
    return image :: rest

theorem get_ok {items : List α} {place : Nat} {item : α} (found : items[place]? = some item) :
    get items place = .ok item := by
  rw [get, found]

theorem slice_ok {items before middle after : List α} (whole : items = before ++ middle ++ after)
    {start stop : Nat} (starts : start = before.length)
    (stops : stop = before.length + middle.length) : slice items start stop = .ok middle := by
  have bounds : start ≤ stop ∧ stop ≤ items.length := by
    simp only [whole, List.length_append]
    omega
  have count : stop - start = middle.length := by
    omega
  rw [slice, if_pos bounds, count, whole, starts, List.append_assoc, List.drop_left,
    List.take_left]

theorem sub_ok {a b c : Nat} (sum : a = c + b) : sub a b = .ok c := by
  have bound : b ≤ a := by
    omega
  rw [sub, if_pos bound, sum, Nat.add_sub_cancel]

theorem filter_ok {test : α → Checked Bool} {p : α → Bool}
    (same : ∀ item, test item = .ok (p item)) (items : List α) :
    filter test items = .ok (items.filter p) := by
  induction items with
  | nil => rfl
  | cons item items ih =>
    rw [filter, same, ok_bind, ih, ok_bind, List.filter_cons]
    rfl

theorem map_ok {f : α → Checked β} {g : α → β} (same : ∀ item, f item = .ok (g item))
    (items : List α) : map f items = .ok (items.map g) := by
  induction items with
  | nil => rfl
  | cons item items ih =>
    rw [map, same, ok_bind, ih]
    rfl

/-- What one pass of a loop does: it goes on at a place, or it ends the loop. -/
inductive Pass (σ β : Type) where
  | next (place : Nat) (state : σ)
  | done (result : β)

/-- A loop that runs as long as its place is below `length`. -/
def loop (length : Nat) (pass : σ → Nat → Checked (Pass σ β)) (finish : σ → Nat → β)
    (state : σ) (place : Nat) : Checked β :=
  if place < length then
    match pass state place with
    | .error fault => .error fault
    | .ok (.done result) => .ok result
    | .ok (.next place' state') =>
      if place < place' then loop length pass finish state' place' else .error .stuck
  else .ok (finish state place)
termination_by length - place

variable {length : Nat} {pass : σ → Nat → Checked (Pass σ β)} {finish : σ → Nat → β}
  {state state' : σ} {place place' : Nat}

theorem loop_finish (ends : length ≤ place) :
    loop length pass finish state place = .ok (finish state place) := by
  rw [loop, if_neg (Nat.not_lt.2 ends)]

theorem loop_done {result : β} (inside : place < length)
    (here : pass state place = .ok (.done result)) :
    loop length pass finish state place = .ok result := by
  rw [loop, if_pos inside, here]

theorem loop_next (inside : place < length) (here : pass state place = .ok (.next place' state'))
    (moves : place < place') :
    loop length pass finish state place = loop length pass finish state' place' := by
  rw [loop, if_pos inside, here]
  exact if_pos moves

theorem loop_stretch (count : Nat) :
    ∀ place, (∀ here, place ≤ here → here < place + count →
      here < length ∧ pass state here = .ok (.next (here + 1) state)) →
      loop length pass finish state place = loop length pass finish state (place + count) := by
  induction count with
  | zero =>
    intro place _
    rfl
  | succ count ih =>
    intro place steps
    have first := steps place (Nat.le_refl _) (by omega)
    rw [loop_next first.1 first.2 (Nat.lt_succ_self place), ih (place + 1)]
    · congr 1
      omega
    · intro here low high
      exact steps here (by omega) (by omega)

end Checked

end PlayerCipher
