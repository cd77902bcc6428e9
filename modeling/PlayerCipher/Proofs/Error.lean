import Mathlib.Logic.Function.Iterate
import PlayerCipher.Decipherer

/-! Classes of failures.
A failure speaks and counts as the one inside all its layers of sharing. A request may be sent again
where the transport failed, and the layout of scripts may have changed where the script could not be
read; no failure is of both classes. A status counts as a failure of the server also beyond the
statuses of servers, from 600 on. -/

namespace PlayerCipher

namespace Error

/-- No answer came, or one whose status says that a later one may be better. -/
inductive MayPass : Error → Prop where
  | connect : MayPass (.noReply .connect)
  | timeout : MayPass (.noReply .timeout)
  | tooMany (url : String) : MayPass (.badStatus 429 url)
  | server {status : ℕ} (url : String) (from500 : 500 ≤ status) (to599 : status ≤ 599) :
      MayPass (.badStatus status url)

inductive BlamesScript : Error → Prop where
  | classification (cause : ClassifyError) : BlamesScript (.classification cause)
  | recording (cause : RecordError) : BlamesScript (.recording cause)

theorem innermost_ne_shared (e inner : Error) : e.innermost ≠ .shared inner := by
  induction e with
  | shared e ih => exact ih
  | _ => exact nofun

theorem exists_layers (e : Error) : ∃ layers : ℕ, e = shared^[layers] e.innermost := by
  induction e with
  | shared e ih =>
    obtain ⟨layers, whole⟩ := ih
    refine ⟨layers + 1, ?_⟩
    rw [Function.iterate_succ_apply', innermost, ← whole]
  | _ => exact ⟨0, rfl⟩

theorem innermost_layers (layers : ℕ) (e : Error) :
    (shared^[layers] e).innermost = e.innermost := by
  induction layers with
  | zero => rfl
  | succ layers ih => rw [Function.iterate_succ_apply', innermost, ih]

theorem message_shared (e : Error) : (shared e).message = e.message := rfl

theorem message_innermost (e : Error) : e.innermost.message = e.message := by
  induction e with
  | shared e ih => rw [innermost, message_shared, ih]
  | _ => rfl

theorem isTransient_innermost (e : Error) : e.innermost.isTransient = e.isTransient := by
  induction e with
  | shared e ih => rw [innermost, isTransient, ih]
  | _ => rfl

theorem isLayoutChange_innermost (e : Error) :
    e.innermost.isLayoutChange = e.isLayoutChange := by
  induction e with
  | shared e ih => rw [innermost, isLayoutChange, ih]
  | _ => rfl

theorem mayPass_badStatus {status : ℕ} {url : String} :
    MayPass (.badStatus status url) ↔ status = 429 ∨ 500 ≤ status ∧ status ≤ 599 := by
  constructor
  · intro passes
    cases passes with
    | tooMany => exact .inl rfl
    | server _ from500 to599 => exact .inr ⟨from500, to599⟩
  · intro known
    cases known with
    | inl many =>
      subst many
      exact .tooMany url
    | inr server => exact .server url server.1 server.2

theorem isTransient_badStatus {status : ℕ} {url : String} :
    (badStatus status url).isTransient = true ↔
      MayPass (.badStatus status url) ∨ 600 ≤ status := by
  rw [mayPass_badStatus]
  simp only [isTransient, Bool.or_eq_true, beq_iff_eq, decide_eq_true_eq]
  omega

variable {cause : Error}

theorem isTransient_iff (bare : ∀ inner, cause ≠ .shared inner) :
    cause.isTransient = true ↔
      MayPass cause ∨ ∃ status url, cause = .badStatus status url ∧ 600 ≤ status := by
  cases cause with
  | badStatus status url =>
    rw [isTransient_badStatus]
    simp
  | noReply fault =>
    cases fault with
    | connect => exact iff_of_true rfl (.inl .connect)
    | timeout => exact iff_of_true rfl (.inl .timeout)
    | setup | broken => exact iff_of_false nofun nofun
  | shared inner => exact absurd rfl (bare inner)
  | _ => exact iff_of_false nofun nofun

theorem isLayoutChange_iff (bare : ∀ inner, cause ≠ .shared inner) :
    cause.isLayoutChange = true ↔ BlamesScript cause := by
  cases cause with
  | classification cause => exact iff_of_true rfl (.classification cause)
  | recording cause => exact iff_of_true rfl (.recording cause)
  | shared inner => exact absurd rfl (bare inner)
  | _ => exact iff_of_false nofun nofun

theorem not_transient_of_layoutChange (e : Error) (changed : e.isLayoutChange = true) :
    e.isTransient = false := by
  induction e with
  | shared e ih => exact ih changed
  | classification cause => rfl
  | recording cause => rfl
  | _ => cases changed

theorem sharedAmong_error (callers : ℕ) (e : Error) :
    ∃ layers ≤ 1, Decipherer.sharedAmong callers (.error e) = .error (shared^[layers] e) := by
  unfold Decipherer.sharedAmong
  split
  · exact ⟨0, Nat.zero_le 1, rfl⟩
  · exact ⟨1, Nat.le_refl 1, rfl⟩

/-- Message and classes of a failure in any number of layers, as each of several callers may hear
of it, are those of the innermost one, which is in no layer itself. It is transient exactly if that
one may pass or has a status from 600 on, and a change of layout exactly if that one blames the
script, and never both. -/
theorem classes_shared (layers : ℕ) (e : Error) :
    let wrapped := shared^[layers] e
    (∀ callers, ∃ own : ℕ,
      Decipherer.sharedAmong callers (.error e) = .error (shared^[own] e)) ∧
    (∀ inner, e.innermost ≠ .shared inner) ∧ (∃ own : ℕ, e = shared^[own] e.innermost) ∧
    wrapped.message = e.innermost.message ∧
    wrapped.isTransient = e.innermost.isTransient ∧
    wrapped.isLayoutChange = e.innermost.isLayoutChange ∧
    (wrapped.isTransient = true ↔
      MayPass e.innermost ∨ ∃ status url, e.innermost = .badStatus status url ∧ 600 ≤ status) ∧
    (wrapped.isLayoutChange = true ↔ BlamesScript e.innermost) ∧
    ¬(wrapped.isTransient = true ∧ wrapped.isLayoutChange = true) := by
  intro wrapped
  have inside : wrapped.innermost = e.innermost := innermost_layers layers e
  have bare := innermost_ne_shared e
  have transient : wrapped.isTransient = e.innermost.isTransient := by
    rw [← isTransient_innermost wrapped, inside]
  have changed : wrapped.isLayoutChange = e.innermost.isLayoutChange := by
    rw [← isLayoutChange_innermost wrapped, inside]
  refine ⟨fun callers => ?_, bare, exists_layers e, ?_, transient, changed, ?_, ?_, ?_⟩
  · obtain ⟨own, -, heard⟩ := sharedAmong_error callers e
    exact ⟨own, heard⟩
  · rw [← message_innermost wrapped, inside]
  · rw [transient, isTransient_iff bare]
  · rw [changed, isLayoutChange_iff bare]
  · intro ⟨passes, changes⟩
    rw [not_transient_of_layoutChange wrapped changes] at passes
    cases passes

/-- A status beyond those of servers makes a failure transient. -/
theorem isTransient_beyond_server :
    let e : Error := .badStatus 600 "https://www.youtube.com/watch?v=dQw4w9WgXcQ"
    e.isTransient = true ∧ ¬MayPass e := by
  refine ⟨rfl, ?_⟩
  rw [mayPass_badStatus]
  omega

end Error

end PlayerCipher
