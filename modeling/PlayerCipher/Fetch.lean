import PlayerCipher.Error
import PlayerCipher.Text.Utf8

/-! Requests and what they bring.
A fetch is a result together with the URLs that were asked for on the way to it. It ends at
its first failure, and the requests made until then stay counted. -/

namespace PlayerCipher

inductive Reply where
  | failed (fault : RequestFault)
  | answered (status : Nat) (body : List UInt8)
deriving DecidableEq, Repr

abbrev Network := String → Reply

def Network.unreachable : Network := fun _ => .failed .connect

structure Fetch (α : Type) where
  requests : List String
  result : Except Error α

namespace Fetch

def done {α : Type} (result : Except Error α) : Fetch α := ⟨[], result⟩

def andThen {α β : Type} (fetch : Fetch α) (next : α → Fetch β) : Fetch β :=
  match fetch.result with
  | .error e => ⟨fetch.requests, .error e⟩
  | .ok value =>
    let rest := next value
    ⟨fetch.requests ++ rest.requests, rest.result⟩

/-- The text of an answer. Statuses from 200 to 299 are successes; a 204 has no body. -/
def answerText (url : String) : Reply → Except Error String
  | .failed fault => .error (.noReply fault)
  | .answered status body =>
    if 200 ≤ status ∧ status ≤ 299 then
      .ok (if status = 204 then "" else Text.decodeDocument body)
    else .error (.badStatus status url)

def text (network : Network) (url : String) : Fetch String :=
  ⟨[url], answerText url (network url)⟩

theorem andThen_done_ok {α β : Type} (value : α) (next : α → Fetch β) :
    (done (.ok value)).andThen next = next value := rfl

end Fetch

end PlayerCipher
