import PlayerCipher.Proofs.Decipherer.Request

/-! The store does not show in answers.
On a network whose replies depend on the script version alone, a session of requests gets the
answers of a decipherer that resolves every cipher anew. Between two requests a session may
forget any ciphers. What carries the proof is that each cipher in the store is the one that its
version resolves to now, at every URL of that version. -/

namespace PlayerCipher

namespace Decipherer

/-- URLs of one script version have one reply. -/
def RepliesByVersion (d : Decipherer) : Prop :=
  ∀ url other, ScriptVersion.ofUrl url = ScriptVersion.ofUrl other →
    d.network url = d.network other

/-- A site with one script version; everything else on it is one page. -/
def onePlayer (page script : List UInt8) : Decipherer :=
  ⟨fun url => .answered 200 (if ScriptVersion.ofUrl url = ⟨"v42"⟩ then script else page),
    "https://www.youtube.com", .named "K"⟩

theorem onePlayer_repliesByVersion (page script : List UInt8) :
    (onePlayer page script).RepliesByVersion := by
  intro url other same
  simp only [onePlayer, same]

def freshCipher (d : Decipherer) (video : String) : Fetch Cipher :=
  (d.scriptUrl video).andThen fun url => d.resolveAt (.ofUrl url) url

def freshDecipher (d : Decipherer) (signature video : String) : Fetch String :=
  (d.freshCipher video).andThen fun cipher =>
    .done ((cipher.decipher signature).mapError .interpretation)

def freshStreamUrl (d : Decipherer) (query video : String) : Fetch String :=
  (Fetch.done (SignatureCipher.parse query)).andThen fun parsed =>
    (d.freshDecipher parsed.signature video).andThen fun deciphered =>
      .done (parsed.streamUrl deciphered)

end Decipherer

namespace VideoRequest

def fresh (request : VideoRequest) (d : Decipherer) : Fetch Answer :=
  match request with
  | .cipher video => (d.freshCipher video).map .cipher
  | .decipher signature video => (d.freshDecipher signature video).map .text
  | .streamUrl query video => (d.freshStreamUrl query video).map .text

theorem fresh_result (request : VideoRequest) (d : Decipherer) :
    (request.fresh d).result =
      request.plan >>= fun plan => (d.freshCipher plan.video).result >>= plan.use := by
  cases request with
  | cipher video =>
    show (d.freshCipher video).result.map Answer.cipher = (d.freshCipher video).result >>= _
    cases (d.freshCipher video).result <;> rfl
  | decipher signature video =>
    show (d.freshDecipher signature video).result.map Answer.text =
      (d.freshCipher video).result >>= _
    rw [Decipherer.freshDecipher, Fetch.result_andThen]
    cases (d.freshCipher video).result <;> rfl
  | streamUrl query video =>
    simp only [fresh, plan, Fetch.map, Decipherer.freshStreamUrl, Decipherer.freshDecipher]
    cases SignatureCipher.parse query with
    | error e => rfl
    | ok parsed =>
      show _ = (d.freshCipher video).result >>= _
      simp only [Fetch.andThen_done_ok, Fetch.result_andThen]
      cases (d.freshCipher video).result <;> rfl

theorem serve_result (request : VideoRequest) (d : Decipherer) (store : CipherStore) :
    (request.serve d store).1.result =
      request.plan >>= fun plan => (d.videoCipher store plan.video).1.result >>= plan.use := by
  rw [serve_eq]
  cases request.plan with
  | error e => rfl
  | ok plan => exact Fetch.result_andThen _ _

end VideoRequest

namespace CipherStore

/-- Every cipher that `kept` holds stands in `store` too. -/
def Forgets (store kept : CipherStore) : Prop :=
  ∀ version cipher, kept.get? version = some cipher → store.get? version = some cipher

theorem forgets_erase (store : CipherStore) (version : ScriptVersion) :
    store.Forgets (store.erase version) := by
  intro other cipher held
  by_cases same : other = version
  · rw [same, get?_erase_self] at held
    cases held
  · rwa [get?_erase_of_ne same] at held

theorem forgets_clear (store : CipherStore) : store.Forgets store.clear := by
  intro version cipher held
  rw [get?_clear] at held
  cases held

theorem get?_put {store : CipherStore} {version other : ScriptVersion} {cipher held : Cipher}
    (found : (store.put version cipher).get? other = some held) :
    other = version ∧ held = cipher ∨ store.get? other = some held := by
  obtain ⟨entry, inside, rfl⟩ := Option.map_eq_some_iff.1 found
  have whole := (List.take_prefix _ _).find?_eq_some inside
  by_cases same : other = version
  · left
    rw [same, List.find?_cons_of_pos (by simp)] at whole
    cases whole
    exact ⟨same, rfl⟩
  · right
    rw [List.find?_cons_of_neg (by simpa using fun own => same own.symm),
      find?_without_of_ne store.entries same] at whole
    rw [get?, whole]
    rfl

/-- The ciphers of a store are those that their versions resolve to now. -/
def Faithful (store : CipherStore) (d : Decipherer) : Prop :=
  ∀ url cipher, store.get? (.ofUrl url) = some cipher →
    (d.resolveAt (.ofUrl url) url).result = .ok cipher

variable {store kept : CipherStore} {d : Decipherer}

theorem faithful_empty (capacity : Nat) : (empty capacity).Faithful d := by
  intro url cipher held
  rw [get?_empty] at held
  cases held

theorem Faithful.forget (faithful : store.Faithful d) (forgets : store.Forgets kept) :
    kept.Faithful d := by
  intro url cipher held
  exact faithful url cipher (forgets _ _ held)

end CipherStore

namespace Fetch

theorem answerText_ok {url other text : String} {reply : Reply}
    (read : answerText url reply = .ok text) : answerText other reply = .ok text := by
  cases reply with
  | failed fault => cases read
  | answered status body =>
    by_cases success : 200 ≤ status ∧ status ≤ 299
    · rw [answerText, if_pos success] at read ⊢
      exact read
    · rw [answerText, if_neg success] at read
      cases read

end Fetch

namespace Decipherer

variable {d : Decipherer} {store : CipherStore}

theorem resolveAt_other (byVersion : d.RepliesByVersion) {url other : String} {cipher : Cipher}
    (same : ScriptVersion.ofUrl other = ScriptVersion.ofUrl url)
    (resolved : (d.resolveAt (.ofUrl url) url).result = .ok cipher) :
    (d.resolveAt (.ofUrl other) other).result = .ok cipher := by
  rw [resolveAt_result] at resolved ⊢
  rw [same]
  cases read : (Fetch.text d.network url).result with
  | error e =>
    rw [read] at resolved
    cases resolved
  | ok source =>
    have text : (Fetch.text d.network other).result = .ok source := by
      unfold Fetch.text
      rw [byVersion other url same]
      exact Fetch.answerText_ok read
    rw [read] at resolved
    rw [text]
    exact resolved

theorem faithful_put (byVersion : d.RepliesByVersion) {url : String} {cipher : Cipher}
    (faithful : store.Faithful d)
    (resolved : (d.resolveAt (.ofUrl url) url).result = .ok cipher) :
    (store.put (.ofUrl url) cipher).Faithful d := by
  intro other held found
  rcases CipherStore.get?_put found with ⟨same, rfl⟩ | before
  · exact resolveAt_other byVersion same resolved
  · exact faithful other held before

/-- With a faithful store the cipher at a URL is the one resolved anew, and the store stays
faithful. -/
theorem cipherAt_faithful (byVersion : d.RepliesByVersion) (faithful : store.Faithful d)
    (url : String) :
    (d.cipherAt store url).1.result = (d.resolveAt (.ofUrl url) url).result ∧
      (d.cipherAt store url).2.Faithful d := by
  cases held : store.get? (.ofUrl url) with
  | some cipher =>
    rw [cipherAt, CipherStore.getOrResolve_stored held]
    exact ⟨(faithful url cipher held).symm, faithful⟩
  | none =>
    rw [cipherAt, CipherStore.getOrResolve_missing held]
    refine ⟨rfl, ?_⟩
    cases resolved : (d.resolveAt (.ofUrl url) url).result with
    | error e => exact faithful
    | ok cipher => exact faithful_put byVersion faithful resolved

theorem videoCipher_faithful (byVersion : d.RepliesByVersion) (faithful : store.Faithful d)
    (video : String) :
    (d.videoCipher store video).1.result = (d.freshCipher video).result ∧
      (d.videoCipher store video).2.Faithful d := by
  rw [freshCipher, Fetch.result_andThen]
  cases found : (d.scriptUrl video).result with
  | error e =>
    rw [videoCipher_error found]
    exact ⟨rfl, faithful⟩
  | ok url =>
    rw [videoCipher_ok found]
    exact cipherAt_faithful byVersion faithful url

end Decipherer

namespace VideoRequest

variable {d : Decipherer} {store : CipherStore}

theorem serve_faithful (request : VideoRequest) (byVersion : d.RepliesByVersion)
    (faithful : store.Faithful d) :
    (request.serve d store).1.result = (request.fresh d).result ∧
      (request.serve d store).2.Faithful d := by
  constructor
  · rw [serve_result, fresh_result]
    cases request.plan with
    | error e => rfl
    | ok plan =>
      have same := (Decipherer.videoCipher_faithful byVersion faithful plan.video).1
      show (d.videoCipher store plan.video).1.result >>= plan.use =
        (d.freshCipher plan.video).result >>= plan.use
      rw [same]
  · rw [serve_eq]
    cases request.plan with
    | error e => exact faithful
    | ok plan => exact (Decipherer.videoCipher_faithful byVersion faithful plan.video).2

end VideoRequest

/-- A result with the sharing of its failure left aside. -/
def bare {α : Type} (result : Except Error α) : Except Error α :=
  result.mapError Error.innermost

theorem bare_shared {α : Type} (result : Except Error α) :
    bare (result.mapError .shared) = bare result := by
  cases result <;> rfl

/-- Stores that a session of requests may reach, with the answers heard on the way. A failure may
be heard as a shared one. Ciphers may be erased, all cleared, or lost for any other reason. -/
inductive Session (d : Decipherer) :
    CipherStore → List (VideoRequest × Except Error Answer) → Prop where
  | start (capacity : Nat) : Session d (.empty capacity) []
  | request {store log} (session : Session d store log) (request : VideoRequest)
      (heard : Except Error Answer)
      (same : bare heard = bare (request.serve d store).1.result) :
      Session d (request.serve d store).2 (log ++ [(request, heard)])
  | erase {store log} (session : Session d store log) (version : ScriptVersion) :
      Session d (store.erase version) log
  | clear {store log} (session : Session d store log) : Session d store.clear log
  | lose {store kept log} (session : Session d store log) (forgets : store.Forgets kept) :
      Session d kept log

namespace Session

variable {d : Decipherer} {store : CipherStore}
  {log : List (VideoRequest × Except Error Answer)}

theorem faithful (byVersion : d.RepliesByVersion) (session : Session d store log) :
    store.Faithful d := by
  induction session with
  | start capacity => exact CipherStore.faithful_empty capacity
  | request _ request _ _ ih => exact (request.serve_faithful byVersion ih).2
  | erase _ version ih => exact ih.forget (CipherStore.forgets_erase _ version)
  | clear _ ih => exact ih.forget (CipherStore.forgets_clear _)
  | lose _ forgets ih => exact ih.forget forgets

/-- Every request of a session is answered as without a store. -/
theorem answers_fresh (byVersion : d.RepliesByVersion) (session : Session d store log) :
    ∀ entry ∈ log, bare entry.2 = bare (entry.1.fresh d).result := by
  induction session with
  | start capacity =>
    intro entry member
    cases member
  | request session request heard same ih =>
    intro entry member
    rw [List.mem_append, List.mem_singleton] at member
    rcases member with before | rfl
    · exact ih entry before
    · have answered := (request.serve_faithful byVersion (session.faithful byVersion)).1
      exact same.trans (congrArg bare answered)
  | erase _ _ ih => exact ih
  | clear _ ih => exact ih
  | lose _ _ ih => exact ih

/-- One video is asked for, everything is forgotten, and its cipher is used after that. -/
theorem answers_fresh_cleared :
    let d := Decipherer.onePlayer
      "\x7b\"jsUrl\":\"/s/player/v42/base.js\"\x7d".toUTF8.toList
      ("var X=\x7bA:function(a,b)\x7bvar c=a[0];a[0]=a[b];a[b]=c\x7d," ++
        "R:function(a)\x7ba.reverse()\x7d,D:function(a,b)\x7ba.splice(b,1)\x7d\x7d;" ++
        "function K(a)\x7bX.R(a)\x7d").toUTF8.toList
    let learn := VideoRequest.cipher "dQw4w9WgXcQ"
    let use := VideoRequest.decipher "abc" "dQw4w9WgXcQ"
    let learned := learn.serve d (.empty 1)
    let used := use.serve d learned.2.clear
    let log := [(learn, learned.1.result), (use, used.1.result.mapError .shared)]
    d.RepliesByVersion ∧ Session d used.2 log ∧
      ∀ entry ∈ log, bare entry.2 = bare (entry.1.fresh d).result := by
  intro d learn use learned used log
  have byVersion : d.RepliesByVersion := Decipherer.onePlayer_repliesByVersion _ _
  have session : Session d used.2 log := by
    have learning : Session d learned.2 [(learn, learned.1.result)] :=
      (start 1).request learn learned.1.result rfl
    exact learning.clear.request use (used.1.result.mapError .shared) (bare_shared _)
  exact ⟨byVersion, session, answers_fresh byVersion session⟩

end Session

end PlayerCipher
