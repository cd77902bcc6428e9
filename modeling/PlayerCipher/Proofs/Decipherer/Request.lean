import PlayerCipher.Decipherer

/-! Requests about videos.
Three requests start from a video. Each of them has a plan: the video whose cipher it needs, and
what it does with that cipher. A stream URL is planned only for a query that can be read. The
store enters through the cipher alone, so every fact about it is a fact about two functions. -/

namespace PlayerCipher

namespace Fetch

def map {α β : Type} (f : α → β) (fetch : Fetch α) : Fetch β :=
  ⟨fetch.requests, fetch.result.map f⟩

theorem result_andThen {α β : Type} (fetch : Fetch α) (next : α → Fetch β) :
    (fetch.andThen next).result = fetch.result >>= fun value => (next value).result := by
  unfold andThen
  cases fetch.result <;> rfl

theorem requests_andThen_done {α β : Type} (fetch : Fetch α) (next : α → Except Error β) :
    (fetch.andThen fun value => done (next value)).requests = fetch.requests := by
  unfold andThen
  cases fetch.result with
  | error e => rfl
  | ok value => exact List.append_nil _

end Fetch

inductive Answer where
  | cipher (cipher : Cipher)
  | text (text : String)

/-- A request that starts from a video. -/
inductive VideoRequest where
  | cipher (video : String)
  | decipher (signature video : String)
  | streamUrl (query video : String)

namespace VideoRequest

def serve (request : VideoRequest) (d : Decipherer) (store : CipherStore) : Visit Answer :=
  match request with
  | .cipher video =>
    let visit := d.videoCipher store video
    (visit.1.map .cipher, visit.2)
  | .decipher signature video =>
    let visit := d.decipher store signature video
    (visit.1.map .text, visit.2)
  | .streamUrl query video =>
    let visit := d.streamUrl store query video
    (visit.1.map .text, visit.2)

structure Plan where
  video : String
  use : Cipher → Except Error Answer

def decipherText (signature : String) (cipher : Cipher) : Except Error String :=
  (cipher.decipher signature).mapError .interpretation

def plan : VideoRequest → Except Error Plan
  | .cipher video => .ok ⟨video, fun cipher => .ok (.cipher cipher)⟩
  | .decipher signature video =>
    .ok ⟨video, fun cipher => (decipherText signature cipher).map .text⟩
  | .streamUrl query video =>
    match SignatureCipher.parse query with
    | .error e => .error e
    | .ok parsed =>
      .ok ⟨video, fun cipher =>
        (decipherText parsed.signature cipher >>= parsed.streamUrl).map .text⟩

theorem serve_eq (request : VideoRequest) (d : Decipherer) (store : CipherStore) :
    request.serve d store =
      match request.plan with
      | .error e => (.done (.error e), store)
      | .ok plan =>
        ((d.videoCipher store plan.video).1.andThen fun cipher => .done (plan.use cipher),
          (d.videoCipher store plan.video).2) := by
  cases request with
  | cipher video =>
    simp only [serve, plan]
    obtain ⟨⟨requests, result⟩, after⟩ := d.videoCipher store video
    cases result <;> simp [Fetch.map, Fetch.andThen, Fetch.done, Except.map]
  | decipher signature video =>
    simp only [serve, plan, Decipherer.decipher]
    obtain ⟨⟨requests, result⟩, after⟩ := d.videoCipher store video
    cases result <;> simp [Fetch.map, Fetch.andThen, Fetch.done, Except.map, decipherText]
  | streamUrl query video =>
    simp only [serve, plan, Decipherer.streamUrl, Decipherer.decipher]
    cases SignatureCipher.parse query with
    | error e => rfl
    | ok parsed =>
      dsimp only
      obtain ⟨⟨requests, result⟩, after⟩ := d.videoCipher store video
      cases result with
      | error e => rfl
      | ok cipher =>
        simp only [Fetch.map, Fetch.andThen, Fetch.done, decipherText]
        cases (cipher.decipher parsed.signature).mapError Error.interpretation with
        | error e => rfl
        | ok text => simp [bind, Except.bind]

end VideoRequest

namespace CipherStore

variable {store : CipherStore} {version : ScriptVersion} {resolve : Unit → Fetch Cipher}

theorem getOrResolve_stored {cipher : Cipher} (stored : store.get? version = some cipher) :
    store.getOrResolve version resolve = (.done (.ok cipher), store) := by
  simp [getOrResolve, stored]

theorem getOrResolve_missing (missing : store.get? version = none) :
    store.getOrResolve version resolve =
      (resolve (),
        match (resolve ()).result with
        | .ok cipher => store.put version cipher
        | .error _ => store) := by
  simp only [getOrResolve, missing]
  cases (resolve ()).result <;> rfl

end CipherStore

namespace Decipherer

variable {d : Decipherer} {store : CipherStore}

theorem videoCipher_error {video : String} {e : Error}
    (failed : (d.scriptUrl video).result = .error e) :
    d.videoCipher store video = (⟨(d.scriptUrl video).requests, .error e⟩, store) := by
  rw [videoCipher]
  simp only [failed]

theorem videoCipher_ok {video url : String} (found : (d.scriptUrl video).result = .ok url) :
    d.videoCipher store video =
      (⟨(d.scriptUrl video).requests ++ (d.cipherAt store url).1.requests,
        (d.cipherAt store url).1.result⟩, (d.cipherAt store url).2) := by
  rw [videoCipher]
  simp only [found]

theorem resolveAt_result (version : ScriptVersion) (url : String) :
    (d.resolveAt version url).result =
      (Fetch.text d.network url).result >>= d.resolve version := by
  simp only [resolveAt, script, Fetch.result_andThen]
  cases (Fetch.text d.network url).result <;> rfl

end Decipherer

end PlayerCipher
