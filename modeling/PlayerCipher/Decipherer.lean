import PlayerCipher.CipherStore
import PlayerCipher.Fetch
import PlayerCipher.PlayerPage
import PlayerCipher.StreamUrl
import PlayerCipher.Video

/-! Deciphering for videos.
A video's watch page names its player script; the script has a version and, resolved, a cipher.
A cipher that is in the store is not resolved again, and its script is not asked for. Only a
successful resolution changes the store, so every call returns the store as it leaves it. -/

namespace PlayerCipher

/-- Where pages and scripts come from, and how the driver of a script is found. -/
structure Decipherer where
  network : Network
  baseUrl : String
  choice : DriverChoice

structure FetchedScript where
  url : String
  version : ScriptVersion
  source : String
deriving DecidableEq, Repr

abbrev Visit (α : Type) := Fetch α × CipherStore

namespace CipherStore

/-- The cipher under a version; if there is none, the one that `resolve` brings, which then
stands under that version. -/
def getOrResolve (store : CipherStore) (version : ScriptVersion)
    (resolve : Unit → Fetch Cipher) : Visit Cipher :=
  match store.get? version with
  | some cipher => (.done (.ok cipher), store)
  | none =>
    let fetch := resolve ()
    match fetch.result with
    | .ok cipher => (fetch, store.put version cipher)
    | .error _ => (fetch, store)

end CipherStore

namespace Decipherer

def watchUrl (d : Decipherer) (video : String) : Except Error String :=
  match Video.id video with
  | .error e => .error e
  | .ok id => Video.watchUrl d.baseUrl id

def scriptUrl (d : Decipherer) (video : String) : Fetch String :=
  (Fetch.done (d.watchUrl video)).andThen fun page =>
    (Fetch.text d.network page).andThen fun html =>
      .done (PlayerPage.scriptUrl html d.baseUrl)

def script (d : Decipherer) (url : String) : Fetch FetchedScript :=
  (Fetch.text d.network url).andThen fun source =>
    .done (.ok ⟨url, .ofUrl url, source⟩)

def resolve (d : Decipherer) (version : ScriptVersion) (source : String) : Except Error Cipher :=
  (Cipher.ofScript source version d.choice).mapError .ofResolve

def resolveAt (d : Decipherer) (version : ScriptVersion) (url : String) : Fetch Cipher :=
  (d.script url).andThen fun script => .done (d.resolve version script.source)

def scriptCipher (d : Decipherer) (store : CipherStore) (version : ScriptVersion)
    (source : String) : Visit Cipher :=
  store.getOrResolve version fun _ => .done (d.resolve version source)

/-- The cipher of the script at a URL, which need not be asked for if its version is known. -/
def cipherAt (d : Decipherer) (store : CipherStore) (url : String) : Visit Cipher :=
  let version := ScriptVersion.ofUrl url
  store.getOrResolve version fun _ => d.resolveAt version url

def videoCipher (d : Decipherer) (store : CipherStore) (video : String) : Visit Cipher :=
  let page := d.scriptUrl video
  match page.result with
  | .error e => (⟨page.requests, .error e⟩, store)
  | .ok url =>
    let (cipher, store) := d.cipherAt store url
    (⟨page.requests ++ cipher.requests, cipher.result⟩, store)

def decipher (d : Decipherer) (store : CipherStore) (signature video : String) :
    Visit String :=
  let (cipher, store) := d.videoCipher store video
  (cipher.andThen fun cipher =>
    .done ((cipher.decipher signature).mapError .interpretation), store)

/-- Stream URL of a signature cipher. A text that is none is refused before any request. -/
def streamUrl (d : Decipherer) (store : CipherStore) (query video : String) : Visit String :=
  match SignatureCipher.parse query with
  | .error e => (.done (.error e), store)
  | .ok parsed =>
    let (deciphered, store) := d.decipher store parsed.signature video
    (deciphered.andThen fun deciphered => .done (parsed.streamUrl deciphered), store)

/-- What each of several callers gets that wait for one resolution. -/
def sharedAmong (callers : Nat) (result : Except Error Cipher) : Except Error Cipher :=
  if callers ≤ 1 then result else result.mapError .shared

/-- What `callers` callers get that ask for one video at once: every one of them asks for the
watch page, and those who find no cipher wait for a single resolution. -/
def callerCiphers (d : Decipherer) (store : CipherStore) (callers : Nat) (video : String) :
    List (Except Error Cipher) × List String × CipherStore :=
  let page := d.scriptUrl video
  let pages := (List.replicate callers page.requests).flatten
  match page.result with
  | .error e => (List.replicate callers (.error e), pages, store)
  | .ok url =>
    let (cipher, after) := d.cipherAt store url
    if callers = 0 then ([], [], store)
    else
      (List.replicate callers (sharedAmong callers cipher.result), pages ++ cipher.requests, after)

end Decipherer

end PlayerCipher
