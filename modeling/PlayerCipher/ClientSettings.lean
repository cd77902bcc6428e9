import PlayerCipher.Duration
import PlayerCipher.Error
import PlayerCipher.Url.Parse

/-! Clients and their settings.
A client shows itself as one of four browsers, unless its settings name a user agent of their
own. Settings are checked before the first request: a proxy must be the URL of an HTTP host,
possibly without its scheme, and a user agent must fit into a header. -/

namespace PlayerCipher

open Text

inductive Browser where
  | chrome
  | firefox
  | safari
  | android
deriving DecidableEq, Repr

namespace Browser

def all : List Browser := [.chrome, .firefox, .safari, .android]

def name : Browser → String
  | .chrome => "chrome"
  | .firefox => "firefox"
  | .safari => "safari"
  | .android => "android"

def userAgent : Browser → String
  | .chrome =>
    "Mozilla/5.0 (Windows NT 10.0; Win64; x64) AppleWebKit/537.36 (KHTML, like Gecko) " ++
      "Chrome/120.0.0.0 Safari/537.36"
  | .firefox => "Mozilla/5.0 (Windows NT 10.0; Win64; x64; rv:121.0) Gecko/20100101 Firefox/121.0"
  | .safari =>
    "Mozilla/5.0 (Macintosh; Intel Mac OS X 10_15_7) AppleWebKit/605.1.15 (KHTML, like Gecko) " ++
      "Version/17.1 Safari/605.1.15"
  | .android =>
    "Mozilla/5.0 (Linux; Android 11; SM-G973F) AppleWebKit/537.36 (KHTML, like Gecko) " ++
      "Chrome/120.0.0.0 Mobile Safari/537.36"

/-- The browser of a name in any letter case, with or without blanks around it. -/
def ofName? (text : String) : Option Browser :=
  let wanted := lower (trim text.toList)
  all.find? fun browser => browser.name.toList == wanted

def unknownMessage (text : String) : String :=
  "unknown client \x60" ++ text ++ "\x60, expected one of: " ++
    ", ".intercalate (all.map name)

end Browser

structure ClientSettings where
  timeout : Duration
  ownUserAgent : Option String
  proxy : Option String
  browser : Browser
  acceptLanguage : String
  baseUrl : String
deriving DecidableEq, Repr

namespace ClientSettings

def default : ClientSettings where
  timeout := .ofSeconds 30
  ownUserAgent := none
  proxy := none
  browser := .chrome
  acceptLanguage := "en-US,en;q=0.9"
  baseUrl := "https://www.youtube.com"

def userAgent (settings : ClientSettings) : String :=
  settings.ownUserAgent.getD settings.browser.userAgent

/-- Headers hold no control characters but the tab. -/
def fitsHeader (text : String) : Bool :=
  text.toList.all fun c => c == '\t' || (0x20 ≤ c.toNat && c != '\x7f')

def hostUrl (text : String) : Except SetupFault Url :=
  match Url.parse text with
  | .error cause => .error (.badProxy cause)
  | .ok url => if url.hostText.isSome then .ok url else .error (.proxyHost url.render)

/-- The URL of a proxy. A text without a scheme is taken for the rest of an `http` URL; if
that fails as well, the fault is that of the text itself. -/
def proxyOf (text : String) : Except SetupFault Url :=
  match hostUrl text with
  | .ok url => .ok url
  | .error fault =>
    let second :=
      match fault with
      | .badProxy .relativeWithoutBase | .proxyHost _ => hostUrl ("http://" ++ text)
      | _ => .error fault
    match second with
    | .ok url => .ok url
    | .error _ => .error fault

/-- Whether a request can name a host with this character. Quotes and braces may stand in the
host of a URL, but not here. -/
def fitsRequest (c : Char) : Bool :=
  !"\"\x60\x7b\x7d".toList.contains c

def checkProxy (text : String) : Except SetupFault Unit :=
  match proxyOf text with
  | .error fault => .error fault
  | .ok url =>
    if url.scheme = "http".toList ∨ url.scheme = "https".toList then
      if (url.hostText.getD "").toList.all fitsRequest then .ok () else .error .proxyCharacter
    else .error .proxyScheme

/-- Whether a client can be set up. The proxy is looked at first. -/
def check (settings : ClientSettings) : Except Error Unit :=
  let proxy :=
    match settings.proxy with
    | some text => checkProxy text
    | none => .ok ()
  match proxy with
  | .error fault => .error (.noReply (.setup fault))
  | .ok () =>
    if fitsHeader settings.userAgent then .ok ()
    else .error (.noReply (.setup .headerValue))

end ClientSettings

end PlayerCipher
