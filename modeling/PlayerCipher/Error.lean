import PlayerCipher.Cipher
import PlayerCipher.Url.Basic

/-! Failures.
A failure is a cause. A resolution that several callers wait for hands its failure to each of
them as a shared one, which speaks and counts like the failure inside it. -/

namespace PlayerCipher

inductive SetupFault where
  | headerValue
  | badProxy (cause : UrlError)
  | proxyHost (url : String)
  | proxyScheme
  /-- A proxy whose host holds a character that requests cannot name. -/
  | proxyCharacter
deriving DecidableEq, Repr

namespace SetupFault

def message : SetupFault → String
  | .headerValue => "builder error: failed to parse header value"
  | .badProxy cause => "builder error: builder error: " ++ cause.message
  | .proxyHost url =>
    "builder error: builder error for url (" ++ url ++ "): URL scheme is not allowed"
  | .proxyScheme => "builder error: unknown proxy scheme"
  | .proxyCharacter => "builder error: invalid uri character"

end SetupFault

/-- Where an exchange with a site breaks. Behind the head of the answer the URL is not told. -/
inductive RequestStage where
  | sending (url : String)
  | redirect (url : String)
  | body
  | decoding
deriving DecidableEq, Repr

namespace RequestStage

def message : RequestStage → String
  | .sending url => "error sending request for url (" ++ url ++ ")"
  | .redirect url => "error following redirect for url (" ++ url ++ ")"
  | .body => "request or response body error"
  | .decoding => "error decoding response body"

end RequestStage

inductive RequestFault where
  | connect
  | timeout
  | setup (fault : SetupFault)
  | broken (stage : RequestStage) (reason : String)
deriving DecidableEq, Repr

namespace RequestFault

def message : RequestFault → String
  | .connect => "error trying to connect"
  | .timeout => "operation timed out"
  | .setup fault => fault.message
  | .broken stage reason => stage.message ++ ": " ++ reason

end RequestFault

inductive Error where
  | classification (cause : ClassifyError)
  | recording (cause : RecordError)
  | interpretation (cause : IndexError)
  | noScriptReference
  | noVideo (reason : String)
  | badSignatureCipher (reason : String)
  | badStatus (status : Nat) (url : String)
  | noReply (fault : RequestFault)
  | file (reason : String)
  | json (reason : String)
  | unreadableUrl (cause : UrlError)
  | pattern (reason : String)
  | shared (inner : Error)
deriving DecidableEq, Repr

namespace Error

def message : Error → String
  | .classification cause => "Classification failed: " ++ cause.message
  | .recording cause => "Recording failed: " ++ cause.message
  | .interpretation cause => "Interpretation failed: " ++ cause.message
  | .noScriptReference => "Player script URL not found in page"
  | .noVideo reason => "Invalid URL: " ++ reason
  | .badSignatureCipher reason => "Invalid signature cipher: " ++ reason
  | .badStatus status url => "HTTP status " ++ Text.decimal status ++ " for " ++ url
  | .noReply fault => "Request failed: " ++ fault.message
  | .file reason => "IO error: " ++ reason
  | .json reason => "JSON error: " ++ reason
  | .unreadableUrl cause => "URL parsing error: " ++ cause.message
  | .pattern reason => "Regex error: " ++ reason
  | .shared inner => inner.message

/-- Whether the same request may succeed later. Statuses from 500 on count, and 429. -/
def isTransient : Error → Bool
  | .noReply .connect => true
  | .noReply .timeout => true
  | .badStatus status _ => status == 429 || 500 ≤ status
  | .shared inner => inner.isTransient
  | _ => false

def isLayoutChange : Error → Bool
  | .classification _ => true
  | .recording _ => true
  | .shared inner => inner.isLayoutChange
  | _ => false

def innermost : Error → Error
  | .shared inner => inner.innermost
  | cause => cause

def ofResolve : ResolveError → Error
  | .classification cause => .classification cause
  | .recording cause => .recording cause

end Error

end PlayerCipher
