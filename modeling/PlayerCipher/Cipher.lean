import PlayerCipher.Digest.Sha256
import PlayerCipher.Driver.Recording
import PlayerCipher.Helper.Classify

/-! Ciphers of player scripts.
A cipher is what one build of the script does to a signature: the names of its helpers and
the recipe of its driver. Builds are told apart by a version, taken from the script's URL or
from a digest of its text. -/

namespace PlayerCipher

inductive ResolveError where
  | classification (cause : ClassifyError)
  | recording (cause : RecordError)
deriving DecidableEq, Repr

structure ScriptVersion where
  text : String
deriving DecidableEq, Repr

namespace ScriptVersion

/-- Path segment `/s/player/ID/`. -/
def playerPath : Text.Pattern :=
  [.text "/s/player/", .capture Text.isIdChar 1, .text "/"]

/-- The id in the first player path segment of a URL; the whole URL if it has none. -/
def ofUrl (url : String) : ScriptVersion :=
  match playerPath.search? url.toList with
  | some id => ⟨String.ofList id⟩
  | none => ⟨url⟩

def ofText (source : String) : ScriptVersion :=
  let digits := (Sha256.digest source.toUTF8.toList).flatMap fun byte =>
    [Text.hexDigit (byte.toNat / 16), Text.hexDigit byte.toNat]
  ⟨"sha256:" ++ String.ofList digits⟩

end ScriptVersion

/-- Helper names and recipe of one script version. -/
structure Cipher where
  version : ScriptVersion
  names : HelperNames
  recipe : Recipe
deriving DecidableEq

namespace Cipher

def ofTokens (tokens : List Token) (located : Option String) (version : ScriptVersion)
    (choice : DriverChoice) : Except ResolveError Cipher :=
  let functions := definitions tokens
  match Helper.classify functions with
  | .error cause => .error (.classification cause)
  | .ok names =>
    match Driver.record functions choice names located with
    | .error cause => .error (.recording cause)
    | .ok recipe => .ok ⟨version, names, recipe⟩

def ofScript (source : String) (version : ScriptVersion) (choice : DriverChoice) :
    Except ResolveError Cipher :=
  ofTokens (tokenize source) (Driver.located? source choice) version choice

def decipher (cipher : Cipher) (signature : String) : Except IndexError String :=
  cipher.recipe.apply signature

end Cipher

end PlayerCipher
