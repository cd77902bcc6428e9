import PlayerCipher.Error
import PlayerCipher.Url.Parse

/-! Signature ciphers and stream URLs.
A signature cipher is a form with the ciphered signature `s`, the stream URL `url` that lacks
it, and the name `sp` of the parameter under which the deciphered signature belongs. Of
several values under one key the last one counts. -/

namespace PlayerCipher

def Url.setPair (url : Url) (name value : List Char) : Url :=
  url.withPairs ((url.pairs.filter fun pair => pair.1 != name) ++ [(name, value)])

def setParameter (url name value : String) : Except Error String :=
  match Url.parse url with
  | .error cause => .error (.unreadableUrl cause)
  | .ok parsed => .ok (parsed.setPair name.toList value.toList).render

structure SignatureCipher where
  url : String
  signature : String
  /-- Parameter for the deciphered signature. -/
  parameter : String
deriving DecidableEq, Repr

namespace SignatureCipher

def defaultParameter : String := "signature"

def last? (key : String) (pairs : List Url.Form.Pair) : Option (List Char) :=
  (pairs.reverse.find? fun pair => pair.1 == key.toList).map (·.2)

def ofPairs (pairs : List Url.Form.Pair) : Except Error SignatureCipher :=
  match last? "url" pairs with
  | none => .error (.badSignatureCipher "missing url")
  | some url =>
    match last? "s" pairs with
    | none | some [] => .error (.badSignatureCipher "missing s")
    | some signature =>
      let parameter :=
        match last? "sp" pairs with
        | none | some [] => defaultParameter
        | some name => String.ofList name
      .ok ⟨String.ofList url, String.ofList signature, parameter⟩

def parse (query : String) : Except Error SignatureCipher :=
  ofPairs (Url.Form.read query.toList)

def streamUrl (cipher : SignatureCipher) (deciphered : String) : Except Error String :=
  setParameter cipher.url cipher.parameter deciphered

end SignatureCipher

end PlayerCipher
