import PlayerCipher.Error
import PlayerCipher.Text.Pattern
import PlayerCipher.Url.Parse

/-! The player script that a watch page refers to.
A page names the script in its settings, under `jsUrl` or `PLAYER_JS_URL`, or in a script tag
whose source ends in `/base.js`. The first of these forms that occurs anywhere counts; within
a tag the last such source does. The reference is relative to the site. -/

namespace PlayerCipher.PlayerPage

open Text Text.Pattern

def setting (key : String) : Pattern :=
  [.text ("\"" ++ key ++ "\""), blanks, .text ":", blanks, .text "\"", .capture (· != '"') 1,
    .text "\""]

/-- Value of an attribute `src="VALUE"` with a value that ends in `/base.js`. -/
def source? (cs : List Char) : Option (List Char) :=
  match after? "src=\"".toList cs with
  | none => none
  | some rest =>
    let value := rest.takeWhile (· != '"')
    match rest.dropWhile (· != '"') with
    | [] => none
    | _ :: _ => if "/base.js".toList.isSuffixOf value then some value else none

/-- Value of the last such attribute that starts before the tag ends. -/
def lastSource? : List Char → Option (List Char)
  | [] => none
  | c :: cs =>
    match if c = '>' then none else lastSource? cs with
    | some value => some value
    | none => source? (c :: cs)

/-- Value of the last such attribute of the script tag that the text begins with. At least
one character of the tag stands before the attribute. -/
def scriptTag? (cs : List Char) : Option (List Char) :=
  match after? "<script".toList cs with
  | some (c :: rest) => if c = '>' then none else lastSource? rest
  | _ => none

def reference? (page : List Char) : Option (List Char) :=
  (setting "jsUrl").search? page <|> (setting "PLAYER_JS_URL").search? page <|>
    firstSuffix? scriptTag? page

def unescapeSlashes : List Char → List Char
  | '\\' :: '/' :: cs => '/' :: unescapeSlashes cs
  | c :: cs => c :: unescapeSlashes cs
  | [] => []

def scriptUrl (page base : String) : Except Error String :=
  match reference? page.toList with
  | none => .error .noScriptReference
  | some reference =>
    match Url.parse base with
    | .error cause => .error (.unreadableUrl cause)
    | .ok base =>
      match base.join (String.ofList (unescapeSlashes reference)) with
      | .error cause => .error (.unreadableUrl cause)
      | .ok url => .ok url.render

end PlayerCipher.PlayerPage
