import PlayerCipher.Url.Address
import PlayerCipher.Url.Form

/-! URLs.
A URL keeps its parts in written form: names in small letters, everything else percent
encoded. Two URLs differ only if their texts differ. -/

namespace PlayerCipher

inductive UrlError where
  | relativeWithoutBase
  | relativeToPlainPath
  | emptyHost
  | invalidPort
  | invalidIpv4
  | invalidIpv6
  | invalidDomain
  | invalidHostCharacter
deriving DecidableEq, Repr

namespace UrlError

def message : UrlError → String
  | .relativeWithoutBase => "relative URL without a base"
  | .relativeToPlainPath => "relative URL with a cannot-be-a-base base"
  | .emptyHost => "empty host"
  | .invalidPort => "invalid port number"
  | .invalidIpv4 => "invalid IPv4 address"
  | .invalidIpv6 => "invalid IPv6 address"
  | .invalidDomain => "invalid international domain name"
  | .invalidHostCharacter => "invalid domain character"

end UrlError

namespace Url

inductive Host where
  | name (text : List Char)
  | ipv4 (address : Nat)
  | ipv6 (pieces : List Nat)
deriving DecidableEq, Repr

namespace Host

def text : Host → List Char
  | .name text => text
  | .ipv4 address => Ipv4.render address
  | .ipv6 pieces => '[' :: (Ipv6.render pieces ++ [']'])

end Host

inductive Path where
  /-- The path of a URL that nothing can be relative to. -/
  | plain (text : List Char)
  | segments (parts : List (List Char))
deriving DecidableEq, Repr

namespace Path

def text : Path → List Char
  | .plain text => text
  | .segments parts => parts.flatMap fun part => '/' :: part

end Path

end Url

structure Url where
  scheme : List Char
  username : List Char
  password : List Char
  /-- Host after `//`; an empty name is written there too. -/
  host : Option Url.Host
  port : Option Nat
  path : Url.Path
  query : Option (List Char)
  fragment : Option (List Char)
deriving DecidableEq, Repr

namespace Url

open Text

def credentials (url : Url) : List Char :=
  if url.username.isEmpty && url.password.isEmpty then []
  else
    url.username ++ (if url.password.isEmpty then [] else ':' :: url.password) ++ ['@']

/-- `//` and what belongs to the host. Without a host, a path that begins with `//` is kept
apart from it by `/.`. -/
def authority (url : Url) : List Char :=
  match url.host with
  | some host =>
    "//".toList ++ url.credentials ++ host.text ++
      (match url.port with
        | some port => ':' :: (decimal port).toList
        | none => [])
  | none =>
    match url.path with
    | .segments ([] :: _ :: _) => "/.".toList
    | _ => []

def marked (mark : Char) : Option (List Char) → List Char
  | some text => mark :: text
  | none => []

def text (url : Url) : List Char :=
  url.scheme ++ ':' :: (url.authority ++ url.path.text ++ marked '?' url.query ++
    marked '#' url.fragment)

def render (url : Url) : String :=
  String.ofList url.text

def hostText (url : Url) : Option String :=
  match url.host with
  | none => none
  | some host => if host.text.isEmpty then none else some (String.ofList host.text)

def pairs (url : Url) : List Form.Pair :=
  match url.query with
  | some query => Form.read query
  | none => []

def withPairs (url : Url) (pairs : List Form.Pair) : Url :=
  { url with query := some (Form.write pairs) }

end Url

end PlayerCipher
