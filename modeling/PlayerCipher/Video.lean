import PlayerCipher.Error
import PlayerCipher.Url.Parse

/-! Video ids and watch pages.
A video is named by its id of eleven characters or by the URL of a page that shows it. The
page of a video is `/watch` of a site with the id as the parameter `v`. -/

namespace PlayerCipher.Video

open Text

/-- Eleven letters, digits, hyphens or underscores of ASCII. -/
def isRawId (cs : List Char) : Bool :=
  cs.length == 11 && cs.all isIdChar

def siteHosts : List String :=
  ["youtube.com", "www.youtube.com", "m.youtube.com"]

def sections : List String :=
  ["shorts", "embed", "live"]

inductive Fault where
  | missingId
  | missingParameter
  | missingIdIn (sectionName : String)
  | unsupportedPath
  | unsupportedHost
deriving DecidableEq, Repr

namespace Fault

def message : Fault → String
  | .missingId => "Missing video ID"
  | .missingParameter => "Missing v parameter"
  | .missingIdIn sectionName => "Missing video ID in " ++ sectionName ++ " path"
  | .unsupportedPath => "Unsupported video URL format"
  | .unsupportedHost => "Not a supported video platform URL"

end Fault

def watchId (url : Url) : Except Fault String :=
  match url.pairs.find? fun pair => pair.1 == ['v'] with
  | some pair => .ok (String.ofList pair.2)
  | none => .error .missingParameter

def sectionId (path : List Char) : List String → Except Fault String
  | [] => .error .unsupportedPath
  | sectionName :: rest =>
    match after? ("/" ++ sectionName ++ "/").toList path with
    | some [] => .error (.missingIdIn sectionName)
    | some id => .ok (String.ofList id)
    | none => sectionId path rest

def pageId (url : Url) : Except Fault String :=
  let path := url.path.text
  match url.hostText with
  | none => .error .unsupportedHost
  | some host =>
    if host = "youtu.be" then
      let id := path.dropWhile (· == '/')
      if id.isEmpty then .error .missingId else .ok (String.ofList id)
    else if siteHosts.contains host then
      if "/watch".toList.isPrefixOf path then watchId url else sectionId path sections
    else .error .unsupportedHost

def id (video : String) : Except Error String :=
  if isRawId video.toList then .ok video
  else
    match Url.parse video with
    | .error cause => .error (.unreadableUrl cause)
    | .ok url =>
      match pageId url with
      | .ok id => .ok id
      | .error fault => .error (.noVideo fault.message)

def watchUrl (base id : String) : Except Error String :=
  match Url.parse base with
  | .error cause => .error (.unreadableUrl cause)
  | .ok base =>
    match base.join "/watch" with
    | .error cause => .error (.unreadableUrl cause)
    | .ok page => .ok (page.withPairs [(['v'], id.toList)]).render

end PlayerCipher.Video
