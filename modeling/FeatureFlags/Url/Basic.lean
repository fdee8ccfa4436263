import FeatureFlags.Url.Host

/-!
# Addresses

An address on the web, or of some other scheme, up to its path. What follows the path, a query and a
fragment, is not kept.
-/

namespace FeatureFlags

/-- The path of an address: its segments, or a text without structure in an address that has no root. -/
inductive UrlPath where
  | rootless (text : String)
  | segments (segments : List String)
  deriving DecidableEq, Repr

/-- An address. One without a host has no authority at all. -/
structure Url where
  scheme : String
  userinfo : String
  host : Option Host
  port : Option Nat
  path : UrlPath
  deriving DecidableEq, Repr

/-- Whether the addresses of a scheme always have an authority and a path, and may be written with
backslashes. -/
def isSpecialScheme (scheme : String) : Bool :=
  ["http", "https", "ws", "wss", "ftp", "file"].contains scheme

/-- The port of a scheme that is not written. -/
def defaultPort? (scheme : String) : Option Nat :=
  match scheme with
  | "http" | "ws" => some 80
  | "https" | "wss" => some 443
  | "ftp" => some 21
  | _ => none

/-- Whether a segment is a drive letter with a colon. -/
def isDrive (segment : String) : Bool :=
  match segment.toList with
  | [letter, ':'] => Text.isLetter letter
  | _ => false

namespace Url

/-- The text of the part before the path. An address without a host whose path seems to begin with one gets
a dot between. -/
def authorityText (u : Url) : String :=
  match u.host with
  | some host =>
    let userinfo := if u.userinfo.isEmpty then "" else u.userinfo ++ "@"
    let port := match u.port with
      | some p => ":" ++ toString p
      | none => ""
    "//" ++ userinfo ++ host.text ++ port
  | none =>
    match u.path with
    | .segments ("" :: _ :: _) => "/."
    | _ => ""

/-- The text of the path. -/
def pathText : UrlPath → String
  | .rootless text => text
  | .segments segments => String.join (segments.map ("/" ++ ·))

/-- The text of an address. -/
def text (u : Url) : String := u.scheme ++ ":" ++ u.authorityText ++ pathText u.path

/-- The segments of a path that relative addresses start from: all but the last one, unless that is a
drive. -/
def parentSegments (scheme : String) (segments : List String) : List String :=
  match segments.getLast? with
  | some last => if scheme = "file" ∧ isDrive last then segments else segments.dropLast
  | none => []

/-- The address of a name beside the last segment of the path. -/
def sibling (u : Url) (name : String) : Except UrlError Url :=
  match u.path with
  | .rootless _ => .error .relativeWithOpaqueBase
  | .segments segments =>
    .ok { u with path := .segments (parentSegments u.scheme segments ++ [name]) }

end Url
end FeatureFlags
