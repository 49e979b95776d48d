import ReleaseStamp.Http.Host

/-!
# Web addresses

An address is read as a browser reads it and written in one way: points in the path are resolved,
characters that may not stand there are percent-encoded, and the usual port of a scheme is left out.
-/
namespace ReleaseStamp.Http

inductive UrlPath where
  | segments (segments : List String)
  | plain (text : String)
deriving DecidableEq, Repr, Inhabited

structure Url where
  scheme : String
  /-- User name and password, percent-encoded. -/
  user : String × Option String := ("", none)
  host : Option String
  port : Option Nat := none
  path : UrlPath
  query : Option String := none
  fragment : Option String := none
deriving DecidableEq, Repr, Inhabited

namespace Url

open ReleaseStamp.Text (splitBy splitFirst)

def usualPort? (scheme : String) : Option Nat :=
  [("http", 80), ("https", 443), ("ftp", 21), ("ws", 80), ("wss", 443)].lookup scheme

def isWeb (scheme : String) : Bool := (usualPort? scheme).isSome

def UrlPath.text : UrlPath → String
  | .plain text => text
  | .segments segments => String.join (segments.map ("/" ++ ·))

def userText (url : Url) : String :=
  match url.user with
  | ("", none) => ""
  | (name, none) => name ++ "@"
  | (name, some password) => name ++ ":" ++ password ++ "@"

def portText (url : Url) : String :=
  match url.port with
  | none => ""
  | some port => ":" ++ toString port

def queryText (url : Url) : String :=
  match url.query with
  | none => ""
  | some query => "?" ++ query

def fragmentText (url : Url) : String :=
  match url.fragment with
  | none => ""
  | some fragment => "#" ++ fragment

def target (url : Url) : String := UrlPath.text url.path ++ url.queryText

def text (url : Url) : String :=
  let authority := match url.host, url.path with
    | some host, _ => "//" ++ url.userText ++ host ++ url.portText
    | none, .segments ("" :: _ :: _) => "/."
    | none, _ => ""
  url.scheme ++ ":" ++ authority ++ url.target ++ url.fragmentText

def isSlash (special : Bool) (c : Char) : Bool := c == '/' || (special && c == '\\')

def isHere (segment : List Char) : Bool :=
  [".", "%2e", "%2E"].contains (String.ofList segment)

def isAbove (segment : List Char) : Bool :=
  ["..", ".%2e", "%2e.", "%2e%2e"].contains (String.ofList segment).toLower

/-- Segments that name a drive: a letter with a colon or a bar. -/
def isDrive : List Char → Bool
  | [letter, mark] => letter.isAlpha && (mark == ':' || mark == '|')
  | _ => false

def leave (done : List String) : List String :=
  if done.getLast?.any (isDrive ·.toList) then done else done.dropLast

/-- How a segment is written after the segments `done`. In the path of a file, the drive at its
start has a colon. -/
def segmentText (isFile : Bool) (done : List String) (segment : List Char) : String :=
  match segment with
  | letter :: _ =>
    if isFile && done.isEmpty && isDrive segment then String.ofList [letter, ':']
    else String.ofList (Percent.encode Percent.inPath segment)
  | [] => ""

/-- Resolves the points of a path on top of the segments `done`. A path that ends in points ends in
a folder. -/
def resolveSegments (isFile : Bool) (done : List String) : List (List Char) → List String
  | [] => done
  | segment :: rest =>
    let folderEnd := if rest.isEmpty then [""] else []
    if isAbove segment then resolveSegments isFile (leave done ++ folderEnd) rest
    else if isHere segment then resolveSegments isFile (done ++ folderEnd) rest
    else resolveSegments isFile (done ++ [segmentText isFile done segment]) rest

def segmentsAfter (special : Bool) (path : List Char) : List String :=
  resolveSegments false [] (splitBy (isSlash special) path)

def pathSegments (special : Bool) : List Char → List String
  | [] => if special then [""] else []
  | c :: rest =>
    if isSlash special c then segmentsAfter special rest else segmentsAfter special (c :: rest)

def splitUser (text : List Char) : Option (List Char) × List Char :=
  match splitFirst (· == '@') text.reverse with
  | (last, none) => (none, last.reverse)
  | (last, some before) => (some before.reverse, last.reverse)

def userOf (text : Option (List Char)) : String × Option String :=
  let encode (part : List Char) := String.ofList (Percent.encode Percent.inUser part)
  match text with
  | none => ("", none)
  | some text =>
    match splitFirst (· == ':') text with
    | (name, none) => (encode name, none)
    | (name, some password) =>
      (encode name, if password.isEmpty then none else some (encode password))

def splitPort (inBrackets : Bool) : List Char → List Char × Option (List Char)
  | [] => ([], none)
  | c :: rest =>
    if c == ':' && !inBrackets then ([], some rest)
    else
      let (host, port) := splitPort (c == '[' || (inBrackets && c != ']')) rest
      (c :: host, port)

/-- The port at the start of a text, and the rest, which starts with a backslash if it is not empty.
A scheme's usual port is none. -/
def port? (scheme : String) (text : List Char) : Option (Option Nat × List Char) := do
  let digits := text.takeWhile Char.isDigit
  let rest := text.dropWhile Char.isDigit
  let port ← if digits.isEmpty then some none else (Host.number? 10 digits).map some
  if port.any (65535 < ·) || !rest.head?.all (· == '\\') then none
  return (if port == usualPort? scheme then none else port, rest)

structure Authority where
  user : String × Option String
  host : String
  port : Option Nat
  /-- What is left of the text: the start of the path. -/
  rest : List Char

def webAuthority? (scheme : String) (text : List Char) : Option Authority := do
  let (user, text) := splitUser text
  let (host, port) := splitPort false text
  let (port, rest) ← port? scheme (port.getD [])
  let host ← Host.parse? host
  return ⟨userOf user, host, port, rest⟩

/-- The authority of an address of another kind. Without a host there is no user and no port; an at
sign alone may only end the address. -/
def otherAuthority? (scheme : String) (text : List Char) (isEnd : Bool) : Option Authority := do
  let (userText, text) := splitUser text
  let user := userOf userText
  let (host, portText) := splitPort false text
  if host.isEmpty && (portText.isSome || user != ("", none) || (userText == some [] && !isEnd)) then
    none
  let (port, rest) ← port? scheme (portText.getD [])
  let host ← Host.parseOther? host
  return ⟨user, host, port, rest⟩

def isSchemeChar (c : Char) : Bool := c.isAlphanum || c == '+' || c == '-' || c == '.'

def splitScheme? (text : List Char) : Option (String × List Char) :=
  match text.takeWhile isSchemeChar, text.dropWhile isSchemeChar with
  | scheme, ':' :: rest =>
    if scheme.head?.any Char.isAlpha then some ((String.ofList scheme).toLower, rest) else none
  | _, _ => none

def tidy (text : String) : List Char :=
  (Text.trimBy (·.toNat ≤ 0x20) text.toList).filter fun c => !(c == '\t' || c == '\n' || c == '\r')

def parseWeb? (scheme : String) (text : List Char) : Option Url := do
  let rest := text.dropWhile (isSlash true)
  let authority ← webAuthority? scheme (rest.takeWhile (!isSlash true ·))
  return {
    scheme, user := authority.user, host := some authority.host, port := authority.port
    path := .segments (pathSegments true (rest.dropWhile (!isSlash true ·))) }

/-- The address of a file on a host. There is no empty segment at the start of its path. -/
def fileUrl (host : String) (segments : List String) : Url :=
  let segments := segments.dropWhile (·.isEmpty)
  { scheme := "file", host := some host
    path := .segments (if segments.isEmpty then [""] else segments) }

/-- The address of a file behind the two slashes of its authority. A drive is no host, and has none
beside it. -/
def parseHostedFile? (text : List Char) : Option Url := do
  let hostText := text.takeWhile (!isSlash true ·)
  let path := text.dropWhile (!isSlash true ·)
  let resolve (path : List Char) := resolveSegments true [] (splitBy (isSlash true) path)
  if isDrive hostText then return fileUrl "" (resolve text)
  else if hostText.isEmpty then return fileUrl "" (resolve path)
  else
    let host ← Host.parse? hostText
    if host == "localhost" then return fileUrl "" (resolve path)
    else
      let segments := resolve (path.drop 1)
      return fileUrl (if segments.head?.any (isDrive ·.toList) then "" else host) segments

def parseFile? (text : List Char) : Option Url :=
  let plain (path : List Char) : Url :=
    fileUrl "" (resolveSegments true [] (splitBy (isSlash true) path))
  match text with
  | a :: b :: rest =>
    if isSlash true a && isSlash true b then parseHostedFile? rest
    else if isSlash true a then some (plain (b :: rest))
    else some (plain text)
  | [a] => some (plain (if isSlash true a then [] else text))
  | [] => some (plain [])

/-- An address of another kind, behind its scheme; `isWhole` if it has no query and no fragment. -/
def parseOther? (scheme : String) (text : List Char) (isWhole : Bool) : Option Url :=
  match text with
  | '/' :: '/' :: rest => do
    let path := rest.dropWhile (· != '/')
    let authority ← otherAuthority? scheme (rest.takeWhile (· != '/')) (path.isEmpty && isWhole)
    return {
      scheme, user := authority.user, host := some authority.host, port := authority.port
      path := .segments (pathSegments false (authority.rest ++ path)) }
  | '/' :: path => some { scheme, host := none, path := .segments (segmentsAfter false path) }
  | _ =>
    some {
      scheme, host := none
      path := .plain (String.ofList (Percent.encode Percent.inControl text)) }

def queryOf (scheme : String) (query : Option (List Char)) : Option String :=
  query.map fun query =>
    let escapes :=
      if isWeb scheme || scheme == "file" then Percent.inSpecialQuery
      else Percent.inQuery
    String.ofList (Percent.encode escapes query)

def fragmentOf (fragment : Option (List Char)) : Option String :=
  fragment.map fun fragment => String.ofList (Percent.encode Percent.inFragment fragment)

def parse? (text : String) : Option Url := do
  let (rest, fragment) := splitFirst (· == '#') (tidy text)
  let (rest, query) := splitFirst (· == '?') rest
  let (scheme, rest) ← splitScheme? rest
  let url ←
    if isWeb scheme then parseWeb? scheme rest
    else if scheme == "file" then parseFile? rest
    else parseOther? scheme rest (query.isNone && fragment.isNone)
  return { url with query := queryOf scheme query, fragment := fragmentOf fragment }

end Url

end ReleaseStamp.Http
