import ReleaseStamp.Config
import ReleaseStamp.Error
import ReleaseStamp.Session
import ReleaseStamp.Toml.Node

/-!
# Configuration files

A configuration is a document with a key for each setting. What the document leaves out keeps its
initial value, keys that are no settings are ignored, and the platforms of the document replace the
initial ones as a whole.
-/
namespace ReleaseStamp.Config

open Toml (Fault Node Problem Value)

/-- The fault of a value of the wrong kind. The fault of an array has no place of its own. -/
def wrongValue (expected : String) (value : Value) : Fault where
  problem := .wrongKind value.description expected
  offset := match value with
    | .array _ _ => none
    | _ => some value.start

def wrongNode (expected : String) : Node → Fault
  | .value value => wrongValue expected value
  | .table _ _ => { problem := .wrongKind "map" expected }
  | .tables _ => { problem := .wrongKind "sequence" expected }

def readValueText : Value → Except Fault String
  | .text _ text => .ok text
  | value => .error (wrongValue "a string" value)

def readText : Node → Except Fault String
  | .value value => readValueText value
  | node => .error (wrongNode "a string" node)

abbrev Texts := List (String × String)

def addText (texts : Texts) (key : String) (text : Except Fault String) : Except Fault Texts :=
  if (texts.lookup key).isSome then .error { problem := .repeatedField key }
  else text.map fun text => texts ++ [(key, text)]

def missing (key : String) : Fault := { problem := .missingField key }

def requireText (texts : Texts) (key : String) : Except Fault String :=
  match texts.lookup key with
  | some text => .ok text
  | none => .error (missing key)

def platformKeys : List String := ["bashbrew", "dpkg_arch", "rust_target", "base_image"]

/-- The platform of its settings; the first missing one counts. -/
def platformOf (texts : Texts) : Except Fault Platform := do
  return {
    bashbrew := ← requireText texts "bashbrew"
    dpkgArch := ← requireText texts "dpkg_arch"
    rustTarget := ← requireText texts "rust_target"
    baseImage := ← requireText texts "base_image" }

def readPlatformEntries : Texts → List (String × Node) → Except Fault Texts
  | texts, [] => .ok texts
  | texts, (key, node) :: rest => do
    if platformKeys.contains key then
      let texts ← addText texts key ((readText node).mapError (Fault.under key))
      readPlatformEntries texts rest
    else
      node.check.mapError (Fault.under key)
      readPlatformEntries texts rest

def readPlatformValues : Texts → List (String × Value) → Except Fault Texts
  | texts, [] => .ok texts
  | texts, (key, value) :: rest => do
    if platformKeys.contains key then
      let texts ← addText texts key (readValueText value)
      readPlatformValues texts rest
    else readPlatformValues texts rest

def readPlatformArray (elements : List Value) : Except Fault Platform := do
  match ← (elements.take platformKeys.length).mapM readValueText with
  | [bashbrew, dpkgArch, rustTarget, baseImage] =>
    if elements.length = platformKeys.length then
      return ⟨bashbrew, dpkgArch, rustTarget, baseImage⟩
    else .error { problem := .wrongLength elements.length "4 elements in sequence" }
  | _ => .error { problem := .wrongLength elements.length "struct Platform with 4 elements" }

def readPlatformValue : Value → Except Fault Platform
  | .table start _ entries =>
    ((readPlatformValues [] entries).bind platformOf).mapError (Fault.placed (some start))
  | .date start => .error ((missing "bashbrew").placed (some start))
  | .array _ elements => readPlatformArray elements
  | value => .error (wrongValue "struct Platform" value)

def readPlatformTable : Node → Except Fault Platform
  | .table entries fault => do
    let texts ← readPlatformEntries [] entries
    match fault with
    | some fault => .error fault
    | none => platformOf texts
  | node => .error (wrongNode "struct Platform" node)

def readPlatforms : Node → Except Fault (List Platform)
  | .value (.array _ elements) => elements.mapM readPlatformValue
  | .tables elements => elements.mapM readPlatformTable
  | node => .error (wrongNode "a sequence" node)

def textKeys : List String :=
  ["repo_name", "rust_version", "rustup_version", "rustup_home", "cargo_home", "path",
    "checksum_url"]

def platformsKey : String := "platforms"

def readEntries : Texts → Option (List Platform) → List (String × Node) →
    Except Fault (Texts × Option (List Platform))
  | texts, platforms, [] => .ok (texts, platforms)
  | texts, platforms, (key, node) :: rest => do
    if textKeys.contains key then
      let texts ← addText texts key ((readText node).mapError (Fault.under key))
      readEntries texts platforms rest
    else if key = platformsKey then
      if platforms.isSome then .error { problem := .repeatedField key }
      else
        let read ← (readPlatforms node).mapError (Fault.under key)
        readEntries texts (some read) rest
    else
      node.check.mapError (Fault.under key)
      readEntries texts platforms rest

def ofSettings (texts : Texts) (platforms : Option (List Platform)) : Config :=
  let initial : Config := {}
  let setting (key value : String) : String := (texts.lookup key).getD value
  { repoName := setting "repo_name" initial.repoName
    rustVersion := setting "rust_version" initial.rustVersion
    rustupVersion := setting "rustup_version" initial.rustupVersion
    rustupHome := setting "rustup_home" initial.rustupHome
    cargoHome := setting "cargo_home" initial.cargoHome
    path := setting "path" initial.path
    checksumUrl := setting "checksum_url" initial.checksumUrl
    platforms := platforms.getD initial.platforms }

def ofNode : Node → Except Fault Config
  | .table entries fault => do
    let (texts, platforms) ← readEntries [] none entries
    match fault with
    | some fault => .error fault
    | none => return ofSettings texts platforms
  | node => .error (wrongNode "a table" node)

/-- Reads the sections of a document. A fault without a place is placed at the last of them. -/
def ofSections (sections : List Toml.Section) : Except Fault Config :=
  (ofNode (Node.ofSections sections)).mapError
    (Fault.placed (sections.getLast?.map Toml.Section.start))

def ofToml (document : String) : Except Error Config :=
  ((Toml.sectionsOf document).bind ofSections).mapError fun fault =>
    .config (fault.message document)

def load (path : Path) : Job Config := do
  match (← get).tree.readText path with
  | .ok document => MonadExcept.ofExcept (ofToml document)
  | .error fault => throw (.config (path.shown ++ ": " ++ fault.message))

end ReleaseStamp.Config
