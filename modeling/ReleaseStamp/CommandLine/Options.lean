/-!
# Command line arguments

Arguments are read from left to right. The first that asks for help or for the version of the
program, or that cannot be read at all, decides; what is repeated, lacks its value or names no
action is refused once all are read.
-/
namespace ReleaseStamp.CommandLine

inductive Action where
  | versions
  | images
  | all
deriving DecidableEq, Repr, Inhabited

structure Options where
  action : Action := .all
  /-- The root of the project. -/
  dir : String := "."
  config : Option String := none
  verbose : Bool := false
  debug : Bool := false
deriving DecidableEq, Repr, Inhabited

inductive Request where
  | help
  | version
  /-- The arguments are no proper use of the program. -/
  | misuse
  | work (options : Options)
deriving DecidableEq, Repr, Inhabited

inductive Flag where
  | help
  | version
  | verbose
  | debug
deriving DecidableEq, Repr

inductive Setting where
  | dir
  | config
deriving DecidableEq, Repr

inductive Switch where
  | flag (flag : Flag)
  | setting (setting : Setting)
deriving DecidableEq, Repr

inductive Given where
  | flag (flag : Flag)
  | setting (setting : Setting) (value : Option String)
  | action (name : String)
  /-- An argument with no meaning. -/
  | unknown
deriving DecidableEq, Repr

def longSwitch? (name : String) : Option Switch :=
  [("help", .flag .help), ("version", .flag .version), ("verbose", .flag .verbose),
    ("debug", .flag .debug), ("dir", .setting .dir), ("config", .setting .config)].lookup name

def shortSwitch? (c : Char) : Option Switch :=
  [('h', .flag .help), ('V', .flag .version), ('v', .flag .verbose), ('d', .flag .debug),
    ('C', .setting .dir), ('c', .setting .config)].lookup c

/-- A value that is joined to its option; equals signs before it do not count. -/
def joinedValue (text : List Char) : String := String.ofList (text.dropWhile (· == '='))

/-- Can an argument only be a value? A hyphen begins none, unless it is all there is. -/
def isValue (argument : String) : Bool :=
  argument == "-" || argument.toList.head? != some '-'

def readLong (text : List Char) : Option Switch × Option String :=
  let name := String.ofList (text.takeWhile (· != '='))
  match text.dropWhile (· != '=') with
  | [] => (longSwitch? name, none)
  | joined => (longSwitch? name, some (joinedValue joined))

/-- Reads the letters of a short argument: what they give, and the setting that still wants a
value. -/
def readShort : List Char → List Given × Option Setting
  | [] => ([], none)
  | c :: rest =>
    match shortSwitch? c with
    | none => ([.unknown], none)
    | some (.flag flag) =>
      let (others, setting) := readShort rest
      (.flag flag :: others, setting)
    | some (.setting setting) =>
      if rest.isEmpty then ([], some setting)
      else ([.setting setting (some (joinedValue rest))], none)

def readArgument (argument : String) : List Given × Option Setting :=
  match argument.toList with
  | '-' :: '-' :: text =>
    match readLong (text.dropWhile (· == '-')) with
    | (none, _) => ([.unknown], none)
    | (some (.flag flag), _) => ([.flag flag], none)
    | (some (.setting setting), some value) => ([.setting setting (some value)], none)
    | (some (.setting setting), none) => ([], some setting)
  | '-' :: c :: text => readShort (c :: text)
  | _ => ([.action argument], none)

/-- Reads the arguments; `waiting` is a setting that still wants a value. -/
def readArguments : Option Setting → List String → List Given
  | none, [] => []
  | some setting, [] => [.setting setting none]
  | some setting, argument :: rest =>
    if isValue argument then .setting setting (some argument) :: readArguments none rest
    else if argument = "--" then .setting setting none :: rest.map .action
    else
      let (given, waiting) := readArgument argument
      .setting setting none :: given ++ readArguments waiting rest
  | none, argument :: rest =>
    if argument = "--" then rest.map .action
    else
      let (given, waiting) := readArgument argument
      given ++ readArguments waiting rest

/-- What decides before all is read: help, the version, an argument with no meaning or a second
action. -/
def decided? : Bool → List Given → Option Request
  | _, [] => none
  | acted, given :: rest =>
    match given with
    | .flag .help => some .help
    | .flag .version => some .version
    | .unknown => some .misuse
    | .action _ => if acted then some .misuse else decided? true rest
    | _ => decided? acted rest

def Action.ofName? (name : String) : Option Action :=
  [("versions", Action.versions), ("images", Action.images), ("all", Action.all)].lookup name

def valuesOf (given : List Given) (setting : Setting) : List (Option String) :=
  given.filterMap fun
    | .setting other value => if other = setting then some value else none
    | _ => none

def settingOf? (given : List Given) (setting : Setting) : Option (Option String) :=
  match valuesOf given setting with
  | [] => some none
  | [some value] => some (some value)
  | _ => none

def flagOf? (given : List Given) (flag : Flag) : Option Bool :=
  match given.count (.flag flag) with
  | 0 => some false
  | 1 => some true
  | _ => none

def actionOf? (given : List Given) : Option Action :=
  match given.filterMap fun | .action name => some name | _ => none with
  | [] => some .all
  | name :: _ => Action.ofName? name

def optionsOf? (given : List Given) : Option Options := do
  let dir ← settingOf? given .dir
  let config ← settingOf? given .config
  let verbose ← flagOf? given .verbose
  let debug ← flagOf? given .debug
  let action ← actionOf? given
  return { action, dir := dir.getD ".", config, verbose, debug }

def Request.ofArguments (arguments : List String) : Request :=
  let given := readArguments none arguments
  match decided? false given, optionsOf? given with
  | some request, _ => request
  | none, some options => .work options
  | none, none => .misuse

end ReleaseStamp.CommandLine
