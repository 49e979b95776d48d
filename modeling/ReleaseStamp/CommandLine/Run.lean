import ReleaseStamp.CommandLine.Options
import ReleaseStamp.Config.Toml
import ReleaseStamp.Project.Run

/-!
# Runs of the command line

A run reads the configuration, does what the action asks for, and tells of it on the error output:
warnings, and more if asked for. A run that meets an error says so and fails.
-/
namespace ReleaseStamp.CommandLine

/-! Outside the program, paths are shown as texts. -/

instance : Coe Path String := ⟨Path.shown⟩

instance : Coe (List Path) (List String) := ⟨List.map Path.shown⟩

def versionText : String := "buildsync 0.2.0\n"

def helpText : String := versionText ++ "Naman Bishnoi
Keeps Dockerfiles, CI pipelines and build scripts in sync with the VERSION file

USAGE:
    buildsync [FLAGS] [OPTIONS] [ACTION]

FLAGS:
    -d, --debug      Print debug info, including HTTP requests
    -h, --help       Prints help information
    -V, --version    Prints version information
    -v, --verbose    Print what's being written

OPTIONS:
    -c, --config <FILE>    TOML file overriding the pinned versions, paths and platforms
    -C, --dir <DIR>        Root of the repository to maintain. Defaults to the current directory

ARGS:
    <ACTION>    What to regenerate. 'versions' propagates VERSION, 'images' renders the Dockerfiles and the rust
                installer, 'all' does both [default: all]  [possible values: versions, images, all]
"

def Options.level (options : Options) : Log.Level :=
  if options.debug then .debug else if options.verbose then .info else .warn

def configOf (options : Options) : Job Config :=
  match options.config with
  | some path => Config.load path
  | none => return {}

def perform (client : Http.Client) (action : Action) (project : Project) : Job Unit :=
  let source := Checksum.Source.archive client project.config.checksumUrl
  match action with
  | .versions => discard project.updateVersions
  | .images => project.updateAll source
  | .all => discard (project.run source)

def work (client : Http.Client) (options : Options) : Job Unit := do
  let config ← configOf options
  perform client options.action { config, layout := ⟨options.dir⟩ }

def notedWork (client : Http.Client) (options : Options) : Job Unit := do
  if options.debug && options.verbose then
    Job.note .warn .commandLine "Specified both --verbose and --debug! Will ignore --verbose."
  tryCatch (work client options) fun error => do
    Job.note .error .commandLine error.message
    throw error

inductive Ending where
  /-- The arguments were refused. -/
  | misuse
  | finished (exit : Nat) (output errors : String)
deriving DecidableEq, Repr, Inhabited

def run (client : Http.Client) (arguments : List String) (tree : FileTree) :
    Ending × Session :=
  match Request.ofArguments arguments with
  | .help => (.finished 0 helpText "", { tree })
  | .version => (.finished 0 versionText "", { tree })
  | .misuse => (.misuse, { tree })
  | .work options =>
    let (result, session) := (notedWork client options).perform { tree }
    let exit := match result with
      | .ok () => 0
      | .error _ => 1
    (.finished exit "" (Log.written options.level session.log), session)

end ReleaseStamp.CommandLine
