import ReleaseStamp.CommandLine.Run
import ReleaseStamp.Proofs.CommandLine.Options
import ReleaseStamp.Proofs.Project.Requests

/-!
# What a run does

A run that is asked for work reads the configuration and hands it to the one action asked for. What
it tells of that on the error output has no part in what it does.
-/
namespace ReleaseStamp

open Job (Keeps OnWorld)

theorem Config.perform_load (path : Path) (session : Session) :
    (load path).perform session = (match session.tree.readText path with
      | .ok document => ofToml document
      | .error fault => .error (.config (path.shown ++ ": " ++ fault.message)), session) := by
  unfold load
  rw [Job.perform_get_bind]
  cases session.tree.readText path with
  | ok document => exact Job.perform_ofExcept _ session
  | error fault => rfl

instance {γ : Type} (view : Session → γ) (path : Path) : Keeps view (Config.load path) :=
  ⟨fun session => by rw [Config.perform_load]⟩

instance (path : Path) : OnWorld (Config.load path) := by
  refine ⟨fun first second h => ?_⟩
  obtain ⟨htree, _⟩ := Prod.mk.inj h
  rw [Job.seen, Config.perform_load, Job.seen, Config.perform_load, htree]
  exact congrArg (_, ·) h

namespace CommandLine

variable {client : Http.Client} {arguments : List String} {options : Options} {tree : FileTree}

/-- The configuration that options ask for, and the session that it leaves. -/
inductive Configured (options : Options) (session : Session) :
    Except Error Config → Session → Prop where
  | initial : options.config = none → Configured options session (.ok {}) session
  | loaded {path : String} {outcome : Except Error Config} {after : Session} :
      options.config = some path → (Config.load path).perform session = (outcome, after) →
      Configured options session outcome after

/-- What comes of the configuration and, if there is one, of the one action asked for. Checksums are
requested at the address that is configured. -/
inductive Served (client : Http.Client) (options : Options) (session : Session) :
    Except Error Unit → Session → Prop where
  | unconfigured {error : Error} {after : Session} :
      Configured options session (.error error) after →
      Served client options session (.error error) after
  | versions {config : Config} {ready after : Session} {outcome : Except Error String} :
      options.action = .versions → Configured options session (.ok config) ready →
      (Project.mk config ⟨options.dir⟩).updateVersions.perform ready = (outcome, after) →
      Served client options session (outcome.map fun _ => ()) after
  | images {config : Config} {ready after : Session} {outcome : Except Error Unit} :
      options.action = .images → Configured options session (.ok config) ready →
      ((Project.mk config ⟨options.dir⟩).updateAll
        (.archive client config.checksumUrl)).perform ready = (outcome, after) →
      Served client options session outcome after
  | all {config : Config} {ready after : Session} {outcome : Except Error String} :
      options.action = .all → Configured options session (.ok config) ready →
      ((Project.mk config ⟨options.dir⟩).run
        (.archive client config.checksumUrl)).perform ready = (outcome, after) →
      Served client options session (outcome.map fun _ => ()) after

theorem configured_configOf (options : Options) (session : Session) :
    Configured options session ((configOf options).perform session).1
      ((configOf options).perform session).2 := by
  unfold configOf
  cases hconfig : options.config with
  | none => exact .initial hconfig
  | some path => exact .loaded hconfig rfl

theorem served_work (client : Http.Client) (options : Options) (session : Session) :
    Served client options session ((work client options).perform session).1
      ((work client options).perform session).2 := by
  have hconfigured := configured_configOf options session
  unfold work
  rw [Job.perform_bind]
  cases hperform : (configOf options).perform session with
  | mk outcome ready =>
    rw [hperform] at hconfigured
    cases outcome with
    | error error => exact .unconfigured hconfigured
    | ok config =>
      unfold perform
      cases haction : options.action with
      | versions =>
        simp only [Job.perform_discard]
        exact .versions haction hconfigured rfl
      | images => exact .images haction hconfigured rfl
      | all =>
        simp only [Job.perform_discard]
        exact .all haction hconfigured rfl

instance (options : Options) : OnWorld (configOf options) := by
  unfold configOf
  cases options.config <;> infer_instance

instance (client : Http.Client) (action : Action) (project : Project) :
    OnWorld (perform client action project) := by
  cases action with
  | versions => exact inferInstanceAs (OnWorld (project.updateVersions >>= fun _ => pure ()))
  | images => exact inferInstanceAs (OnWorld (project.updateAll _))
  | all => exact inferInstanceAs (OnWorld (project.run _ >>= fun _ => pure ()))

instance (client : Http.Client) (options : Options) : OnWorld (work client options) :=
  inferInstanceAs (OnWorld (configOf options >>= fun _ => perform _ _ _))

theorem requests_work (h : options.action = .versions) (session : Session) :
    ((work client options).perform session).2.requests = session.requests := by
  have hkeeps : Keeps Session.requests (work client options) := by
    unfold work configOf
    rw [h]
    cases options.config with
    | none =>
      exact inferInstanceAs (Keeps _ (pure _ >>= fun _ => Project.updateVersions _ >>= fun _ =>
        pure _))
    | some path =>
      exact inferInstanceAs (Keeps _ (Config.load path >>= fun _ => Project.updateVersions _ >>=
        fun _ => pure _))
  exact hkeeps.view_eq session

/-- The notes of a run change nothing of what is seen of its work. -/
theorem seen_notedWork (client : Http.Client) (options : Options) (session : Session) :
    (notedWork client options).seen session = (work client options).seen session := by
  -- the handler notes the error and passes it on
  have hhandled : ∀ session, (tryCatch (work client options) fun error => do
      Job.note .error .commandLine error.message
      throw error).seen session = (work client options).seen session := by
    intro session
    rw [Job.seen, Job.seen, Job.perform_tryCatch]
    cases (work client options).perform session with
    | mk outcome after => cases outcome <;> rfl
  unfold notedWork
  split
  · -- the work starts behind a warning, from the same world
    rw [Job.seen_bind (Job.perform_note _ _ _ _), hhandled]
    exact OnWorld.seen_eq _ _ rfl
  · exact hhandled session

def Ending.exit? : Ending → Option Nat
  | .misuse => none
  | .finished exit _ _ => some exit

def seen (client : Http.Client) (arguments : List String) (tree : FileTree) :
    Option Nat × FileTree × List Http.Request :=
  ((run client arguments tree).1.exit?, (run client arguments tree).2.world)

def exitOf : Except Error Unit → Nat
  | .ok () => 0
  | .error _ => 1

theorem seen_eq (h : Request.ofArguments arguments = .work options) (tree : FileTree) :
    seen client arguments tree = (some (exitOf ((work client options).seen { tree }).1),
      ((work client options).seen { tree }).2) := by
  rw [← seen_notedWork]
  unfold seen run
  rw [h]
  simp only [Job.seen]
  cases (notedWork client options).perform { tree } with
  | mk outcome after => cases outcome <;> rfl

structure Faithful (client : Http.Client) (arguments : List String) (options : Options)
    (tree : FileTree) : Prop where
  /-- The files and the requests are those of the library, and the exit status tells whether all of
  it has succeeded. -/
  served : ∃ outcome after, Served client options { tree } outcome after ∧
    seen client arguments tree = (some (exitOf outcome), after.world)
  /-- A configuration that cannot be loaded ends the run before anything is done, whatever the
  action. -/
  unconfigured : ∀ path error after, options.config = some path →
    (Config.load path).perform { tree } = (.error error, after) →
    seen client arguments tree = (some 1, tree, [])
  /-- Under no configuration does the action for versions make a request. -/
  silent : options.action = .versions → (run client arguments tree).2.requests = []
  /-- The flags that ask for more output may come and go, as long as none is repeated. -/
  telling : ∀ arguments', substance arguments' = substance arguments →
    (∀ flag ∈ [Flag.verbose, .debug], (readArguments none arguments').count (.flag flag) ≤ 1) →
    seen client arguments' tree = seen client arguments tree

/-- The command line refines the library, whatever the files and the servers are. -/
theorem run_faithful (client : Http.Client) (tree : FileTree)
    (h : Request.ofArguments arguments = .work options) :
    Faithful client arguments options tree := by
  have hseen : seen client arguments tree =
      (some (exitOf ((work client options).seen { tree }).1),
        ((work client options).seen { tree }).2) := seen_eq h tree
  constructor
  case served => exact ⟨_, _, served_work client options { tree }, hseen⟩
  case unconfigured =>
    intro path error after hpath hload
    have hafter : after = { tree } := by
      rw [Config.perform_load, Prod.mk.injEq] at hload
      exact hload.2.symm
    have hwork : (work client options).perform { tree } = (.error error, { tree }) := by
      rw [work, configOf, hpath, Job.perform_bind, hload, hafter]
    rw [hseen, Job.seen_of_perform hwork]
    rfl
  case silent =>
    intro haction
    have hrequests : (run client arguments tree).2.requests =
        ((work client options).perform { tree }).2.requests := congrArg (·.2.2) hseen
    rw [hrequests, requests_work haction]
  case telling =>
    intro arguments' hsame honce
    obtain ⟨verbose, debug, h'⟩ := ofArguments_of_substance h hsame honce
    rw [hseen, seen_eq h' tree]
    rfl

def versionTree : FileTree where
  root := .folder [("VERSION", .file "1.2.3\n".toUTF8)]

theorem run_faithful_versions :
    Request.ofArguments ["-v", "versions", "-c", "conf.toml"] =
      .work { action := .versions, config := some "conf.toml", verbose := true } ∧
    Faithful Http.Network.silent ["-v", "versions", "-c", "conf.toml"]
      { action := .versions, config := some "conf.toml", verbose := true } versionTree ∧
    seen Http.Network.silent ["-v", "versions", "-c", "conf.toml"] versionTree =
      (some 1, versionTree, []) ∧
    (run Http.Network.silent ["-v", "versions", "-c", "conf.toml"] versionTree).2.requests = [] ∧
    seen Http.Network.silent ["versions", "--config=conf.toml", "-d"] versionTree =
      seen Http.Network.silent ["-v", "versions", "-c", "conf.toml"] versionTree := by
  have hwork : Request.ofArguments ["-v", "versions", "-c", "conf.toml"] =
      .work { action := .versions, config := some "conf.toml", verbose := true } := by decide
  have hfaithful := run_faithful Http.Network.silent versionTree hwork
  have hmissing : versionTree.readText "conf.toml" = .error .missing := by decide +kernel
  have hload : (Config.load "conf.toml").perform { tree := versionTree } =
      (.error (.config ("conf.toml: " ++ FileTree.Fault.missing.message)),
        { tree := versionTree }) := by
    rw [Config.perform_load, hmissing]
    rfl
  exact ⟨hwork, hfaithful, hfaithful.unconfigured _ _ _ rfl hload, hfaithful.silent rfl,
    hfaithful.telling _ (by decide) (by decide)⟩

end CommandLine

end ReleaseStamp
