import ReleaseStamp.Proofs.Project.Update

/-!
# Asking for checksums

When the checksums are asked for, and what is left if one of them cannot be had. They are asked for
one after the other, in the order of the platforms and not before all else is written, and nothing
is written before the last one is there.
-/
namespace ReleaseStamp.Project

open Job (Keeps)

variable {α β : Type} {project : Project} {answer : String → String → Except Error String}
  {session : Session}

def call (project : Project) (platform : Platform) : String × String :=
  (project.config.rustupVersion, platform.rustTarget)

/-- Those of the platforms that are asked for: all of them, or those up to the first one that is
refused, and then the error of the refusal. -/
inductive Asked (project : Project) (answer : String → String → Except Error String)
    (platforms : List Platform) : List Platform → Option Error → Prop where
  | all : (∀ platform ∈ platforms, ∃ hash,
        answer project.config.rustupVersion platform.rustTarget = .ok hash) →
      Asked project answer platforms platforms none
  | upTo {before rest : List Platform} {platform : Platform} {error : Error} :
      platforms = before ++ platform :: rest →
      (∀ platform ∈ before, ∃ hash,
        answer project.config.rustupVersion platform.rustTarget = .ok hash) →
      answer project.config.rustupVersion platform.rustTarget = .error error →
      Asked project answer platforms (before ++ [platform]) (some error)

theorem Asked.cons {platform : Platform} {platforms asked : List Platform} {stop : Option Error}
    {hash : String} (hhash : answer project.config.rustupVersion platform.rustTarget = .ok hash)
    (h : Asked project answer platforms asked stop) :
    Asked project answer (platform :: platforms) (platform :: asked) stop := by
  cases h with
  | all hall => exact .all (List.forall_mem_cons.mpr ⟨⟨hash, hhash⟩, hall⟩)
  | upTo hsplit hbefore herror =>
    exact .upTo (congrArg (platform :: ·) hsplit)
      (List.forall_mem_cons.mpr ⟨⟨hash, hhash⟩, hbefore⟩) herror

def afterCalls (project : Project) (session : Session) (asked : List Platform) : Session :=
  { session with calls := session.calls ++ asked.map project.call }

theorem afterCalls_cons (project : Project) (session : Session) (platform : Platform)
    (asked : List Platform) : project.afterCalls session (platform :: asked) =
      project.afterCalls (project.afterCalls session [platform]) asked := by
  simp [afterCalls]

theorem perform_fetches (project : Project) (answer : String → String → Except Error String)
    (platforms : List Platform) (session : Session) :
    ∃ asked stop, Asked project answer platforms asked stop ∧ ∃ outcome,
      (platforms.mapM fun platform => Checksum.fetch (.table answer) project.config.rustupVersion
        platform.rustTarget >>= fun hash => pure (platform, hash) : Job _).perform session =
          (outcome, project.afterCalls session asked) ∧
      ∀ error, stop = some error ↔ outcome = .error error := by
  induction platforms generalizing session with
  | nil =>
    refine ⟨[], none, .all (List.forall_mem_nil _), .ok [], ?_, by simp⟩
    simp [List.mapM_nil, afterCalls]
  | cons platform platforms ih =>
    have hfetch := perform_fetch answer project.config.rustupVersion platform.rustTarget session
    rw [List.mapM_cons]
    cases hanswer : answer project.config.rustupVersion platform.rustTarget with
    | error error =>
      rw [hanswer] at hfetch
      have hfirst : platform :: platforms = [] ++ platform :: platforms := rfl
      refine ⟨[platform], some error, .upTo hfirst (List.forall_mem_nil _) hanswer,
        .error error, ?_, by simp⟩
      rw [Job.perform_bind, Job.perform_bind, hfetch]
      rfl
    | ok hash =>
      rw [hanswer] at hfetch
      obtain ⟨asked, stop, hasked, outcome, hrest, hstop⟩ :=
        ih (project.afterCalls session [platform])
      refine ⟨platform :: asked, stop, hasked.cons hanswer, ?_⟩
      rw [Job.perform_bind, Job.perform_bind, hfetch, afterCalls_cons]
      simp only [Job.perform_pure, Job.perform_bind]
      rw [show ({ session with calls := session.calls ++
        [(project.config.rustupVersion, platform.rustTarget)] } : Session) =
          project.afterCalls session [platform] from rfl, hrest]
      cases outcome with
      | error error => exact ⟨_, rfl, hstop⟩
      | ok hashes => exact ⟨_, rfl, by simpa using hstop⟩

/-- Asking for all checksums changes nothing but the calls, and fails with the error of the first
refusal. -/
theorem perform_archMatch (project : Project) (answer : String → String → Except Error String)
    (session : Session) :
    ∃ asked stop, Asked project answer project.config.platforms asked stop ∧ ∃ outcome,
      (project.archMatch (.table answer)).perform session =
        (outcome, project.afterCalls session asked) ∧
      ∀ error, stop = some error ↔ outcome = .error error := by
  obtain ⟨asked, stop, hasked, outcome, hfetches, hstop⟩ :=
    project.perform_fetches answer project.config.platforms session
  refine ⟨asked, stop, hasked, ?_⟩
  rw [archMatch_eq, Job.perform_bind, hfetches]
  cases outcome with
  | error error => exact ⟨.error error, rfl, by simpa using hstop⟩
  | ok hashes => exact ⟨.ok (dispatchBlock hashes), rfl, by simpa using hstop⟩

section Keeps

variable {γ : Type} {view : Session → γ} [Job.Aside view]

instance (template : Template) (path : Path) : Keeps view (template.write path) :=
  inferInstanceAs (Keeps view (Job.writeText path _ >>= fun _ => Job.note _ _ _))

set_option synthInstance.maxSize 256 in
instance (project : Project) : Keeps view project.updateVersions := by
  rw [updateVersions_eq]
  infer_instance

instance (project : Project) (platform : Platform) :
    Keeps view (project.renderDockerfile platform) :=
  inferInstanceAs (Keeps view (Template.load _ >>= fun template => template.fill _ _))

instance (project : Project) (platform : Platform) : Keeps view (project.renderEntry platform) :=
  inferInstanceAs (Keeps view (_ >>= fun _ => pure _))

instance (project : Project) : Keeps view project.writeDockerfiles := by
  rw [writeDockerfiles_eq]
  infer_instance

end Keeps

/-- How a job calls for checksums that has to go through some stages first, each of which gives the
session that the next one starts from. -/
structure Calling (project : Project) (answer : String → String → Except Error String)
    (session : Session) (stages : Session → Prop) (result : Except Error α × Session) : Prop where
  /-- No call is made unless all stages have succeeded and the template of the installer is read. -/
  staged : result.2.calls ≠ session.calls → ∃ ready text, stages ready ∧
    ready.tree.readText project.layout.installerTemplate = .ok text
  /-- Then the platforms are asked for in their order, and a refusal ends the job. -/
  asks : ∀ ready text, stages ready →
    ready.tree.readText project.layout.installerTemplate = .ok text →
    ∃ asked stop, Asked project answer project.config.platforms asked stop ∧
      result.2.calls = session.calls ++ asked.map project.call ∧
      ∀ error, stop = some error → result = (.error error, project.afterCalls ready asked)
  /-- A job that succeeds has asked for all of them. -/
  complete : ∀ value, result.1 = .ok value →
    result.2.calls = session.calls ++ project.config.platforms.map project.call

variable {stages : Session → Prop}

theorem Calling.congr {stages' : Session → Prop} {result : Except Error α × Session}
    (h : Calling project answer session stages result)
    (hstages : ∀ ready, stages ready ↔ stages' ready) :
    Calling project answer session stages' result := by
  obtain rfl : stages = stages' := funext fun ready => propext (hstages ready)
  exact h

/-- A stage in front, which makes no call itself. -/
theorem Calling.bind {job : Job β} [hjob : Keeps Session.calls job] {next : β → Job α}
    {stages : β → Session → Session → Prop}
    (h : ∀ x between,
      Calling project answer between (stages x between) ((next x).perform between)) :
    Calling project answer session
      (fun ready => ∃ x between, job.perform session = (.ok x, between) ∧ stages x between ready)
      ((job >>= next).perform session) := by
  have hcalls := hjob.view_eq session
  rw [Job.perform_bind]
  cases hperform : job.perform session with
  | mk outcome between =>
    rw [hperform] at hcalls
    cases outcome with
    | error error =>
      refine ⟨fun hcalled => absurd hcalls hcalled, ?_, ?_⟩
      · rintro ready text ⟨x, between', heq, _⟩
        cases heq
      · intro value hvalue
        cases hvalue
    | ok x =>
      obtain ⟨hstaged, hasks, hcomplete⟩ := h x between
      simp only at hcalls
      rw [hcalls] at hstaged hasks hcomplete
      refine ⟨?_, ?_, hcomplete⟩
      · intro hcalled
        obtain ⟨ready, text, hready, htext⟩ := hstaged hcalled
        exact ⟨ready, text, ⟨x, between, rfl, hready⟩, htext⟩
      · rintro ready text ⟨x', between', heq, hready⟩ htext
        cases heq
        exact hasks ready text hready htext

/-- What follows and only shapes the value of the job. -/
theorem Calling.map {job : Job β} {shape : β → α}
    (h : Calling project answer session stages (job.perform session)) :
    Calling project answer session stages ((job >>= fun x => pure (shape x)).perform session) := by
  rw [Job.perform_bind]
  cases hperform : job.perform session with
  | mk outcome after =>
    rw [hperform] at h
    cases outcome with
    | error error =>
      refine ⟨h.staged, ?_, fun value hvalue => nomatch hvalue⟩
      intro ready text hready htext
      obtain ⟨asked, stop, hasked, hcalls, hstop⟩ := h.asks ready text hready htext
      refine ⟨asked, stop, hasked, hcalls, ?_⟩
      intro error' herror
      have hresult := hstop error' herror
      rw [Prod.mk.injEq, Except.error.injEq] at hresult
      obtain ⟨rfl, rfl⟩ := hresult
      rfl
    | ok x =>
      refine ⟨h.staged, ?_, fun _ _ => h.complete x rfl⟩
      intro ready text hready htext
      obtain ⟨asked, stop, hasked, hcalls, hstop⟩ := h.asks ready text hready htext
      refine ⟨asked, stop, hasked, hcalls, ?_⟩
      intro error herror
      cases hstop error herror

def finishInstaller (project : Project) (template : Template) (block : String) : Job Unit := do
  let installer ← template.fill "add_rust_lang.sh" (project.installerTokens block)
  installer.write project.layout.installerOutput

instance {γ : Type} {view : Session → γ} [Job.Aside view] (project : Project) (template : Template)
    (block : String) : Keeps view (project.finishInstaller template block) :=
  inferInstanceAs (Keeps view (template.fill _ _ >>= fun installer => installer.write _))

theorem perform_writeInstaller {source : Checksum.Source} {text : String}
    (htext : session.tree.readText project.layout.installerTemplate = .ok text) :
    ∃ template, template.inner = text ∧ (project.writeInstaller source).perform session =
      (project.archMatch source >>= project.finishInstaller template).perform session := by
  refine ⟨⟨Template.nameOf project.layout.installerTemplate, text⟩, rfl, ?_⟩
  unfold writeInstaller
  rw [Job.perform_bind, renderInstaller_eq, Job.perform_bind, Template.perform_load, htext]
  simp only [Except.mapError, Except.map, Job.perform_bind]
  cases (project.archMatch source).perform session with
  | mk outcome after =>
    cases outcome with
    | error error => rfl
    | ok block =>
      simp only [finishInstaller, Job.perform_bind]

theorem perform_writeInstaller_error {source : Checksum.Source} {fault : FileTree.Fault}
    (hfault : session.tree.readText project.layout.installerTemplate = .error fault) :
    (project.writeInstaller source).perform session =
      (.error (Job.faultAt project.layout.installerTemplate fault), session) := by
  unfold writeInstaller
  rw [Job.perform_bind, renderInstaller_eq, Job.perform_bind, Template.perform_load, hfault]
  rfl

theorem calling_writeInstaller (project : Project)
    (answer : String → String → Except Error String) (session : Session) :
    Calling project answer session (fun ready => ready = session)
      ((project.writeInstaller (.table answer)).perform session) := by
  cases hread : session.tree.readText project.layout.installerTemplate with
  | error fault =>
    rw [perform_writeInstaller_error hread]
    refine ⟨fun hcalled => absurd rfl hcalled, ?_, fun value hvalue => nomatch hvalue⟩
    rintro ready text rfl htext
    cases hread.symm.trans htext
  | ok text =>
    obtain ⟨template, -, hwrite⟩ : ∃ template, template.inner = text ∧
        (project.writeInstaller (.table answer)).perform session = (project.archMatch
          (.table answer) >>= project.finishInstaller template).perform session :=
      perform_writeInstaller hread
    obtain ⟨asked, stop, hasked, outcome, harch, hstop⟩ := project.perform_archMatch answer session
    rw [hwrite, Job.perform_bind, harch]
    cases outcome with
    | error error =>
      refine ⟨fun _ => ⟨session, text, rfl, hread⟩, ?_, fun value hvalue => nomatch hvalue⟩
      rintro ready _ rfl _
      refine ⟨asked, stop, hasked, rfl, ?_⟩
      intro error' herror
      cases (hstop error').mp herror
      rfl
    | ok block =>
      have hkeeps : Keeps Session.calls (project.finishInstaller template block) := inferInstance
      have hcalls := hkeeps.view_eq (project.afterCalls session asked)
      cases hasked with
      | upTo => cases (hstop _).mp rfl
      | all hall =>
        refine ⟨fun _ => ⟨session, text, rfl, hread⟩, ?_, fun _ _ => hcalls⟩
        rintro ready _ rfl _
        exact ⟨project.config.platforms, none, .all hall, hcalls, fun _ hnone => nomatch hnone⟩

/-- The checksums are asked for when all else has been written and the template of the installer is
read, one call for each platform in their order up to the first refusal. The refusal is the error of
the whole, and leaves what was there before the first call. -/
theorem installer_calls (project : Project) (answer : String → String → Except Error String)
    (session : Session) :
    Calling project answer session (fun ready => ready = session)
      ((project.writeInstaller (.table answer)).perform session) ∧
    Calling project answer session
      (fun ready => project.writeDockerfiles.perform session = (.ok (), ready))
      ((project.updateAll (.table answer)).perform session) ∧
    Calling project answer session
      (fun ready => ∃ version between,
        project.updateVersions.perform session = (.ok version, between) ∧
        project.writeDockerfiles.perform between = (.ok (), ready))
      ((project.run (.table answer)).perform session) := by
  have hinstaller := project.calling_writeInstaller answer
  have hall : ∀ session, Calling project answer session
      (fun ready => project.writeDockerfiles.perform session = (.ok (), ready))
      ((project.updateAll (.table answer)).perform session) := by
    intro session
    have hbind : Calling project answer session
        (fun ready => ∃ value between, project.writeDockerfiles.perform session =
          (.ok value, between) ∧ ready = between)
        ((project.updateAll (.table answer)).perform session) :=
      Calling.bind fun _ between => hinstaller between
    refine hbind.congr ?_
    intro ready
    constructor
    · rintro ⟨_, between, hwritten, rfl⟩
      exact hwritten
    · intro hwritten
      exact ⟨(), ready, hwritten, rfl⟩
  refine ⟨hinstaller session, hall session, ?_⟩
  rw [run_eq]
  exact Calling.bind fun version between => (hall between).map

end ReleaseStamp.Project
