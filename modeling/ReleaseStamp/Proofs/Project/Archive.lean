import ReleaseStamp.Proofs.Checksum.Answer
import ReleaseStamp.Proofs.Project.Dispatch
import ReleaseStamp.Proofs.Session.Write

/-!
# Checksums from an archive

The installer is written only if the archive has a checksum for every platform, and each branch of
its block has the one that was answered for its own platform.
-/
namespace ReleaseStamp

/-- A template that has been written is read back. -/
theorem Template.readText_write {template : Template} {path : Path} {session after : Session}
    {value : Unit} (hhere : session.tree.root.contentAt session.tree.here = some .folder)
    (h : (template.write path).perform session = (.ok value, after)) :
    after.tree.readText path = .ok template.inner := by
  unfold write at h
  obtain ⟨_, written, hwrite, hnote⟩ := Job.perform_bind_ok.mp h
  obtain ⟨hread, _⟩ := (Job.writeText_leaves session hhere path template.inner).1 written hwrite
  rw [Job.perform_readText, Prod.mk.injEq, Job.mapError_eq_ok] at hread
  rw [Job.perform_note] at hnote
  cases hnote
  exact hread.1

namespace Project

open Checksum (Carries fetch url)

variable {project : Project} {client : Http.Client} {base : String} {session after : Session}
  {requests requests' : List Http.Request} {platforms : List Platform}
  {answers : List Http.Answer} {hashes : List String} {error : Error}

/-- The checksums of the platforms are asked for one after the other, and these are the answers. -/
inductive Receives (project : Project) (client : Http.Client) (base : String) :
    List Http.Request → List Platform → List Http.Answer → List Http.Request → Prop where
  | nil (requests : List Http.Request) : Receives project client base requests [] [] requests
  | cons {requests between requests' : List Http.Request} {platform : Platform}
      {platforms : List Platform} {answer : Http.Answer} {answers : List Http.Answer} :
      client requests
        (url base project.config.rustupVersion platform.rustTarget) = (.ok answer, between) →
      Receives project client base between platforms answers requests' →
      Receives project client base requests (platform :: platforms) (answer :: answers)
        requests'

def fetchEntry (project : Project) (client : Http.Client) (base : String) (platform : Platform) :
    Job (Platform × String) :=
  fetch (.archive client base) project.config.rustupVersion platform.rustTarget >>= fun hash =>
    pure (platform, hash)

theorem perform_fetchEntry {platform : Platform} {answer : Http.Answer}
    {between : List Http.Request} {hash : String}
    (hask : client session.requests
      (url base project.config.rustupVersion platform.rustTarget) = (.ok answer, between))
    (hcarries : Carries answer hash) : ∃ next,
      (project.fetchEntry client base platform).perform session = (.ok (platform, hash), next) ∧
      next.tree = session.tree ∧ next.requests = between := by
  obtain ⟨log, calls, hfetch⟩ := Checksum.perform_fetch_asked hask
  rw [Checksum.ofExchange_eq_ok_iff.mpr ⟨answer, rfl, hcarries⟩] at hfetch
  rw [fetchEntry, Job.perform_bind, hfetch]
  exact ⟨_, rfl, rfl, rfl⟩

theorem receives_fetchEntry {platform : Platform} {entry : Platform × String}
    (h : (project.fetchEntry client base platform).perform session = (.ok entry, after)) :
    ∃ answer hash, client session.requests
        (url base project.config.rustupVersion platform.rustTarget) =
          (.ok answer, after.requests) ∧
      Carries answer hash ∧ entry = (platform, hash) ∧ after.tree = session.tree := by
  obtain ⟨hash, next, hfetch, hpair⟩ := Job.perform_bind_ok.mp h
  cases hpair
  cases hask : client session.requests
      (url base project.config.rustupVersion platform.rustTarget) with
  | mk exchange requests =>
    obtain ⟨log, calls, hasked⟩ := Checksum.perform_fetch_asked hask
    obtain ⟨hexchange, rfl⟩ := Prod.mk.inj (hasked.symm.trans hfetch)
    obtain ⟨answer, rfl, hcarries⟩ := Checksum.ofExchange_eq_ok_iff.mp hexchange
    exact ⟨answer, hash, rfl, hcarries, rfl, rfl⟩

theorem fetchEntry_error {platform : Platform}
    (h : (project.fetchEntry client base platform).perform session = (.error error, after)) :
    ∃ message, error = .checksum message := by
  have hfetch := Checksum.fst_perform_fetch client base project.config.rustupVersion
    platform.rustTarget session
  rw [fetchEntry, Job.perform_bind] at h
  split at h
  · cases h
  · rename_i heq
    cases h
    rw [heq] at hfetch
    exact Checksum.ofExchange_error hfetch.symm

theorem Receives.perform_fetches (h : project.Receives client base requests platforms answers
    requests') (hcarries : List.Forall₂ Carries answers hashes)
    (hrequests : session.requests = requests) : ∃ next,
      (platforms.mapM (project.fetchEntry client base)).perform session =
        (.ok (platforms.zip hashes), next) ∧
      next.tree = session.tree ∧ next.requests = requests' := by
  -- The next platform is asked for after the requests that the one before has left.
  induction h generalizing session hashes with
  | nil requests => exact ⟨session, rfl, rfl, hrequests⟩
  | cons hask _ ih =>
    cases hcarries with
    | cons hcarries hrest =>
      rw [← hrequests] at hask
      obtain ⟨between, hentry, htree, hbetween⟩ := perform_fetchEntry hask hcarries
      obtain ⟨next, hfetches, hnext, hend⟩ := ih hrest hbetween
      refine ⟨next, ?_, hnext.trans htree, hend⟩
      rw [List.mapM_cons, Job.perform_bind, hentry]
      simp only [Job.perform_bind, hfetches, Job.perform_pure, List.zip_cons_cons]

theorem receives_fetches {entries : List (Platform × String)}
    (h : (platforms.mapM (project.fetchEntry client base)).perform session =
      (.ok entries, after)) :
    ∃ answers hashes,
      project.Receives client base session.requests platforms answers after.requests ∧
      List.Forall₂ Carries answers hashes ∧ entries = platforms.zip hashes ∧
      after.tree = session.tree := by
  induction platforms generalizing session entries with
  | nil =>
    cases h
    exact ⟨[], [], .nil _, .nil, rfl, rfl⟩
  | cons platform platforms ih =>
    rw [List.mapM_cons] at h
    obtain ⟨entry, between, hentry, hrest⟩ := Job.perform_bind_ok.mp h
    obtain ⟨others, last, hothers, hpure⟩ := Job.perform_bind_ok.mp hrest
    cases hpure
    obtain ⟨answer, hash, hask, hcarries, rfl, htree⟩ := receives_fetchEntry hentry
    obtain ⟨answers, hashes, hreceives, hall, rfl, hlast⟩ := ih hothers
    exact ⟨answer :: answers, hash :: hashes, .cons hask hreceives, .cons hcarries hall, rfl,
      hlast.trans htree⟩

theorem fetches_error
    (h : (platforms.mapM (project.fetchEntry client base)).perform session =
      (.error error, after)) : ∃ message, error = .checksum message := by
  induction platforms generalizing session with
  | nil => cases h
  | cons platform platforms ih =>
    rw [List.mapM_cons, Job.perform_bind] at h
    split at h
    · rw [Job.perform_bind] at h
      split at h
      · cases h
      · rename_i hothers
        cases h
        exact ih hothers
    · rename_i hentry
      cases h
      exact fetchEntry_error hentry

theorem archMatch_archive (project : Project) (client : Http.Client) (base : String) :
    project.archMatch (.archive client base) =
      (project.config.platforms.mapM (project.fetchEntry client base) >>= fun platforms =>
        pure (dispatchBlock platforms)) := rfl

theorem Receives.perform_archMatch
    (h : project.Receives client base session.requests project.config.platforms answers requests)
    (hcarries : List.Forall₂ Carries answers hashes) : ∃ next,
      (project.archMatch (.archive client base)).perform session =
        (.ok (dispatchBlock (project.config.platforms.zip hashes)), next) ∧
      next.tree = session.tree := by
  obtain ⟨next, hfetches, htree, _⟩ := h.perform_fetches hcarries rfl
  refine ⟨next, ?_, htree⟩
  rw [archMatch_archive, Job.perform_bind, hfetches]
  rfl

theorem receives_archMatch {block : String}
    (h : (project.archMatch (.archive client base)).perform session = (.ok block, after)) :
    ∃ answers hashes, project.Receives client base session.requests project.config.platforms
        answers after.requests ∧
      List.Forall₂ Carries answers hashes ∧
      block = dispatchBlock (project.config.platforms.zip hashes) ∧ after.tree = session.tree := by
  rw [archMatch_archive] at h
  obtain ⟨entries, last, hfetches, hpure⟩ := Job.perform_bind_ok.mp h
  cases hpure
  obtain ⟨answers, hashes, hreceives, hcarries, rfl, htree⟩ := receives_fetches hfetches
  exact ⟨answers, hashes, hreceives, hcarries, rfl, htree⟩

theorem archMatch_error
    (h : (project.archMatch (.archive client base)).perform session = (.error error, after)) :
    ∃ message, error = .checksum message := by
  rw [archMatch_archive, Job.perform_bind] at h
  split at h
  · cases h
  · rename_i hfetches
    cases h
    exact fetches_error hfetches

theorem perform_finishInstaller (project : Project) (template : Template)
    (entries : List (Platform × String)) (session : Session) : ∃ log,
      (project.finishInstaller template (dispatchBlock entries)).perform session =
        ((project.installer template.inner entries).write
          project.layout.installerOutput).perform { session with log } := by
  obtain ⟨log, hfill⟩ := template.perform_fill "add_rust_lang.sh"
    (project.installerTokens (dispatchBlock entries)) session
  refine ⟨log, ?_⟩
  rw [finishInstaller, Job.perform_bind, hfill]
  rfl

theorem Receives.perform_writeInstaller {text : String}
    (h : project.Receives client base session.requests project.config.platforms answers requests)
    (hcarries : List.Forall₂ Carries answers hashes)
    (htext : session.tree.readText project.layout.installerTemplate = .ok text)
    (hwrite : (((project.installer text (project.config.platforms.zip hashes)).write
      project.layout.installerOutput).perform { tree := session.tree }).1 = .ok ()) :
    ∃ after, (project.writeInstaller (.archive client base)).perform session = (.ok (), after) := by
  obtain ⟨template, rfl, hinstaller⟩ : ∃ template : Template, template.inner = text ∧
      (project.writeInstaller (.archive client base)).perform session =
        (project.archMatch (.archive client base) >>=
          project.finishInstaller template).perform session := Project.perform_writeInstaller htext
  obtain ⟨between, harch, htree⟩ := h.perform_archMatch hcarries
  obtain ⟨log, hfinish⟩ := project.perform_finishInstaller template
    (project.config.platforms.zip hashes) between
  obtain ⟨written, hwrite⟩ := Job.perform_of_fst hwrite
  have heffect : ((project.installer template.inner (project.config.platforms.zip hashes)).write
      project.layout.installerOutput).effect between.tree = (.ok (), written.tree) := by
    rw [Job.effect, htree, hwrite]
  have hafter : ∃ after, ((project.installer template.inner
      (project.config.platforms.zip hashes)).write project.layout.installerOutput).perform
        { between with log } = (.ok (), after) ∧ after.tree = written.tree :=
    Job.perform_of_effect heffect
  obtain ⟨after, hperform, _⟩ := hafter
  rw [hinstaller, Job.perform_bind, harch]
  exact ⟨after, hfinish.trans hperform⟩

theorem receives_writeInstaller
    (h : (project.writeInstaller (.archive client base)).perform session = (.ok (), after)) :
    ∃ text answers hashes,
      session.tree.readText project.layout.installerTemplate = .ok text ∧
      project.Receives client base session.requests project.config.platforms answers
        after.requests ∧
      List.Forall₂ Carries answers hashes ∧
      (session.tree.root.contentAt session.tree.here = some .folder →
        after.tree.readText project.layout.installerOutput =
          .ok (project.installer text (project.config.platforms.zip hashes)).inner) := by
  cases htext : session.tree.readText project.layout.installerTemplate with
  | error fault => cases h.symm.trans (perform_writeInstaller_error htext)
  | ok text =>
    obtain ⟨template, rfl, hinstaller⟩ := perform_writeInstaller htext
    rw [hinstaller] at h
    obtain ⟨block, between, harch, hfinish⟩ := Job.perform_bind_ok.mp h
    obtain ⟨answers, hashes, hreceives, hcarries, rfl, htree⟩ := receives_archMatch harch
    have hkeeps : Job.Keeps Session.requests (project.finishInstaller template
      (dispatchBlock (project.config.platforms.zip hashes))) := inferInstance
    rw [← hkeeps.of_perform hfinish] at hreceives
    refine ⟨template.inner, answers, hashes, rfl, hreceives, hcarries, fun hhere => ?_⟩
    rw [← htree] at hhere
    obtain ⟨log, hwrite⟩ := project.perform_finishInstaller template
      (project.config.platforms.zip hashes) between
    rw [hwrite] at hfinish
    refine Template.readText_write ?_ hfinish
    exact hhere

/-- The block of the installer, line by line: the architecture, a branch for each platform in their
order with its target and its checksum, and a branch that refuses all other architectures. -/
structure IsDispatch (platforms : List Platform) (hashes branches : List String) (block : String) :
    Prop where
  block_eq : block =
    "dpkgArch=\"$(dpkg --print-architecture)\"; \n    case \"$\x7bdpkgArch##*-\x7d\" in \n" ++
      String.join branches ++
        "        *) echo >&2 \"unsupported architecture: $\x7bdpkgArch\x7d\"; exit 1 ;; \n    esac"
  length_eq : branches.length = platforms.length ∧ hashes.length = platforms.length
  branch_eq : ∀ (i : Nat) (platform : Platform) (hash : String), platforms[i]? = some platform →
    hashes[i]? = some hash → branches[i]? = some ("        " ++ platform.dpkgArch ++
      ") rustArch='" ++ platform.rustTarget ++ "'; rustupSha256='" ++ hash ++ "' ;; \n")

theorem isDispatch_dispatchBlock (h : hashes.length = platforms.length) :
    IsDispatch platforms hashes
      ((platforms.zip hashes).map fun (platform, hash) => dispatchBranch platform hash)
      (dispatchBlock (platforms.zip hashes)) where
  block_eq := rfl
  length_eq := ⟨by simp [h], h⟩
  branch_eq i platform hash hplatform hhash := by
    have hentry : (platforms.zip hashes)[i]? = some (platform, hash) :=
      List.getElem?_zip_eq_some.mpr ⟨hplatform, hhash⟩
    rw [List.getElem?_map, hentry]
    rfl

theorem IsDispatch.branches_eq {branches : List String} {block : String}
    (h : IsDispatch platforms hashes branches block) :
    branches = (platforms.zip hashes).map fun (platform, hash) => dispatchBranch platform hash := by
  have hother := isDispatch_dispatchBlock h.length_eq.2
  refine List.ext_getElem? fun i => ?_
  cases hplatform : platforms[i]? with
  | none =>
    have hlength := List.getElem?_eq_none_iff.mp hplatform
    rw [List.getElem?_eq_none (h.length_eq.1.trans_le hlength),
      List.getElem?_eq_none (hother.length_eq.1.trans_le hlength)]
  | some platform =>
    have hlt : i < hashes.length := by
      rw [h.length_eq.2]
      exact (List.getElem?_eq_some_iff.mp hplatform).1
    have hhash := List.getElem?_eq_getElem hlt
    rw [h.branch_eq i _ _ hplatform hhash, hother.branch_eq i _ _ hplatform hhash]

theorem isDispatch_iff {block : String} (h : hashes.length = platforms.length) :
    (∃ branches, IsDispatch platforms hashes branches block) ↔
      block = dispatchBlock (platforms.zip hashes) := by
  constructor
  · rintro ⟨branches, hdispatch⟩
    rw [hdispatch.block_eq, hdispatch.branches_eq]
    rfl
  · rintro rfl
    exact ⟨_, isDispatch_dispatchBlock h⟩

theorem Receives.length_eq
    (h : project.Receives client base requests platforms answers requests') :
    answers.length = platforms.length := by
  induction h with
  | nil => rfl
  | cons _ _ ih => rw [List.length_cons, List.length_cons, ih]

/-- The checksum is the first word of a successful answer, which has just one, and all else that an
exchange may end with is an error about the checksum. There is a block if and only if the answer for
every platform carries a checksum, which is then the one in the platform's branch. An installer is
written with such a block only. -/
theorem archive_checksums (client : Http.Client) (base : String) :
    (∀ version target session,
      (∀ hash, ((fetch (.archive client base) version target).perform session).1 = .ok hash ↔
        ∃ answer, (client session.requests (url base version target)).1 = .ok answer ∧
          Carries answer hash) ∧
      ∀ error, ((fetch (.archive client base) version target).perform session).1 = .error error →
        ∃ message, error = .checksum message) ∧
    (∀ answer hash hash', Carries answer hash → Carries answer hash' → hash = hash') ∧
    ∀ (project : Project) (session : Session),
      (∀ block, ((project.archMatch (.archive client base)).perform session).1 = .ok block ↔
        ∃ answers hashes requests branches, project.Receives client base session.requests
            project.config.platforms answers requests ∧
          List.Forall₂ Carries answers hashes ∧
          IsDispatch project.config.platforms hashes branches block) ∧
      (∀ error, ((project.archMatch (.archive client base)).perform session).1 = .error error →
        ∃ message, error = .checksum message) ∧
      ∀ after, (project.writeInstaller (.archive client base)).perform session = (.ok (), after) →
        ∃ text answers hashes branches block,
          session.tree.readText project.layout.installerTemplate = .ok text ∧
          project.Receives client base session.requests project.config.platforms answers
            after.requests ∧
          List.Forall₂ Carries answers hashes ∧
          IsDispatch project.config.platforms hashes branches block ∧
          (session.tree.root.contentAt session.tree.here = some .folder →
            after.tree.readText project.layout.installerOutput =
              .ok (Placeholder.fill text (project.installerTokens block))) := by
  refine ⟨fun version target session => ?_, fun _ _ _ => Carries.unique, fun project session => ?_⟩
  · rw [Checksum.fst_perform_fetch]
    exact ⟨fun hash => Checksum.ofExchange_eq_ok_iff, fun error => Checksum.ofExchange_error⟩
  · refine ⟨fun block => ⟨fun h => ?_, ?_⟩, fun error h => ?_, fun after h => ?_⟩
    · obtain ⟨after, hperform⟩ := Job.perform_of_fst h
      obtain ⟨answers, hashes, hreceives, hcarries, rfl, _⟩ := receives_archMatch hperform
      exact ⟨answers, hashes, after.requests, _, hreceives, hcarries,
        isDispatch_dispatchBlock (hcarries.length_eq.symm.trans hreceives.length_eq)⟩
    · rintro ⟨answers, hashes, requests, branches, hreceives, hcarries, hdispatch⟩
      obtain ⟨after, hperform, _⟩ := hreceives.perform_archMatch hcarries
      rw [hperform, (isDispatch_iff hdispatch.length_eq.2).mp ⟨branches, hdispatch⟩]
    · obtain ⟨after, hperform⟩ := Job.perform_of_fst h
      exact archMatch_error hperform
    · obtain ⟨text, answers, hashes, htext, hreceives, hcarries, hwritten⟩ :=
        receives_writeInstaller h
      exact ⟨text, answers, hashes, _, _, htext, hreceives, hcarries,
        isDispatch_dispatchBlock (hcarries.length_eq.symm.trans hreceives.length_eq), hwritten⟩

def loopback : String := "http://localhost:8080/"

def loopbackFiles : List (String × String) :=
  [("/1.23.1/x86_64-linux/rustup-init.sha256", "0a1b  *rustup-init\n"),
    ("/1.23.1/x32/rustup-init.sha256", "\t2c3d"),
    ("/1.23.1/aarch64-linux/rustup-init.sha256", "4e5f\n")]

def loopbackClient : Http.Client := fun requests address =>
  match loopbackFiles.find? fun file => address = "http://localhost:8080" ++ file.1 with
  | some (target, text) =>
    (.ok ⟨200, .ok text⟩, requests ++ [⟨"http", "localhost", some 8080, target⟩])
  | none => (.error ("error sending request for url (" ++ address ++ ")"), requests)

theorem ask_loopback {address path text : String}
    (h : loopbackFiles.find? (fun file => address = "http://localhost:8080" ++ file.1) =
      some (path, text)) :
    loopbackClient requests address =
      (.ok ⟨200, .ok text⟩, requests ++ [⟨"http", "localhost", some 8080, path⟩]) := by
  rw [loopbackClient, h]

theorem carries_text {text hash : String} (hne : hash.toList ≠ [])
    (hword : Text.firstWord text.toList = hash.toList) : Carries ⟨200, .ok text⟩ hash :=
  ⟨⟨by simp, by simp⟩, text, rfl, (Text.firstWord_eq_iff hne).mp hword⟩

/-- An archive that answers for three platforms, and an address at which nobody does. -/
theorem archive_checksums_loopback :
    (∃ message, ((fetch (.archive loopbackClient "http://localhost:81") "1.23.1" "x32").perform
      { tree := twiceTree }).1 = .error (.checksum message)) ∧
    (∃ message, ((twice.archMatch (.archive loopbackClient "http://localhost:81")).perform
      { tree := twiceTree }).1 = .error (.checksum message)) ∧
    (Carries ⟨200, .ok "\t2c3d"⟩ "2c3d" ∧
      ∀ hash, Carries ⟨200, .ok "\t2c3d"⟩ hash → "2c3d" = hash) ∧
    ((twice.archMatch (.archive loopbackClient loopback)).perform { tree := twiceTree }).1 =
      .ok (dispatchBlock (twice.config.platforms.zip ["0a1b", "2c3d", "4e5f"])) ∧
    twiceTree.root.contentAt twiceTree.here = some .folder ∧
    ∃ after text answers hashes branches block,
      (twice.writeInstaller (.archive loopbackClient loopback)).perform { tree := twiceTree } =
        (.ok (), after) ∧
      twice.Receives loopbackClient loopback [] twice.config.platforms answers after.requests ∧
      List.Forall₂ Carries answers hashes ∧
      IsDispatch twice.config.platforms hashes branches block ∧
      after.tree.readText twice.layout.installerOutput =
        .ok (Placeholder.fill text (twice.installerTokens block)) := by
  have hfetch : ((fetch (.archive loopbackClient "http://localhost:81") "1.23.1" "x32").perform
      { tree := twiceTree }).1 = .error (.checksum
        "error sending request for url (http://localhost:81/1.23.1/x32/rustup-init.sha256)") := by
    decide +kernel
  have harch : ((twice.archMatch (.archive loopbackClient "http://localhost:81")).perform
      { tree := twiceTree }).1 = .error (.checksum
        "error sending request for url (http://localhost:81/1.23.1/x86_64-linux/rustup-init.sha256)")
      := by decide +kernel
  have hfirst : Carries ⟨200, .ok "0a1b  *rustup-init\n"⟩ "0a1b" :=
    carries_text (by decide) (by decide +kernel)
  have hsecond : Carries ⟨200, .ok "\t2c3d"⟩ "2c3d" := carries_text (by decide) (by decide +kernel)
  have hthird : Carries ⟨200, .ok "4e5f\n"⟩ "4e5f" := carries_text (by decide) (by decide +kernel)
  have hcarries : List.Forall₂ Carries
      [⟨200, .ok "0a1b  *rustup-init\n"⟩, ⟨200, .ok "\t2c3d"⟩, ⟨200, .ok "4e5f\n"⟩]
      ["0a1b", "2c3d", "4e5f"] := .cons hfirst (.cons hsecond (.cons hthird .nil))
  have hreceives : twice.Receives loopbackClient loopback [] twice.config.platforms
      [⟨200, .ok "0a1b  *rustup-init\n"⟩, ⟨200, .ok "\t2c3d"⟩, ⟨200, .ok "4e5f\n"⟩]
      (loopbackFiles.map fun file => ⟨"http", "localhost", some 8080, file.1⟩) :=
    .cons (ask_loopback (by decide +kernel)) (.cons (ask_loopback (by decide +kernel))
      (.cons (ask_loopback (by decide +kernel)) (.nil _)))
  have hread : twiceTree.readText twice.layout.installerTemplate =
      .ok "%%RUST-VERSION%%:%%ARCH-MATCH%%%%ARCH-MATCH%%" := by decide +kernel
  have hwrite : (((twice.installer "%%RUST-VERSION%%:%%ARCH-MATCH%%%%ARCH-MATCH%%"
      (twice.config.platforms.zip ["0a1b", "2c3d", "4e5f"])).write
        twice.layout.installerOutput).perform { tree := twiceTree }).1 = .ok () := by decide +kernel
  have hrun : ∃ after, (twice.writeInstaller (.archive loopbackClient loopback)).perform
      { tree := twiceTree } = (.ok (), after) :=
    hreceives.perform_writeInstaller hcarries hread hwrite
  obtain ⟨after, hperform⟩ := hrun
  obtain ⟨hanswers, _, hrefused⟩ := archive_checksums loopbackClient "http://localhost:81"
  obtain ⟨message, hmessage⟩ := (hanswers "1.23.1" "x32" { tree := twiceTree }).2 _ hfetch
  obtain ⟨message', hmessage'⟩ := (hrefused twice { tree := twiceTree }).2.1 _ harch
  obtain ⟨_, hunique, hproject⟩ := archive_checksums loopbackClient loopback
  obtain ⟨hblock, _, hinstaller⟩ := hproject twice { tree := twiceTree }
  obtain ⟨text, answers, hashes, branches, block, _, hasked, hall, hdispatch, hwritten⟩ :=
    hinstaller after hperform
  exact ⟨⟨message, hmessage ▸ hfetch⟩, ⟨message', hmessage' ▸ harch⟩,
    ⟨hsecond, fun hash => hunique _ _ _ hsecond⟩,
    (hblock _).mpr ⟨_, _, _, _, hreceives, hcarries, isDispatch_dispatchBlock rfl⟩, rfl,
    after, text, answers, hashes, branches, block, hperform, hasked, hall, hdispatch, hwritten rfl⟩

end Project

end ReleaseStamp
