import ReleaseStamp.Proofs.Project.Calls
import ReleaseStamp.Proofs.Session.World

/-!
# Requests

Only checksums are requested. What a request is answered may hang on the requests before it, but on
nothing else that a session holds, so that all stages of a run depend on the world only.
-/
namespace ReleaseStamp

open Job (OnWorld)

def Checksum.finishDownload (url target : String) (exchange : Except String Http.Answer) :
    Job String := do
  let hash ← MonadExcept.ofExcept (ofExchange url exchange)
  Job.note .debug .checksum ("Hash of rustup-init for " ++ target ++ ": " ++ hash)
  return hash

instance (url target : String) (exchange : Except String Http.Answer) :
    OnWorld (Checksum.finishDownload url target exchange) :=
  inferInstanceAs (OnWorld (MonadExcept.ofExcept _ >>= fun _ => Job.note _ _ _ >>= fun _ => pure _))

theorem Checksum.perform_download (client : Http.Client) (base version target : String)
    (session : Session) : ∃ log, (download client base version target).perform session =
      (finishDownload (url base version target) target
        (client session.requests (url base version target)).1).perform
          { session with
            log, requests := (client session.requests (url base version target)).2 } := by
  refine ⟨session.log ++ [⟨.debug, .checksum, "GET: " ++ url base version target⟩], ?_⟩
  unfold download finishDownload
  simp only [Job.perform_bind, Job.perform_note, Job.perform_get, Job.perform_set]

instance (client : Http.Client) (base version target : String) :
    OnWorld (Checksum.download client base version target) := by
  refine ⟨fun first second h => ?_⟩
  obtain ⟨htree, hrequests⟩ := Prod.mk.inj h
  obtain ⟨log, hfirst⟩ := Checksum.perform_download client base version target first
  obtain ⟨log', hsecond⟩ := Checksum.perform_download client base version target second
  rw [Job.seen, hfirst, Job.seen, hsecond, hrequests]
  refine OnWorld.seen_eq _ _ ?_
  simp only [Session.world, htree]

theorem Checksum.perform_fetch_download (client : Http.Client) (base version target : String)
    (session : Session) : (fetch (.archive client base) version target).perform session =
      (download client base version target).perform
        { session with calls := session.calls ++ [(version, target)] } := by
  unfold fetch
  simp only [Job.perform_bind, Job.perform_modify]

instance (source : Checksum.Source) (version target : String) :
    OnWorld (Checksum.fetch source version target) := by
  refine ⟨fun first second h => ?_⟩
  cases source with
  | table answer =>
    rw [Job.seen, Project.perform_fetch, Job.seen, Project.perform_fetch]
    exact congrArg (answer version target, ·) h
  | archive client base =>
    rw [Job.seen, Checksum.perform_fetch_download, Job.seen, Checksum.perform_fetch_download]
    exact OnWorld.seen_eq _ _ h

namespace Project

variable (project : Project) (source : Checksum.Source)

instance : OnWorld (project.archMatch source) := by
  rw [archMatch_eq]
  infer_instance

instance : OnWorld (project.renderInstaller source) := by
  rw [renderInstaller_eq]
  infer_instance

instance : OnWorld (project.writeInstaller source) :=
  inferInstanceAs (OnWorld (project.renderInstaller source >>= fun installer => installer.write _))

instance : OnWorld (project.updateAll source) :=
  inferInstanceAs (OnWorld (project.writeDockerfiles >>= fun _ => project.writeInstaller source))

instance : OnWorld (project.run source) := by
  rw [run_eq]
  infer_instance

end Project

end ReleaseStamp
