import ReleaseStamp.Proofs.Session.Keeps

/-!
# What a run tells

The records of the level info tell what a run has done. Reading, filling and writing log none of
them, so that they are those of a few notes only.
-/
namespace ReleaseStamp

def Session.infos (session : Session) : List Log.Record :=
  session.log.filter fun record => record.level = .info

namespace Job

variable {α : Type}

instance : Apart Session.infos where
  tree_eq _ _ := rfl
  log_eq session record h := by simp [Session.infos, List.filter_append, h]

theorem infos_eq {job : Job α} [hjob : Keeps Session.infos job] {session after : Session}
    {outcome : Except Error α} (h : job.perform session = (outcome, after)) :
    after.infos = session.infos := hjob.of_perform h

theorem infos_of_note {speaker : Log.Speaker} {message : String} {session after : Session}
    {value : Unit} (h : (note .info speaker message).perform session = (.ok value, after)) :
    after.infos = session.infos ++ [⟨.info, speaker, message⟩] := by
  cases h
  simp [Session.infos, List.filter_append]

end Job

end ReleaseStamp
