import ReleaseStamp.Proofs.FileTree.Follow
import ReleaseStamp.Proofs.Manifest.LastVersion
import ReleaseStamp.Proofs.Project.Failure
import ReleaseStamp.Proofs.Project.History

/-!
# Stamping one manifest

What is said of a manifest is true: whether it has changed, and that nothing else has. Stamped again
with the same version, it stays as it is.
-/
namespace ReleaseStamp

namespace FileTree

variable {tree after : FileTree} {path : Path} {place : Place}

/-- Only a path with a name at its end is read. -/
theorem ends_of_find_file (htree : Regular tree) {bytes : ByteArray}
    (h : tree.find .look path = .ok (place, .file bytes)) : ∃ last, Path.Ends path last := by
  obtain ⟨target, hresolve, rfl, hfile, hfolder⟩ := find_eq_ok.mp h
  cases hname : target.name with
  | none =>
    have habove := (resolve_eq_ok.mp hresolve).2.isFolder (htree.start path)
    have hplace : target.place = target.folder := by
      rw [Target.place, hname, Option.toList_none, List.append_nil]
    rw [← hplace, Node.contentAt_file.mpr hfile] at habove
    cases habove
  | some last =>
    obtain ⟨happroach, _, _⟩ := approach_of_resolve htree hresolve hname
    obtain ⟨hlast, init, hsteps⟩ := isName_of_approach happroach
    have hslash : target.slash = Path.endsWithSlash path := by
      rw [resolve_of_fits (fits_of_resolve hresolve),
        follow_last htree.linkless happroach] at hresolve
      split at hresolve
      · cases hresolve
      · split at hresolve
        · cases hresolve
        · rw [← Except.ok.inj hresolve]
    refine ⟨last, hlast, ?_, by rw [hsteps, List.getLast?_concat]⟩
    rw [← hslash, Bool.eq_false_iff]
    exact fun hasked => Bool.noConfusion (hfolder hasked)

theorem ends_of_readText (htree : Regular tree) {text : String}
    (h : tree.readText path = .ok text) :
    ∃ last, Path.Ends path last := by
  obtain ⟨place, hfind⟩ := readText_eq_ok.mp h
  exact ends_of_find_file htree hfind

end FileTree

namespace Manifest

open FileTree (Regular Saved)

variable {tree after : FileTree} {path : Path} {version : String}

theorem stamp_eq_ok (htree : Regular tree) {changed : Bool} :
    (stamp path version).effect tree = (.ok changed, after) ↔ ∃ contents,
      tree.readText path = .ok contents ∧ changed = decide (bump contents version ≠ contents) ∧
      ∃ place, Saved tree path (bump contents version) place after := by
  constructor
  · intro h
    obtain ⟨contents, _, hread, _⟩ := Job.effect_bind.mp (stamp_eq path version ▸ h)
    obtain ⟨last, hends⟩ := FileTree.ends_of_readText htree (Job.effect_readText.mp hread).1
    exact (effect_stamp htree hends).mp h
  · rintro ⟨contents, hread, hstamped⟩
    obtain ⟨last, hends⟩ := FileTree.ends_of_readText htree hread
    exact (effect_stamp htree hends).mpr ⟨contents, hread, hstamped⟩

/-- Stamping fails exactly if the manifest cannot be read, or has to be changed and cannot be. -/
theorem stamp_eq_error (htree : Regular tree) {error : Error} :
    (stamp path version).effect tree = (.error error, after) ↔ ∃ fault,
      Unstampable tree path version fault ∧ error = Job.faultAt path fault ∧ after = tree := by
  cases hread : tree.readText path with
  | ok contents =>
    obtain ⟨last, hends⟩ := FileTree.ends_of_readText htree hread
    exact effect_stamp_error htree hends
  | error fault =>
    have hstop : (stamp path version).effect tree = (.error (Job.faultAt path fault), tree) := by
      rw [stamp_eq, Job.effect_bind_error, Job.effect_readText_error]
      exact Or.inl ⟨fault, hread, rfl, rfl⟩
    rw [hstop]
    constructor
    · intro h
      cases h
      exact ⟨fault, .unread hread, rfl, rfl⟩
    · rintro ⟨fault', hfault, rfl, rfl⟩
      cases hfault with
      | unread hfault =>
        cases hread.symm.trans hfault
        rfl
      | sealed hfind _ _ => cases hread.symm.trans (FileTree.readText_eq_ok.mpr ⟨_, hfind⟩)

/-- A manifest that cannot be stamped stops the job where it is. -/
theorem perform_stamp_error {session : Session} (hsession : Regular session.tree)
    {fault : FileTree.Fault} (h : Unstampable session.tree path version fault) :
    (stamp path version).perform session = (.error (Job.faultAt path fault), session) := by
  rw [stamp_eq, Job.perform_bind, Job.perform_readText]
  cases h with
  | unread hfault =>
    rw [hfault]
    rfl
  | @sealed place contents hfind hdiffers hsealed =>
    have hread := FileTree.readText_eq_ok.mpr ⟨place, hfind⟩
    obtain ⟨last, hends⟩ := FileTree.ends_of_readText hsession hread
    obtain ⟨folder, hleads, rfl, hnode⟩ := FileTree.leads_of_find hsession hends hfind
    have hfile := FileTree.Node.contentAt_file.mpr hnode
    have hwrite : session.tree.writeText path (bump contents version) = .error .denied :=
      (FileTree.writeText_error hsession hleads).mpr (.sealed (by simp [hfile]) hsealed)
    simp only [hread, Except.mapError, if_neg hdiffers, Job.perform_bind, Job.perform_writeText,
      hleads.prepare hsession, hwrite]

/-- What stamping a manifest does: the file of the path holds the bumped text, the answer says
whether it has held another one, and nothing else is changed. -/
structure Stamped (before : FileTree) (path : Path) (version : String) (changed : Bool)
    (after : FileTree) :
    Prop where
  here : after.here = before.here
  sealed : after.sealed = before.sealed
  written : ∃ place contents, before.find .look path = .ok (place, .file contents.toUTF8) ∧
    after.find .look path = .ok (place, .file (bump contents version).toUTF8) ∧
    (changed = true ↔ bump contents version ≠ contents) ∧
    ∀ other, other ≠ place → after.root.contentAt other = before.root.contentAt other
  unchanged : changed = false → after = before

theorem stamped_of_ok (htree : Regular tree) {changed : Bool}
    (h : (stamp path version).effect tree = (.ok changed, after)) :
    Stamped tree path version changed after := by
  obtain ⟨contents, hread, rfl, place, hsaved⟩ := (stamp_eq_ok htree).mp h
  obtain ⟨last, hends⟩ := FileTree.ends_of_readText htree hread
  obtain ⟨folder, hleads, hfile⟩ := (FileTree.readText_iff htree hends).mp hread
  obtain ⟨rfl, hcontent⟩ := hsaved.contentAt_of_leads htree hleads
  have hwrites := hsaved.writes htree
  refine ⟨hwrites.here, hwrites.sealed, ⟨folder ++ [last], contents, ?_, ?_, by simp, ?_⟩, ?_⟩
  · exact hleads.find htree .look (FileTree.Node.contentAt_file.mp hfile)
  · exact (hwrites.grown.leads hleads).find hwrites.regular .look
      (FileTree.Node.contentAt_file.mp hwrites.written)
  · intro other hother
    rw [hcontent, if_neg hother]
  · intro hsame
    have hbump : bump contents version = contents := by simpa using hsame
    rw [hbump] at hsaved
    obtain ⟨_, hsaved'⟩ := FileTree.saved_of_readText htree hends hread
    exact (hsaved.unique hsaved').2

/-- A manifest that has been stamped is up to date. -/
theorem stamp_again (htree : Regular tree) {changed : Bool} (hversion : Inert version.toList)
    (h : (stamp path version).effect tree = (.ok changed, after)) :
    (stamp path version).effect after = (.ok false, after) := by
  obtain ⟨contents, hread, _, place, hsaved⟩ := (stamp_eq_ok htree).mp h
  have hafter := (hsaved.writes htree).regular
  have hread' := hsaved.readText htree
  have hbump : bump (bump contents version) version = bump contents version :=
    bump_bump hversion (Or.inr rfl) contents
  obtain ⟨last, hends⟩ := FileTree.ends_of_readText hafter hread'
  obtain ⟨place', hsaved'⟩ := FileTree.saved_of_readText hafter hends hread'
  exact (stamp_eq_ok hafter).mpr ⟨_, hread', by simp [hbump], place', hbump.symm ▸ hsaved'⟩

/-- Stamping a manifest tells the truth and settles: it either sets the version and says whether
that has changed the file, and says no the next time, or it fails to read or to write the file and
does nothing. -/
theorem stamp_settles (session : Session) (hsession : Regular session.tree)
    (path : Path) (version : String) :
    (∀ changed after, (stamp path version).perform session = (.ok changed, after) →
      Stamped session.tree path version changed after.tree ∧
      (Inert version.toList → ∃ again,
        (stamp path version).perform after = (.ok false, again) ∧ again.tree = after.tree)) ∧
    ∀ error after, (stamp path version).perform session = (.error error, after) ↔ ∃ fault,
      Unstampable session.tree path version fault ∧ error = Job.faultAt path fault ∧
      after = session := by
  constructor
  · intro changed after h
    have heffect := Job.effect_eq h
    refine ⟨stamped_of_ok hsession heffect, fun hversion => ?_⟩
    exact Job.perform_of_effect (stamp_again hsession hversion heffect)
  · intro error after
    constructor
    · intro h
      obtain ⟨fault, hfault, rfl, -⟩ := (stamp_eq_error hsession).mp (Job.effect_eq h)
      rw [perform_stamp_error hsession hfault] at h
      exact ⟨fault, hfault, rfl, (congrArg Prod.snd h).symm⟩
    · rintro ⟨fault, hfault, rfl, rfl⟩
      exact perform_stamp_error hsession hfault

theorem stamp_settles_sample :
    Regular (Project.sampleTree "") ∧ Inert "2.0".toList ∧
    (∃ after again,
      (stamp "repo/Cargo.toml" "2.0").perform { tree := Project.sampleTree "" } =
        (.ok true, after) ∧
      Stamped (Project.sampleTree "") "repo/Cargo.toml" "2.0" true after.tree ∧
      (stamp "repo/Cargo.toml" "2.0").perform after = (.ok false, again) ∧
      again.tree = after.tree) ∧
    (stamp "repo" "2.0").perform { tree := Project.sampleTree "" } =
      (.error (Job.faultAt "repo" .isFolder), { tree := Project.sampleTree "" }) := by
  have hregular := Project.regular_sampleTree ""
  have hinert : Inert "2.0".toList := by constructor <;> decide
  have hok : ((stamp "repo/Cargo.toml" "2.0").perform { tree := Project.sampleTree "" }).1 =
      .ok true := by
    decide +kernel
  have hfolder : (Project.sampleTree "").readText "repo" = .error .isFolder := by
    decide +kernel
  obtain ⟨after, hperform⟩ := Job.perform_of_fst hok
  obtain ⟨hstamped, hagain⟩ :=
    (stamp_settles { tree := Project.sampleTree "" } hregular "repo/Cargo.toml" "2.0").1 _ _
      hperform
  obtain ⟨again, hsecond, htree⟩ := hagain hinert
  have herror := ((stamp_settles { tree := Project.sampleTree "" } hregular "repo" "2.0").2 _ _).mpr
    ⟨_, .unread hfolder, rfl, rfl⟩
  exact ⟨hregular, hinert, ⟨after, again, hperform, hstamped, hsecond, htree⟩, herror⟩

end Manifest

end ReleaseStamp
