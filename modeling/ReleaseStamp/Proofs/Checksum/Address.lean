import ReleaseStamp.Checksum
import ReleaseStamp.Proofs.Text.Trim

/-!
# Addresses of checksum files

The address of a checksum file tells which version and which target it is for, and at which base,
but for slashes at the end of the base. It is taken apart from its end, since a base may have
slashes in it and versions and targets have none.
-/
namespace ReleaseStamp.Checksum

open Text (IsStem)

variable {base base' version version' target target' : String}

theorem toList_url (base version target : String) : (url base version target).toList =
    Text.dropTrailing '/' base.toList ++ '/' :: version.toList ++ '/' :: target.toList ++
      "/rustup-init.sha256".toList := by
  simp [url]

/-- Two texts are split alike at the last place of a character. -/
theorem split_at_last {c : Char} {a b x y : List Char} (hx : c ∉ x) (hy : c ∉ y)
    (h : a ++ c :: x = b ++ c :: y) : a = b ∧ x = y := by
  rcases List.append_eq_append_iff.mp h with ⟨between, rfl, htail⟩ | ⟨between, rfl, htail⟩
  all_goals
    cases between with
    | nil => simpa [eq_comm] using htail
    | cons d between =>
      -- the character would come once more behind its last place
      rw [List.cons_append, List.cons.injEq] at htail
      simp [htail.2] at hx hy

def IsStep (text : String) : Prop := '/' ∉ text.toList

instance (text : String) : Decidable (IsStep text) := inferInstanceAs (Decidable (_ ∉ _))

/-- The bases are the same without the slashes at their ends. -/
def AlikeBases (base base' : String) : Prop :=
  ∃ stem, IsStem '/' base.toList stem ∧ IsStem '/' base'.toList stem

theorem alikeBases_iff : AlikeBases base base' ↔
    Text.dropTrailing '/' base.toList = Text.dropTrailing '/' base'.toList := by
  constructor
  · rintro ⟨stem, hbase, hbase'⟩
    rw [Text.dropTrailing_eq_iff.mpr hbase, Text.dropTrailing_eq_iff.mpr hbase']
  · intro h
    exact ⟨_, Text.dropTrailing_eq_iff.mp h, Text.dropTrailing_eq_iff.mp rfl⟩

/-- The parts of an address are found again in it, from the last one to the first. -/
theorem url_parts (hversion : IsStep version) (hversion' : IsStep version')
    (htarget : IsStep target) (htarget' : IsStep target')
    (h : url base version target = url base' version' target') :
    version = version' ∧ target = target' ∧
      Text.dropTrailing '/' base.toList = Text.dropTrailing '/' base'.toList := by
  have hlists := congrArg String.toList h
  rw [toList_url, toList_url] at hlists
  have hpath := List.append_cancel_right hlists
  obtain ⟨hfront, htargets⟩ := split_at_last htarget htarget' hpath
  obtain ⟨hbases, hversions⟩ := split_at_last hversion hversion' hfront
  exact ⟨String.toList_inj.mp hversions, String.toList_inj.mp htargets, hbases⟩

/-- Two addresses are the same exactly if they are for the same version and target, at bases that
are the same but for the slashes at their ends. Any number of these changes no address. -/
theorem url_eq_iff :
    (∀ base base' version version' target target',
      IsStep version → IsStep version' → IsStep target → IsStep target' →
      (url base version target = url base' version' target' ↔
        version = version' ∧ target = target' ∧ AlikeBases base base')) ∧
    ∀ base version target count,
      url (base ++ String.ofList (List.replicate count '/')) version target =
        url base version target := by
  constructor
  · intro base base' version version' target target' hversion hversion' htarget htarget'
    rw [alikeBases_iff]
    constructor
    · exact url_parts hversion hversion' htarget htarget'
    · rintro ⟨rfl, rfl, hbases⟩
      rw [url, url, hbases]
  · intro base version target count
    rw [url, url, String.toList_append, String.toList_ofList, Text.dropTrailing_append_replicate]

/-- A base of slashes is no base at all, and a version that begins with what another one is does not
stand for it. -/
theorem url_eq_iff_only_slashes :
    (IsStep "1.23.1" ∧ IsStep "1.23.10" ∧ IsStep "x86_64-unknown-linux-gnu") ∧
    AlikeBases "//" "" ∧
    url "//" "1.23.1" "x86_64-unknown-linux-gnu" = url "" "1.23.1" "x86_64-unknown-linux-gnu" ∧
    url "//" "1.23.1" "x86_64-unknown-linux-gnu" ≠ url "" "1.23.10" "x86_64-unknown-linux-gnu" ∧
    url ("a//b" ++ String.ofList (List.replicate 3 '/')) "1.23.1" "x86_64-unknown-linux-gnu" =
      url "a//b" "1.23.1" "x86_64-unknown-linux-gnu" := by
  obtain ⟨hiff, hslashes⟩ := url_eq_iff
  have hversion : IsStep "1.23.1" := by decide
  have hlonger : IsStep "1.23.10" := by decide
  have htarget : IsStep "x86_64-unknown-linux-gnu" := by decide
  have hbases : AlikeBases "//" "" := alikeBases_iff.mpr (by decide)
  refine ⟨⟨hversion, hlonger, htarget⟩, hbases, ?_, ?_, hslashes _ _ _ 3⟩
  · exact (hiff _ _ _ _ _ _ hversion hversion htarget htarget).mpr ⟨rfl, rfl, hbases⟩
  · intro h
    have hparts := (hiff _ _ _ _ _ _ hversion hlonger htarget htarget).mp h
    exact absurd hparts.1 (by decide)

-- With slashes in them, a version and a target are more than one step each.
example : url "a" "1/2" "t" = url "a/1" "2" "t" := by decide +kernel

end ReleaseStamp.Checksum
