import ReleaseStamp.CommandLine.Options

/-!
# Flags for more output

How much a run tells is asked for by flags. They may be given or left out, at any place where a flag
is read and in any spelling: all else is understood in the same way.
-/
namespace ReleaseStamp.CommandLine

def Given.isTelling : Given → Bool
  | .flag .verbose => true
  | .flag .debug => true
  | _ => false

def substance (arguments : List String) : List Given :=
  (readArguments none arguments).filter fun given => !given.isTelling

example : substance ["-vd", "images", "-C", "a"] = substance ["images", "--dir=a", "--verbose"] := by
  decide

variable {arguments arguments' : List String} {options : Options}

theorem decided?_filter (acted : Bool) (given : List Given) :
    decided? acted (given.filter fun given => !given.isTelling) = decided? acted given := by
  induction given generalizing acted with
  | nil => rfl
  | cons first given ih =>
    cases first with
    | flag flag =>
      cases flag with
      | help | version => rfl
      | verbose | debug => exact ih acted
    | setting setting value => exact ih acted
    | action name =>
      cases acted with
      | false => exact ih true
      | true => rfl
    | unknown => rfl

/-- What no flag counts for is found without these flags too. -/
theorem filterMap_filter_telling {α : Type} {read : Given → Option α}
    (h : ∀ flag, read (.flag flag) = none) (given : List Given) :
    (given.filter fun given => !given.isTelling).filterMap read = given.filterMap read := by
  rw [List.filterMap_filter]
  congr
  funext found
  cases found with
  | flag flag => cases flag <;> simp [h]
  | _ => rfl

theorem settingOf?_filter (given : List Given) (setting : Setting) :
    settingOf? (given.filter fun given => !given.isTelling) setting = settingOf? given setting := by
  unfold settingOf? valuesOf
  rw [filterMap_filter_telling fun _ => rfl]

theorem actionOf?_filter (given : List Given) :
    actionOf? (given.filter fun given => !given.isTelling) = actionOf? given := by
  unfold actionOf?
  rw [filterMap_filter_telling fun _ => rfl]

theorem exists_flagOf? {given : List Given} {flag : Flag} (h : given.count (.flag flag) ≤ 1) :
    ∃ set, flagOf? given flag = some set := by
  obtain hcount | hcount : given.count (.flag flag) = 0 ∨ given.count (.flag flag) = 1 := by omega
  · exact ⟨false, by simp only [flagOf?, hcount]⟩
  · exact ⟨true, by simp only [flagOf?, hcount]⟩

theorem decided?_ne_work (acted : Bool) (given : List Given) (options : Options) :
    decided? acted given ≠ some (.work options) := by
  induction given generalizing acted with
  | nil => simp [decided?]
  | cons first given ih =>
    cases first with
    | flag flag => cases flag <;> simp [decided?, ih]
    | setting setting value => simp [decided?, ih]
    | action name => cases acted <;> simp [decided?, ih]
    | unknown => simp [decided?]

theorem ofArguments_eq_work : Request.ofArguments arguments = .work options ↔
    decided? false (readArguments none arguments) = none ∧
      optionsOf? (readArguments none arguments) = some options := by
  have hne := decided?_ne_work false (readArguments none arguments) options
  unfold Request.ofArguments
  simp only
  cases hdecided : decided? false (readArguments none arguments) with
  | some request =>
    rw [hdecided] at hne
    simpa using hne
  | none => cases optionsOf? (readArguments none arguments) <;> simp

theorem optionsOf?_eq_some {given : List Given} : optionsOf? given = some options ↔
    (∃ dir, settingOf? given .dir = some dir ∧ options.dir = dir.getD ".") ∧
      settingOf? given .config = some options.config ∧
      flagOf? given .verbose = some options.verbose ∧ flagOf? given .debug = some options.debug ∧
      actionOf? given = some options.action := by
  obtain ⟨action, dir, config, verbose, debug⟩ := options
  simp only [optionsOf?, Option.bind_eq_bind, Option.bind_eq_some_iff, Option.pure_def,
    Option.some.injEq, Options.mk.injEq]
  constructor
  · rintro ⟨found, hdir, _, hconfig, _, hverbose, _, hdebug, _, haction, rfl, rfl, rfl, rfl, rfl⟩
    exact ⟨⟨found, hdir, rfl⟩, hconfig, hverbose, hdebug, haction⟩
  · rintro ⟨⟨found, hdir, rfl⟩, hconfig, hverbose, hdebug, haction⟩
    exact ⟨found, hdir, _, hconfig, _, hverbose, _, hdebug, _, haction, rfl, rfl, rfl, rfl, rfl⟩

/-- Arguments that differ from others in these flags only ask for the same work, unless they repeat
one of the flags. -/
theorem ofArguments_of_substance (h : Request.ofArguments arguments = .work options)
    (hsame : substance arguments' = substance arguments)
    (honce : ∀ flag ∈ [Flag.verbose, .debug],
      (readArguments none arguments').count (.flag flag) ≤ 1) :
    ∃ verbose debug, Request.ofArguments arguments' = .work { options with verbose, debug } := by
  obtain ⟨hdecided, hoptions⟩ := ofArguments_eq_work.mp h
  obtain ⟨⟨dir, hdir, hroot⟩, hconfig, _, _, haction⟩ := optionsOf?_eq_some.mp hoptions
  obtain ⟨verbose, hverbose⟩ := exists_flagOf? (honce .verbose (by decide))
  obtain ⟨debug, hdebug⟩ := exists_flagOf? (honce .debug (by decide))
  refine ⟨verbose, debug, ofArguments_eq_work.mpr ⟨?_, optionsOf?_eq_some.mpr
    ⟨⟨dir, ?_, hroot⟩, ?_, hverbose, hdebug, ?_⟩⟩⟩
  · rw [← decided?_filter, ← substance, hsame, substance, decided?_filter, hdecided]
  · rw [← settingOf?_filter, ← substance, hsame, substance, settingOf?_filter, hdir]
  · rw [← settingOf?_filter, ← substance, hsame, substance, settingOf?_filter, hconfig]
  · rw [← actionOf?_filter, ← substance, hsame, substance, actionOf?_filter, haction]

end ReleaseStamp.CommandLine
