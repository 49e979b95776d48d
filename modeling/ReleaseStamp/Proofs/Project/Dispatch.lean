import ReleaseStamp.Proofs.Placeholder.Substitution
import ReleaseStamp.Proofs.Project.Image
import ReleaseStamp.Proofs.Shell.Script
import ReleaseStamp.Proofs.Text.Replace

/-!
# The dispatch of the installer

The block for the architectures does what it is made for when a shell reads and runs it: the target
and the checksum of the first platform for the architecture at hand are in its variables, and it
ends the shell when there is no such platform.
-/
namespace ReleaseStamp.Project

open Shell (Token Branch Script Reading bare scan scan_append scan_single foldlM_step_append)

variable {project : Project} {answer : String → String → Except Error String}
  {platform : Platform} {hash : String} {platforms : List (Platform × String)}

def IsQuotable (text : String) : Prop := '\'' ∉ text.toList

instance (text : String) : Decidable (IsQuotable text) := inferInstanceAs (Decidable (_ ∉ _))

structure IsDispatched (platform : Platform) : Prop where
  nonempty : platform.dpkgArch ≠ ""
  letters : ∀ c ∈ platform.dpkgArch.toList, c.isAlphanum
  not_end : platform.dpkgArch ≠ "esac"
  quotable : IsQuotable platform.rustTarget

def architectureCommand : List Char := "dpkg --print-architecture".toList

def taken (platform : Platform) (hash : String) : Branch where
  pattern := platform.dpkgArch.toList.map some
  commands := [.assign "rustArch".toList (platform.rustTarget.toList.map .quoted),
    .assign "rustupSha256".toList (hash.toList.map .quoted)]

def refused : Branch where
  pattern := [none]
  commands := [.complain ("unsupported architecture: ".toList.map .quoted ++
    [.value "dpkgArch".toList []]), .exit (bare ['1'])]

def dispatchScript (branches : List Branch) : Script where
  commands := [.assign "dpkgArch".toList [.output architectureCommand]]
  subject := [.value "dpkgArch".toList ['*', '-']]
  branches := branches

def openingTokens : List Token :=
  [.word (bare "dpkgArch=".toList ++ [.output architectureCommand]), .semicolon,
    .newline, .word (bare "case".toList), .word [.value "dpkgArch".toList ['*', '-']],
    .word (bare "in".toList), .newline]

def branchTokens (platform : Platform) (hash : String) : List Token :=
  [.word (bare platform.dpkgArch.toList), .close,
    .word (bare "rustArch=".toList ++ platform.rustTarget.toList.map .quoted), .semicolon,
    .word (bare "rustupSha256=".toList ++ hash.toList.map .quoted), .branchEnd, .newline]

def closingTokens : List Token :=
  [.word (bare ['*']), .close, .word (bare "echo".toList), .toFile, .word (bare ['2']),
    .word ("unsupported architecture: ".toList.map .quoted ++ [.value "dpkgArch".toList []]),
    .semicolon, .word (bare "exit".toList), .word (bare ['1']), .branchEnd, .newline]

theorem scan_opening :
    scan .between dispatchOpening.toList = some (openingTokens, .between) := by decide +kernel

theorem scan_closing : scan .between dispatchClosing.toList =
    some (closingTokens, .word (bare "esac".toList)) := by decide +kernel

theorem scan_name (hletters : ∀ c ∈ platform.dpkgArch.toList, c.isAlphanum = true)
    (hne : platform.dpkgArch ≠ "") :
    scan .between platform.dpkgArch.toList = some ([], .word (bare platform.dpkgArch.toList)) := by
  refine Shell.scan_bare ?_ ?_
  · rw [List.all_eq_true]
    intro c hc
    simp [Shell.isBare, Shell.isNameChar, hletters c hc]
  · rw [Ne, String.toList_eq_nil_iff]
    exact hne

def branchStart (platform : Platform) : List Char :=
  ("        " ++ platform.dpkgArch ++ ") rustArch='" ++ platform.rustTarget ++
    "'; rustupSha256='").toList

theorem toList_dispatchBranch (platform : Platform) (hash : String) :
    (dispatchBranch platform hash).toList =
      branchStart platform ++ (hash.toList ++ "' ;; \n".toList) := by
  simp [dispatchBranch, branchStart]

theorem scan_branchStart (names : List Token) {mode : Shell.Mode}
    (hname : scan .between platform.dpkgArch.toList = some ([], mode))
    (hclose : Shell.step mode ')' = some (names ++ [.close], .between))
    (htarget : IsQuotable platform.rustTarget) :
    scan .between (branchStart platform) = some (names ++ [.close,
      .word (bare "rustArch=".toList ++ platform.rustTarget.toList.map .quoted), .semicolon],
        .single (bare "rustupSha256=".toList)) := by
  have hlead : scan .between "        ".toList = some ([], .between) := rfl
  have hpattern : scan mode [')'] = some (names ++ [.close], .between) := by
    simp [scan, hclose]
  have hopen : scan .between " rustArch='".toList =
      some ([], .single (bare "rustArch=".toList)) := rfl
  have hcheck : ∀ word : Shell.Word, scan (.single word) "'; rustupSha256='".toList =
      some ([.word word, .semicolon], .single (bare "rustupSha256=".toList)) := fun _ => rfl
  have hbranch := scan_append hlead <| scan_append hname <| scan_append hpattern <|
    scan_append hopen <| scan_append (scan_single htarget _) (hcheck _)
  simpa [branchStart] using hbranch

theorem scan_branchEnd (word : Shell.Word) : scan (.single word) "' ;; \n".toList =
    some ([.word word, .branchEnd, .newline], .between) := rfl

theorem scan_branch (h : IsDispatched platform) (hhash : IsQuotable hash) :
    scan .between (dispatchBranch platform hash).toList =
      some (branchTokens platform hash, .between) := by
  have hclose : Shell.step (.word (bare platform.dpkgArch.toList)) ')' =
      some ([.word (bare platform.dpkgArch.toList)] ++ [.close], .between) := rfl
  have hbranch :=
    scan_append (scan_branchStart _ (scan_name h.letters h.nonempty) hclose h.quotable) <|
    scan_append (scan_single hhash _) (scan_branchEnd _)
  simpa [toList_dispatchBranch, branchTokens] using hbranch

theorem toList_dispatchBlock (platforms : List (Platform × String)) :
    (dispatchBlock platforms).toList = dispatchOpening.toList ++
      ((platforms.flatMap fun entry => (dispatchBranch entry.1 entry.2).toList) ++
        dispatchClosing.toList) := by
  simp [dispatchBlock, List.flatMap_map]

theorem read_opening : openingTokens.foldlM Reading.step (.commands ⟨[], []⟩) =
    some (.branches (dispatchScript [])) := by decide +kernel

theorem read_branch (h : IsDispatched platform) (branches : List Branch) :
    (branchTokens platform hash).foldlM Reading.step (.branches (dispatchScript branches)) =
      some (.branches (dispatchScript (branches ++ [taken platform hash]))) := by
  have hname : Reading.step (.branches (dispatchScript branches))
      (.word (bare platform.dpkgArch.toList)) =
        some (.pattern (dispatchScript branches) (taken platform hash).pattern) := by
    have hstar : '*' ∉ platform.dpkgArch.toList := fun hmem => absurd (h.letters _ hmem) (by decide)
    have hend : bare platform.dpkgArch.toList ≠ bare "esac".toList := by
      rw [Ne, Shell.bare_inj, String.toList_inj]
      exact h.not_end
    rw [Reading.step, if_neg hend, Shell.pattern?_bare hstar]
    rfl
  rw [branchTokens, List.foldlM_cons, hname]
  rfl

theorem read_closing (branches : List Branch) :
    (closingTokens ++ [Token.word (bare "esac".toList)]).foldlM Reading.step
      (.branches (dispatchScript branches)) =
        some (.whole (dispatchScript (branches ++ [refused]))) := rfl

theorem scan_branches {tokens : Platform × String → List Token}
    (hbranches : ∀ entry ∈ platforms,
      scan .between (dispatchBranch entry.1 entry.2).toList = some (tokens entry, .between)) :
    scan .between (platforms.flatMap fun entry => (dispatchBranch entry.1 entry.2).toList) =
      some (platforms.flatMap tokens, .between) := by
  induction platforms with
  | nil => rfl
  | cons entry platforms ih =>
    obtain ⟨hentry, hrest⟩ := List.forall_mem_cons.mp hbranches
    exact scan_append hentry (ih hrest)

theorem tokens?_dispatchBlock {tokens : Platform × String → List Token}
    (hbranches : ∀ entry ∈ platforms,
      scan .between (dispatchBranch entry.1 entry.2).toList = some (tokens entry, .between)) :
    Shell.tokens? (dispatchBlock platforms).toList = some (openingTokens ++
      (platforms.flatMap tokens ++ (closingTokens ++ [.word (bare "esac".toList)]))) := by
  have hscan := scan_append scan_opening (scan_append (scan_branches hbranches) scan_closing)
  rw [toList_dispatchBlock, Shell.tokens?, hscan]
  simp [Shell.Mode.finish?]

theorem read_branches (hplatforms : ∀ entry ∈ platforms, IsDispatched entry.1)
    (branches : List Branch) :
    (platforms.flatMap fun entry => branchTokens entry.1 entry.2).foldlM Reading.step
      (.branches (dispatchScript branches)) = some (.branches (dispatchScript
        (branches ++ platforms.map fun entry => taken entry.1 entry.2))) := by
  induction platforms generalizing branches with
  | nil => simp
  | cons entry platforms ih =>
    obtain ⟨hentry, hrest⟩ := List.forall_mem_cons.mp hplatforms
    rw [List.flatMap_cons, foldlM_step_append (read_branch hentry branches), ih hrest,
      List.append_assoc, List.map_cons, List.singleton_append]

/-- A shell reads a branch for each platform, in their order, and one for the rest. -/
theorem read_dispatchBlock
    (hplatforms : ∀ entry ∈ platforms, IsDispatched entry.1 ∧ IsQuotable entry.2) :
    Shell.read? (dispatchBlock platforms) = some (dispatchScript
      ((platforms.map fun entry => taken entry.1 entry.2) ++ [refused])) := by
  have htokens := tokens?_dispatchBlock fun entry hentry =>
    scan_branch (hplatforms entry hentry).1 (hplatforms entry hentry).2
  rw [Shell.read?, htokens, Option.bind_eq_bind, Option.bind_some,
    foldlM_step_append read_opening,
    foldlM_step_append (read_branches (fun entry hentry => (hplatforms entry hentry).1) []),
    read_closing]
  rfl

/-- The first platform for an architecture as it is printed: only what stands after the last dash
counts. -/
def platformFor? (project : Project) (architecture : List Char) : Option Platform :=
  project.config.platforms.find? fun platform =>
    platform.dpkgArch.toList = architecture.rtakeWhile (· ≠ '-')

/-- What a shell has done after the dispatch: it has set the variables for the platform at hand, or
it has complained and ended. -/
structure Dispatches (project : Project) (answer : String → String → Except Error String)
    (architecture : List Char) (start finished : Shell.State) : Prop where
  taken : ∀ platform, project.platformFor? architecture = some platform →
    finished.value "rustArch".toList = platform.rustTarget.toList ∧
    answer project.config.rustupVersion platform.rustTarget =
      .ok (String.ofList (finished.value "rustupSha256".toList)) ∧
    finished.status = none ∧ finished.errors = start.errors
  refused : project.platformFor? architecture = none →
    finished.status = some ['1'] ∧
    finished.errors = start.errors ++ ["unsupported architecture: ".toList ++ architecture]
  others : ∀ name, name ≠ "dpkgArch".toList → name ≠ "rustArch".toList →
    name ≠ "rustupSha256".toList → finished.value name = start.value name

/-- The branch that a shell takes for what stands after the last dash. -/
theorem branch?_dispatch (platforms : List (Platform × String)) (word : List Char) :
    (dispatchScript ((platforms.map fun entry => taken entry.1 entry.2) ++ [refused])).branch?
      word = some (match platforms.find? fun entry => entry.1.dpkgArch.toList = word with
        | some entry => taken entry.1 entry.2
        | none => refused) := by
  have hcovers : (fun entry : Platform × String =>
      Shell.Pattern.covers (taken entry.1 entry.2).pattern word) =
        fun entry => decide (entry.1.dpkgArch.toList = word) := by
    funext entry
    rw [Bool.eq_iff_iff, decide_eq_true_eq]
    exact Shell.covers_literal
  have hrefused : Shell.Pattern.covers refused.pattern word := Shell.covers_star word
  rw [Script.branch?, dispatchScript, List.find?_append, List.find?_map]
  simp only [Function.comp_def, hcovers]
  cases platforms.find? fun entry => decide (entry.1.dpkgArch.toList = word) with
  | some entry => rfl
  | none => simp [hrefused]

variable {output : List Char → List Char} {start : Shell.State}

/-- The architecture is set, and the branch for its last part runs. -/
theorem run_dispatchScript (hstart : start.status = none) {branches : List Branch} {branch : Branch}
    (hbranch : (dispatchScript branches).branch?
      ((output architectureCommand).rtakeWhile (· ≠ '-')) = some branch) :
    (dispatchScript branches).run output start = Shell.runAll output
      (start.set "dpkgArch".toList (output architectureCommand)) branch.commands := by
  have hcommands : Shell.runAll output start (dispatchScript branches).commands =
      start.set "dpkgArch".toList (output architectureCommand) := by
    rw [dispatchScript, Shell.runAll_cons hstart, Shell.runAll, Shell.Command.run, Shell.Word.text,
      List.flatMap_singleton, Shell.Piece.text]
  have hsubject : Shell.Word.text output
      (start.set "dpkgArch".toList (output architectureCommand))
      (dispatchScript branches).subject =
        (output architectureCommand).rtakeWhile (· ≠ '-') := by
    rw [← Shell.strip_star_char, dispatchScript, Shell.Word.text, List.flatMap_singleton,
      Shell.Piece.text, Shell.value_set_self]
    rfl
  rw [Script.run, hcommands, hsubject, hbranch]

theorem run_taken {state : Shell.State} (hstate : state.status = none) :
    Shell.runAll output state (taken platform hash).commands =
      (state.set "rustArch".toList platform.rustTarget.toList).set "rustupSha256".toList
        hash.toList := by
  have hnext : (state.set "rustArch".toList platform.rustTarget.toList).status = none := hstate
  rw [taken, Shell.runAll_cons hstate, Shell.Command.run, Shell.text_quoted,
    Shell.runAll_cons hnext, Shell.Command.run, Shell.text_quoted, Shell.runAll]

theorem run_refused {state : Shell.State} (hstate : state.status = none) :
    Shell.runAll output state refused.commands =
      { state with
        errors := state.errors ++ ["unsupported architecture: ".toList ++
          state.value "dpkgArch".toList]
        status := some ['1'] } := by
  have hword : Shell.Word.text output state ("unsupported architecture: ".toList.map .quoted ++
      [.value "dpkgArch".toList []]) = "unsupported architecture: ".toList ++
        state.value "dpkgArch".toList := by
    rw [Shell.text_append, Shell.text_quoted, Shell.Word.text, List.flatMap_singleton,
      Shell.Piece.text, List.map_nil, Shell.strip_nil]
  have hnext : ({ state with errors := state.errors ++ ["unsupported architecture: ".toList ++
      state.value "dpkgArch".toList] } : Shell.State).status = none := hstate
  rw [refused, Shell.runAll_cons hstate, Shell.Command.run, hword, Shell.runAll_cons hnext]
  rfl

theorem platformFor?_eq {hashes : List (Platform × String)}
    (hhashes : hashes.map Prod.fst = project.config.platforms) (architecture : List Char) :
    project.platformFor? architecture = (hashes.find? fun entry =>
      entry.1.dpkgArch.toList = architecture.rtakeWhile (· ≠ '-')).map Prod.fst := by
  rw [platformFor?, ← hhashes, List.find?_map]
  rfl

theorem dispatches (hstart : start.status = none) {hashes : List (Platform × String)}
    (hhashes : Job.Answered (fun platform hash =>
      answer project.config.rustupVersion platform.rustTarget = .ok hash)
        project.config.platforms hashes) :
    Dispatches project answer (output architectureCommand) start
      ((dispatchScript ((hashes.map fun entry => taken entry.1 entry.2) ++ [refused])).run output
        start) := by
  have hplatform := platformFor?_eq hhashes.asked (output architectureCommand)
  have hbranch := branch?_dispatch hashes
    ((output architectureCommand).rtakeWhile (· ≠ '-'))
  have hset : (start.set "dpkgArch".toList (output architectureCommand)).status = none := hstart
  cases hfind : hashes.find? fun entry => entry.1.dpkgArch.toList =
      (output architectureCommand).rtakeWhile (· ≠ '-') with
  | some entry =>
    have hhash := hhashes.given entry (List.mem_of_find?_eq_some hfind)
    rw [hfind] at hplatform hbranch
    rw [run_dispatchScript hstart hbranch, run_taken hset]
    refine ⟨?_, ?_, ?_⟩
    · intro platform hfor
      obtain rfl : entry.1 = platform := Option.some.inj (hplatform.symm.trans hfor)
      have hne : "rustArch".toList ≠ "rustupSha256".toList := by decide
      rw [Shell.value_set_of_ne hne, Shell.value_set_self, Shell.value_set_self,
        String.ofList_toList]
      exact ⟨rfl, hhash, hset, rfl⟩
    · intro hnone
      cases hplatform.symm.trans hnone
    · intro name harchitecture htarget hchecksum
      rw [Shell.value_set_of_ne hchecksum, Shell.value_set_of_ne htarget,
        Shell.value_set_of_ne harchitecture]
  | none =>
    rw [hfind] at hplatform hbranch
    rw [run_dispatchScript hstart hbranch, run_refused hset, Shell.value_set_self]
    refine ⟨?_, ?_, ?_⟩
    · intro platform hfor
      cases hplatform.symm.trans hfor
    · intro _
      exact ⟨rfl, rfl⟩
    · intro name harchitecture _ _
      exact Shell.value_set_of_ne harchitecture

/-- The block comes last, and what it holds is not filled again. -/
theorem installer_parts (project : Project) (text block : String) : ∃ parts last,
    Text.IsParted (Placeholder.mark "ARCH-MATCH".toList)
      (Placeholder.fill text [("RUST-VERSION", project.config.rustVersion),
        ("RUSTUP-VERSION", project.config.rustupVersion),
        ("RUSTUP-HOME", project.config.rustupHome), ("CARGO-HOME", project.config.cargoHome),
        ("PATH", project.config.path)]).toList parts last ∧
    Placeholder.fill text (project.installerTokens block) =
      String.ofList (parts.flatMap (· ++ block.toList) ++ last) := by
  have hmark : Placeholder.mark "ARCH-MATCH".toList ≠ [] := by simp [Placeholder.mark]
  obtain ⟨parts, last, hparted, hreplace⟩ := Text.exists_parts hmark (Placeholder.fill text
    [("RUST-VERSION", project.config.rustVersion), ("RUSTUP-VERSION", project.config.rustupVersion),
      ("RUSTUP-HOME", project.config.rustupHome), ("CARGO-HOME", project.config.cargoHome),
      ("PATH", project.config.path)]).toList
  have htokens : project.installerTokens block =
      [("RUST-VERSION", project.config.rustVersion),
        ("RUSTUP-VERSION", project.config.rustupVersion),
        ("RUSTUP-HOME", project.config.rustupHome), ("CARGO-HOME", project.config.cargoHome),
        ("PATH", project.config.path)] ++ [("ARCH-MATCH", block)] := rfl
  refine ⟨parts, last, hparted, ?_⟩
  rw [htokens, Placeholder.fill_concat, hreplace]

/-- A shell that runs the block sets the target and the checksum of the first platform for the last
part of the architecture that it prints, and ends with a complaint if there is none. The installer
holds the block as it is at every one of its placeholders. -/
theorem archMatch_dispatches {session after : Session} {block : String}
    (hblock : (project.archMatch (.table answer)).perform session = (.ok block, after)) :
    ((∀ platform ∈ project.config.platforms, IsDispatched platform) →
      (∀ platform ∈ project.config.platforms, ∀ hash,
        answer project.config.rustupVersion platform.rustTarget = .ok hash → IsQuotable hash) →
      ∃ script, Shell.read? block = some script ∧ ∀ output start, start.status = none →
        Dispatches project answer (output architectureCommand) start (script.run output start)) ∧
    ∀ text, session.tree.readText project.layout.installerTemplate = .ok text →
      ∃ parts last, Text.IsParted (Placeholder.mark "ARCH-MATCH".toList)
          (Placeholder.fill text [("RUST-VERSION", project.config.rustVersion),
            ("RUSTUP-VERSION", project.config.rustupVersion),
            ("RUSTUP-HOME", project.config.rustupHome), ("CARGO-HOME", project.config.cargoHome),
            ("PATH", project.config.path)]).toList parts last ∧
        ((project.renderInstaller (.table answer)).perform session).1 = .ok ⟨"add_rust_lang.sh",
          String.ofList (parts.flatMap (· ++ block.toList) ++ last)⟩ := by
  obtain ⟨hashes, hhashes, rfl, -⟩ := effect_archMatch.mp (Job.effect_eq hblock)
  constructor
  · intro hplatforms hanswers
    refine ⟨_, read_dispatchBlock ?_, fun output start hstart => dispatches hstart hhashes⟩
    intro entry hentry
    have hplatform := hhashes.mem hentry
    exact ⟨hplatforms _ hplatform, hanswers _ hplatform _ (hhashes.given entry hentry)⟩
  · intro text htext
    obtain ⟨parts, last, hparted, hfill⟩ := project.installer_parts text (dispatchBlock hashes)
    refine ⟨parts, last, hparted, ?_⟩
    rw [renderInstaller_eq, Job.perform_bind, Template.perform_load, htext]
    simp only [Except.mapError, Except.map, Job.perform_bind, hblock]
    obtain ⟨log, hinstaller⟩ := Template.perform_fill
      ⟨Template.nameOf project.layout.installerTemplate, text⟩ "add_rust_lang.sh"
      (project.installerTokens (dispatchBlock hashes)) after
    rw [hinstaller, Template.filled, hfill]

def twice : Project where
  config := { platforms := [⟨"amd64", "amd64", "x86_64-linux", "a"⟩, ⟨"x32", "amd64", "x32", "b"⟩,
    ⟨"arm64v8", "arm64", "aarch64-linux", "c"⟩] }
  layout := ⟨"repo"⟩

def twiceAnswer : String → String → Except Error String :=
  fun _ target => .ok ("%%ARCH-MATCH%%" ++ target)

def twiceTree : FileTree where
  root := .folder [("repo", .folder [("helpers", .folder [("templates", .folder [
    ("add_rust_lang.temp", .file "%%RUST-VERSION%%:%%ARCH-MATCH%%%%ARCH-MATCH%%".toUTF8)])])])]

theorem archMatch_dispatches_twice : ∃ block after,
    (twice.archMatch (.table twiceAnswer)).perform { tree := twiceTree } = (.ok block, after) ∧
    (∀ platform ∈ twice.config.platforms, IsDispatched platform) ∧
    (∀ platform ∈ twice.config.platforms, ∀ hash,
      twiceAnswer twice.config.rustupVersion platform.rustTarget = .ok hash → IsQuotable hash) ∧
    twiceTree.readText twice.layout.installerTemplate =
      .ok "%%RUST-VERSION%%:%%ARCH-MATCH%%%%ARCH-MATCH%%" ∧
    (∃ script, Shell.read? block = some script ∧
      ((script.run (fun _ => "linux-amd64".toList) ⟨fun _ => [], [], none⟩).value
        "rustArch".toList = "x86_64-linux".toList) ∧
      ((script.run (fun _ => "linux-arm".toList) ⟨fun _ => [], [], none⟩).status =
        some ['1'])) ∧
    ∃ parts last, Text.IsParted (Placeholder.mark "ARCH-MATCH".toList)
        "1.51.0:%%ARCH-MATCH%%%%ARCH-MATCH%%".toList parts last ∧
      ((twice.renderInstaller (.table twiceAnswer)).perform { tree := twiceTree }).1 =
        .ok ⟨"add_rust_lang.sh", String.ofList (parts.flatMap (· ++ block.toList) ++ last)⟩ := by
  have hread : twiceTree.readText twice.layout.installerTemplate =
      .ok "%%RUST-VERSION%%:%%ARCH-MATCH%%%%ARCH-MATCH%%" := by decide +kernel
  have hblock : ((twice.archMatch (.table twiceAnswer)).perform { tree := twiceTree }).1 =
      .ok (dispatchBlock (twice.config.platforms.map fun platform =>
        (platform, "%%ARCH-MATCH%%" ++ platform.rustTarget))) := by decide +kernel
  obtain ⟨after, hperform⟩ := Job.perform_of_fst hblock
  have hplatforms : ∀ platform ∈ twice.config.platforms, IsDispatched platform := by
    intro platform hplatform
    simp only [twice, List.mem_cons, List.not_mem_nil, or_false] at hplatform
    rcases hplatform with rfl | rfl | rfl
    all_goals constructor <;> decide
  have hanswers : ∀ platform ∈ twice.config.platforms, ∀ hash,
      twiceAnswer twice.config.rustupVersion platform.rustTarget = .ok hash → IsQuotable hash := by
    intro platform hplatform hash hhash
    simp only [twice, List.mem_cons, List.not_mem_nil, or_false] at hplatform
    rcases hplatform with rfl | rfl | rfl
    all_goals
      cases hhash
      decide
  have hfilled : Placeholder.fill "%%RUST-VERSION%%:%%ARCH-MATCH%%%%ARCH-MATCH%%"
      [("RUST-VERSION", twice.config.rustVersion), ("RUSTUP-VERSION", twice.config.rustupVersion),
        ("RUSTUP-HOME", twice.config.rustupHome), ("CARGO-HOME", twice.config.cargoHome),
        ("PATH", twice.config.path)] = "1.51.0:%%ARCH-MATCH%%%%ARCH-MATCH%%" := by decide +kernel
  obtain ⟨hreads, hfills⟩ := archMatch_dispatches hperform
  obtain ⟨script, hscript, hruns⟩ := hreads hplatforms hanswers
  obtain ⟨parts, last, hparted, hrender⟩ := hfills _ hread
  rw [hfilled] at hparted
  have htaken := hruns (fun _ => "linux-amd64".toList) ⟨fun _ => [], [], none⟩ rfl
  have hrefused := hruns (fun _ => "linux-arm".toList) ⟨fun _ => [], [], none⟩ rfl
  refine ⟨_, after, hperform, hplatforms, hanswers, hread, ⟨script, hscript, ?_, ?_⟩, parts, last,
    hparted, hrender⟩
  · exact (htaken.taken ⟨"amd64", "amd64", "x86_64-linux", "a"⟩ (by decide +kernel)).1
  · exact (hrefused.refused (by decide +kernel)).1

end ReleaseStamp.Project
