import Mathlib.Data.List.DropRight
import Mathlib.Data.List.Infix
import ReleaseStamp.Proofs.Shell.Token

/-!
# Shell scripts that end in a choice

The scripts that are commands followed by one `case`, with their meaning: what they leave in the
variables, what they say on the error output and whether they end the shell that runs them.
-/
namespace ReleaseStamp.Shell

inductive Command where
  /-- Sets a variable. -/
  | assign (name : List Char) (value : Word)
  /-- Prints a word on the error output. -/
  | complain (word : Word)
  /-- Ends the shell with a status. -/
  | exit (status : Word)
deriving DecidableEq, Repr

/-- A pattern; what is missing in it is any text. -/
abbrev Pattern := List (Option Char)

structure Branch where
  pattern : Pattern
  commands : List Command
deriving DecidableEq, Repr

/-- Commands, and then the choice of a branch by a word. -/
structure Script where
  commands : List Command
  subject : Word
  branches : List Branch
deriving DecidableEq, Repr

def assignment? (word : Word) : Option Command :=
  let isBareName : Piece → Bool
    | .bare c => isNameChar c
    | _ => false
  let name := (word.takeWhile isBareName).filterMap fun
    | .bare c => some c
    | _ => none
  match word.drop name.length with
  | .bare '=' :: value => if name.head?.any (!·.isDigit) then some (.assign name value) else none
  | _ => none

/-- Reads a command from its words. A word with a bare star would be taken for names of files. -/
def command? : List Token → Option Command
  | [.word word] => assignment? word
  | [.word name, .word status] =>
    if name = bare "exit".toList ∧ .bare '*' ∉ status then some (.exit status) else none
  | [.word name, .toFile, .word file, .word word] =>
    if name = bare "echo".toList ∧ file = bare ['2'] ∧ .bare '*' ∉ word then
      some (.complain word) else none
  | _ => none

def wild? : Piece → Option (Option Char)
  | .bare '*' => some none
  | .bare c => some (some c)
  | .quoted c => some (some c)
  | _ => none

def pattern? (word : Word) : Option Pattern := word.mapM wild?

structure Draft where
  commands : List Command
  words : List Token
deriving DecidableEq, Repr

def Draft.finish? (draft : Draft) : Option (List Command) :=
  if draft.words = [] then some draft.commands
  else (command? draft.words).map fun command => draft.commands ++ [command]

def Draft.step (draft : Draft) : Token → Option Draft
  | .semicolon => if draft.words = [] then none else draft.finish?.map (⟨·, []⟩)
  | .newline => draft.finish?.map (⟨·, []⟩)
  | .branchEnd => none
  | .close => none
  | token => some ⟨draft.commands, draft.words ++ [token]⟩

inductive Reading where
  | commands (draft : Draft)
  /-- After the word `case`. -/
  | subject (commands : List Command)
  /-- After the subject of the choice. -/
  | opening (script : Script)
  /-- Before a branch. -/
  | branches (script : Script)
  /-- After the pattern of a branch. -/
  | pattern (script : Script) (pattern : Pattern)
  /-- In a branch. -/
  | branch (script : Script) (pattern : Pattern) (draft : Draft)
  | whole (script : Script)
deriving DecidableEq, Repr

def Reading.step : Reading → Token → Option Reading
  | .commands ⟨done, []⟩, .word word =>
    if word = bare "case".toList then some (.subject done)
    else some (.commands ⟨done, [.word word]⟩)
  | .commands draft, token => (draft.step token).map .commands
  | .subject done, .word word => some (.opening ⟨done, word, []⟩)
  | .opening script, .word word =>
    if word = bare "in".toList then some (.branches script) else none
  | .branches script, .newline => some (.branches script)
  | .branches script, .word word =>
    if word = bare "esac".toList then some (.whole script)
    else (pattern? word).map (.pattern script)
  | .pattern script glob, .close => some (.branch script glob ⟨[], []⟩)
  | .branch script glob draft, .branchEnd => draft.finish?.map fun done =>
    .branches { script with branches := script.branches ++ [⟨glob, done⟩] }
  | .branch script glob draft, token => (draft.step token).map (.branch script glob)
  | .whole script, .newline => some (.whole script)
  | _, _ => none

def read? (text : String) : Option Script := do
  let tokens ← tokens? text.toList
  let .whole script ← tokens.foldlM Reading.step (.commands ⟨[], []⟩) | none
  return script

theorem foldlM_step_append {tokens : List Token} {reading next : Reading}
    (h : tokens.foldlM Reading.step reading = some next) (more : List Token) :
    (tokens ++ more).foldlM Reading.step reading = more.foldlM Reading.step next := by
  rw [List.foldlM_append, h]
  rfl

theorem bare_inj {text other : List Char} : bare text = bare other ↔ text = other :=
  (List.map_injective_iff.mpr fun _ _ heq => Piece.bare.inj heq).eq_iff

theorem pattern?_bare {text : List Char} (hstar : '*' ∉ text) :
    pattern? (bare text) = some (text.map some) := by
  unfold pattern? bare
  induction text with
  | nil => rfl
  | cons c text ih =>
    obtain ⟨hc, htext⟩ := List.ne_and_not_mem_of_not_mem_cons hstar
    have hwild : wild? (.bare c) = some (some c) := by
      rw [wild?]
      exact fun heq => hc heq.symm
    rw [List.map_cons, List.mapM_cons, hwild, ih htext]
    rfl

def Pattern.covers : Pattern → List Char → Bool
  | [], text => text.isEmpty
  | none :: pattern, text => text.tails.any (covers pattern)
  | some c :: pattern, d :: text => c == d && covers pattern text
  | some _ :: _, [] => false

/-- The shortest rest of a text after a start that matches, where `front` stands before the text and
is part of the start. -/
def Pattern.cut? (pattern : Pattern) (front : List Char) : List Char → Option (List Char)
  | [] => if covers pattern front then some [] else none
  | c :: text =>
    (cut? pattern (front ++ [c]) text).or (if covers pattern front then some (c :: text) else none)

def Pattern.strip (pattern : Pattern) (text : List Char) : List Char :=
  (cut? pattern [] text).getD text

/-- A shell: its variables, what it said on the error output, and the status that it ended with. -/
structure State where
  value : List Char → List Char
  errors : List (List Char)
  status : Option (List Char)

def State.set (state : State) (name text : List Char) : State :=
  { state with value := fun other => if other = name then text else state.value other }

def Piece.text (output : List Char → List Char) (state : State) : Piece → List Char
  | .bare c => [c]
  | .quoted c => [c]
  | .value name cut =>
    Pattern.strip (cut.map fun c => if c = '*' then none else some c) (state.value name)
  | .output command => output command

def Word.text (output : List Char → List Char) (state : State) (word : Word) : List Char :=
  word.flatMap (Piece.text output state)

def Command.run (output : List Char → List Char) (state : State) : Command → State
  | assign name word => state.set name (Word.text output state word)
  | complain word => { state with errors := state.errors ++ [Word.text output state word] }
  | exit word => { state with status := some (Word.text output state word) }

def runAll (output : List Char → List Char) : State → List Command → State
  | state, [] => state
  | state, command :: commands =>
    if state.status = none then runAll output (command.run output state) commands else state

def Script.branch? (script : Script) (text : List Char) : Option Branch :=
  script.branches.find? (Pattern.covers ·.pattern text)

def Script.run (output : List Char → List Char) (script : Script) (state : State) : State :=
  let state := runAll output state script.commands
  match script.branch? (Word.text output state script.subject) with
  | some branch => runAll output state branch.commands
  | none => state

section State

variable {output : List Char → List Char} {state : State} {name text : List Char}

@[simp] theorem value_set_self : (state.set name text).value name = text := if_pos rfl

theorem value_set_of_ne {other : List Char} (h : other ≠ name) :
    (state.set name text).value other = state.value other := if_neg h

@[simp] theorem errors_set : (state.set name text).errors = state.errors := rfl

@[simp] theorem status_set : (state.set name text).status = state.status := rfl

theorem text_quoted : Word.text output state (text.map .quoted) = text := by
  rw [Word.text, List.flatMap_map]
  exact List.flatMap_singleton' text

theorem text_append (word more : Word) : Word.text output state (word ++ more) =
    Word.text output state word ++ Word.text output state more := List.flatMap_append

theorem runAll_cons (h : state.status = none) (command : Command) (commands : List Command) :
    runAll output state (command :: commands) =
      runAll output (command.run output state) commands := if_pos h

end State

theorem covers_literal {pattern text : List Char} :
    Pattern.covers (pattern.map some) text ↔ pattern = text := by
  induction pattern generalizing text with
  | nil => cases text <;> simp [Pattern.covers]
  | cons c pattern ih =>
    cases text with
    | nil => simp [Pattern.covers]
    | cons d text =>
      rw [List.map_cons, Pattern.covers, Bool.and_eq_true, beq_iff_eq, ih, List.cons_eq_cons]

/-- Any text matches the star. -/
theorem covers_star (text : List Char) : Pattern.covers [none] text := by
  rw [Pattern.covers, List.any_eq_true]
  exact ⟨[], (List.mem_tails _ _).mpr List.nil_suffix, rfl⟩

theorem covers_star_char {c : Char} {text : List Char} :
    Pattern.covers [none, some c] text ↔ text.getLast? = some c := by
  have hrest : ∀ rest, Pattern.covers [some c] rest ↔ [c] = rest := fun rest =>
    @covers_literal [c] rest
  rw [Pattern.covers, List.any_eq_true, List.getLast?_eq_some_iff]
  simp only [List.mem_tails, hrest, exists_eq_right']
  exact exists_congr fun front => eq_comm

theorem cut?_of_not_mem {c : Char} {text : List Char} (hc : c ∉ text) (front : List Char) :
    Pattern.cut? [none, some c] front text =
      if front.getLast? = some c then some text else none := by
  induction text generalizing front with
  | nil => simp only [Pattern.cut?, covers_star_char]
  | cons d text ih =>
    obtain ⟨hd, htext⟩ := List.ne_and_not_mem_of_not_mem_cons hc
    have hlast : (front ++ [d]).getLast? ≠ some c := by
      rw [List.getLast?_concat, Ne, Option.some.injEq]
      exact fun heq => hd heq.symm
    rw [Pattern.cut?, ih htext, if_neg hlast, Option.none_or]
    simp only [covers_star_char]

theorem cut?_last {c : Char} {after : List Char} (hc : c ∉ after) (front before : List Char) :
    Pattern.cut? [none, some c] front (before ++ c :: after) = some after := by
  induction before generalizing front with
  | nil =>
    rw [List.nil_append, Pattern.cut?, cut?_of_not_mem hc, if_pos List.getLast?_concat,
      Option.some_or]
  | cons d before ih => rw [List.cons_append, Pattern.cut?, ih, Option.some_or]

theorem cut?_nil {front : List Char} (hfront : front ≠ []) (text : List Char) :
    Pattern.cut? [] front text = none := by
  have hcovers : Pattern.covers [] front = false := by
    rw [Pattern.covers, List.isEmpty_eq_false_iff]
    exact hfront
  induction text generalizing front with
  | nil => rw [Pattern.cut?, hcovers, if_neg Bool.false_ne_true]
  | cons c text ih =>
    have hmore : front ++ [c] ≠ [] := by simp
    rw [Pattern.cut?, ih hmore (by simp [Pattern.covers]), hcovers, if_neg Bool.false_ne_true,
      Option.none_or]

/-- Nothing is cut by the pattern without characters. -/
theorem strip_nil (text : List Char) : Pattern.strip [] text = text := by
  cases text with
  | nil => rfl
  | cons c text =>
    rw [Pattern.strip, Pattern.cut?, cut?_nil (by simp), Option.none_or]
    rfl

theorem exists_last {c : Char} {text : List Char} (hc : c ∈ text) :
    ∃ before after, text = before ++ c :: after ∧ c ∉ after := by
  obtain ⟨after, before, htext, hafter⟩ :=
    List.eq_append_cons_of_mem (List.mem_reverse.mpr hc)
  refine ⟨before.reverse, after.reverse, ?_, by rwa [List.mem_reverse]⟩
  rw [← List.reverse_reverse text, htext]
  simp

/-- Without the longest start that ends with a character, what stands after the last one is left. -/
theorem strip_star_char (c : Char) (text : List Char) :
    Pattern.strip [none, some c] text = text.rtakeWhile (· ≠ c) := by
  by_cases hc : c ∈ text
  · obtain ⟨before, after, rfl, hafter⟩ := exists_last hc
    have hkeep : ∀ d ∈ after.reverse, decide (d ≠ c) = true := by
      intro d hd
      rw [decide_eq_true_eq]
      rintro rfl
      exact hafter (List.mem_reverse.mp hd)
    rw [Pattern.strip, cut?_last hafter, Option.getD_some, List.rtakeWhile, List.reverse_append,
      List.reverse_cons, List.append_assoc, List.takeWhile_append_of_pos hkeep]
    simp
  · have hself : text.rtakeWhile (· ≠ c) = text := by
      rw [List.rtakeWhile_eq_self_iff]
      intro d hd
      rw [decide_eq_true_eq]
      rintro rfl
      exact hc hd
    rw [Pattern.strip, cut?_of_not_mem hc, if_neg (by simp), Option.getD_none, hself]

end ReleaseStamp.Shell
