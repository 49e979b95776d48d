import Mathlib.Data.List.Basic

/-!
# Tokens of shell scripts

How a POSIX shell takes a script apart into words and operators. Only a part of the language is
covered: a character with another meaning, such as a backslash, a backquote or the start of a
comment, makes the script unreadable instead of standing for itself.
-/
namespace ReleaseStamp.Shell

inductive Piece where
  | bare (c : Char)
  | quoted (c : Char)
  /-- The value of a variable, without the longest start that matches the pattern `cut`. -/
  | value (name cut : List Char)
  /-- What a command prints. -/
  | output (command : List Char)
deriving DecidableEq, Repr

abbrev Word := List Piece

def bare (text : List Char) : Word := text.map .bare

inductive Token where
  | word (word : Word)
  | newline
  /-- One semicolon, after a command. -/
  | semicolon
  /-- Two semicolons, after a branch. -/
  | branchEnd
  /-- The parenthesis after a pattern. -/
  | close
  /-- The operator that sends the output to a numbered file. -/
  | toFile
deriving DecidableEq, Repr

/-- Where in a token the reader is, with the part of the word that it has read. -/
inductive Mode where
  | between
  | semicolon
  | greater
  | word (word : Word)
  | single (word : Word)
  | double (word : Word)
  /-- After a dollar sign. -/
  | dollar (word : Word)
  /-- In braces after a dollar sign. -/
  | braces (word : Word) (text : List Char)
  /-- In parentheses after a dollar sign. -/
  | parentheses (word : Word) (text : List Char)
deriving DecidableEq, Repr

def isNameChar (c : Char) : Bool := c.isAlphanum || c == '_'

/-- The characters that need no quotes. A star does not stand for itself, but in a pattern. -/
def isBare (c : Char) : Bool := isNameChar c || "-=*".toList.contains c

/-- Reads the inside of braces: a name, or a name, two number signs and a pattern. -/
def value? (text : List Char) : Option Piece :=
  let name := text.takeWhile isNameChar
  match text.drop name.length with
  | [] => some (.value name [])
  | '#' :: '#' :: cut => if cut.all isBare then some (.value name cut) else none
  | _ => none

def stepBetween : Char → Option (List Token × Mode)
  | ' ' => some ([], .between)
  | '\n' => some ([.newline], .between)
  | ';' => some ([], .semicolon)
  | ')' => some ([.close], .between)
  | '>' => some ([], .greater)
  | '\'' => some ([], .single [])
  | '"' => some ([], .double [])
  | c => if isBare c then some ([], .word [.bare c]) else none

/-- Reads a character, and gives the tokens that end before it or with it. -/
def step : Mode → Char → Option (List Token × Mode)
  | .between, c => stepBetween c
  | .semicolon, ';' => some ([.branchEnd], .between)
  | .semicolon, c => (stepBetween c).map fun (tokens, mode) => (.semicolon :: tokens, mode)
  | .greater, '&' => some ([.toFile], .between)
  | .greater, _ => none
  | .word word, '\'' => some ([], .single word)
  | .word word, '"' => some ([], .double word)
  | .word word, c =>
    if isBare c then some ([], .word (word ++ [.bare c]))
    else if c = '>' then none
    else (stepBetween c).map fun (tokens, mode) => (.word word :: tokens, mode)
  | .single word, '\'' => some ([], .word word)
  | .single word, c => some ([], .single (word ++ [.quoted c]))
  | .double word, '"' => some ([], .word word)
  | .double word, '$' => some ([], .dollar word)
  | .double _, '\\' => none
  | .double _, '`' => none
  | .double word, c => some ([], .double (word ++ [.quoted c]))
  | .dollar word, '{' => some ([], .braces word [])
  | .dollar word, '(' => some ([], .parentheses word [])
  | .dollar _, _ => none
  | .braces word text, '}' => (value? text).map fun piece => ([], .double (word ++ [piece]))
  | .braces word text, c => some ([], .braces word (text ++ [c]))
  | .parentheses word text, ')' => some ([], .double (word ++ [.output text]))
  | .parentheses word text, c =>
    if isBare c || c == ' ' then some ([], .parentheses word (text ++ [c])) else none

def scan : Mode → List Char → Option (List Token × Mode)
  | mode, [] => some ([], mode)
  | mode, c :: rest => do
    let (tokens, next) ← step mode c
    let (more, last) ← scan next rest
    return (tokens ++ more, last)

def Mode.finish? : Mode → Option (List Token)
  | .between => some []
  | .semicolon => some [.semicolon]
  | .word last => some [Token.word last]
  | _ => none

def tokens? (text : List Char) : Option (List Token) := do
  let (tokens, mode) ← scan .between text
  let more ← mode.finish?
  return tokens ++ more

variable {mode next last : Mode} {tokens more : List Token} {text rest : List Char}

theorem scan_append (h : scan mode text = some (tokens, next))
    (hrest : scan next rest = some (more, last)) :
    scan mode (text ++ rest) = some (tokens ++ more, last) := by
  induction text generalizing mode tokens with
  | nil =>
    cases h
    exact hrest
  | cons c text ih =>
    simp only [scan, Option.bind_eq_bind, Option.bind_eq_some_iff, Prod.exists] at h
    obtain ⟨first, second, hstep, others, third, htext, heq⟩ := h
    cases heq
    rw [List.cons_append, scan, hstep]
    simp only [Option.bind_eq_bind, Option.bind_some, ih htext, Option.pure_def,
      List.append_assoc]

/-- In single quotes a character stands for itself, unless it is the quote. -/
theorem scan_single (hquote : '\'' ∉ text) (word : Word) :
    scan (.single word) text = some ([], .single (word ++ text.map .quoted)) := by
  induction text generalizing word with
  | nil => simp [scan]
  | cons c text ih =>
    obtain ⟨hc, htext⟩ := List.ne_and_not_mem_of_not_mem_cons hquote
    have hstep : step (.single word) c = some ([], .single (word ++ [.quoted c])) := by
      rw [step]
      exact fun heq => hc heq.symm
    simp [scan, hstep, ih htext]

theorem stepBetween_bare {c : Char} (hc : isBare c) :
    stepBetween c = some ([], .word [.bare c]) := by
  unfold stepBetween
  split
  all_goals first
    | exact absurd hc (by decide)
    | exact if_pos hc

theorem scan_word (htext : text.all isBare) (word : Word) :
    scan (.word word) text = some ([], .word (word ++ text.map .bare)) := by
  induction text generalizing word with
  | nil => simp [scan]
  | cons c text ih =>
    rw [List.all_cons, Bool.and_eq_true] at htext
    have hstep : step (.word word) c = some ([], .word (word ++ [.bare c])) := by
      rw [step, if_pos htext.1]
      · rintro rfl
        exact absurd htext.1 (by decide)
      · rintro rfl
        exact absurd htext.1 (by decide)
    simp [scan, hstep, ih htext.2]

/-- What needs no quotes is a word. -/
theorem scan_bare (htext : text.all isBare) (hne : text ≠ []) :
    scan .between text = some ([], .word (bare text)) := by
  obtain ⟨c, text, rfl⟩ := List.exists_cons_of_ne_nil hne
  rw [List.all_cons, Bool.and_eq_true] at htext
  simp [scan, step, stepBetween_bare htext.1, scan_word htext.2, bare]

end ReleaseStamp.Shell
