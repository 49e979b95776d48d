import ReleaseStamp.Text.Composition

/-!
# Normal form

A letter with marks can often be written in several ways: as one character or as many, and with the
marks in any order. The normal form takes characters apart, puts the marks on a letter in the order
of their classes, and puts together again what is one character.

Not covered are the characters that stand for others and are never put together again, such as the
ideographs for compatibility: the mapping of names replaces them before.
-/
namespace ReleaseStamp.Text

def combiningClass (c : Char) : Nat :=
  match combiningRuns.find? fun run => run.1 ≤ c.toNat && c.toNat ≤ run.2.1 with
  | some run => run.2.2
  | none => 0

namespace Hangul

/-! Syllables are numbered by their initial, their vowel and their final, which may be missing. -/

def syllableBase : Nat := 0xAC00
def initialBase : Nat := 0x1100
def vowelBase : Nat := 0x1161

def finalBase : Nat := 0x11A7

def initials : Nat := 19
def vowels : Nat := 21

def finals : Nat := 28

def index? (c : Char) : Option Nat :=
  if syllableBase ≤ c.toNat && c.toNat < syllableBase + initials * vowels * finals then
    some (c.toNat - syllableBase)
  else none

def parts? (c : Char) : Option (Char × Char) :=
  (index? c).map fun n =>
    if n % finals = 0 then
      (Char.ofNat (initialBase + n / finals / vowels), Char.ofNat (vowelBase + n / finals % vowels))
    else (Char.ofNat (syllableBase + n / finals * finals), Char.ofNat (finalBase + n % finals))

def whole? (a b : Char) : Option Char :=
  if initialBase ≤ a.toNat && a.toNat < initialBase + initials
      && vowelBase ≤ b.toNat && b.toNat < vowelBase + vowels then
    some (Char.ofNat (syllableBase
      + ((a.toNat - initialBase) * vowels + (b.toNat - vowelBase)) * finals))
  else match index? a with
    | some n =>
      if n % finals = 0 && finalBase < b.toNat && b.toNat < finalBase + finals then
        some (Char.ofNat (a.toNat + (b.toNat - finalBase)))
      else none
    | none => none

end Hangul

def parts? (c : Char) : Option (Char × Char) :=
  (Hangul.parts? c).orElse fun _ =>
    (compositions.find? (·.1 = c.toNat)).map fun (_, a, b) => (Char.ofNat a, Char.ofNat b)

def whole? (a b : Char) : Option Char :=
  (Hangul.whole? a b).orElse fun _ =>
    (compositions.find? fun entry => entry.2.1 = a.toNat && entry.2.2 = b.toNat).map fun entry =>
      Char.ofNat entry.1

def takeApart : Nat → Char → List Char
  | 0, c => [c]
  | depth + 1, c =>
    match parts? c with
    | some (a, b) => takeApart depth a ++ [b]
    | none => [c]

def greatestDepth : Nat := 4

/-- Puts a character at the end of a text, which is given from its end on, but before the marks of
greater classes there. -/
def insertMark (c : Char) : List Char → List Char
  | [] => [c]
  | d :: before =>
    if combiningClass c ≠ 0 && combiningClass c < combiningClass d then d :: insertMark c before
    else c :: d :: before

def orderMarks (text : List Char) : List Char :=
  (text.foldl (fun done c => insertMark c done) []).reverse

/-- A text that is put together, from its end on: the marks on the last letter that stay marks, that
letter, and what is before it. -/
structure Composing where
  marks : List Char := []
  letter : Option Char := none
  before : List Char := []

def Composing.text (state : Composing) : List Char :=
  (state.marks ++ state.letter.toList ++ state.before).reverse

/-- A character joins the last letter unless a mark between them is in its way: one of a class that
is not less. -/
def Composing.next (state : Composing) (c : Char) : Composing :=
  let open? := match state.marks with
    | [] => true
    | mark :: _ => combiningClass mark < combiningClass c
  match state.letter.bind fun letter => if open? then whole? letter c else none with
  | some letter => { state with letter := some letter }
  | none =>
    if combiningClass c = 0 then
      { letter := some c, before := state.marks ++ state.letter.toList ++ state.before }
    else { state with marks := c :: state.marks }

def normal (text : List Char) : List Char :=
  ((orderMarks (text.flatMap (takeApart greatestDepth))).foldl Composing.next {}).text

end ReleaseStamp.Text
