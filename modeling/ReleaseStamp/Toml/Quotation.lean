import ReleaseStamp.Toml.Cursor

/-!
# Quoted texts of a document

A text stands between single or double quotes, or between three of them, where it may go over
several lines. Backslashes escape characters between double quotes. The reader goes over the
characters one by one and remembers in a mode what the next one can be.
-/
namespace ReleaseStamp.Toml

structure Quotation where
  /-- Double quotes, with escapes. -/
  double : Bool
  multiline : Bool
  /-- The place of the opening quote. -/
  start : Nat
deriving DecidableEq, Repr

namespace Quotation

inductive Mode where
  /-- At the start, where a newline is dropped from a text over several lines. -/
  | opening
  | plain
  /-- After so many quotes in a text over several lines. -/
  | quotes (count : Nat)
  /-- After a backslash. -/
  | escape
  /-- In an escape by code point whose letter is at a place: digits still missing, and the value of
  those before. -/
  | codePoint (offset missing value : Nat)
  /-- After a backslash and a blank, whose place and character are kept: a newline must follow the
  blanks. -/
  | lineEnd (offset : Nat) (blank : Char)
  /-- In the white space behind a backslash at a line's end. -/
  | swallow
deriving DecidableEq, Repr

/-- What a character leads to. The characters of the text are kept last one first. -/
inductive Outcome where
  | more (mode : Mode) (text : List Char)
  /-- The text ended before the character. -/
  | endedBefore (text : List Char)
  /-- The text ends with the character. -/
  | ended (text : List Char)
  | failed (offset : Nat) (problem : Problem)

def mark (quotation : Quotation) : Char := if quotation.double then '"' else '\''

def isAllowed (c : Char) : Bool := c == '\t' || (0x20 ≤ c.toNat && c.toNat != 0x7F)

def shortEscape? (c : Char) : Option Char :=
  [('"', '"'), ('\\', '\\'), ('b', '\x08'), ('f', '\x0c'), ('n', '\n'), ('r', '\r'),
    ('t', '\t')].lookup c

def hexValue? (c : Char) : Option Nat :=
  if '0' ≤ c && c ≤ '9' then some (c.toNat - '0'.toNat)
  else if 'a' ≤ c && c ≤ 'f' then some (c.toNat - 'a'.toNat + 10)
  else if 'A' ≤ c && c ≤ 'F' then some (c.toNat - 'A'.toNat + 10)
  else none

def isCodePoint (code : Nat) : Bool := code < 0xD800 || (0xDFFF < code && code < 0x110000)

def plainStep (quotation : Quotation) (text : List Char) (offset : Nat) (c : Char) : Outcome :=
  if c == '\n' then
    if quotation.multiline then .more .plain (c :: text) else .failed offset .newlineInText
  else if c == quotation.mark then
    if quotation.multiline then .more (.quotes 1) text else .ended text
  else if quotation.double && c == '\\' then .more .escape text
  else if isAllowed c then .more .plain (c :: text)
  else .failed offset (.controlInText c)

def escapeStep (quotation : Quotation) (text : List Char) (offset : Nat) (c : Char) : Outcome :=
  match shortEscape? c with
  | some escaped => .more .plain (escaped :: text)
  | none =>
    if c == 'u' then .more (.codePoint offset 4 0) text
    else if c == 'U' then .more (.codePoint offset 8 0) text
    else if quotation.multiline && c == '\n' then .more .swallow text
    else if quotation.multiline && (c == ' ' || c == '\t') then .more (.lineEnd offset c) text
    else .failed offset (.badEscape c)

def codePointStep (text : List Char) (letter missing value offset : Nat) (c : Char) : Outcome :=
  match hexValue? c with
  | none => .failed offset (.badHexDigit c)
  | some digit =>
    let value := 16 * value + digit
    if 1 < missing then .more (.codePoint letter (missing - 1) value) text
    else if isCodePoint value then .more .plain (Char.ofNat value :: text)
    else .failed letter (.badCodePoint value)

/-- Up to two quotes more than three belong to the text. -/
def quotesStep (quotation : Quotation) (text : List Char) (count offset : Nat) (c : Char) :
    Outcome :=
  if c == quotation.mark && count < 5 then .more (.quotes (count + 1)) text
  else if count < 3 then
    quotation.plainStep (List.replicate count quotation.mark ++ text) offset c
  else .endedBefore (List.replicate (count - 3) quotation.mark ++ text)

def step (quotation : Quotation) (mode : Mode) (text : List Char) (offset : Nat) (c : Char) :
    Outcome :=
  match mode with
  | .opening =>
    if quotation.multiline && c == '\n' then .more .plain text
    else quotation.plainStep text offset c
  | .plain => quotation.plainStep text offset c
  | .quotes count => quotation.quotesStep text count offset c
  | .escape => quotation.escapeStep text offset c
  | .codePoint letter missing value => codePointStep text letter missing value offset c
  | .lineEnd place blank =>
    if c == ' ' || c == '\t' then .more mode text
    else if c == '\n' then .more .swallow text
    else .failed place (.badEscape blank)
  | .swallow =>
    if c == ' ' || c == '\t' || c == '\n' then .more mode text
    else quotation.plainStep text offset c

/-- Where the input ends, only the closing quotes of a text over several lines can be complete. -/
def atEnd (quotation : Quotation) (mode : Mode) (text : List Char) : Except Fault (List Char) :=
  match mode with
  | .quotes count =>
    if 3 ≤ count then .ok (List.replicate (count - 3) quotation.mark ++ text)
    else .error { problem := .unterminatedText, offset := some quotation.start }
  | _ => .error { problem := .unterminatedText, offset := some quotation.start }

def scan (quotation : Quotation) :
    Mode → List Char → List Placed → Except Fault (List Char × List Placed)
  | mode, text, [] => (quotation.atEnd mode text).map (·, [])
  | mode, text, ⟨offset, c⟩ :: rest =>
    match quotation.step mode text offset c with
    | .more mode text => scan quotation mode text rest
    | .endedBefore text => .ok (text, ⟨offset, c⟩ :: rest)
    | .ended text => .ok (text, rest)
    | .failed offset problem => .error { problem, offset := some offset }

/-- Reads what follows an opening quote: the text, whether it stands between three quotes, and what
follows it. -/
def read (double : Bool) (start : Nat) (rest : List Placed) :
    Except Fault (String × Bool × List Placed) :=
  let single : Quotation := ⟨double, false, start⟩
  let finish (multiline : Bool) (result : Except Fault (List Char × List Placed)) :=
    result.map fun (text, rest) => (String.ofList text.reverse, multiline, rest)
  match rest with
  | ⟨_, a⟩ :: ⟨_, b⟩ :: others =>
    if a == single.mark && b == single.mark then
      finish true (scan { single with multiline := true } .opening [] others)
    else finish false (single.scan .plain [] rest)
  | _ => finish false (single.scan .plain [] rest)

end Quotation

end ReleaseStamp.Toml
