import ReleaseStamp.Decimal.Binary
import ReleaseStamp.Toml.Token

/-!
# Numbers of a document

An integer has a sign, a base and the range of 64 bits. A number with a fraction or an exponent is
the nearest binary number. Underscores may stand between digits, and a decimal has no leading zeros.
-/
namespace ReleaseStamp.Toml.Number

def digit? (base : Nat) (c : Char) : Option Nat :=
  (Quotation.hexValue? c).filter (· < base)

structure Progress where
  /-- No digit so far. -/
  first : Bool := true
  /-- The first digit is a zero. -/
  zero : Bool := false
  /-- The last character is an underscore. -/
  underscore : Bool := false

def finish (start : Nat) (progress : Progress) (rest : List Char) :
    Except Fault (List Char × List Char) :=
  if progress.first || progress.underscore then
    .error { problem := .badNumber, offset := some start }
  else .ok ([], rest)

/-- The digits at the front of a word, underscores left out, and what follows them. The word has
characters of one byte only. -/
def digitsFrom (base : Nat) (zeros : Bool) (start : Nat) :
    Nat → Progress → List Char → Except Fault (List Char × List Char)
  | _, progress, [] => finish start progress []
  | offset, progress, c :: rest =>
    let continueWith (progress : Progress) :=
      digitsFrom base zeros start (offset + 1) progress rest
    if c == '0' && progress.first then
      (continueWith { first := false, zero := true }).map fun (digits, rest) => (c :: digits, rest)
    else if (digit? base c).isSome then
      if !progress.first && progress.zero && !zeros then
        .error { problem := .badNumber, offset := some offset }
      else
        (continueWith { progress with first := false, underscore := false }).map
          fun (digits, rest) => (c :: digits, rest)
    else if c == '_' && progress.first then
      .error { problem := .badNumber, offset := some offset }
    else if c == '_' && !progress.underscore then
      continueWith { progress with first := false, underscore := true }
    else finish start progress (c :: rest)

structure Digits where
  negative : Bool
  digits : List Char
  rest : List Char

def digits (base : Nat) (sign zeros : Bool) (start : Nat) (word : List Char) :
    Except Fault Digits :=
  match word with
  | '-' :: rest =>
    if sign then
      (digitsFrom base zeros start (start + 1) {} rest).map fun (digits, rest) =>
        ⟨true, digits, rest⟩
    else
      (digitsFrom base zeros start start {} word).map fun (digits, rest) => ⟨false, digits, rest⟩
  | _ =>
    (digitsFrom base zeros start start {} word).map fun (digits, rest) => ⟨false, digits, rest⟩

def valueOf (base : Nat) (digits : List Char) : Nat :=
  digits.foldl (fun value c => base * value + (digit? base c).getD 0) 0

def signed (negative : Bool) (value : Nat) : Int := if negative then -value else value

def invalid {α : Type} (offset : Nat) : Except Fault α :=
  .error { problem := .badNumber, offset := some offset }

def integer (base start : Nat) (word : List Char) : Except Fault Int := do
  let read ← digits base (base == 10) (base != 10) start word
  let value := signed read.negative (valueOf base read.digits)
  if !read.rest.isEmpty || value < -Int.pow 2 63 || Int.pow 2 63 ≤ value then invalid start
  else return value

def isExponentMark (c : Char) : Bool := c == 'e' || c == 'E'

/-- The exponent behind a number's digits, which end at a place. If its mark ends the word, it
follows as a word of its own, after a plus or not. -/
def exponent (start : Nat) (suffix : List Char) (offset : Nat) : Reader Int := do
  match suffix with
  | [] => return 0
  | mark :: rest =>
    if !isExponentMark mark then invalid start
    else
      let read ←
        if rest.isEmpty then
          let _ ← Reader.eat .plus
          let offset ← Reader.offset
          match ← Reader.next with
          | some (.word word) => digits 10 false true offset word
          | _ => invalid start
        else digits 10 true true (offset + 1) rest
      if !read.rest.isEmpty then invalid start
      else return signed read.negative (valueOf 10 read.digits)

def float (start : Nat) (word : List Char) (fraction : Option (Nat × List Char)) :
    Reader Decimal.Binary := do
  let whole ← digits 10 true false start word
  let (places, suffix, offset) ←
    match fraction with
    | none => pure ([], whole.rest, start + (word.length - whole.rest.length))
    | some (offset, after) =>
      if !whole.rest.isEmpty then invalid start
      else
        let read ← digits 10 false true offset after
        pure (read.digits, read.rest, offset + (after.length - read.rest.length))
  let power ← exponent start suffix offset
  let value := Decimal.Binary.ofDecimal whole.negative (valueOf 10 (whole.digits ++ places))
    (power - places.length)
  match value with
  | .finite .. => return value
  | _ => invalid start

end ReleaseStamp.Toml.Number
