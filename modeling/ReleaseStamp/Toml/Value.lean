import ReleaseStamp.Decimal.Shortest
import ReleaseStamp.Toml.Number

/-!
# Values of a document

A value keeps the place where it starts. Dates are recognised but not read. Dotted keys make tables
of their own, which only dotted keys can add to.
-/
namespace ReleaseStamp.Toml

inductive Value where
  | text (start : Nat) (text : String)
  | integer (start : Nat) (value : Int)
  | float (start : Nat) (value : Decimal.Binary)
  | boolean (start : Nat) (value : Bool)
  | date (start : Nat)
  | array (start : Nat) (elements : List Value)
  | table (start : Nat) (dotted : Bool) (entries : List (String × Value))
deriving Repr, Inhabited

namespace Value

def start : Value → Nat
  | text start _ | integer start _ | float start _ | boolean start _ | date start
  | array start _ | table start _ _ => start

def description : Value → String
  | text _ value => "string " ++ Text.quoted value
  | integer _ value => "integer " ++ Problem.tick (toString value)
  | float _ value => "floating point " ++ Problem.tick value.text
  | boolean _ value => "boolean " ++ Problem.tick (toString value)
  | date _ | table _ _ _ => "map"
  | array _ _ => "sequence"

def replaceFirst (key : String) (value : Value) :
    List (String × Value) → List (String × Value)
  | [] => []
  | (other, old) :: rest =>
    if other = key then (other, value) :: rest else (other, old) :: replaceFirst key value rest

def insert (value : Value) :
    List String → List (String × Value) → Except Fault (List (String × Value))
  | [], entries => .ok entries
  | [key], entries => .ok (entries ++ [(key, value)])
  | key :: rest, entries =>
    match entries.lookup key with
    | some (.table start true inner) => do
      let inner ← insert value rest inner
      return replaceFirst key (.table start true inner) entries
    | some other => .error { problem := .keyThroughValue, offset := some other.start }
    | none => do
      let inner ← insert value rest []
      return entries ++ [(key, .table value.start true inner)]

def hasMinusExponent : List Char → Bool
  | a :: b :: rest => (Number.isExponentMark a && b == '-') || hasMinusExponent (b :: rest)
  | _ => false

def looksLikeDate (word : List Char) : Bool :=
  word.contains 'T' || word.contains 't'
    || ((word.drop 1).contains '-' && !hasMinusExponent word)

end Value

namespace Reader

def dateWord (start : Nat) : Reader Unit := do
  match ← next with
  | some (.word _) => return
  | _ => fail start .badDate

/-- Reads the hour behind a date if a single space is between them. -/
def skipHour : Reader Unit :=
  modify fun cursor =>
    match Token.split cursor.rest with
    | .ok (some (.blanks [' '], rest)) =>
      match Token.split rest with
      | .ok (some (.word _, rest)) => { cursor with rest }
      | _ => cursor
    | _ => cursor

def date (start : Nat) (colon : Bool) : Reader Value := do
  skipHour
  let timed ← if colon then pure true else eat .colon
  if timed then
    dateWord start
    expect .colon
    dateWord start
    if ← eat .period then dateWord start
    if ← eat .plus then dateWord start
    if ← eat .colon then dateWord start
  return .date start

def number (start offset : Nat) (word : List Char) : Reader Value := do
  match word with
  | '0' :: 'x' :: digits => return .integer start (← Number.integer 16 (offset + 2) digits)
  | '0' :: 'o' :: digits => return .integer start (← Number.integer 8 (offset + 2) digits)
  | '0' :: 'b' :: digits => return .integer start (← Number.integer 2 (offset + 2) digits)
  | _ =>
    if word.any Number.isExponentMark then
      return .float start (← Number.float offset word none)
    else if ← eat .period then
      let place ← Reader.offset
      match ← next with
      | some (.word fraction) =>
        return .float place (← Number.float offset word (some (place, fraction)))
      | _ => fail place .badNumber
    else if word = "inf".toList then return .float start (.infinite false)
    else if word = "-inf".toList then return .float start (.infinite true)
    else if word = "nan".toList || word = "-nan".toList then return .float start .notNumber
    else return .integer start (← Number.integer 10 offset word)

def wordValue (start : Nat) (word : List Char) : Reader Value := do
  if word = "true".toList then return .boolean start true
  else if word = "false".toList then return .boolean start false
  else if word = "inf".toList || word = "nan".toList
      || word.head?.any (fun c => c == '-' || c.isDigit) then
    if Value.looksLikeDate word then date start false
    else if ← eat .colon then date start true
    else number start start word
  else fail start .bareWord

def plusValue (start : Nat) : Reader Value := do
  let place ← Reader.offset
  match ← next with
  | some (.word word) => number start place word
  | _ => fail place .badNumber

def skipLines : Nat → Reader Unit
  | 0 => return
  | count + 1 => do
    skipBlanks
    if ← eat .newline then skipLines count
    else if ← eatComment then skipLines count

mutual

/-- Reads a value; `count` bounds the steps, of which there are at most two for each character. -/
def value : Nat → Reader Value
  | 0 => do fail (← Reader.offset) .endOfInput
  | count + 1 => do
    let start ← Reader.offset
    match ← next with
    | some (.text text _) => return .text start text
    | some (.word word) => wordValue start word
    | some .plus => plusValue start
    | some .leftBrace =>
      skipBlanks
      if ← eat .rightBrace then return .table start false []
      else return .table start false (← inlineEntries count [])
    | some .leftBracket => return .array start (← elements count)
    | none => fail start .endOfInput
    | found => refuse start "a value" found

def elements : Nat → Reader (List Value)
  | 0 => return []
  | count + 1 => do
    skipLines count
    if ← eat .rightBracket then return []
    else
      let first ← value count
      skipLines count
      if ← eat .comma then return first :: (← elements count)
      else
        expect .rightBracket
        return [first]

def inlineEntries : Nat → List (String × Value) → Reader (List (String × Value))
  | 0, done => return done
  | count + 1, done => do
    let key ← dottedKey count
    skipBlanks
    expect .equals
    skipBlanks
    let entry ← value count
    let done ← Value.insert entry key done
    skipBlanks
    if ← eat .rightBrace then return done
    else
      expect .comma
      skipBlanks
      inlineEntries count done

end

end Reader

end ReleaseStamp.Toml
