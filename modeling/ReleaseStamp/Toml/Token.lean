import ReleaseStamp.Text.Space
import ReleaseStamp.Toml.Quotation

/-!
# Tokens of a document

The tokens are read one at a time, so that a fault in the text counts only once the reading gets to
it.
-/
namespace ReleaseStamp.Toml

inductive Token where
  | blanks (text : List Char)
  | newline
  | comment
  | equals
  | period
  | comma
  | colon
  | plus
  | leftBrace
  | rightBrace
  | leftBracket
  | rightBracket
  /-- Letters, digits, underscores and hyphens. -/
  | word (text : List Char)
  | text (value : String) (multiline : Bool)
deriving DecidableEq, Repr, Inhabited

namespace Token

def description : Token → String
  | blanks _ => "whitespace"
  | newline => "a newline"
  | comment => "a comment"
  | equals => "an equals"
  | period => "a period"
  | comma => "a comma"
  | colon => "a colon"
  | plus => "a plus"
  | leftBrace => "a left brace"
  | rightBrace => "a right brace"
  | leftBracket => "a left bracket"
  | rightBracket => "a right bracket"
  | word _ => "an identifier"
  | text _ true => "a multiline string"
  | text _ false => "a string"

def endDescription : String := "eof"

def single? (c : Char) : Option Token :=
  [('\n', newline), ('=', equals), ('.', period), (',', comma), (':', colon), ('+', plus),
    ('\x7b', leftBrace), ('\x7d', rightBrace), ('[', leftBracket), (']', rightBracket)].lookup c

def isWordChar (c : Char) : Bool := c.isAlphanum || c == '_' || c == '-'

def isCommentChar (c : Char) : Bool := c == '\t' || 0x20 ≤ c.toNat

def spanOf (p : Char → Bool) (rest : List Placed) : List Char × List Placed :=
  ((rest.takeWhile (p ·.char)).map Placed.char, rest.dropWhile (p ·.char))

def split : List Placed → Except Fault (Option (Token × List Placed))
  | [] => .ok none
  | ⟨offset, c⟩ :: rest =>
    match single? c with
    | some token => .ok (some (token, rest))
    | none =>
      if Text.isBlank c then
        let (others, rest) := spanOf Text.isBlank rest
        .ok (some (blanks (c :: others), rest))
      else if c == '#' then .ok (some (comment, rest.dropWhile (isCommentChar ·.char)))
      else if c == '"' || c == '\'' then
        (Quotation.read (c == '"') offset rest).map fun (value, multiline, rest) =>
          some (text value multiline, rest)
      else if isWordChar c then
        let (others, rest) := spanOf isWordChar rest
        .ok (some (word (c :: others), rest))
      else .error { problem := .unexpected c, offset := some offset }

end Token

namespace Reader

def peek : Reader (Option Token) := do
  return (← Token.split (← get).rest).map (·.1)

def next : Reader (Option Token) := do
  let cursor ← get
  match ← Token.split cursor.rest with
  | none => return none
  | some (token, rest) =>
    set { cursor with rest }
    return some token

def eat (token : Token) : Reader Bool := do
  let cursor ← get
  match ← Token.split cursor.rest with
  | none => return false
  | some (found, rest) =>
    if found = token then
      set { cursor with rest }
      return true
    else return false

def refuse {α : Type} (offset : Nat) (expected : String) (found : Option Token) : Reader α :=
  fail offset (.wanted expected ((found.map Token.description).getD Token.endDescription))

def expect (token : Token) : Reader Unit := do
  let offset ← offset
  let found ← next
  unless found = some token do refuse offset token.description found

def skipBlanks : Reader Unit :=
  modify fun cursor => { cursor with rest := cursor.rest.dropWhile (Text.isBlank ·.char) }

def endLine : Reader Unit := do
  let offset ← offset
  match ← next with
  | none | some .newline => return
  | found => refuse offset "newline" found

def eatComment : Reader Bool := do
  let isNext ← eat .comment
  if isNext then endLine
  return isNext

def key : Reader String := do
  let offset ← offset
  match ← next with
  | some (.word text) => return String.ofList text
  | some (.text value false) => return value
  | some (.text _ true) => fail offset .multilineKey
  | found => refuse offset "a table key" found

def keyParts : Nat → Reader (List String)
  | 0 => return []
  | count + 1 => do
    skipBlanks
    if ← eat .period then
      skipBlanks
      let part ← key
      return part :: (← keyParts count)
    else return []

def dottedKey (count : Nat) : Reader (List String) := do
  let first ← key
  return first :: (← keyParts count)

end Reader

end ReleaseStamp.Toml
