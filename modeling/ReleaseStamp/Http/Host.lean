import ReleaseStamp.Domain.Name
import ReleaseStamp.Http.Percent
import ReleaseStamp.Text.Utf8

/-!
# Hosts

A host is written in one way: names in ASCII, and addresses of either family as numbers.
-/
namespace ReleaseStamp.Http.Host

open ReleaseStamp.Text (splitBy)

def digitValue? (base : Nat) (c : Char) : Option Nat :=
  let value :=
    if c.isDigit then c.toNat - 48
    else if 'a' ≤ c && c ≤ 'f' then c.toNat - 87
    else if 'A' ≤ c && c ≤ 'F' then c.toNat - 55
    else base
  if value < base then some value else none

def number? (base : Nat) (text : List Char) : Option Nat :=
  text.foldl (fun total c => do return base * (← total) + (← digitValue? base c)) (some 0)

def part? : List Char → Option Nat
  | [] => none
  | '0' :: 'x' :: rest | '0' :: 'X' :: rest => number? 16 rest
  | '0' :: c :: rest => number? 8 (c :: rest)
  | text => number? 10 text

def labels (name : List Char) : List (List Char) :=
  let parts := splitBy (· == '.') name
  if 1 < parts.length && parts.getLast? == some [] then parts.dropLast else parts

def endsInNumber (name : List Char) : Bool :=
  match (labels name).getLast? with
  | none => false
  | some label => (!label.isEmpty && label.all Char.isDigit) || (part? label).isSome

/-- An address of four bytes from one to four parts, of which the last fills what is left. -/
def address? (name : List Char) : Option Nat := do
  let parts ← (labels name).mapM part?
  let last ← parts.getLast?
  let lead := parts.dropLast
  if 3 < lead.length || lead.any (255 < ·) || Nat.pow 256 (4 - lead.length) ≤ last then none
  else some (lead.foldl (fun total n => 256 * total + n) 0 * Nat.pow 256 (4 - lead.length) + last)

def addressText (address : Nat) : String :=
  ".".intercalate ([16777216, 65536, 256, 1].map fun weight => toString (address / weight % 256))

def group? (part : List Char) : Option Nat :=
  if part.isEmpty || 4 < part.length then none else number? 16 part

def byte? (part : List Char) : Option Nat :=
  match part with
  | [] | '0' :: _ :: _ => none
  | _ => (number? 10 part).filter (· ≤ 255)

def tail? (part : List Char) : Option (List Nat) := do
  match ← (splitBy (· == '.') part).mapM byte? with
  | [a, b, c, d] => return [256 * a + b, 256 * c + d]
  | _ => none

/-- The groups on one side of the gap. Only the last part of an address may be an address of four
bytes. -/
def groups? (isEnd : Bool) (text : List Char) : Option (List Nat) :=
  if text.isEmpty then some []
  else
    let parts := splitBy (· == ':') text
    match parts.getLast? with
    | none => none
    | some last => do
      let lead ← parts.dropLast.mapM group?
      if isEnd && last.contains '.' then return lead ++ (← tail? last)
      else return lead ++ [← group? last]

def splitGap? : List Char → Option (List Char × List Char)
  | ':' :: ':' :: rest => some ([], rest)
  | c :: rest => (splitGap? rest).map fun (before, after) => (c :: before, after)
  | [] => none

def longAddress? (text : List Char) : Option (List Nat) := do
  match splitGap? text with
  | some (before, after) =>
    let before ← groups? false before
    let after ← groups? true after
    if 7 < before.length + after.length then none
    else some (before ++ List.replicate (8 - before.length - after.length) 0 ++ after)
  | none =>
    let groups ← groups? true text
    if groups.length = 8 then some groups else none

def longestZeros (groups : List Nat) : Nat × Nat :=
  (List.range groups.length).foldl (fun best start =>
    let length := ((groups.drop start).takeWhile (· == 0)).length
    if best.2 < length then (start, length) else best) (0, 0)

def longAddressText (groups : List Nat) : String :=
  let hex (groups : List Nat) := ":".intercalate (groups.map fun n =>
    String.ofList (Nat.toDigits 16 n))
  let (start, length) := longestZeros groups
  if length < 2 then hex groups
  else hex (groups.take start) ++ "::" ++ hex (groups.drop (start + length))

def bracketed? (rest : List Char) : Option String :=
  if rest.getLast? == some ']' then
    (longAddress? rest.dropLast).map fun groups => "[" ++ longAddressText groups ++ "]"
  else none

def parse? (text : List Char) : Option String :=
  match text with
  | '[' :: rest => bracketed? rest
  | _ => do
    let decoded := Text.decodeUtf8 none (Percent.decode (String.ofList text).toUTF8.toList)
    let name ← Domain.toAscii? decoded
    if name.isEmpty then none
    else if endsInNumber name then (address? name).map addressText
    else some (String.ofList name)

def isReserved (c : Char) : Bool := c.toNat == 0 || "\t\n\r #/:<>?@[\\]^|".contains c

def parseOther? (text : List Char) : Option String :=
  match text with
  | '[' :: rest => bracketed? rest
  | _ =>
    if text.any isReserved then none
    else some (String.ofList (Percent.encode Percent.inControl text))

end ReleaseStamp.Http.Host
