import ReleaseStamp.Domain.Direction
import ReleaseStamp.Domain.Joining
import ReleaseStamp.Domain.Mapping
import ReleaseStamp.Domain.Punycode
import ReleaseStamp.Text.Split

/-!
# Domain names

A name is compared and asked for in ASCII. Its characters are mapped and brought into normal form;
the labels between its points are checked, and those with characters beyond ASCII are written in
Punycode behind a mark. Labels that are written so already are read and checked in the same way.
-/
namespace ReleaseStamp.Domain

def isForbidden (c : Char) : Bool :=
  c.toNat ≤ 0x20 || c.toNat == 0x7F || "#/:<>?@[\\]^|%".contains c

def isAscii (c : Char) : Bool := c.toNat < 128

def longestLabel : Nat := 1000

def longestCode : Nat := 2000

def isLabel (label : List Char) : Bool :=
  !label.head?.any Text.isMark && joinersFit [] label
    && (label.all isAscii || label.length ≤ longestLabel)

def code? : List Char → Option (List Char)
  | 'x' :: 'n' :: '-' :: '-' :: code => some code
  | _ => none

/-- The label that Punycode stands for. It must be one that was not changed when it was written. -/
def labelOfCode? (code : List Char) : Option (List Char) := do
  if code.getLast?.all (· == '-') || !code.all isAscii || longestCode < code.length then none
  let label ← Punycode.decode? code
  if label.all (fun c => isStable c && !isForbidden c) && Text.normal label == label then some label
  else none

def label? (text : List Char) : Option (List Char) := do
  let label ← match code? text with
    | some code => labelOfCode? code
    | none => some text
  if isLabel label then some label else none

def asciiLabel (label : List Char) : List Char :=
  if label.all isAscii then label else 'x' :: 'n' :: '-' :: '-' :: Punycode.encode label

def labels? (name : List Char) : Option (List (List Char)) := do
  let mapped ← mapText? name
  let name := Text.normal mapped
  if name.any isForbidden then none
  let labels ← (Text.splitBy (· == '.') name).mapM label?
  if labels.any (·.any turnsName) && !labels.all keepsDirection then none
  return labels

def toAscii? (name : List Char) : Option (List Char) :=
  (labels? name).map fun labels => Text.joinBy '.' (labels.map asciiLabel)

end ReleaseStamp.Domain
