import ReleaseStamp.Domain.Mapping.Runs
import ReleaseStamp.Domain.Mapping.Letters
import ReleaseStamp.Domain.Mapping.Symbols
import ReleaseStamp.Domain.Mapping.Forms
import ReleaseStamp.Domain.Mapping.Ideographs
import ReleaseStamp.Text.Quoted

/-!
# The mapping of names

Before two names are compared, each character is mapped: capital letters to small ones, special
shapes to plain ones, and what is not seen to nothing. Characters that no name may hold have no
image.
-/
namespace ReleaseStamp.Domain

def ignoredRanges : List (Nat × Nat) :=
  [(0xAD, 0xAD), (0x34F, 0x34F), (0x115F, 0x1160), (0x17B4, 0x17B5), (0x180B, 0x180F),
    (0x200B, 0x200B), (0x2060, 0x2064), (0x206A, 0x206F), (0x3164, 0x3164), (0xFE00, 0xFE0F),
    (0xFEFF, 0xFEFF), (0xFFA0, 0xFFA0), (0x1BCA0, 0x1BCA3), (0x1D173, 0x1D17A), (0xE0100, 0xE01EF)]

/-- The runs of printable characters that no name may hold: those that look like several points, or
a number with its point, and those that describe other characters or replace them. -/
def barredRanges : List (Nat × Nat) :=
  [(0x2024, 0x2026), (0x2488, 0x249B), (0x2FF0, 0x2FFF), (0x31EF, 0x31EF), (0x33C2, 0x33C2),
    (0x33C7, 0x33C7), (0x33D8, 0x33D8), (0xFE12, 0xFE12), (0xFE19, 0xFE19), (0xFE30, 0xFE30),
    (0xFE52, 0xFE52), (0xFFFC, 0xFFFD), (0x1F100, 0x1F100)]

namespace Mapping

/-- The image of a code point in a table of successive images. -/
def inTable? {α : Type} (table : List (Nat × List α)) (code : Nat) : Option α :=
  table.findSome? fun (first, images) => if first ≤ code then images[code - first]? else none

def image? (code : Nat) : Option (List Nat) :=
  let one (image : Nat) := [image]
  ((runs.findSome? (·.image? code)).map one).orElse fun _ =>
  ((inTable? ideographs code).map one).orElse fun _ =>
  ((inTable? laterIdeographs code).map one).orElse fun _ =>
  [letters, laterLetters, symbols, squares, forms, supplementary].findSome? (inTable? · code)

end Mapping

def isJoiner (c : Char) : Bool := c.toNat == 0x200C || c.toNat == 0x200D

/-- What a character becomes in a name; none if no name may hold it. Characters of ASCII are judged
later. -/
def mapChar? (c : Char) : Option (List Char) :=
  if c.toNat < 128 then some [c.toLower]
  else if Text.inRanges ignoredRanges c.toNat then some []
  else match Mapping.image? c.toNat with
    | some codes => some (codes.map Char.ofNat)
    | none =>
      if isJoiner c || (Text.isPrintable c && !Text.inRanges barredRanges c.toNat) then some [c]
      else none

def mapText? (text : List Char) : Option (List Char) := (text.mapM mapChar?).map List.flatten

def isStable (c : Char) : Bool := mapChar? c == some [c]

end ReleaseStamp.Domain
