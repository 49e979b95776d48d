/-!
# White space

The characters with Unicode's `White_Space` property, and what is defined by them: trimming a text
at both ends and its first word. Blanks, the space and the tab, are the white space of one line.
-/
namespace ReleaseStamp.Text

/-- The runs of characters with the `White_Space` property, first and last code point. -/
def spaceRanges : List (Nat × Nat) :=
  [(0x9, 0xD), (0x20, 0x20), (0x85, 0x85), (0xA0, 0xA0), (0x1680, 0x1680), (0x2000, 0x200A),
    (0x2028, 0x2029), (0x202F, 0x202F), (0x205F, 0x205F), (0x3000, 0x3000)]

def inRanges (ranges : List (Nat × Nat)) (code : Nat) : Bool :=
  ranges.any fun range => range.1 ≤ code && code ≤ range.2

def isSpace (c : Char) : Bool := inRanges spaceRanges c.toNat

def isBlank (c : Char) : Bool := c == ' ' || c == '\t'

def trimBy (p : Char → Bool) (text : List Char) : List Char :=
  ((text.dropWhile p).reverse.dropWhile p).reverse

def trim (text : List Char) : List Char := trimBy isSpace text

def dropTrailing (c : Char) (text : List Char) : List Char :=
  (text.reverse.dropWhile (· == c)).reverse

def firstWord (text : List Char) : List Char :=
  (text.dropWhile isSpace).takeWhile (!isSpace ·)

theorem length_dropWhile_le (p : Char → Bool) (text : List Char) :
    (text.dropWhile p).length ≤ text.length := by
  induction text with
  | nil => simp
  | cons c rest ih =>
    rw [List.dropWhile_cons]
    split
    · exact Nat.le_succ_of_le ih
    · exact Nat.le_refl _

end ReleaseStamp.Text
