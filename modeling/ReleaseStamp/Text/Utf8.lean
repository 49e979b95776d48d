/-!
# Bytes as text

What is no valid sequence of UTF-8 becomes the replacement character, one for each longest part that
could have begun a sequence.
-/
namespace ReleaseStamp.Text

def replacement : Char := Char.ofNat 0xFFFD

/-- The lead byte's number of following bytes, with the range of the first of them. -/
def leadRange? (lead : Nat) : Option (Nat × Nat × Nat) :=
  if 0xC2 ≤ lead && lead ≤ 0xDF then some (1, 0x80, 0xBF)
  else if lead == 0xE0 then some (2, 0xA0, 0xBF)
  else if lead == 0xED then some (2, 0x80, 0x9F)
  else if 0xE1 ≤ lead && lead ≤ 0xEF then some (2, 0x80, 0xBF)
  else if lead == 0xF0 then some (3, 0x90, 0xBF)
  else if 0xF1 ≤ lead && lead ≤ 0xF3 then some (3, 0x80, 0xBF)
  else if lead == 0xF4 then some (3, 0x80, 0x8F)
  else none

structure Begun where
  /-- How many bytes are still to come. -/
  missing : Nat
  low : Nat
  high : Nat
  value : Nat

def startUtf8 (byte : Nat) : List Char × Option Begun :=
  if byte < 0x80 then ([Char.ofNat byte], none)
  else match leadRange? byte with
    | some (missing, low, high) =>
      ([], some ⟨missing, low, high, byte % Nat.pow 2 (6 - missing)⟩)
    | none => ([replacement], none)

def decodeUtf8 : Option Begun → List UInt8 → List Char
  | none, [] => []
  | some _, [] => [replacement]
  | none, byte :: rest =>
    let (chars, begun) := startUtf8 byte.toNat
    chars ++ decodeUtf8 begun rest
  | some begun, byte :: rest =>
    if begun.low ≤ byte.toNat && byte.toNat ≤ begun.high then
      let value := 64 * begun.value + byte.toNat % 64
      if begun.missing ≤ 1 then Char.ofNat value :: decodeUtf8 none rest
      else decodeUtf8 (some ⟨begun.missing - 1, 0x80, 0xBF, value⟩) rest
    else
      let (chars, begun) := startUtf8 byte.toNat
      replacement :: chars ++ decodeUtf8 begun rest

end ReleaseStamp.Text
