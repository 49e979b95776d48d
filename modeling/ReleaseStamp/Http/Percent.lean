/-!
# Percent encoding

A byte is written as a percent sign and two hexadecimal digits. Which characters must be written so
depends on the part of the address they stand in; characters beyond ASCII always are.
-/
namespace ReleaseStamp.Http.Percent

def upperHex (n : Nat) : Char := if n < 10 then Char.ofNat (48 + n) else Char.ofNat (55 + n)

def encodeByte (byte : UInt8) : List Char :=
  ['%', upperHex (byte.toNat / 16), upperHex (byte.toNat % 16)]

def inControl (c : Char) : Bool := c.toNat ≤ 0x1F || 0x7E < c.toNat

def inFragment (c : Char) : Bool := inControl c || " \"<>`".contains c

def inQuery (c : Char) : Bool := inControl c || " \"#<>".contains c

def inSpecialQuery (c : Char) : Bool := inQuery c || c.toNat == 0x27

def inPath (c : Char) : Bool := inFragment c || "#?\x7b\x7d".contains c

def inUser (c : Char) : Bool := inPath c || "/:;=@[\\]^|".contains c

def encode (escapes : Char → Bool) (text : List Char) : List Char :=
  text.flatMap fun c =>
    if escapes c then c.toString.toUTF8.toList.flatMap encodeByte else [c]

def hexValue? (byte : UInt8) : Option Nat :=
  let n := byte.toNat
  if 48 ≤ n && n ≤ 57 then some (n - 48)
  else if 65 ≤ n && n ≤ 70 then some (n - 55)
  else if 97 ≤ n && n ≤ 102 then some (n - 87)
  else none

/-- The bytes that a text stands for; a percent sign without two digits stands for itself. -/
def decode : List UInt8 → List UInt8
  | a :: b :: c :: rest =>
    if a == 37 then
      match hexValue? b, hexValue? c with
      | some high, some low => UInt8.ofNat (16 * high + low) :: decode rest
      | _, _ => a :: decode (b :: c :: rest)
    else a :: decode (b :: c :: rest)
  | bytes => bytes

def decodeText? (text : String) : Option String :=
  String.fromUTF8? ⟨(decode text.toUTF8.toList).toArray⟩

end ReleaseStamp.Http.Percent
