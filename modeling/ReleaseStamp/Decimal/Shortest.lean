import ReleaseStamp.Decimal.Binary

/-!
# Shortest decimal texts

A finite number is written with the fewest digits that stand for it and for no other number, and of
those with the nearest, the greater one of two that are equally near. The point is always written,
with a digit on both sides, and there is no exponent.
-/
namespace ReleaseStamp.Decimal

/-- A decimal numeral `digits * 10 ^ power` that stands for `significand * 2 ^ exponent`, if the
power of ten has one: the neighbour on its grid that is nearer, the upper one if neither is. All is
measured in quarters of the significand's unit. -/
def onGrid? (significand : Nat) (exponent : Int) (power : Int) : Option Nat :=
  let up := Nat.pow 2 (exponent - 2).toNat * Nat.pow 10 (-power).toNat
  let down := Nat.pow 2 (2 - exponent).toNat * Nat.pow 10 power.toNat
  let isLow := significand == Nat.pow 2 52 && leastExponent < exponent
  let low := (4 * significand - if isLow then 1 else 2) * up
  let high := (4 * significand + 2) * up
  let value := 4 * significand * up
  let inside (digits : Nat) : Bool :=
    let point := digits * down
    if significand % 2 == 0 then low ≤ point && point ≤ high else low < point && point < high
  let below := value / down
  let above := below + 1
  match inside below, inside above with
  | true, true => some (if 2 * (value % down) < down then below else above)
  | true, false => some below
  | false, true => some above
  | false, false => none

def powers : List Int := (List.range 640).map fun (n : Nat) => 310 - (n : Int)

def shortest (significand : Nat) (exponent : Int) : Nat × Int :=
  (powers.findSome? fun power => (onGrid? significand exponent power).map (·, power)).getD (0, 0)

def pointText (digits : Nat) (power : Int) : String :=
  let text := Nat.toDigits 10 digits
  String.ofList <|
    if 0 ≤ power then text ++ List.replicate power.toNat '0' ++ ['.', '0']
    else
      let places := (-power).toNat
      let padded := List.replicate (places + 1 - text.length) '0' ++ text
      padded.take (padded.length - places) ++ '.' :: padded.drop (padded.length - places)

def signText (negative : Bool) : String := if negative then "-" else ""

def Binary.text : Binary → String
  | finite negative significand exponent =>
    let (digits, power) := if significand = 0 then (0, 0) else shortest significand exponent
    signText negative ++ pointText digits power
  | infinite negative => signText negative ++ "inf"
  | notNumber => "NaN"

end ReleaseStamp.Decimal
