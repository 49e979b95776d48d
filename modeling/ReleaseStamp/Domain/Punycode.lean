/-!
# Punycode

A label with characters beyond ASCII is written with its ASCII characters first, a hyphen, and then
the others in rising order as the distances between them, in digits of base 36.
-/
namespace ReleaseStamp.Domain.Punycode

def digit (n : Nat) : Char := if n < 26 then Char.ofNat (97 + n) else Char.ofNat (22 + n)

def digitValue? (c : Char) : Option Nat :=
  if 'a' ≤ c && c ≤ 'z' then some (c.toNat - 97)
  else if c.isDigit then some (c.toNat - 22)
  else none

def threshold (position bias : Nat) : Nat := min 26 (max 1 (position - bias))

def scaleDown (delta : Nat) : Nat × Nat :=
  if 455 < delta then
    let (left, times) := scaleDown (delta / 35)
    (left, times + 1)
  else (delta, 0)
termination_by delta
decreasing_by omega

def adapt (delta count : Nat) (first : Bool) : Nat :=
  let delta := if first then delta / 700 else delta / 2
  let (left, times) := scaleDown (delta + delta / count)
  36 * times + 36 * left / (left + 38)

def initialBias : Nat := 72

def initialCode : Nat := 128

def digits (position bias delta : Nat) : List Char :=
  let t := threshold position bias
  if delta < t then [digit delta]
  else digit (t + (delta - t) % (36 - t)) :: digits (position + 36) bias ((delta - t) / (36 - t))
termination_by delta
decreasing_by
  have smaller : (delta - threshold position bias) / (36 - threshold position bias)
      ≤ delta - threshold position bias := Nat.div_le_self _ _
  have positive : 1 ≤ threshold position bias := by unfold threshold; omega
  omega

structure Writing where
  written : List Char
  delta : Nat
  bias : Nat
  handled : Nat

def Writing.scan (basic code : Nat) (state : Writing) (c : Char) : Writing :=
  if c.toNat < code then { state with delta := state.delta + 1 }
  else if c.toNat = code then
    { written := state.written ++ digits 36 state.bias state.delta
      delta := 0
      bias := adapt state.delta (state.handled + 1) (state.handled == basic)
      handled := state.handled + 1 }
  else state

/-- One round for each code point of `codes`, which rise from `least` on. -/
def Writing.rounds (label : List Char) (basic : Nat) : List Nat → Nat → Writing → Writing
  | [], _, state => state
  | code :: codes, least, state =>
    let state := { state with delta := state.delta + (code - least) * (state.handled + 1) }
    let state := label.foldl (scan basic code) state
    rounds label basic codes (code + 1) { state with delta := state.delta + 1 }

def encode (label : List Char) : List Char :=
  let basic := label.filter (·.toNat < initialCode)
  let others := (label.filter (initialCode ≤ ·.toNat)).map Char.toNat
  let start : Writing :=
    ⟨if basic.isEmpty then [] else basic ++ ['-'], 0, initialBias, basic.length⟩
  (start.rounds label basic.length (others.mergeSort (· ≤ ·)).eraseReps initialCode).written

/-- What was read so far: the label, the code point and the place of the last character in it, and
of the distance that is being read its value, the weight of its next digit and that digit's
position. -/
structure Reading where
  label : List Char
  code : Nat := initialCode
  place : Nat := 0
  bias : Nat := initialBias
  delta : Nat := 0
  weight : Nat := 1
  position : Nat := 36

def bound : Nat := Nat.pow 2 32

def Reading.insert? (state : Reading) (first : Bool) : Option Reading :=
  let count := state.label.length + 1
  let total := state.place + state.delta
  let code := state.code + total / count
  if code.isValidChar then
    let place := total % count
    some {
      label := state.label.take place ++ Char.ofNat code :: state.label.drop place
      code
      place := place + 1
      bias := adapt state.delta count first }
  else none

def Reading.next? (basic : Nat) (state : Reading) (c : Char) : Option Reading := do
  let value ← digitValue? c
  let state := { state with delta := state.delta + value * state.weight }
  let t := threshold state.position state.bias
  if bound ≤ state.place + state.delta then none
  else if value < t then state.insert? (state.label.length == basic)
  else if bound ≤ state.weight * (36 - t) then none
  else some { state with weight := state.weight * (36 - t), position := state.position + 36 }

def decode? (text : List Char) : Option (List Char) := do
  let distances := (text.reverse.takeWhile (· != '-')).reverse
  let basic := text.take (text.length - distances.length - 1)
  let distances := if basic.isEmpty then text else distances
  let state ← distances.foldlM (Reading.next? basic.length) { label := basic }
  if state.position = 36 then some state.label else none

end ReleaseStamp.Domain.Punycode
