set_option autoImplicit false

/-! # Labels in letters, digits and hyphens

A label with other characters is written with those of ASCII that it holds, a hyphen, and then, in
order of their numbers, where each of the other characters goes. These numbers are written in digits
of the base 36, of which the last one of a number is told from the others by its size.
-/

namespace TokenBridge.Url.Punycode

/-! ## Digits -/

/-- A letter stands for 0 to 25, a decimal digit for the rest. -/
def digit (d : Nat) : Char := if d < 26 then Char.ofNat (97 + d) else Char.ofNat (22 + d)

def value? (c : Char) : Option Nat :=
  if 'a' ≤ c ∧ c ≤ 'z' then some (c.toNat - 97)
  else if 'A' ≤ c ∧ c ≤ 'Z' then some (c.toNat - 65)
  else if '0' ≤ c ∧ c ≤ '9' then some (c.toNat - 22)
  else none

theorem value?_digit {d : Nat} (h : d < 36) : value? (digit d) = some d := by
  have all : ∀ e ∈ List.range 36, value? (digit e) = some e := by decide
  exact all d (List.mem_range.mpr h)

/-- A digit below this is the last one of its number; `place` is 36 for the first digit, 72 for the
second, and so on. -/
def threshold (place bias : Nat) : Nat :=
  if place ≤ bias then 1 else if bias + 26 ≤ place then 26 else place - bias

theorem threshold_pos (place bias : Nat) : 1 ≤ threshold place bias := by
  unfold threshold; split
  · omega
  · split <;> omega

theorem threshold_le (place bias : Nat) : threshold place bias ≤ 26 := by
  unfold threshold; split
  · omega
  · split <;> omega

/-- Divides by 35 while the number is large, and counts 36 for each time. -/
def shrink (delta place : Nat) : Nat × Nat :=
  if 455 < delta then shrink (delta / 35) (place + 36) else (delta, place)
  termination_by delta
  decreasing_by omega

/-- The bias for the next number, from the last one and how many characters there are. -/
def adapt (delta count : Nat) (isFirst : Bool) : Nat :=
  let delta := if isFirst then delta / 700 else delta / 2
  let (delta, place) := shrink (delta + delta / count) 0
  place + 36 * delta / (delta + 38)

/-! ## Reading -/

/-- What has been read of a label: its characters, the number of the last one that was put in and
the place behind it, and the digits of a number that has not ended. -/
structure State where
  chars : List Char
  code : Nat
  place : Nat
  bias : Nat
  isFirst : Bool
  sum : Nat
  weight : Nat
  digitPlace : Nat

/-- Puts in the character that a number tells of. -/
def State.put (s : State) (sum : Nat) : Option State :=
  let count := s.chars.length + 1
  let code := s.code + (s.place + sum) / count
  let place := (s.place + sum) % count
  if code < 0xD800 ∨ (0xDFFF < code ∧ code < 0x110000) then
    some {
      chars := s.chars.insertIdx place (Char.ofNat code)
      code := code
      place := place + 1
      bias := adapt sum count s.isFirst
      isFirst := false
      sum := 0
      weight := 1
      digitPlace := 36 }
  else none

/-- Reads one digit. -/
def State.next (s : State) (c : Char) : Option State := do
  let d ← value? c
  let sum := s.sum + d * s.weight
  let t := threshold s.digitPlace s.bias
  if d < t then s.put sum
  else some { s with sum := sum, weight := s.weight * (36 - t), digitPlace := s.digitPlace + 36 }

/-- What stands before the last hyphen, and what after it. A hyphen at the start does not count. -/
def splitLast (cs : List Char) : List Char × List Char :=
  let after := (cs.reverse.takeWhile (· ≠ '-')).reverse
  let before := cs.take (cs.length - after.length - 1)
  if before.isEmpty then ([], cs) else (before, after)

/-- The label that is written so, if one is. -/
def decode (cs : List Char) : Option (List Char) := do
  let (plain, digits) := splitLast cs
  guard (plain.all (·.toNat < 128))
  let s ← digits.foldlM State.next ⟨plain, 128, 0, 72, true, 0, 1, 36⟩
  guard (s.digitPlace = 36)
  return s.chars

/-! ## Writing -/

/-- The digits of a number from a place on. -/
def encodeNumber (bias place n : Nat) : List Char :=
  let t := threshold place bias
  if n < t then [digit n]
  else digit (t + (n - t) % (36 - t)) :: encodeNumber bias (place + 36) ((n - t) / (36 - t))
  termination_by n
  decreasing_by
    have := threshold_pos place bias
    have := Nat.div_le_self (n - threshold place bias) (36 - threshold place bias)
    omega

/-- What has been written of a label: the digits, the number for the next character, and how many
characters have been put in. -/
structure Draft where
  digits : List Char
  delta : Nat
  bias : Nat
  count : Nat

/-- Passes by a character of the label while those with a number are put in. -/
def Draft.pass (plainCount code : Nat) (d : Draft) (c : Char) : Draft :=
  if c.toNat < code then { d with delta := d.delta + 1 }
  else if c.toNat = code then {
    digits := d.digits ++ encodeNumber d.bias 36 d.delta
    delta := 0
    bias := adapt d.delta (d.count + 1) (d.count == plainCount)
    count := d.count + 1 }
  else d

/-- Puts in the characters with the numbers in a list; all up to the one before `code` have been put
in. -/
def encodeFrom (label : List Char) (plainCount code : Nat) : List Nat → Draft → Draft
  | [], d => d
  | next :: rest, d =>
      let d := { d with delta := d.delta + (next - code) * (d.count + 1) }
      let d := label.foldl (Draft.pass plainCount next) d
      encodeFrom label plainCount (next + 1) rest { d with delta := d.delta + 1 }

/-- Puts a number into a list in order, unless it is there. -/
def insertCode (n : Nat) : List Nat → List Nat
  | [] => [n]
  | m :: rest =>
      if n < m then n :: m :: rest else if n = m then m :: rest else m :: insertCode n rest

/-- The way a label is written. -/
def encode (label : List Char) : List Char :=
  let plain := label.filter (·.toNat < 128)
  let codes := ((label.map Char.toNat).filter (128 ≤ ·)).foldr insertCode []
  let start := if plain.isEmpty then [] else plain ++ ['-']
  start ++ (encodeFrom label plain.length 128 codes ⟨[], 0, 72, plain.length⟩).digits

end TokenBridge.Url.Punycode
