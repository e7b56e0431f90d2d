set_option autoImplicit false

/-! # Reading whole numbers

Decimal digits, with an optional plus sign, below a bound. The digits are taken from left to right
and the first fault met is the one reported, so a numeral that grows too large before a bad
character is too large.
-/

namespace TokenBridge.Numeral

inductive Fault
  | empty
  | invalidDigit
  | tooLarge
  deriving DecidableEq, Repr

def Fault.message : Fault → String
  | empty => "cannot parse integer from empty string"
  | invalidDigit => "invalid digit found in string"
  | tooLarge => "number too large to fit in target type"

def digit? (c : Char) : Option Nat := if c.isDigit then some (c.toNat - 48) else none

/-- Reads digits onto the number `acc` read so far. -/
def readDigits (bound acc : Nat) : List Char → Except Fault Nat
  | [] => .ok acc
  | c :: rest =>
      match digit? c with
      | none => .error .invalidDigit
      | some d =>
          let acc := acc * 10 + d
          if acc < bound then readDigits bound acc rest else .error .tooLarge

/-- The number below `bound` that a text spells. -/
def read (bound : Nat) (s : String) : Except Fault Nat :=
  match s.toList with
  | [] => .error .empty
  | ['+'] => .error .invalidDigit
  | '+' :: digits => readDigits bound 0 digits
  | digits => readDigits bound 0 digits

/-- The 64-bit number that a text spells. -/
def readUInt64 (s : String) : Except Fault UInt64 := (read (Nat.pow 2 64) s).map UInt64.ofNat

end TokenBridge.Numeral
