set_option autoImplicit false

/-! # Literals

Whole numbers with a mark for their base: `0x` for sixteen, `0o` for eight, `0b` for two, and none
for ten. Letters and marks may be of either case, underscores may stand anywhere after the mark, and
a literal without digits is zero.
-/

namespace TokenBridge.Literal

/-- The value of a digit, letters counting on from ten. -/
def digit? (c : Char) : Option Nat :=
  if c.isDigit then some (c.toNat - 48)
  else if c.isLower then some (c.toNat - 87)
  else if c.isUpper then some (c.toNat - 55)
  else none

/-- Reads digits onto the number `acc`. -/
def readDigits (base acc : Nat) : List Char → Option Nat
  | [] => some acc
  | c :: rest =>
      if c = '_' then readDigits base acc rest
      else
        match digit? c with
        | some d => if d < base then readDigits base (acc * base + d) rest else none
        | none => none

/-- The number that a literal spells. -/
def read (s : String) : Option Nat :=
  match s.toList with
  | '0' :: mark :: rest =>
      match mark.toLower with
      | 'x' => readDigits 16 0 rest
      | 'o' => readDigits 8 0 rest
      | 'b' => readDigits 2 0 rest
      | _ => readDigits 10 0 (mark :: rest)
  | digits => readDigits 10 0 digits

end TokenBridge.Literal
