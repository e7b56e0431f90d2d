import TokenBridge.Text.Quoted
import TokenBridge.Text.Utf8

set_option autoImplicit false

/-! # Hexadecimal text

Bytes are written as two lower-case digits each. Reading accepts both cases, wants an even number
of digits, and names the first byte of the text that is not a digit.
-/

namespace TokenBridge.Hex

/-! ## Writing -/

def digit (n : Nat) : Char := if n < 10 then Char.ofNat (48 + n) else Char.ofNat (87 + n)

def encodeChars (bs : Bytes) : List Char :=
  bs.flatMap fun b => [digit (b.toNat / 16), digit (b.toNat % 16)]

/-- Two lower-case digits for each byte. -/
def encode (bs : Bytes) : String := String.ofList (encodeChars bs)

/-- The digits after the usual mark. -/
def encodeMarked (bs : Bytes) : String := "0x" ++ encode bs

/-- The least number of digits of a number, after the usual mark. -/
def quantity (n : Nat) : String := "0x" ++ String.ofList (Nat.toDigits 16 n)

/-! ## Reading -/

inductive Fault
  | oddLength
  | invalidDigit (byte : UInt8) (index : Nat)
  deriving DecidableEq, Repr

def Fault.message : Fault → String
  | oddLength => "Odd number of digits"
  | invalidDigit b i => s!"Invalid character {Quoted.char (Char.ofNat b.toNat)} at position {i}"

def value? (b : UInt8) : Option Nat :=
  if 48 ≤ b ∧ b ≤ 57 then some (b.toNat - 48)
  else if 97 ≤ b ∧ b ≤ 102 then some (b.toNat - 87)
  else if 65 ≤ b ∧ b ≤ 70 then some (b.toNat - 55)
  else none

/-- Reads digit pairs; the first digit stands at `index`. -/
def decodePairs (index : Nat) : Bytes → Except Fault Bytes
  | [] => .ok []
  | [_] => .error .oddLength
  | a :: b :: rest =>
      match value? a, value? b with
      | none, _ => .error (.invalidDigit a index)
      | some _, none => .error (.invalidDigit b (index + 1))
      | some hi, some lo => do
          let bytes ← decodePairs (index + 2) rest
          return UInt8.ofNat (hi * 16 + lo) :: bytes

/-- The bytes that a text of digits spells. An odd number of bytes is reported before any bad
digit. -/
def decode (text : Bytes) : Except Fault Bytes :=
  if text.length % 2 = 1 then .error .oddLength else decodePairs 0 text

/-- The text without its mark, if it has one. -/
def stripMark (s : String) : String :=
  match s.toList with
  | '0' :: 'x' :: rest => String.ofList rest
  | _ => s

/-- Reads a text, whose mark must have been taken off. -/
def decodeText (s : String) : Except Fault Bytes := decode (Utf8.encode s)

end TokenBridge.Hex
