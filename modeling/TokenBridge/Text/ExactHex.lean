import TokenBridge.Text.Hex

set_option autoImplicit false

/-! # Hexadecimal text of a known length

Keys and hashes have a fixed number of bytes. Their digits may stand after the usual mark, with a
small or a capital letter. What is wrong with the number of digits is reported before any bad digit.
-/

namespace TokenBridge.ExactHex

inductive Fault
  | oddLength
  | wrongLength
  | invalidDigit (byte : UInt8) (index : Nat)
  deriving DecidableEq, Repr

def Fault.message : Fault → String
  | oddLength => "odd number of digits"
  | wrongLength => "invalid string length"
  | invalidDigit b i => s!"invalid character {Quoted.char (Char.ofNat b.toNat)} at position {i}"

def Fault.ofHex : Hex.Fault → Fault
  | .oddLength => oddLength
  | .invalidDigit b i => invalidDigit b i

/-- The digits of a text behind their mark, if they have one. -/
def digits (s : String) : Bytes :=
  match s.toList with
  | '0' :: 'x' :: rest | '0' :: 'X' :: rest => Utf8.encode (String.ofList rest)
  | _ => Utf8.encode s

/-- Reads any number of bytes. -/
def decodeAny (s : String) : Except Fault Bytes := (Hex.decode (digits s)).mapError .ofHex

/-- Reads `length` bytes. -/
def decode (length : Nat) (s : String) : Except Fault Bytes :=
  let digits := digits s
  if digits.length % 2 = 1 then .error .oddLength
  else if digits.length ≠ 2 * length then .error .wrongLength
  else (Hex.decode digits).mapError .ofHex

end TokenBridge.ExactHex
