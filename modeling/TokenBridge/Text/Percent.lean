import TokenBridge.Text.Hex

set_option autoImplicit false

/-! # Percent encoding

Bytes that must not stand for themselves are written as a percent sign and two digits. Which ones
that are depends on the place; all bytes outside the visible characters of ASCII are among them.
-/

namespace TokenBridge.Percent

def upperDigit (n : Nat) : Char := if n < 10 then Char.ofNat (48 + n) else Char.ofNat (55 + n)

/-- A byte that stands for itself nowhere. -/
def isControl (b : UInt8) : Bool := b < 0x20 || 0x7E < b

def encodeByte (reserved : List Char) (b : UInt8) : List Char :=
  let c := Char.ofNat b.toNat
  if isControl b || reserved.contains c then
    ['%', upperDigit (b.toNat / 16), upperDigit (b.toNat % 16)]
  else [c]

/-- The encoding of a text in which `reserved` may not stand for themselves. -/
def encode (reserved : List Char) (cs : List Char) : List Char :=
  (Utf8.encode (String.ofList cs)).flatMap (encodeByte reserved)

/-- The bytes that an encoding spells. A percent sign without two digits stands for itself. -/
def decode : Bytes → Bytes
  | 37 :: a :: b :: rest =>
      match Hex.value? a, Hex.value? b with
      | some hi, some lo => UInt8.ofNat (hi * 16 + lo) :: decode rest
      | _, _ => 37 :: decode (a :: b :: rest)
  | b :: rest => b :: decode rest
  | [] => []

end TokenBridge.Percent
