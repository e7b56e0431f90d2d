import TokenBridge.Crypto.Keccak
import TokenBridge.Text.Hex

set_option autoImplicit false

/-! # EVM addresses

Twenty bytes, read from forty hexadecimal digits in any case. They are shown with some letters in
upper case, which the hash of the lower-case digits selects, so that a misspelt address can be told.
-/

namespace TokenBridge

abbrev EvmAddress := BitVec 160

namespace EvmAddress

def toBytes (a : EvmAddress) : Bytes := bigEndian 20 a.toNat

def ofBytes (bs : Bytes) : EvmAddress := BitVec.ofNat 160 (ofBigEndian bs)

@[simp] theorem toBytes_length (a : EvmAddress) : (toBytes a).length = 20 := bigEndian_length 20 _

@[simp] theorem ofBytes_toBytes (a : EvmAddress) : ofBytes (toBytes a) = a := by
  have fits : a.toNat < Nat.pow 256 20 := a.isLt
  rw [ofBytes, toBytes, ofBigEndian_bigEndian, Nat.mod_eq_of_lt fits, BitVec.ofNat_toNat,
    BitVec.setWidth_eq]

/-! ## Reading -/

inductive Fault
  | wrongLength (bytes : Nat)
  | badHex (fault : Hex.Fault)
  deriving DecidableEq, Repr

def Fault.message : Fault → String
  | wrongLength n => s!"Invalid EVM address length: expected 40 hex chars, got {n}"
  | badHex f => s!"Invalid EVM address hex: {f.message}"

/-- Reads forty digits with or without their mark. The length is counted in bytes and comes
first. -/
def parse (s : String) : Except Fault EvmAddress :=
  let digits := Hex.stripMark s
  if digits.utf8ByteSize ≠ 40 then .error (.wrongLength digits.utf8ByteSize)
  else
    match Hex.decodeText digits with
    | .ok bytes => .ok (ofBytes bytes)
    | .error f => .error (.badHex f)

/-! ## Showing -/

/-- Raises the letters whose place in the hash holds a digit of at least eight. -/
def mixCase : List Char → List Char → List Char
  | [], _ => []
  | cs, [] => cs
  | c :: cs, h :: hs => (if '8' ≤ h then c.toUpper else c) :: mixCase cs hs

/-- The digits with their mark, in the case that the hash of the lower-case digits gives them. -/
def checksum (a : EvmAddress) : String :=
  let digits := Hex.encodeChars (toBytes a)
  let mask := Hex.encodeChars (Keccak.hash (digits.map fun c => UInt8.ofNat c.toNat))
  String.ofList ('0' :: 'x' :: mixCase digits mask)

/-- The digits with their mark, all in lower case. -/
def plain (a : EvmAddress) : String := Hex.encodeMarked (toBytes a)

end EvmAddress
end TokenBridge
