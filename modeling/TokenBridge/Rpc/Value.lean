import TokenBridge.Bytes
import TokenBridge.Json.Decoder
import TokenBridge.Number.Literal
import TokenBridge.Text.ExactHex

set_option autoImplicit false

/-! # Values in the results of a node

Numbers and bytes stand as text in hexadecimal form; numbers may also stand for themselves, and
bytes as a list of numbers. Each kind of value is read from a text, or from a value that has been
read before.
-/

namespace TokenBridge.Rpc

open Json

/-! ## Numbers -/

def quantityForm (width : Nat) : String := s!"a {width / 8} byte hex string"

/-- A number below `2 ^ width`, as a number or as a text. -/
def asQuantity (width : Nat) (j : Json) : Except Mismatch Nat :=
  let bounded (n : Nat) : Except Mismatch Nat :=
    if n < Nat.pow 2 width then .ok n else .error (.wrongValue j (quantityForm width))
  match j with
  | .string s =>
      match Literal.read s with
      | some n => bounded n
      | none => .error (.wrongValue j (quantityForm width))
  | .number n =>
      match n.settle with
      | .integer false m => bounded m
      | _ => .error (.wrongType j (quantityForm width))
  | _ => .error (.wrongType j (quantityForm width))

def quantity (width : Nat) : Decoder Nat := .anyOf (quantityForm width) (asQuantity width)

def uint64 : Decoder UInt64 := do return UInt64.ofNat (← quantity 64)

def price : Decoder (BitVec 128) := do return BitVec.ofNat 128 (← quantity 128)

/-! ## A known number of bytes -/

def asOctet (j : Json) : Except Mismatch UInt8 := (asUnsigned 8 j).map UInt8.ofNat

def octet : Decoder UInt8 := .single "u8" asOctet

def octetsForm (length : Nat) : String :=
  s!"{length} bytes, represented as a hex string of length {2 * length}, " ++
    "an array of u8, or raw bytes"

def wrongCount (length found : Nat) : Mismatch := .wrongLength found s!"exactly {length} bytes"

/-- The bytes that a list holds. One more item is refused if it could be a byte, and all after
it. -/
def octetsOfList (length : Nat) (items : List Json) : Except Mismatch Bytes := do
  let bs ← (items.take length).mapM asOctet
  if bs.length < length then throw (wrongCount length bs.length)
  match items.drop length with
  | [] => return bs
  | next :: rest =>
      if (asOctet next).isOk then throw (wrongCount length (length + 1))
      if !rest.isEmpty then
        throw (.wrongLength items.length s!"{length + 1} elements in sequence")
      return bs

def asOctets (length : Nat) : Json → Except Mismatch Bytes
  | .string s => (ExactHex.decode length s).mapError fun f => .unfit f.message
  | .array items => octetsOfList length items
  | other => .error (.wrongType other (octetsForm length))

/-- The rest of a list of bytes, of which as many have been read as are missing from `length`. One
more item is refused if it could be a byte. -/
def octetsFrom (length : Nat) : Nat → Decoder Bytes
  | 0 => fun s =>
      match nextItem (length = 0) s with
      | .ok (.none rest) => .ok ([], rest)
      | .ok (.item start) =>
          match octet start with
          | .ok (_, rest) => Decoder.refuseList (wrongCount length (length + 1)) rest
          | .error stop => (Decoder.endList stop.rest).map fun (_, rest) => ([], rest)
      | .error stop => (Decoder.endList stop.rest).map fun (_, rest) => ([], rest)
  | missing + 1 => fun s => do
      let read := length - (missing + 1)
      match ← nextItem (read = 0) s with
      | .none rest => Decoder.refuse (wrongCount length read) rest
      | .item start =>
          let (b, rest) ← octet start
          let (bs, rest) ← octetsFrom length missing rest
          return (b :: bs, rest)

def octets (length : Nat) : Decoder Bytes := do
  match ← readHead with
  | .scalar v => .ofExcept (asOctets length v)
  | .list => octetsFrom length length
  | .object => .refuseObject (.wrongType (.object []) (octetsForm length))

def hash : Decoder Word := do return wordOfBytes (← octets 32)

/-! ## Any number of bytes -/

def bytesForm : String :=
  "a variable number of bytes represented as a hex string, an array of u8, or raw bytes"

def asBytes (j : Json) : Except Mismatch Bytes :=
  match j with
  | .string s =>
      (ExactHex.decodeAny s).mapError fun _ => .wrongValue j "a valid hex string"
  | .array items => items.mapM asOctet
  | _ => .error (.wrongType j bytesForm)

def bytes : Decoder Bytes := do
  match ← readHead with
  | .scalar v => .ofExcept (asBytes v)
  | .list => .items octet
  | .object => .refuseObject (.wrongType (.object []) bytesForm)

end TokenBridge.Rpc
