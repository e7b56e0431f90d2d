import TokenBridge.Text.Utf8

set_option autoImplicit false

/-! # The types of contract data

The types that contracts exchange, and for each of them two kinds of values: the value itself, and
its raw form, the words and byte strings that are written. Every value has a raw form; `Ty.value?`
goes back, and fails for a word that is too large for its type and for bytes that are not UTF-8.
-/

namespace TokenBridge.Abi

mutual

inductive Ty
  | uint (width : Nat)
  | address
  | bytes32
  | bytes
  | string
  | array (item : Ty)
  | tuple (fields : Fields)

/-- The types of the fields of a record, in order. -/
inductive Fields
  | nil
  | cons (first : Ty) (rest : Fields)

end

/-- The record with these fields. -/
def Fields.of : List Ty → Fields
  | [] => .nil
  | t :: rest => .cons t (Fields.of rest)

/-! ## Sizes -/

mutual

/-- Values of these types have no fixed size, and stand behind an offset. -/
def Ty.isDynamic : Ty → Bool
  | .bytes | .string | .array _ => true
  | .tuple fs => fs.isDynamic
  | _ => false

def Fields.isDynamic : Fields → Bool
  | .nil => false
  | .cons t fs => t.isDynamic || fs.isDynamic

end

mutual

/-- The room, in bytes, that a list needs in memory for each of its items. -/
def Ty.room : Ty → Nat
  | .bytes | .string => 16
  | .array _ => 24
  | .tuple fs => fs.room
  | _ => 32

def Fields.room : Fields → Nat
  | .nil => 0
  | .cons t fs => t.room + fs.room

end

/-! ## Raw forms -/

mutual

/-- What is written for a value: words, byte strings, lists and records. -/
def Ty.Raw : Ty → Type
  | .uint _ | .address | .bytes32 => Word
  | .bytes | .string => Bytes
  | .array t => List t.Raw
  | .tuple fs => fs.Raw

def Fields.Raw : Fields → Type
  | .nil => Unit
  | .cons t fs => t.Raw × fs.Raw

end

/-! ## Values -/

mutual

def Ty.Value : Ty → Type
  | .uint width => BitVec width
  | .address => BitVec 160
  | .bytes32 => Word
  | .bytes => Bytes
  | .string => String
  | .array t => List t.Value
  | .tuple fs => fs.Value

def Fields.Value : Fields → Type
  | .nil => Unit
  | .cons t fs => t.Value × fs.Value

end

mutual

/-- The raw form of a value. -/
def Ty.raw : (t : Ty) → t.Value → t.Raw
  | .uint _, n => BitVec.ofNat 256 n.toNat
  | .address, a => BitVec.ofNat 256 a.toNat
  | .bytes32, w => w
  | .bytes, bs => bs
  | .string, s => Utf8.encode s
  | .array t, vs => vs.map t.raw
  | .tuple fs, vs => fs.raw vs

def Fields.raw : (fs : Fields) → fs.Value → fs.Raw
  | .nil, _ => ()
  | .cons t fs, (v, vs) => (t.raw v, fs.raw vs)

end

/-- The number that a word holds, if it fits a width. -/
def narrow? (width : Nat) (w : Word) : Option (BitVec width) :=
  if w.toNat < Nat.pow 2 width then some (BitVec.ofNat width w.toNat) else none

mutual

/-- The value that a raw form stands for. -/
def Ty.value? : (t : Ty) → t.Raw → Option t.Value
  | .uint width, w => narrow? width w
  | .address, w => narrow? 160 w
  | .bytes32, w => some w
  | .bytes, bs => some bs
  | .string, bs => (Utf8.decode bs).toOption
  | .array t, rs => rs.mapM t.value?
  | .tuple fs, rs => fs.value? rs

def Fields.value? : (fs : Fields) → fs.Raw → Option fs.Value
  | .nil, _ => some ()
  | .cons t fs, (r, rs) => do
      let v ← t.value? r
      let vs ← fs.value? rs
      return (v, vs)

end

end TokenBridge.Abi
