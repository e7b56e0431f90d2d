import TokenBridge.Abi.Types

set_option autoImplicit false

/-! # Writing contract data

A record is a row of heads followed by a row of tails. A value of fixed size stands in its head; of
any other the head holds the offset, counted from the first head, of its tail. Everything is made
up of whole words.
-/

namespace TokenBridge.Abi

/-! ## Heads and tails -/

/-- A field of a record, written: in its head, or in a tail behind an offset. -/
inductive Part
  | inHead (bs : Bytes)
  | inTail (bs : Bytes)
  deriving DecidableEq, Repr

namespace Part

def bytes : Part → Bytes
  | inHead bs => bs
  | inTail bs => bs

def headLength : Part → Nat
  | inHead bs => bs.length
  | inTail _ => 32

def headsLength : List Part → Nat
  | [] => 0
  | p :: ps => p.headLength + headsLength ps

/-- The heads of a row of parts, the first tail of which starts at `offset`. -/
def heads (offset : Nat) : List Part → Bytes
  | [] => []
  | inHead bs :: ps => bs ++ heads offset ps
  | inTail bs :: ps => bigEndian 32 offset ++ heads (offset + bs.length) ps

def tails : List Part → Bytes
  | [] => []
  | inHead _ :: ps => tails ps
  | inTail bs :: ps => bs ++ tails ps

/-- The heads, and then the tails. -/
def assemble (ps : List Part) : Bytes := heads (headsLength ps) ps ++ tails ps

end Part

/-! ## Values -/

/-- Zeros up to the end of the last word. -/
def padding (length : Nat) : Bytes := List.replicate ((32 - length % 32) % 32) 0

/-- A byte string after its length, filled up to whole words. -/
def encodePacked (bs : Bytes) : Bytes := bigEndian 32 bs.length ++ bs ++ padding bs.length

mutual

/-- The bytes of a raw form. -/
def Ty.encode : (t : Ty) → t.Raw → Bytes
  | .uint _, w => wordBytes w
  | .address, w => wordBytes w
  | .bytes32, w => wordBytes w
  | .bytes, bs => encodePacked bs
  | .string, bs => encodePacked bs
  | .array t, rs =>
      bigEndian 32 rs.length ++
        Part.assemble (rs.map fun r =>
          if t.isDynamic then .inTail (t.encode r) else .inHead (t.encode r))
  | .tuple fs, rs => Part.assemble (fs.parts rs)

def Fields.parts : (fs : Fields) → fs.Raw → List Part
  | .nil, _ => []
  | .cons t fs, (r, rs) =>
      (if t.isDynamic then .inTail (t.encode r) else .inHead (t.encode r)) :: fs.parts rs

end

/-- The bytes of the raw form of a record. -/
def Fields.encodeRaw (fs : Fields) (rs : fs.Raw) : Bytes := Part.assemble (fs.parts rs)

/-- The bytes of a record. -/
def encode (fs : Fields) (vs : fs.Value) : Bytes := fs.encodeRaw (fs.raw vs)

end TokenBridge.Abi
