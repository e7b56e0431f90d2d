import TokenBridge.Abi.Decoding
import TokenBridge.Instruction

set_option autoImplicit false

/-! # Instructions on the wire

An instruction is put into an envelope that names its version and its kind, with its content as a
byte string. The content of an order is a record; that of a batch is the list of the envelopes of
its instructions. Reading accepts orders of both versions and at most `maxDepth` batches inside
each other.
-/

namespace TokenBridge

open Abi

structure Envelope where
  version : UInt8
  opcode : UInt8
  operand : Bytes
  deriving DecidableEq, Repr

namespace Envelope

/-! ## Forms -/

def fields : Fields := .of [.uint 8, .uint 8, .bytes]

def toFields (e : Envelope) : fields.Value :=
  (e.version.toBitVec, e.opcode.toBitVec, e.operand, ())

def ofFields : fields.Value → Envelope
  | (version, opcode, operand, _) => ⟨⟨version⟩, ⟨opcode⟩, operand⟩

end Envelope

namespace Order

def fields : Fields :=
  .of [.bytes, .bytes, .bytes, .uint 256, .string, .string, .uint 8, .uint 256, .bytes, .uint 256]

def toFields (o : Order) : fields.Value :=
  (o.sender, o.receiver, o.baseToken, o.baseAmount, o.symbol, o.name, o.decimals.toBitVec, o.path,
    o.quoteToken, o.quoteAmount, ())

def ofFields : fields.Value → Order
  | (sender, receiver, baseToken, baseAmount, symbol, name, decimals, path, quoteToken,
      quoteAmount, _) =>
    ⟨sender, receiver, baseToken, baseAmount, symbol, name, ⟨decimals⟩, path, quoteToken,
      quoteAmount⟩

end Order

/-- The content of a batch: one list of envelopes. -/
def batchFields : Fields := .of [.array (.tuple Envelope.fields)]

namespace Instruction

/-! ## Writing -/

mutual

def toEnvelope : Instruction → Envelope
  | order o => ⟨1, orderOpcode, encode Order.fields o.toFields⟩
  | batch items => ⟨0, batchOpcode, encode batchFields (envelopes items, ())⟩

def envelopes : List Instruction → List Envelope.fields.Value
  | [] => []
  | i :: rest => (toEnvelope i).toFields :: envelopes rest

end

end Instruction

def Envelope.encode (e : Envelope) : Bytes := Abi.encode Envelope.fields e.toFields

def Instruction.encode (i : Instruction) : Bytes := i.toEnvelope.encode

/-- The bytes of an instruction in hexadecimal digits, after the usual mark. -/
def Instruction.encodeHex (i : Instruction) : String := Hex.encodeMarked i.encode

/-! ## Reading -/

namespace Instruction

/-- The greatest number of batches inside each other. -/
def maxDepth : Nat := 8

inductive Fault
  | abi (fault : Abi.Fault)
  | unknownOpcode (opcode : UInt8)
  | unsupportedVersion (opcode version : UInt8)
  | tooDeep
  | badHex (fault : Hex.Fault)
  deriving DecidableEq, Repr

/-- An opcode, in two digits after the usual mark. -/
def showOpcode (opcode : UInt8) : String := Hex.encodeMarked [opcode]

def Fault.message : Fault → String
  | abi f => s!"Malformed ABI data: {f.message}"
  | unknownOpcode op => s!"Unknown opcode {showOpcode op}"
  | unsupportedVersion op v => s!"Unsupported version {v.toNat} for opcode {showOpcode op}"
  | tooDeep => s!"Batch nesting exceeds {maxDepth} levels"
  | badHex f => s!"Invalid hex payload: {f.message}"

/-- The content of an order. -/
def decodeOrder (operand : Bytes) : Except Fault Order :=
  (Abi.decode "FungibleAssetOrder" Order.fields operand).map Order.ofFields |>.mapError .abi

/-- The envelopes in a batch. -/
def decodeBatch (operand : Bytes) : Except Fault (List Envelope) :=
  (Abi.decode "Batch" batchFields operand).map (fun (items, _) => items.map Envelope.ofFields)
    |>.mapError .abi

/-- The instruction in an envelope under which `levels` batches may still be opened. The content of
an envelope is read only after its tags have been checked. -/
def ofEnvelope (levels : Nat) (e : Envelope) : Except Fault Instruction :=
  if e.opcode = orderOpcode then
    if 1 < e.version then .error (.unsupportedVersion e.opcode e.version)
    else (decodeOrder e.operand).map order
  else if e.opcode = batchOpcode then
    if e.version ≠ 0 then .error (.unsupportedVersion e.opcode e.version)
    else
      match levels with
      | 0 => .error .tooDeep
      | levels + 1 => do
          let envelopes ← decodeBatch e.operand
          let items ← envelopes.mapM (ofEnvelope levels)
          return batch items
  else .error (.unknownOpcode e.opcode)

end Instruction

/-- The outermost envelope, its content unread. -/
def Envelope.decode (bs : Bytes) : Except Instruction.Fault Envelope :=
  (Abi.decode "Instruction" Envelope.fields bs).map Envelope.ofFields |>.mapError .abi

namespace Instruction

/-- The instruction that the bytes spell. -/
def decode (bs : Bytes) : Except Fault Instruction := do
  ofEnvelope maxDepth (← Envelope.decode bs)

/-- The instruction whose bytes are given by hexadecimal digits, marked or not. -/
def decodeHex (s : String) : Except Fault Instruction := do
  let bytes ← (Hex.decodeText (Hex.stripMark s)).mapError .badHex
  decode bytes

end Instruction
end TokenBridge
