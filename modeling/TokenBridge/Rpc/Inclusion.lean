import TokenBridge.Rpc.Value

set_option autoImplicit false

/-! # Transactions that were carried out

A node tells of such a transaction in a record of many fields. Only two of them matter here, but a
record with a bad field does not count at all. Some fields are judged as they are read, all others
at the end of the record.
-/

namespace TokenBridge.Rpc

open Json

/-- What a node tells of a transaction that was carried out. -/
structure Inclusion where
  succeeded : Bool
  block : Option UInt64
  deriving DecidableEq, Repr

namespace Inclusion

/-! ## Fields that are judged at the end -/

/-- A record that must be given as an object. -/
def asTable (expected : String) (fields : List Field) (j : Json) :
    Except Mismatch (List (String × Json)) :=
  match j with
  | .object _ => asRecord expected fields j
  | other => .error (.wrongType other expected)

def asTruth (j : Json) : Except Mismatch Bool :=
  match j with
  | .bool b => .ok b
  | other => .error (.wrongType other "a boolean")

/-- The names of the types of transactions, in order of the types. -/
def typeNames : List (List String) :=
  [["0x0", "0x00"], ["0x1", "0x01"], ["0x2", "0x02"], ["0x3", "0x03"], ["0x4", "0x04"]]

/-- All names, as they are listed to whom gives another one. -/
def typeNamesListed : List String :=
  ["0x0", "0x00", "0x01", "0x1", "0x02", "0x2", "0x03", "0x3", "0x04", "0x4"]

/-- The type of a transaction, by one of its names or its number. -/
def asType (j : Json) : Except Mismatch Nat :=
  match j with
  | .string s =>
      match typeNames.findIdx? (·.contains s) with
      | some i => .ok i
      | none => .error (.unknownName s typeNamesListed)
  | .number n =>
      match n.settle with
      | .integer false m =>
          if m < typeNames.length then .ok m
          else .error (.wrongValue j s!"variant index 0 <= i < {typeNames.length}")
      | _ => .error (.wrongType j "variant identifier")
  | other => .error (.wrongType other "variant identifier")

/-- Checks an event. -/
def checkLog (j : Json) : Except Mismatch Unit := do
  let part (fields : List Field) := asTable "struct Log" fields j
  let _ ← part [
    field "blockHash" (asOptional (asOctets 32)) .optional,
    field "blockNumber" (asOptional (asQuantity 64)) .refused,
    field "blockTimestamp" (asOptional (asQuantity 64)) .optional,
    field "transactionHash" (asOptional (asOctets 32)) .optional,
    field "transactionIndex" (asOptional (asQuantity 64)) .refused,
    field "logIndex" (asOptional (asQuantity 64)) .refused,
    field "removed" asTruth .optional]
  let _ ← part [field "address" (asOctets 20) .refused]
  let _ ← part [
    field "topics" (asList (asOctets 32)) .refused,
    field "data" asBytes .refused]

/-- Whether the transaction succeeded. The status is 1 or 0; a record from before there was a status
has a root instead, and counts as a success. -/
def asOutcome (j : Json) : Except Mismatch Bool :=
  let byStatus : Except Mismatch Bool := do
    let fields ← asTable "a status" [field "status" (asQuantity 1) .refused] j
    return (← readField fields "status" (asQuantity 1)) == 1
  let byRoot : Except Mismatch Bool := do
    let _ ← asTable "a root" [field "root" (asOctets 32) .refused] j
    return true
  match byStatus, byRoot with
  | .ok b, _ | _, .ok b => .ok b
  | _, _ => .error (.noCaseOf "SerdeHelper")

/-- What the fields that were not judged before tell of the outcome. -/
def ofOthers (others : List (String × Json)) : Except Mismatch Bool := do
  let part (fields : List Field) := asTable "a record" fields (.object others)
  let _ ← part [field "type" asType .refused]
  let _ ← part [field "logsBloom" (asOctets 256) .refused]
  let _ ← part [
    field "cumulativeGasUsed" (asQuantity 128) .refused,
    field "logs" (asList checkLog) .refused]
  asOutcome (.object others)

/-! ## Fields that are judged as they are read -/

/-- Such a field: its name, how it is read, and whether it must be there. -/
structure Part where
  name : String
  check : Decoder Unit
  required : Bool

/-- A part of which only the form counts. -/
def part {α : Type} (name : String) (d : Decoder α) (required : Bool) : Part :=
  ⟨name, do let _ ← d, required⟩

/-- What an object has shown so far: which of its parts, and its other fields. -/
structure Draft where
  seen : List String := []
  block : Option UInt64 := none
  others : List (String × Json) := []

/-- Reads the next field of an object with known parts. The others are kept, as values on the second
level of a text. -/
def takeField (parts : List Part) (d : Draft) (name : String) : Decoder Draft :=
  match parts.find? fun p => p.name == name with
  | some p =>
      if d.seen.contains name then .refuseObject (.repeatedField name)
      else do
        p.check.value
        return { d with seen := name :: d.seen }
  | none => do
      let v ← Decoder.value (readInside (depthLimit - 1))
      return { d with others := d.others ++ [(name, v)] }

/-- Refuses an object without one of the parts that must be there. -/
def checkParts (parts : List Part) (d : Draft) : Decoder Unit :=
  match parts.find? fun p => p.required && !d.seen.contains p.name with
  | some p => .refuse (.missingField p.name)
  | none => pure ()

/-- An authorization that a transaction carried. -/
def authorization : Decoder Unit :=
  let parts := [
    part "yParity" (quantity 8) true, part "r" (quantity 256) true, part "s" (quantity 256) true]
  .object "struct SignedAuthorization" do
    let d ← Decoder.fields (takeField parts) {}
    checkParts parts d
    .ofExcept do
      let _ ← asTable "a record" [
        field "chainId" (asQuantity 64) .refused,
        field "address" (asOctets 20) .refused,
        field "nonce" (asQuantity 64) .refused] (.object d.others)

/-- The parts of the record, apart from the block. -/
def parts : List Part := [
  part "transactionHash" hash true,
  part "transactionIndex" (Decoder.optional uint64) false,
  part "blockHash" (Decoder.optional hash) false,
  part "gasUsed" (quantity 128) true,
  part "effectiveGasPrice" (quantity 128) true,
  part "blobGasUsed" (Decoder.optional (quantity 128)) false,
  part "blobGasPrice" (Decoder.optional (quantity 128)) false,
  part "from" (octets 20) true,
  part "to" (Decoder.optional (octets 20)) false,
  part "contractAddress" (Decoder.optional (octets 20)) false,
  part "authorizationList" (Decoder.optional (Decoder.list authorization)) false]

/-- Reads the next field of the record. -/
def takeRecordField (d : Draft) (name : String) : Decoder Draft :=
  if name = "blockNumber" then
    if d.seen.contains name then .refuseObject (.repeatedField name)
    else do
      let block ← Decoder.value (Decoder.optional uint64)
      return { d with seen := name :: d.seen, block := block }
  else takeField parts d name

/-- The record of a transaction. -/
def record : Decoder Inclusion :=
  .object "struct TransactionReceipt" do
    let d ← Decoder.fields takeRecordField {}
    checkParts parts d
    return ⟨← .ofExcept (ofOthers d.others), d.block⟩

/-- The record of a transaction, if there is one yet. -/
def decoder : Decoder (Option Inclusion) := .optional record

end Inclusion
end TokenBridge.Rpc
