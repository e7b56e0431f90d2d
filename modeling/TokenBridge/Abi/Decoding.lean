import TokenBridge.Abi.Encoding
import TokenBridge.Text.Hex

set_option autoImplicit false

/-! # Reading contract data

Reading follows the offsets, and so accepts many layouts of one record; the record is then written
again, and only the bytes that this gives are accepted.
-/

namespace TokenBridge.Abi

inductive Fault
  /-- The bytes end too early, or an offset leads out of them. -/
  | overrun
  /-- An offset or a length does not fit 64 bits. -/
  | badSize (word : Bytes)
  /-- A list takes more room than there are addresses for. -/
  | tooManyItems
  /-- A list takes more room than there is. -/
  | outOfMemory
  /-- The bytes are not those that would be written. -/
  | notCanonical
  /-- A word or a byte string stands for no value of its type. -/
  | badValue (type : String) (data : Bytes)
  deriving DecidableEq, Repr

def Fault.message : Fault → String
  | overrun => "ABI decoding failed: buffer overrun while deserializing"
  | badSize word => s!"type check failed for \"offset (usize)\" with data: {Hex.encode word}"
  | tooManyItems =>
      "memory allocation failed because the computed capacity exceeded the collection's maximum"
  | outOfMemory =>
      "memory allocation failed because the memory allocator returned an error"
  | notCanonical => "ABI decoding failed: reserialization did not match original"
  | badValue type data => s!"type check failed for \"{type}\" with data: {Hex.encode data}"

/-! ## Single words -/

/-- The first 32 bytes, and the rest. -/
def takeWord (bs : Bytes) : Except Fault (Bytes × Bytes) :=
  let word := bs.take 32
  if word.length < 32 then .error .overrun else .ok (word, bs.drop 32)

def readWord (bs : Bytes) : Except Fault (Word × Bytes) := do
  let (word, rest) ← takeWord bs
  return (wordOfBytes word, rest)

/-- An offset or a length, of which all but the last eight bytes are zero. -/
def readSize (bs : Bytes) : Except Fault (Nat × Bytes) := do
  let (word, rest) ← takeWord bs
  if (word.take 24).all (· = 0) then return (ofBigEndian word, rest) else throw (.badSize word)

/-- Reads an offset and follows it from the start of the frame. It may lead to the end, where
nothing is left. -/
def follow (frame bs : Bytes) : Except Fault (Bytes × Bytes) := do
  let (offset, rest) ← readSize bs
  if frame.length < offset then throw .overrun
  return (frame.drop offset, rest)

/-- Reads a length and that many bytes. -/
def readPacked (bs : Bytes) : Except Fault Bytes := do
  let (length, rest) ← readSize bs
  if rest.length < length then throw .overrun
  return rest.take length

/-- The most room, in bytes, that a list may take beyond that of the bytes which it is read from. -/
def memory : Nat := Nat.pow 2 35

/-- The room for a list is set aside before its items are read from `available` bytes. -/
def reserve (room available : Nat) : Except Fault Unit :=
  if Nat.pow 2 63 ≤ room then .error .tooManyItems
  else if memory + available < room then .error .outOfMemory
  else .ok ()

/-- Reads one item after the other. -/
def readMany {α : Type} (read : Bytes → Except Fault (α × Bytes)) :
    Nat → Bytes → Except Fault (List α × Bytes)
  | 0, bs => .ok ([], bs)
  | n + 1, bs => do
      let (item, bs) ← read bs
      let (items, bs) ← readMany read n bs
      return (item :: items, bs)

/-! ## Values

`frame` is where offsets are counted from, and `bs` what is left of the heads. -/

mutual

def Ty.read : (t : Ty) → (frame bs : Bytes) → Except Fault (t.Raw × Bytes)
  | .uint _, _, bs => readWord bs
  | .address, _, bs => readWord bs
  | .bytes32, _, bs => readWord bs
  | .bytes, frame, bs => do
      let (body, rest) ← follow frame bs
      return (← readPacked body, rest)
  | .string, frame, bs => do
      let (body, rest) ← follow frame bs
      return (← readPacked body, rest)
  | .array t, frame, bs => do
      let (body, rest) ← follow frame bs
      let (count, body) ← readSize body
      reserve (count * t.room) body.length
      let (items, _) ← readMany (t.read body) count body
      return (items, rest)
  | .tuple fs, frame, bs =>
      if fs.isDynamic then do
        let (body, rest) ← follow frame bs
        let (items, _) ← fs.read body body
        return (items, rest)
      else fs.read frame bs

def Fields.read : (fs : Fields) → (frame bs : Bytes) → Except Fault (fs.Raw × Bytes)
  | .nil, _, bs => .ok ((), bs)
  | .cons t fs, frame, bs => do
      let (r, bs) ← t.read frame bs
      let (rs, bs) ← fs.read frame bs
      return ((r, rs), bs)

end

/-! ## Records -/

/-- What is shown of the bytes of a record with a bad value: a record of no fixed size is shown
behind its offset. -/
def shown (fs : Fields) (bs : Bytes) : Bytes :=
  if fs.isDynamic then bigEndian 32 32 ++ bs else bs

/-- The record that the bytes spell; `name` is the name of its type. -/
def decode (name : String) (fs : Fields) (bs : Bytes) : Except Fault fs.Value := do
  let (raw, _) ← fs.read bs bs
  if fs.encodeRaw raw ≠ bs then throw .notCanonical
  match fs.value? raw with
  | some vs => return vs
  | none => throw (.badValue name (shown fs bs))

end TokenBridge.Abi
