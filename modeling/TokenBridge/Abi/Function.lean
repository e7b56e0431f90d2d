import TokenBridge.Abi.Decoding
import TokenBridge.Crypto.Keccak

set_option autoImplicit false

/-! # Contract functions

A call names its function by the first four bytes of the hash of its signature, the name with the
types of the arguments, and goes on with the arguments as one record. The results come back as a
record.
-/

namespace TokenBridge.Abi

mutual

/-- The name of a type in signatures. -/
def Ty.name : Ty → String
  | .uint width => s!"uint{width}"
  | .address => "address"
  | .bytes32 => "bytes32"
  | .bytes => "bytes"
  | .string => "string"
  | .array t => t.name ++ "[]"
  | .tuple fs => "(" ++ ",".intercalate fs.names ++ ")"

def Fields.names : Fields → List String
  | .nil => []
  | .cons t fs => t.name :: fs.names

end

/-- The name of a record without a name of its own. -/
def Fields.name (fs : Fields) : String := "(" ++ ",".intercalate fs.names ++ ")"

structure Function where
  name : String
  inputs : Fields
  outputs : Fields

namespace Function

def signature (f : Function) : String := f.name ++ f.inputs.name

def selector (f : Function) : Bytes := (Keccak.hash (Utf8.encode f.signature)).take 4

/-- The bytes of a call. -/
def call (f : Function) (args : f.inputs.Value) : Bytes := f.selector ++ encode f.inputs args

/-- The results that a call brought back. -/
def results (f : Function) (bs : Bytes) : Except Fault f.outputs.Value :=
  decode f.outputs.name f.outputs bs

end Function
end TokenBridge.Abi
