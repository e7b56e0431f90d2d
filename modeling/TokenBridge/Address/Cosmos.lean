import TokenBridge.Text.Bech32

set_option autoImplicit false

/-! # Cosmos addresses

A Bech32 text that holds 20 bytes, for an account, or 32, for a contract. An address keeps the text
in which it was given; on the wire it is that text.
-/

namespace TokenBridge

namespace CosmosAddress

inductive Fault
  | badText (fault : Bech32.Fault)
  | badPadding
  | wrongLength (bytes : Nat)
  deriving DecidableEq, Repr

def Fault.message : Fault → String
  | badText f => s!"Invalid bech32 address: {f.message}"
  | badPadding => "Invalid base32 data: invalid padding"
  | wrongLength n => s!"Invalid address length: expected 20 or 32 bytes, got {n}"

/-- What an address text holds. -/
structure Decoded where
  payload : Bytes
  hrp : String
  deriving DecidableEq, Repr

/-- The bytes and the readable part of an address text. -/
def decode (s : String) : Except Fault Decoded :=
  match Bech32.decode s with
  | .error f => .error (.badText f)
  | .ok d =>
      match Bech32.payload? d.symbols with
      | none => .error .badPadding
      | some payload =>
          if payload.length = 20 ∨ payload.length = 32 then .ok ⟨payload, d.hrp⟩
          else .error (.wrongLength payload.length)

end CosmosAddress

/-- An address as it was given, and its readable part in lower case. -/
structure CosmosAddress where
  text : String
  hrp : String
  deriving DecidableEq, Repr

namespace CosmosAddress

def parse (s : String) : Except Fault CosmosAddress := (decode s).map fun d => ⟨s, d.hrp⟩

def toBytes (a : CosmosAddress) : Bytes := Utf8.encode a.text

end CosmosAddress
end TokenBridge
