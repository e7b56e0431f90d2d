import TokenBridge.Address.Evm
import TokenBridge.Chain
import TokenBridge.Identifier

set_option autoImplicit false

/-! # Tokens

Each family names its tokens in its own way: by the address of a contract, by the denomination of a
coin, or by a hexadecimal identifier. `Token.canonical` gives the bytes that stand for a token in
instructions, the same for all spellings of one token.
-/

namespace TokenBridge

/-! ## Denominations -/

namespace Denom

inductive Fault
  | wrongLength (bytes : Nat)
  | noLetter (token : String)
  | badCharacter (c : Char) (token : String)
  deriving DecidableEq, Repr

def Fault.message : Fault → String
  | wrongLength n => s!"Invalid Cosmos token length: expected 3-128 chars, got {n}"
  | noLetter token => s!"Cosmos token must start with a letter: {token}"
  | badCharacter c token => s!"Invalid character '{c}' in Cosmos token {token}"

/-- The characters a denomination may hold. -/
def isDenomChar (c : Char) : Bool := c.isAlphanum || "/:._-".toList.contains c

/-- A denomination has 3 to 128 bytes, starts with a letter, and goes on with letters, digits and
five marks. -/
def validate (token : String) : Except Fault Unit :=
  if token.utf8ByteSize < 3 ∨ 128 < token.utf8ByteSize then .error (.wrongLength token.utf8ByteSize)
  else
    match token.toList with
    | [] => .error (.noLetter token)
    | c :: rest =>
        if !c.isAlpha then .error (.noLetter token)
        else
          match rest.find? fun c => !isDenomChar c with
          | some bad => .error (.badCharacter bad token)
          | none => .ok ()

end Denom

/-! ## Canonical bytes -/

namespace Token

inductive Fault
  | address (fault : EvmAddress.Fault)
  | denom (fault : Denom.Fault)
  | identifier (fault : Identifier.Fault)
  deriving DecidableEq, Repr

def Fault.message : Fault → String
  | address f => f.message
  | denom f => f.message
  | identifier f => f.message

/-- The bytes that stand for a token of a family. -/
def canonical (family : ChainFamily) (token : String) : Except Fault Bytes :=
  match family with
  | .evm => (EvmAddress.parse token).map EvmAddress.toBytes |>.mapError Fault.address
  | .cosmos => (Denom.validate token).map (fun _ => Utf8.encode token) |>.mapError Fault.denom
  | .aptos => (Identifier.toBytes token).mapError Fault.identifier

end Token

/-! ## Metadata -/

/-- How a token is shown. -/
structure TokenMetadata where
  symbol : String
  name : String
  decimals : UInt8
  deriving DecidableEq, Repr

/-- A coin of the chain itself is shown by its denomination, in whole units. -/
def TokenMetadata.native (denom : String) : TokenMetadata := ⟨denom, denom, 0⟩

end TokenBridge
