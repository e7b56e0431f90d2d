import TokenBridge.Channel
import TokenBridge.Report
import TokenBridge.Token

set_option autoImplicit false

/-! # Reading from a chain

What an order has to know of a chain: how a token is shown there, and which token will stand for
one that comes through a channel. A reader that answers from the question alone is given by its
answers and by how long they take. While several orders are built, a reader may change its mind from
one to the next, so that such a reader is needed for each of them.
-/

namespace TokenBridge

/-! ## Readers -/

/-- A reader that answers from the question alone. -/
structure Reader where
  family : ChainFamily
  /-- Coins that need no question. -/
  native? : String → Option TokenMetadata
  metadata : String → Except Report TokenMetadata
  /-- How long the answer about metadata takes. -/
  delay : String → Nat
  quote : Endpoint → Bytes → Except Report Bytes
  /-- How long the answer about a counterpart takes. -/
  quoteDelay : Endpoint → Bytes → Nat

/-- A reader in the course of time. About each intent it is asked what that intent needs, and what
it answers then may depend on the place of the intent, also when the question is the same. -/
structure LiveReader where
  family : ChainFamily
  /-- How it answers about the intent at a place. -/
  view : Nat → Reader
  family_view : ∀ k, (view k).family = family

attribute [simp] LiveReader.family_view

/-- A reader that never changes its mind. -/
def Reader.live (r : Reader) : LiveReader := ⟨r.family, fun _ => r, fun _ => rfl⟩

instance : Coe Reader LiveReader := ⟨Reader.live⟩

@[simp] theorem Reader.family_live (r : Reader) : r.live.family = r.family := rfl

@[simp] theorem Reader.view_live (r : Reader) (k : Nat) : r.live.view k = r := rfl

/-! ## Questions -/

/-- A question that was put to a chain. -/
inductive Question
  /-- How is the token shown? -/
  | metadata (token : String)
  /-- What will stand for the token that comes through the channel? -/
  | quote (channel : UInt32) (token : Bytes)
  deriving DecidableEq, Repr

/-- The token whose metadata is asked for. -/
def Question.token? : Question → Option String
  | metadata token => some token
  | quote .. => none

/-- The channel and the token of which the counterpart is asked for. -/
def Question.quoted? : Question → Option (UInt32 × Bytes)
  | metadata _ => none
  | quote channel token => some (channel, token)

/-- Coins that are known by their denominations alone. -/
def nativeAmong (denoms : List String) (token : String) : Option TokenMetadata :=
  if token ∈ denoms then some (.native token) else none

end TokenBridge
