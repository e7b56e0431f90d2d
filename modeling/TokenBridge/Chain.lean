set_option autoImplicit false

/-! # Chain families

A family fixes how a chain writes addresses and tokens and how it is asked and paid.
-/

namespace TokenBridge

inductive ChainFamily
  /-- Chains with accounts and contracts of the Ethereum kind. -/
  | evm
  /-- Chains with CosmWasm contracts. -/
  | cosmos
  /-- Chains whose tokens are resources; they can be named, but not served. -/
  | aptos
  deriving DecidableEq, Repr

namespace ChainFamily

def name : ChainFamily → String
  | evm => "evm"
  | cosmos => "cosmos"
  | aptos => "aptos"

/-- A name that belongs to no family, in lower case. -/
structure Unknown where
  name : String
  deriving DecidableEq, Repr

def Unknown.message (u : Unknown) : String := s!"Unknown chain type: {u.name}"

/-- The family of that exact name. -/
def ofName? (s : String) : Option ChainFamily := [evm, cosmos, aptos].find? fun f => f.name == s

/-- The family that a text names, in letters of any case. -/
def parse (s : String) : Except Unknown ChainFamily :=
  let lower := String.ofList (s.toList.map Char.toLower)
  match ofName? lower with
  | some f => .ok f
  | none => .error ⟨lower⟩

@[simp] theorem ofName?_name (f : ChainFamily) : ofName? f.name = some f := by
  cases f <;> rfl

end ChainFamily
end TokenBridge
