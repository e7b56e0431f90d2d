import TokenBridge.Abi.Function

set_option autoImplicit false

/-! # Token contracts on EVM chains -/

namespace TokenBridge.Contract.Token

open Abi

def name : Function := ⟨"name", .of [], .of [.string]⟩

def symbol : Function := ⟨"symbol", .of [], .of [.string]⟩

def decimals : Function := ⟨"decimals", .of [], .of [.uint 8]⟩

/-- How much a spender may still take from an owner. -/
def allowance : Function := ⟨"allowance", .of [.address, .address], .of [.uint 256]⟩

/-- Lets a spender take up to an amount. -/
def approve : Function := ⟨"approve", .of [.address, .uint 256], .nil⟩

end TokenBridge.Contract.Token
