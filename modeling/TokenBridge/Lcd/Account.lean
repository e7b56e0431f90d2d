import TokenBridge.Lcd
import TokenBridge.Number.Numeral

set_option autoImplicit false

/-! # Accounts

What a server tells of an account: how many transactions it has sent, and its number on the chain.
Both stand in the account itself, or else in the account on which it is based.
-/

namespace TokenBridge.Lcd

structure AccountInfo where
  sequence : UInt64
  number : UInt64
  deriving DecidableEq, Repr

namespace AccountInfo

/-- A value of the account, or of the account on which it is based. -/
def find? (account : Json) (name : String) : Option Json :=
  match account.field? name with
  | some v => some v
  | none => (account.field? "base_account").bind fun base => base.field? name

/-- A number of the account. What is not a text counts as zero. -/
def readNumber (account : Json) (name : String) : Except Report UInt64 :=
  (Numeral.readUInt64 (((find? account name).bind Json.string?).getD "0")).mapError fun f =>
    .of s!"Invalid {name} in account response: {f.message}"

/-- The account that an answer tells of. -/
def read (answer : Json) : Except Report AccountInfo := do
  let some account := answer.field? "account"
    | throw (.of "Missing 'account' field in response")
  return ⟨← readNumber account "sequence", ← readNumber account "account_number"⟩

end AccountInfo

/-- Asks for an account. -/
def accountInfo (server address : String) : Talk Report AccountInfo := do
  AccountInfo.read (← getJson server s!"/cosmos/auth/v1beta1/accounts/{address}" "account")

end TokenBridge.Lcd
