import TokenBridge.Text.Hex

set_option autoImplicit false

/-! # Hexadecimal identifiers

Identifiers are published as hexadecimal digits with or without their mark; of some the bytes are
themselves a text.
-/

namespace TokenBridge.Identifier

inductive Fault
  | empty
  | badHex (value : String) (fault : Hex.Fault)
  | badText (fault : Utf8.Fault)
  deriving DecidableEq, Repr

def Fault.message : Fault → String
  | empty => "Empty hex identifier"
  | badHex value f => s!"Invalid hex identifier {value}: {f.message}"
  | badText f => s!"Hex payload is not UTF-8: {f.message}"

/-- The bytes of an identifier, at least one. -/
def toBytes (value : String) : Except Fault Bytes :=
  let digits := Hex.stripMark value
  if digits.isEmpty then .error .empty
  else (Hex.decodeText digits).mapError (.badHex value)

/-- The text whose bytes an identifier spells. -/
def toText (value : String) : Except Fault String := do
  let bytes ← toBytes value
  (Utf8.decode bytes).mapError .badText

end TokenBridge.Identifier
