import TokenBridge.Json.Basic

set_option autoImplicit false

/-! # Secrets

Keys and mnemonics are kept apart from other texts, so that whatever shows them shows the same
words.
-/

namespace TokenBridge

structure Secret where
  expose : String
  deriving DecidableEq

namespace Secret

/-- What is shown in place of any secret. -/
def display (_ : Secret) : String := "<redacted>"

def toJson (s : Secret) : Json := .string s.display

instance : Repr Secret := ⟨fun s _ => s.display⟩

theorem display_eq (s t : Secret) : s.display = t.display := rfl

end Secret
end TokenBridge
