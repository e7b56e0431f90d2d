import TokenBridge.Text.Printable

set_option autoImplicit false

/-! # Quoted text

Characters and texts as they are shown in messages: between quotes, with the quote of that kind,
the backslash and the common control characters after a backslash, and every other character that
has no visible form by its number.
-/

namespace TokenBridge.Quoted

/-- A character between quotes of the kind `quote`. -/
def escape (quote c : Char) : List Char :=
  if c = quote ∨ c = '\\' then ['\\', c]
  else if c = '\n' then ['\\', 'n']
  else if c = '\t' then ['\\', 't']
  else if c = '\r' then ['\\', 'r']
  else if c.toNat = 0 then ['\\', '0']
  else if Printable.isPrintable c then [c]
  else "\\u\x7b".toList ++ Nat.toDigits 16 c.toNat ++ ['\x7d']

/-- A character in single quotes. -/
def char (c : Char) : String := String.ofList (['\''] ++ escape '\'' c ++ ['\''])

/-- A text in double quotes. -/
def text (s : String) : String := String.ofList (['"'] ++ s.toList.flatMap (escape '"') ++ ['"'])

end TokenBridge.Quoted
