import TokenBridge.Json.Basic

set_option autoImplicit false

/-! # Printing data texts

The compact form: no blanks, fields in the order in which they stand, and in strings only the
quote, the backslash and the control characters are escaped. A number in double precision is
written with the fewest digits that read back, positionally from `1e-5` up to `1e16`; exponents
carry their sign.
-/

namespace TokenBridge.Json

/-! ## Strings -/

def hexDigit (n : Nat) : Char := if n < 10 then Char.ofNat (48 + n) else Char.ofNat (87 + n)

def escape (c : Char) : List Char :=
  if c = '"' then ['\\', '"']
  else if c = '\\' then ['\\', '\\']
  else if c.toNat = 8 then ['\\', 'b']
  else if c.toNat = 9 then ['\\', 't']
  else if c.toNat = 10 then ['\\', 'n']
  else if c.toNat = 12 then ['\\', 'f']
  else if c.toNat = 13 then ['\\', 'r']
  else if c.toNat < 32 then ['\\', 'u', '0', '0', hexDigit (c.toNat / 16), hexDigit (c.toNat % 16)]
  else [c]

def quote (s : String) : List Char := '"' :: s.toList.flatMap escape ++ ['"']

/-! ## Numbers -/

def zeros (n : Nat) : List Char := List.replicate n '0'

/-- Writes `digits * 10 ^ exponent`, always with a point or an exponent. -/
def positional (digits : List Char) (exponent : Int) : List Char :=
  let point := Int.ofNat digits.length + exponent
  if 0 ≤ exponent ∧ point ≤ 16 then digits ++ zeros exponent.toNat ++ ['.', '0']
  else if 0 < point ∧ point ≤ 16 then digits.take point.toNat ++ '.' :: digits.drop point.toNat
  else if -5 < point ∧ point ≤ 0 then '0' :: '.' :: zeros (-point).toNat ++ digits
  else
    let mantissa := match digits with
      | [d] => [d]
      | d :: rest => d :: '.' :: rest
      | [] => []
    let sign := if 0 < point then ['+'] else []
    mantissa ++ 'e' :: sign ++ (toString (point - 1)).toList

def printDouble : Binary64 → List Char
  | .finite negative m e =>
      let x := Binary64.shortest m e
      (if negative then ['-'] else []) ++ positional (Nat.toDigits 10 x.digits) x.exponent
  | _ => "null".toList

def Number.print : Number → List Char
  | .integer negative n => (if negative then ['-'] else []) ++ Nat.toDigits 10 n
  | .double x => printDouble x

/-! ## Values -/

mutual

def printChars : Json → List Char
  | .null => "null".toList
  | .bool b => (if b then "true" else "false").toList
  | .number n => n.print
  | .string s => quote s
  | .array items => '[' :: printItems items ++ [']']
  | .object fields => '\x7b' :: printFields fields ++ ['\x7d']

def printItems : List Json → List Char
  | [] => []
  | [v] => printChars v
  | v :: rest => printChars v ++ ',' :: printItems rest

def printFields : List (String × Json) → List Char
  | [] => []
  | [(name, v)] => quote name ++ ':' :: printChars v
  | (name, v) :: rest => quote name ++ ':' :: printChars v ++ ',' :: printFields rest

end

/-- The compact text of a value. -/
def print (j : Json) : String := String.ofList (printChars j)

end TokenBridge.Json
