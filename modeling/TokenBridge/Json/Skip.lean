import TokenBridge.Json.Stop

set_option autoImplicit false

/-! # Skipping values

A value that is not wanted is passed over. Only its form is checked: halves of a pair of escapes may
stand alone, numbers may be as large as they like, and lists and objects may stand inside each other
to any depth.
-/

namespace TokenBridge.Json

/-! ## Strings -/

/-- What follows an escape after its backslash. -/
def skipEscape (s : List Char) : Except Stop (List Char) :=
  match s with
  | [] => stopAfter .endOfString []
  | 'u' :: rest => do
      let (_, rest) ← hexFour rest
      return rest
  | c :: rest => if "\"\\/bfnrt".toList.contains c then .ok rest else stopAt .invalidEscape s

/-- What follows a string after its opening quote. Every character takes at least one step, so
`fuel` never runs out when it starts as the length of the text. -/
def skipString : Nat → List Char → Except Stop (List Char)
  | _, [] => stopAfter .endOfString []
  | 0, s => stopAfter .endOfString s
  | fuel + 1, c :: rest =>
      if c = '"' then .ok rest
      else if c = '\\' then do skipString fuel (← skipEscape rest)
      else if c.toNat < 32 then stopAfter .controlCharacter (c :: rest)
      else skipString fuel rest

/-! ## Numbers -/

/-- What follows digits, of which there must be one. -/
def skipDigits (s : List Char) : Except Stop (List Char) :=
  match s.head?.map Char.isDigit with
  | some true => .ok (s.dropWhile Char.isDigit)
  | _ => stopAt .invalidNumber s

/-- What follows the exponent, if there is one. -/
def skipExponent (s : List Char) : Except Stop (List Char) :=
  match s with
  | 'e' :: '+' :: rest | 'e' :: '-' :: rest | 'E' :: '+' :: rest | 'E' :: '-' :: rest =>
      skipDigits rest
  | 'e' :: rest | 'E' :: rest => skipDigits rest
  | _ => .ok s

/-- What follows a number after its sign. -/
def skipNumber (s : List Char) : Except Stop (List Char) := do
  let rest ← match s with
    | '0' :: c :: rest =>
        if c.isDigit then stopAt .invalidNumber (c :: rest) else pure (c :: rest)
    | _ => skipDigits s
  match rest with
  | '.' :: rest => skipExponent (← skipDigits rest)
  | _ => skipExponent rest

/-! ## Values -/

mutual

/-- What follows a value. -/
def skipValue : Nat → List Char → Except Stop (List Char)
  | 0, s => stopAfter .endOfValue s
  | fuel + 1, s =>
      match skipBlanks s with
      | [] => stopAt .endOfValue []
      | 'n' :: rest => afterWord "ull".toList rest
      | 't' :: rest => afterWord "rue".toList rest
      | 'f' :: rest => afterWord "alse".toList rest
      | '-' :: rest => skipNumber rest
      | '"' :: rest => skipString rest.length rest
      | '[' :: rest => skipItems true fuel rest
      | '\x7b' :: rest => skipFields true fuel rest
      | c :: rest => if c.isDigit then skipNumber (c :: rest) else stopAt .expectedValue (c :: rest)

/-- What follows the end of a list; `first` tells that no item has been passed. -/
def skipItems (first : Bool) : Nat → List Char → Except Stop (List Char)
  | 0, s => stopAfter .endOfList s
  | fuel + 1, s =>
      match skipBlanks s with
      | [] => stopAt .endOfList []
      | ']' :: rest => .ok rest
      | c :: rest => do
          let start ←
            if first then pure (c :: rest)
            else if c = ',' then pure rest
            else stopAt .expectedListEnd (c :: rest)
          skipItems false fuel (← skipValue fuel start)

/-- What follows the end of an object. -/
def skipFields (first : Bool) : Nat → List Char → Except Stop (List Char)
  | 0, s => stopAfter .endOfObject s
  | fuel + 1, s =>
      match skipBlanks s with
      | [] => stopAt .endOfObject []
      | '\x7d' :: rest => .ok rest
      | c :: rest => do
          let start ←
            if first then pure (c :: rest)
            else if c = ',' then pure (skipBlanks rest)
            else stopAt .expectedObjectEnd (c :: rest)
          match start with
          | [] => stopAt .endOfObject []
          | '"' :: rest => do
              let rest ← afterColon (← skipString rest.length rest)
              skipFields false fuel (← skipValue fuel rest)
          | other => stopAt .keyMustBeString other

end

/-- What follows a value. Every value takes at most two steps for each of its characters. -/
def skip (s : List Char) : Except Stop (List Char) := skipValue (2 * s.length + 2) s

end TokenBridge.Json
