import TokenBridge.Json.Skip

set_option autoImplicit false

/-! # Reading data texts

The grammar of JSON, read from left to right. A reader may say which parts of a value it looks at:
of all other fields only the form is checked, and they are left out of the value.
-/

namespace TokenBridge.Json

/-! ## Strings -/

/-- The second half of a pair of escapes that spells one character; `high` is the value of the
first half. -/
def secondHalf (high : Nat) (s : List Char) : Except Stop (Char × List Char) :=
  match s with
  | [] | ['\\'] => stopAfter .endOfString []
  | '\\' :: 'u' :: rest => do
      let (low, rest) ← hexFour rest
      if 0xDC00 ≤ low ∧ low ≤ 0xDFFF then
        return (Char.ofNat ((high - 0xD800) * 1024 + (low - 0xDC00) + 0x10000), rest)
      else stopAfter .loneSurrogate rest
  | '\\' :: rest => stopAt .endOfHexEscape rest
  | _ => stopAt .endOfHexEscape s

/-- What stands after the backslash of an escape. -/
def escaped (s : List Char) : Except Stop (Char × List Char) :=
  match s with
  | [] => stopAfter .endOfString []
  | '"' :: rest => .ok ('"', rest)
  | '\\' :: rest => .ok ('\\', rest)
  | '/' :: rest => .ok ('/', rest)
  | 'b' :: rest => .ok (Char.ofNat 8, rest)
  | 'f' :: rest => .ok (Char.ofNat 12, rest)
  | 'n' :: rest => .ok ('\n', rest)
  | 'r' :: rest => .ok ('\r', rest)
  | 't' :: rest => .ok ('\t', rest)
  | 'u' :: rest => do
      let (n, rest) ← hexFour rest
      if 0xDC00 ≤ n ∧ n ≤ 0xDFFF then stopAfter .loneSurrogate rest
      else if 0xD800 ≤ n ∧ n ≤ 0xDBFF then secondHalf n rest
      else return (Char.ofNat n, rest)
  | _ => stopAt .invalidEscape s

/-- Reads the rest of a string after its opening quote. Every character takes at least one step, so
`fuel` never runs out when it starts as the length of the text. -/
def stringRest : Nat → List Char → Except Stop (List Char × List Char)
  | _, [] => stopAfter .endOfString []
  | 0, s => stopAfter .endOfString s
  | fuel + 1, c :: rest =>
      if c = '"' then .ok ([], rest)
      else if c = '\\' then do
        let (d, rest) ← escaped rest
        let (ds, rest) ← stringRest fuel rest
        return (d :: ds, rest)
      else if c.toNat < 32 then stopAfter .controlCharacter rest
      else do
        let (ds, rest) ← stringRest fuel rest
        return (c :: ds, rest)

def readString (s : List Char) : Except Stop (String × List Char) := do
  let (cs, rest) ← stringRest s.length s
  return (String.ofList cs, rest)

/-! ## Numbers -/

def digitValues (cs : List Char) : List Nat := cs.map fun c => c.toNat - 48

/-- The number that the leading digits spell onto `acc`. When it does not fit 31 bits there is none,
and the rest starts after the digit that shows it. -/
def readPower : Nat → List Char → Option Nat × List Char
  | acc, [] => (some acc, [])
  | acc, c :: rest =>
      if c.isDigit then
        let n := acc * 10 + (c.toNat - 48)
        if n < Nat.pow 2 31 then readPower n rest else (none, rest)
      else (some acc, c :: rest)

/-- A number in double precision. A significand of zero stays zero under every exponent. -/
def makeDouble (negative : Bool) (significand : Nat) (exponent : Int) (rest : List Char) :
    Except Stop (Number × List Char) :=
  if significand = 0 then .ok (.double (Binary64.zero negative), rest)
  else
    match scaleDouble negative significand exponent with
    | some x => .ok (.double x, rest)
    | none => stopAfter .numberOutOfRange rest

/-- Reads the power of ten after the mark of an exponent, and makes the number. A power that does
not fit 31 bits makes it too large, or zero. -/
def readExponent (negative : Bool) (significand : Nat) (exponent : Int) (s : List Char) :
    Except Stop (Number × List Char) :=
  let (down, s) := match s with
    | '+' :: rest => (false, rest)
    | '-' :: rest => (true, rest)
    | other => (false, other)
  match s with
  | [] => stopAfter .endOfValue []
  | c :: _ =>
      if !c.isDigit then stopAt .invalidNumber s
      else
        match readPower 0 s with
        | (some power, rest) =>
            let power := if down then -Int.ofNat power else Int.ofNat power
            makeDouble negative significand (exponent + power) rest
        | (none, rest) =>
            if significand = 0 ∨ down then
              .ok (.double (Binary64.zero negative), rest.dropWhile Char.isDigit)
            else stopAfter .numberOutOfRange rest

/-- Reads the exponent, if there is one, of a number whose digits have been read. -/
def finishDouble (negative : Bool) (significand : Nat) (exponent : Int) (s : List Char) :
    Except Stop (Number × List Char) :=
  match s with
  | 'e' :: rest | 'E' :: rest => readExponent negative significand exponent rest
  | _ => makeDouble negative significand exponent s

/-- A number without point and exponent. -/
def makeWhole (negative : Bool) (digits rest : List Char) : Except Stop (Number × List Char) :=
  let n := (digitValues digits).foldl (fun acc d => acc * 10 + d) 0
  if (doubleOfInteger negative n).isNone then stopAfter .numberOutOfRange rest
  else .ok (.integer negative n, rest)

/-- Reads a number after its sign. Only the leading digits that fit 64 bits count; those left out
before the point are made up for by the exponent. -/
def readNumber (negative : Bool) (s : List Char) : Except Stop (Number × List Char) :=
  match s with
  | [] => stopAfter .endOfValue []
  | c :: _ =>
      if !c.isDigit then stopAt .invalidNumber s
      else
        let digits := if c = '0' then [c] else s.takeWhile Char.isDigit
        let rest := s.drop digits.length
        let (significand, left) := leadingDigits 0 (digitValues digits)
        match rest with
        | '.' :: rest =>
            let decimals := rest.takeWhile Char.isDigit
            let after := rest.dropWhile Char.isDigit
            if decimals.isEmpty then
              (if after.isEmpty then stopAt .endOfValue after else stopAt .invalidNumber after)
            else
              let (all, unused) := leadingDigits significand (digitValues decimals)
              finishDouble negative all
                (Int.ofNat left - Int.ofNat (decimals.length - unused)) after
        | 'e' :: _ | 'E' :: _ => finishDouble negative significand left rest
        | d :: _ =>
            if c = '0' ∧ d.isDigit then stopAt .invalidNumber rest
            else makeWhole negative digits rest
        | [] => makeWhole negative digits rest

/-! ## The outermost layer of a value -/

/-- What a value starts with: the whole of it, or a bracket that opens it. -/
inductive Head
  | scalar (value : Json)
  | list
  | object

/-- Reads what a value starts with. -/
def readHead (s : List Char) : Except Stop (Head × List Char) :=
  match skipBlanks s with
  | [] => stopAt .endOfValue []
  | 'n' :: rest => (afterWord "ull".toList rest).map (Head.scalar .null, ·)
  | 't' :: rest => (afterWord "rue".toList rest).map (Head.scalar (.bool true), ·)
  | 'f' :: rest => (afterWord "alse".toList rest).map (Head.scalar (.bool false), ·)
  | '-' :: rest => (readNumber true rest).map fun (n, rest) => (.scalar (.number n), rest)
  | '"' :: rest => (readString rest).map fun (text, rest) => (.scalar (.string text), rest)
  | '[' :: rest => .ok (.list, rest)
  | '\x7b' :: rest => .ok (.object, rest)
  | c :: rest =>
      if c.isDigit then
        (readNumber false (c :: rest)).map fun (n, rest) => (.scalar (.number n), rest)
      else stopAt .expectedValue (c :: rest)

/-! ## Between the parts of a list or an object -/

/-- Where the next item of a list starts, unless the list ends. -/
inductive NextItem
  | none (rest : List Char)
  | item (start : List Char)

/-- Looks for the next item; `first` tells that there has been none. -/
def nextItem (first : Bool) (s : List Char) : Except Stop NextItem :=
  match skipBlanks s with
  | [] => stopAt .endOfList []
  | ']' :: rest => .ok (.none rest)
  | c :: rest =>
      if first then .ok (.item (c :: rest))
      else if c ≠ ',' then stopAt .expectedListEnd (c :: rest)
      else
        match skipBlanks rest with
        | [] => stopAt .endOfValue []
        | ']' :: more => stopAt .trailingComma (']' :: more)
        | more => .ok (.item more)

/-- The name of the next field, and what follows the name, unless the object ends. -/
inductive NextField
  | none (rest : List Char)
  | field (name : String) (rest : List Char)

/-- Reads the next name; `first` tells that there has been none. -/
def nextField (first : Bool) (s : List Char) : Except Stop NextField :=
  match skipBlanks s with
  | [] => stopAt .endOfObject []
  | '\x7d' :: rest => .ok (.none rest)
  | c :: rest => do
      let start ←
        if first then pure (c :: rest)
        else if c ≠ ',' then stopAt .expectedObjectEnd (c :: rest)
        else
          match skipBlanks rest with
          | [] => stopAt .endOfValue []
          | '\x7d' :: more => stopAt .trailingComma ('\x7d' :: more)
          | more => pure more
      match start with
      | '"' :: rest => do
          let (name, rest) ← readString rest
          return .field name rest
      | other => stopAt .keyMustBeString other

/-! ## Shapes -/

/-- The parts of a value that are looked at. -/
inductive Shape
  | all
  /-- A list whose items are looked at in the same way. -/
  | items (item : Shape)
  /-- An object of which some fields are looked at, or a list of them in their order. -/
  | record (fields : List (String × Shape))
  /-- An object that names one of several cases. -/
  | choice (cases : List (String × Shape))

namespace Shape

/-- A record whose fields are looked at as a whole. -/
def flat (names : List String) : Shape := record (names.map (·, all))

/-- How the item at a place of a list is looked at. -/
def item (s : Shape) (index : Nat) : Shape :=
  match s with
  | all | choice _ => all
  | items s => s
  | record fields => (fields[index]?.map Prod.snd).getD all

/-- How the field of that name is looked at, if it is. -/
def field? (s : Shape) (name : String) : Option Shape :=
  match s with
  | all | items _ => some all
  | record fields => fields.lookup name
  | choice cases => some ((cases.lookup name).getD all)

end Shape

/-! ## Values -/

/-- The number of levels that may be opened inside each other, plus one. -/
def depthLimit : Nat := 128

mutual

/-- Reads a value; `depth` levels less one may still be opened. -/
def readValue (shape : Shape) (depth : Nat) : Nat → List Char → Except Stop (Json × List Char)
  | 0, s => stopAfter .tooDeep s
  | fuel + 1, s => do
      match ← readHead s with
      | (.scalar value, rest) => return (value, rest)
      | (.list, rest) =>
          if depth ≤ 1 then stopAt .tooDeep (skipBlanks s)
          else
            let (items, rest) ← readItems shape (depth - 1) 0 fuel rest
            return (.array items, rest)
      | (.object, rest) =>
          if depth ≤ 1 then stopAt .tooDeep (skipBlanks s)
          else
            let (fields, rest) ← readFields shape (depth - 1) true fuel rest
            return (.object fields, rest)

/-- Reads the items of a list from the one at that place on up to its end. -/
def readItems (shape : Shape) (depth index : Nat) :
    Nat → List Char → Except Stop (List Json × List Char)
  | 0, s => stopAfter .tooDeep s
  | fuel + 1, s => do
      match ← nextItem (index = 0) s with
      | .none rest => return ([], rest)
      | .item start =>
          let (item, rest) ← readValue (shape.item index) depth fuel start
          let (items, rest) ← readItems shape depth (index + 1) fuel rest
          return (item :: items, rest)

/-- Reads the fields of an object up to its end. -/
def readFields (shape : Shape) (depth : Nat) (first : Bool) :
    Nat → List Char → Except Stop (List (String × Json) × List Char)
  | 0, s => stopAfter .tooDeep s
  | fuel + 1, s => do
      match ← nextField first s with
      | .none rest => return ([], rest)
      | .field name rest =>
          let rest ← afterColon rest
          match shape.field? name with
          | none =>
              let rest ← skip rest
              readFields shape depth false fuel rest
          | some shape' =>
              let (value, rest) ← readValue shape' depth fuel rest
              let (fields, rest) ← readFields shape depth false fuel rest
              return ((name, value) :: fields, rest)

end

/-- Reads a value inside others, of which `depth` levels less one may still be opened. -/
def readInside (depth : Nat) (s : List Char) : Except Stop (Json × List Char) :=
  readValue .all depth (2 * s.length + 2) s

/-- Reads a whole text. -/
def readText (shape : Shape) (s : String) : Except Stop Json := do
  let (value, rest) ← readValue shape depthLimit (2 * s.toList.length + 2) s.toList
  atEnd rest
  return value

/-! ## Whole texts -/

/-- The value of a text, with every object as a table. -/
def parse (s : String) : Except String Json :=
  match readText .all s with
  | .ok value => .ok value.settle
  | .error stop => .error (stop.message s)

/-- The value of a text as it stands, with the parts that are looked at. -/
def parseShape (shape : Shape) (s : String) : Option Json := (readText shape s).toOption

end TokenBridge.Json
