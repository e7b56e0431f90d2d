import TokenBridge.Json.Mismatch
import TokenBridge.Text.Utf8

set_option autoImplicit false

/-! # Where reading stops

A text that does not follow the grammar of JSON, or does not hold what is wanted, is refused at the
first place where that shows. The place is told by line and by bytes into the line.
-/

namespace TokenBridge.Json

inductive Fault
  | endOfList
  | endOfObject
  | endOfString
  | endOfValue
  | expectedColon
  | expectedListEnd
  | expectedObjectEnd
  | expectedIdent
  | expectedValue
  | invalidEscape
  | invalidNumber
  | numberOutOfRange
  | controlCharacter
  | keyMustBeString
  | loneSurrogate
  | trailingComma
  | trailingCharacters
  | endOfHexEscape
  | tooDeep
  /-- The text follows the grammar, but what it says is not wanted. -/
  | mismatch (m : Mismatch)
  deriving Repr

def Fault.message : Fault → String
  | endOfList => "EOF while parsing a list"
  | endOfObject => "EOF while parsing an object"
  | endOfString => "EOF while parsing a string"
  | endOfValue => "EOF while parsing a value"
  | expectedColon => "expected `:`"
  | expectedListEnd => "expected `,` or `]`"
  | expectedObjectEnd => "expected `,` or `\x7d`"
  | expectedIdent => "expected ident"
  | expectedValue => "expected value"
  | invalidEscape => "invalid escape"
  | invalidNumber => "invalid number"
  | numberOutOfRange => "number out of range"
  | controlCharacter => "control character (\\u0000-\\u001F) found while parsing a string"
  | keyMustBeString => "key must be a string"
  | loneSurrogate => "lone leading surrogate in hex escape"
  | trailingComma => "trailing comma"
  | trailingCharacters => "trailing characters"
  | endOfHexEscape => "unexpected end of hex escape"
  | tooDeep => "recursion limit exceeded"
  | mismatch m => m.message

/-- What is left of the text, and how many of its bytes belong to the fault. -/
structure Stop where
  fault : Fault
  rest : List Char
  reach : Nat
  deriving Repr

/-- Stops before the rest, at its first byte. -/
def stopAt {α : Type} (fault : Fault) (rest : List Char) : Except Stop α :=
  .error ⟨fault, rest, 1⟩

/-- Stops after what has been read. -/
def stopAfter {α : Type} (fault : Fault) (rest : List Char) : Except Stop α :=
  .error ⟨fault, rest, 0⟩

/-- The fault and its place: the line, and the bytes up to it within the line. -/
def Stop.message (text : String) (stop : Stop) : String :=
  let all := Utf8.encode text
  let unread := (Utf8.encode (String.ofList stop.rest)).length
  let before := all.take (all.length - unread + stop.reach)
  let line := before.count 10 + 1
  let column := (before.reverse.takeWhile (· ≠ 10)).length
  s!"{stop.fault.message} at line {line} column {column}"

/-! ## Small pieces of the grammar -/

def skipBlanks (s : List Char) : List Char :=
  s.dropWhile fun c => c = ' ' || c = '\n' || c = '\t' || c = '\r'

/-- Nothing but blanks is left. -/
def atEnd (s : List Char) : Except Stop Unit :=
  match skipBlanks s with
  | [] => .ok ()
  | rest => stopAt .trailingCharacters rest

/-- The rest of one of the three words of the language. -/
def afterWord : List Char → List Char → Except Stop (List Char)
  | [], rest => .ok rest
  | _ :: _, [] => stopAfter .endOfValue []
  | w :: word, c :: rest => if w = c then afterWord word rest else stopAt .expectedIdent (c :: rest)

/-- What follows the colon after a name. -/
def afterColon (s : List Char) : Except Stop (List Char) :=
  match skipBlanks s with
  | [] => stopAt .endOfObject []
  | ':' :: rest => .ok rest
  | other => stopAt .expectedColon other

def hexValue? (c : Char) : Option Nat :=
  if c.isDigit then some (c.toNat - 48)
  else if 'a' ≤ c ∧ c ≤ 'f' then some (c.toNat - 87)
  else if 'A' ≤ c ∧ c ≤ 'F' then some (c.toNat - 55)
  else none

/-- Four digits of an escape. The fault lies within the four bytes that should hold them. -/
def hexFour (s : List Char) : Except Stop (Nat × List Char) :=
  match s with
  | a :: b :: c :: d :: rest =>
      match hexValue? a, hexValue? b, hexValue? c, hexValue? d with
      | some p, some q, some r, some t => .ok (((p * 16 + q) * 16 + r) * 16 + t, rest)
      | _, _, _, _ => .error ⟨.invalidEscape, s, 4⟩
  | _ =>
      if (Utf8.encode (String.ofList s)).length < 4 then stopAfter .endOfString []
      else .error ⟨.invalidEscape, s, 4⟩

end TokenBridge.Json
