import TokenBridge.Number.Binary64

set_option autoImplicit false

/-! # Reading numbers with a point

Decimal digits with an optional sign, an optional point anywhere among or beside them, and an
optional exponent; or a word for what is infinite or no number. The result is the nearest number of
double precision.
-/

namespace TokenBridge.RealNumeral

inductive Fault
  | empty
  | invalid
  deriving DecidableEq, Repr

def Fault.message : Fault → String
  | empty => "cannot parse float from empty string"
  | invalid => "invalid float literal"

def spell (cs : List Char) : Nat := cs.foldl (fun n c => n * 10 + (c.toNat - 48)) 0

/-- The text after the sign, and whether the sign is a minus. -/
def splitSign : List Char → Bool × List Char
  | '-' :: rest => (true, rest)
  | '+' :: rest => (false, rest)
  | cs => (false, cs)

/-- The exponent after its mark; no mark stands for zero. -/
def readExponent : List Char → Option Int
  | [] => some 0
  | c :: rest =>
      if c.toLower = 'e' then
        let (negative, digits) := splitSign rest
        if digits.isEmpty || !digits.all Char.isDigit then none
        else some (if negative then -Int.ofNat (spell digits) else Int.ofNat (spell digits))
      else none

/-- Digits, point and exponent. -/
def readDigits (negative : Bool) (cs : List Char) : Option Binary64 := do
  let whole := cs.takeWhile Char.isDigit
  let rest := cs.dropWhile Char.isDigit
  let (decimals, rest) := match rest with
    | '.' :: more => (more.takeWhile Char.isDigit, more.dropWhile Char.isDigit)
    | _ => ([], rest)
  if whole.isEmpty && decimals.isEmpty then none
  else do
    let exponent ← readExponent rest
    return Binary64.ofDecimal negative (spell (whole ++ decimals))
      (exponent - Int.ofNat decimals.length)

/-- The words that stand for no digits. -/
def readWord (negative : Bool) (cs : List Char) : Option Binary64 :=
  match String.ofList (cs.map Char.toLower) with
  | "inf" | "infinity" => some (.infinity negative)
  | "nan" => some .nan
  | _ => none

/-- The number that a text spells. -/
def read (s : String) : Except Fault Binary64 :=
  if s.isEmpty then .error .empty
  else
    let (negative, cs) := splitSign s.toList
    match (readWord negative cs).or (readDigits negative cs) with
    | some x => .ok x
    | none => .error .invalid

end TokenBridge.RealNumeral
