import TokenBridge.Url.Domain

set_option autoImplicit false

/-! # Hosts

A host is a name, four numbers, or eight numbers in brackets. A name whose last part is a number is
read as the four numbers, each of which may also be given in the base eight or sixteen, and the last
of which may stand for several.
-/

namespace TokenBridge.Url

inductive Fault
  | relative
  | emptyHost
  | badPort
  | badFourNumbers
  | badEightNumbers
  | badName
  | badCharacter
  deriving DecidableEq, Repr

def Fault.message : Fault → String
  | relative => "relative URL without a base"
  | emptyHost => "empty host"
  | badPort => "invalid port number"
  | badFourNumbers => "invalid IPv4 address"
  | badEightNumbers => "invalid IPv6 address"
  | badName => "invalid international domain name"
  | badCharacter => "invalid domain character"

namespace Host

/-! ## Four numbers -/

def digitIn? (base : Nat) (c : Char) : Option Nat :=
  match Hex.value? (UInt8.ofNat c.toNat) with
  | some d => if c.toNat < 128 ∧ d < base then some d else none
  | none => none

/-- The number that the digits spell. -/
def number? (base : Nat) (cs : List Char) : Option Nat :=
  cs.foldlM (fun n c => (digitIn? base c).map fun d => n * base + d) 0

/-- A part of four numbers, whose base is told by its first digits. -/
def part? : List Char → Option Nat
  | [] => none
  | '0' :: 'x' :: rest | '0' :: 'X' :: rest => number? 16 rest
  | '0' :: c :: rest => number? 8 (c :: rest)
  | cs => number? 10 cs

/-- The parts of a name, without the empty one after a last point. -/
def parts (cs : List Char) : List (List Char) :=
  let all := Pieces.cut (· = '.') cs
  if all.getLast? = some [] then all.dropLast else all

/-- The last part of a name is a number. -/
def endsInNumber (cs : List Char) : Bool :=
  match (parts cs).getLast? with
  | some last => (last ≠ [] && last.all Char.isDigit) || (part? last).isSome
  | none => false

/-- The four numbers: all but the last below 256, the last filling what is left. -/
def fourNumbers? (cs : List Char) : Option Nat := do
  let numbers ← (parts cs).mapM part?
  let last ← numbers.getLast?
  let first := numbers.dropLast
  if 3 < first.length ∨ first.any (256 ≤ ·) ∨ Nat.pow 256 (4 - first.length) ≤ last then none
  else some (first.foldr (fun n rest => rest / 256 + n * Nat.pow 256 3) 0 + last)

def printFour (n : Nat) : String :=
  ".".intercalate ((bigEndian 4 n).map fun b => toString b.toNat)

/-! ## Eight numbers -/

/-- A decimal number below 256 without leading zeros. -/
def octet? (cs : List Char) : Option Nat :=
  if cs.length > 1 ∧ cs.head? = some '0' then none
  else if cs.isEmpty then none
  else do
    let n ← number? 10 cs
    if n < 256 then some n else none

/-- One to four digits of the base sixteen. -/
def piece? (cs : List Char) : Option Nat :=
  if cs.isEmpty ∨ 4 < cs.length then none else number? 16 cs

/-- The pieces between colons; the last one may be given as four numbers instead, and counts for
two. -/
def pieces? (allowFour : Bool) : List (List Char) → Option (List Nat)
  | [] => some []
  | [last] =>
      if last.contains '.' then
        match allowFour, (Pieces.cut (· = '.') last).mapM octet? with
        | true, some [a, b, c, d] => some [a * 256 + b, c * 256 + d]
        | _, _ => none
      else (piece? last).map ([·])
  | p :: rest => do
      let n ← piece? p
      let ns ← pieces? allowFour rest
      return n :: ns

/-- The pieces of a text, which may be empty. -/
def row? (allowFour : Bool) (cs : List Char) : Option (List Nat) :=
  if cs.isEmpty then some [] else pieces? allowFour (Pieces.cut (· = ':') cs)

/-- What stands before and after the first two colons in a row. -/
def splitGap : List Char → Option (List Char × List Char)
  | ':' :: ':' :: rest => some ([], rest)
  | c :: rest => (splitGap rest).map fun (before, after) => (c :: before, after)
  | [] => none

/-- Eight pieces, or fewer with a gap that stands for the missing ones. -/
def eightNumbers? (cs : List Char) : Option (List Nat) := do
  match splitGap cs with
  | none =>
      let ns ← row? true cs
      if ns.length = 8 then some ns else none
  | some (before, after) =>
      let left ← row? false before
      let right ← row? true after
      if 7 < left.length + right.length then none
      else some (left ++ List.replicate (8 - left.length - right.length) 0 ++ right)

/-- How many zeros a list starts with. -/
def leadingZeros (ns : List Nat) : Nat := (ns.takeWhile (· = 0)).length

/-- The longest run of at least two zeros, the first of several: what stands before and after
it. -/
def longestRun (before : List Nat) : List Nat → Option (Nat × List Nat × List Nat)
  | [] => none
  | n :: rest =>
      let here := leadingZeros (n :: rest)
      let later := longestRun (before ++ [n]) rest
      if 2 ≤ here ∧ (later.map (·.1)).getD 0 ≤ here then
        some (here, before, (n :: rest).drop here)
      else later

def printPieces (ns : List Nat) : String :=
  ":".intercalate (ns.map fun n => String.ofList (Nat.toDigits 16 n))

/-- Eight numbers, with the longest run of zeros left out. -/
def printEight (ns : List Nat) : String :=
  match longestRun [] ns with
  | some (_, before, after) => printPieces before ++ "::" ++ printPieces after
  | none => printPieces ns

/-! ## Names -/

/-- What stands in brackets. -/
def bracketed (cs : List Char) : Except Fault String :=
  if cs.getLast? ≠ some ']' then .error .badEightNumbers
  else
    match eightNumbers? cs.dropLast with
    | some ns => .ok s!"[{printEight ns}]"
    | none => .error .badEightNumbers

/-- A host after one of the schemes that are known. -/
def parse : List Char → Except Fault String
  | '[' :: cs => bracketed cs
  | cs =>
      match Utf8.decode (Percent.decode (Utf8.encode (String.ofList cs))) with
      | .error _ => .error .badName
      | .ok name =>
          match Domain.write? name.toList with
          | none => .error .badName
          | some name =>
              if name.isEmpty then .error .emptyHost
              else if endsInNumber name then
                match fourNumbers? name with
                | some n => .ok (printFour n)
                | none => .error .badFourNumbers
              else .ok (String.ofList name)

/-- A host after any other scheme stands for itself. -/
def parseOpaque : List Char → Except Fault String
  | '[' :: cs => bracketed cs
  | cs =>
      if cs.any ("\x00\t\n\r #/:<>?@[\\]^|".toList.contains ·) then .error .badCharacter
      else .ok (String.ofList (Percent.encode [] cs))

end Host
end TokenBridge.Url
