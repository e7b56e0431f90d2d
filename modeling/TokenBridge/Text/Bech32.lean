import TokenBridge.Text.Utf8

set_option autoImplicit false

/-! # Bech32

An address text has a readable part, the separator `1`, and data symbols of five bits each, the
last six of which are a checksum over all that stands before them. Two checksum constants are in
use and both are accepted. Letters are all of one case; the readable part is returned in lower
case.
-/

namespace TokenBridge.Bech32

abbrev Symbol := BitVec 5

inductive Fault
  | missingSeparator
  | invalidLength
  | invalidCharacter (c : Char)
  | mixedCase
  | invalidChecksum
  deriving DecidableEq, Repr

def Fault.message : Fault → String
  | missingSeparator => "missing human-readable separator, \"1\""
  | invalidLength => "invalid length"
  | invalidCharacter c => s!"invalid character (code={c})"
  | mixedCase => "mixed-case strings not allowed"
  | invalidChecksum => "invalid checksum"

/-! ## Symbols -/

/-- The characters of the 32 symbols, in order of their value. -/
def alphabet : List Char := "qpzry9x8gf2tvdw0s3jn54khce6mua7l".toList

/-- The symbol of a character, in either case. -/
def symbol? (c : Char) : Option Symbol :=
  (alphabet.findIdx? (· = c.toLower)).map (BitVec.ofNat 5)

/-! ## Checksum -/

/-- What each bit that leaves the register mixes back into it. -/
def generators : List (BitVec 30) := [0x3b6a57b2, 0x26508e6d, 0x1ea119fa, 0x3d4233dd, 0x2a1462b3]

/-- The register after one more symbol. -/
def step (register : BitVec 30) (s : Symbol) : BitVec 30 :=
  let shifted := (register <<< 5) ^^^ s.setWidth 30
  (generators.zipIdx.filter fun (_, i) => register.getLsbD (25 + i)).foldl
    (fun acc g => acc ^^^ g.1) shifted

/-- The register after all symbols. -/
def residue (symbols : List Symbol) : BitVec 30 := symbols.foldl step 1

/-- The symbols under which the readable part enters the checksum. -/
def expand (hrp : List Char) : List Symbol :=
  hrp.map (fun c => BitVec.ofNat 5 (c.toNat / 32)) ++ 0 :: hrp.map (fun c => BitVec.ofNat 5 c.toNat)

/-- The two residues of a text without errors, one for each checksum constant. -/
def residues : List (BitVec 30) := [1, 0x2bc830a3]

def checks (hrp : List Char) (symbols : List Symbol) : Bool :=
  residues.contains (residue (expand hrp ++ symbols))

/-! ## Reading -/

inductive LetterCase
  | lower
  | upper
  deriving DecidableEq, Repr

/-- The case of a letter. -/
def caseOf? (c : Char) : Option LetterCase :=
  if c.isLower then some .lower else if c.isUpper then some .upper else none

/-- The one case of what was read so far and of `c`, if both have one case at most. -/
def joinCase (seen : Option LetterCase) (c : Char) : Except Fault (Option LetterCase) :=
  match seen, caseOf? c with
  | seen, none => .ok seen
  | none, some k => .ok (some k)
  | some j, some k => if j = k then .ok (some j) else .error .mixedCase

/-- Checks the readable part byte by byte and returns the case of its letters. -/
def checkReadable (seen : Option LetterCase) : Bytes → Except Fault (Option LetterCase)
  | [] => .ok seen
  | b :: rest =>
      let c := Char.ofNat b.toNat
      if 33 ≤ b ∧ b ≤ 126 then do
        let seen ← joinCase seen c
        checkReadable seen rest
      else .error (.invalidCharacter c)

/-- Reads data symbols, whose letters must keep to the case seen so far. -/
def readSymbols (seen : Option LetterCase) : List Char → Except Fault (List Symbol)
  | [] => .ok []
  | c :: rest =>
      if c.toNat < 128 then do
        let seen ← joinCase seen c
        match symbol? c with
        | none => .error (.invalidCharacter c)
        | some s => do
            let symbols ← readSymbols seen rest
            return s :: symbols
      else .error (.invalidCharacter c)

/-- The parts before and after the last separator. -/
def splitLast (cs : List Char) : Option (List Char × List Char) :=
  let (after, before) := cs.reverse.span (· ≠ '1')
  match before with
  | [] => none
  | _ :: hrp => some (hrp.reverse, after.reverse)

/-- A text whose checksum is right: its readable part in lower case, and its data symbols. -/
structure Decoded where
  hrp : String
  symbols : List Symbol
  deriving DecidableEq, Repr

/-- Reads a text and checks its checksum. -/
def decode (s : String) : Except Fault Decoded :=
  match splitLast s.toList with
  | none => .error .missingSeparator
  | some (hrp, data) => do
      let bytes := Utf8.encode (String.ofList hrp)
      if bytes.isEmpty ∨ 83 < bytes.length then throw .invalidLength
      let seen ← checkReadable none bytes
      let lower := hrp.map Char.toLower
      let symbols ← readSymbols seen data
      if symbols.length < 6 then throw .invalidLength
      if checks lower symbols then
        return ⟨String.ofList lower, symbols.take (symbols.length - 6)⟩
      else throw .invalidChecksum

/-! ## Bytes in symbols -/

/-- Regroups symbols into bytes. `bits` bits of value `acc` are left over from what was read; in
the end fewer than five bits may be left, and they must be zero. -/
def regroup (bits acc : Nat) : List Symbol → Option Bytes
  | [] => if bits < 5 ∧ acc = 0 then some [] else none
  | s :: rest =>
      let acc := acc * 32 + s.toNat
      let bits := bits + 5
      if bits < 8 then regroup bits acc rest
      else
        let left := Nat.pow 2 (bits - 8)
        (regroup (bits - 8) (acc % left) rest).map (UInt8.ofNat (acc / left) :: ·)

/-- The bytes that data symbols hold, if the last of them are padded with fewer than five zero
bits. -/
def payload? (symbols : List Symbol) : Option Bytes := regroup 0 0 symbols

end TokenBridge.Bech32
