import TokenBridge.Crypto.Sha256
import TokenBridge.Text.LetterShape
import TokenBridge.Wallet.Words

set_option autoImplicit false

/-! # Mnemonics

A mnemonic spells a secret in words. Each word stands for eleven bits; of every 33 bits the last one
belongs to a check sum, which is taken from the hash of the others.
-/

namespace TokenBridge.Wallet

/-- The places of the words in the list. -/
structure Mnemonic where
  places : List Nat
  deriving DecidableEq, Repr

namespace Mnemonic

inductive Fault
  | wordCount (count : Nat)
  | unknownWord (index : Nat)
  | badCheckSum
  deriving DecidableEq, Repr

def Fault.message : Fault → String
  | wordCount n =>
      s!"mnemonic has an invalid word count: {n}. Word count must be 12, 15, 18, 21, or 24"
  | unknownWord i => s!"mnemonic contains an unknown word (word {i})"
  | badCheckSum => "the mnemonic has an invalid checksum"

/-- How many words a mnemonic can have. -/
def counts : List Nat := [12, 15, 18, 21, 24]

/-- The places of the words; the first word stands at `index`. -/
def findPlaces (index : Nat) : List String → Except Fault (List Nat)
  | [] => .ok []
  | word :: rest =>
      match place? word with
      | none => .error (.unknownWord index)
      | some place => (findPlaces (index + 1) rest).map (place :: ·)

/-- The number that the places spell. -/
def spell (places : List Nat) : Nat := places.foldl (fun n place => n * 2048 + place) 0

/-- The last bits are the first ones of the hash of those before them. -/
def checks (places : List Nat) : Bool :=
  let sumBits := places.length / 3
  let n := spell places
  let digest := Sha256.hash (bigEndian (4 * sumBits) (n / Nat.pow 2 sumBits))
  ofBigEndian (digest.take 1) / Nat.pow 2 (8 - sumBits) == n % Nat.pow 2 sumBits

/-- Reads words between blanks. The shape of the letters does not count. -/
def parse (s : String) : Except Fault Mnemonic := do
  let words := Blank.words (LetterShape.plain s)
  if words.length ∉ counts then throw (.wordCount words.length)
  let places ← findPlaces 0 words
  if checks places then return ⟨places⟩ else throw .badCheckSum

end Mnemonic
end TokenBridge.Wallet
