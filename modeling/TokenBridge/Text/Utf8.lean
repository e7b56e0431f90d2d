import TokenBridge.Bytes

set_option autoImplicit false

/-! # UTF-8

Text is written in UTF-8, and bytes that are not UTF-8 are refused with the place of the first
byte that fits no character. A character that the bytes break off in the middle of is told apart
from one that can never be completed.
-/

namespace TokenBridge.Utf8

/-- The bytes of a text. -/
def encode (s : String) : Bytes := s.toList.flatMap String.utf8EncodeChar

/-- Why bytes are not UTF-8: where the first bad character starts, and how many bytes are known to
belong to no character, if the bytes do not simply end too early. -/
structure Fault where
  index : Nat
  length? : Option Nat
  deriving DecidableEq, Repr

def Fault.message (f : Fault) : String :=
  match f.length? with
  | some n => s!"invalid utf-8 sequence of {n} bytes from index {f.index}"
  | none => s!"incomplete utf-8 byte sequence from index {f.index}"

/-! ## One character -/

/-- The range that the second byte of a character must lie in, and how many bytes follow the
first, for each first byte that starts a character of more than one byte. -/
def lead? (b : UInt8) : Option (Nat × UInt8 × UInt8) :=
  if 0xC2 ≤ b ∧ b ≤ 0xDF then some (1, 0x80, 0xBF)
  else if b = 0xE0 then some (2, 0xA0, 0xBF)
  else if b = 0xED then some (2, 0x80, 0x9F)
  else if 0xE1 ≤ b ∧ b ≤ 0xEF then some (2, 0x80, 0xBF)
  else if b = 0xF0 then some (3, 0x90, 0xBF)
  else if 0xF1 ≤ b ∧ b ≤ 0xF3 then some (3, 0x80, 0xBF)
  else if b = 0xF4 then some (3, 0x80, 0x8F)
  else none

/-- What the first byte contributes to the number of a character with `n` further bytes. -/
def leadBits (n : Nat) (b : UInt8) : Nat :=
  if n = 1 then b.toNat % 32 else if n = 2 then b.toNat % 16 else b.toNat % 8

/-- Reads `n` further bytes of a character, the next of them between `lo` and `hi`. `seen` bytes of
the character have been read and `acc` holds their bits. The failure is the length of the bad
part, or nothing if the bytes end. -/
def tail : Nat → UInt8 → UInt8 → Nat → Nat → Bytes → Except (Option Nat) (Nat × Bytes)
  | 0, _, _, _, acc, rest => .ok (acc, rest)
  | _ + 1, _, _, _, _, [] => .error none
  | n + 1, lo, hi, seen, acc, b :: rest =>
      if lo ≤ b ∧ b ≤ hi then tail n 0x80 0xBF (seen + 1) (acc * 64 + b.toNat % 64) rest
      else .error (some seen)

theorem tail_rest_le (n : Nat) (lo hi : UInt8) (seen acc : Nat) (bs rest : Bytes) (c : Nat)
    (h : tail n lo hi seen acc bs = .ok (c, rest)) : rest.length ≤ bs.length := by
  induction n generalizing lo hi seen acc bs with
  | zero => simp only [tail, Except.ok.injEq, Prod.mk.injEq] at h; simp [h.2]
  | succ n ih =>
      cases bs with
      | nil => simp [tail] at h
      | cons b bs =>
          rw [tail] at h
          split at h
          · have := ih _ _ _ _ _ h
            simp only [List.length_cons]
            omega
          · simp at h

/-! ## Whole texts -/

/-- Reads the characters of `bs`, the first of which starts at byte `index`. -/
def decodeFrom (index : Nat) (bs : Bytes) : Except Fault (List Char) :=
  match bs with
  | [] => .ok []
  | b :: rest =>
      if b < 0x80 then do
        let cs ← decodeFrom (index + 1) rest
        return Char.ofNat b.toNat :: cs
      else
        match lead? b with
        | none => .error ⟨index, some 1⟩
        | some (n, lo, hi) =>
            match h : tail n lo hi 1 (leadBits n b) rest with
            | .error bad => .error ⟨index, bad⟩
            | .ok (c, rest') => do
                let cs ← decodeFrom (index + n + 1) rest'
                return Char.ofNat c :: cs
  termination_by bs.length
  decreasing_by
    · simp
    · have := tail_rest_le _ _ _ _ _ _ _ _ h
      simp only [List.length_cons]
      omega

/-- The text that the bytes spell. -/
def decode (bs : Bytes) : Except Fault String := (decodeFrom 0 bs).map String.ofList

end TokenBridge.Utf8
