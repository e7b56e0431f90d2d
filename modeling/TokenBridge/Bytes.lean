set_option autoImplicit false

/-! # Byte strings

A byte string is a list of bytes. Numbers are written in it most significant byte first, in a
fixed number of bytes; `bigEndian_length` and `ofBigEndian_bigEndian` say that nothing else is
written and that nothing is lost.
-/

namespace TokenBridge

abbrev Bytes := List UInt8

/-- A 32-byte word, the unit in which contracts exchange data. -/
abbrev Word := BitVec 256

/-- How much of a token, in its smallest unit. -/
abbrev Amount := Word

/-! ## Numbers in bytes -/

/-- The number that a byte string spells, most significant byte first. -/
def ofBigEndian (bs : Bytes) : Nat := bs.foldl (fun n b => n * 256 + b.toNat) 0

/-- The last `width` digits of `n` in base 256, most significant first. -/
def bigEndian : Nat → Nat → Bytes
  | 0, _ => []
  | width + 1, n => bigEndian width (n / 256) ++ [UInt8.ofNat n]

@[simp] theorem bigEndian_length (width n : Nat) : (bigEndian width n).length = width := by
  induction width generalizing n with
  | zero => rfl
  | succ w ih => simp [bigEndian, ih]

@[simp] theorem ofBigEndian_nil : ofBigEndian [] = 0 := rfl

theorem ofBigEndian_append_singleton (bs : Bytes) (b : UInt8) :
    ofBigEndian (bs ++ [b]) = ofBigEndian bs * 256 + b.toNat := by
  simp [ofBigEndian, List.foldl_append]

/-- Writing a number that fits and reading it back gives the number. -/
theorem ofBigEndian_bigEndian (width n : Nat) :
    ofBigEndian (bigEndian width n) = n % Nat.pow 256 width := by
  induction width generalizing n with
  | zero => simp [bigEndian, Nat.mod_one]
  | succ w ih =>
      have step : Nat.pow 256 (w + 1) = 256 * Nat.pow 256 w := Nat.mul_comm _ _
      rw [bigEndian, ofBigEndian_append_singleton, ih, step, Nat.mod_mul]
      simp only [UInt8.toNat_ofNat']
      omega

/-! ## Words -/

/-- The 32 bytes of a word. -/
def wordBytes (w : Word) : Bytes := bigEndian 32 w.toNat

/-- The word that 32 bytes spell. -/
def wordOfBytes (bs : Bytes) : Word := BitVec.ofNat 256 (ofBigEndian bs)

@[simp] theorem wordBytes_length (w : Word) : (wordBytes w).length = 32 := bigEndian_length 32 _

@[simp] theorem wordOfBytes_wordBytes (w : Word) : wordOfBytes (wordBytes w) = w := by
  apply BitVec.eq_of_toNat_eq
  have fits : w.toNat < Nat.pow 256 32 := w.isLt
  rw [wordOfBytes, wordBytes, ofBigEndian_bigEndian, Nat.mod_eq_of_lt fits, BitVec.ofNat_toNat,
    BitVec.setWidth_eq]

end TokenBridge
