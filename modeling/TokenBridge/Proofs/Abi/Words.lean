import Mathlib.Algebra.Order.Group.Nat
import TokenBridge.Abi.Decoding

set_option autoImplicit false

/-! # Words, sizes and byte strings are read as they were written

The readers of contract data stop behind what they read. So each of them is shown to give back, from
what was written and anything behind it, the value and the rest.
-/

namespace TokenBridge.Abi

/-! ## Words -/

theorem takeWord_append {word : Bytes} (hword : word.length = 32) (rest : Bytes) :
    takeWord (word ++ rest) = .ok (word, rest) := by
  have htake : (word ++ rest).take 32 = word := by rw [← hword, List.take_left]
  have hdrop : (word ++ rest).drop 32 = rest := by rw [← hword, List.drop_left]
  simp only [takeWord, htake, hdrop]
  rw [if_neg (by omega)]

theorem readWord_append (w : Word) (rest : Bytes) :
    readWord (wordBytes w ++ rest) = .ok (w, rest) := by
  rw [readWord, takeWord_append (wordBytes_length w)]
  show Except.ok (wordOfBytes (wordBytes w), rest) = _
  rw [wordOfBytes_wordBytes]

/-! ## Sizes -/

/-- The last digits come last. -/
theorem bigEndian_add (m n k : Nat) :
    bigEndian (m + n) k = bigEndian m (k / 256 ^ n) ++ bigEndian n k := by
  induction n generalizing k with
  | zero => simp [bigEndian]
  | succ n ih =>
      have hdiv : k / 256 / 256 ^ n = k / 256 ^ (n + 1) := by
        rw [Nat.div_div_eq_div_mul, Nat.pow_succ, Nat.mul_comm]
      rw [← Nat.add_assoc, bigEndian, ih, hdiv, List.append_assoc, bigEndian]

theorem bigEndian_zero (m : Nat) : bigEndian m 0 = List.replicate m 0 := by
  induction m with
  | zero => rfl
  | succ m ih =>
      rw [bigEndian, Nat.zero_div, ih, List.replicate_succ']
      rfl

/-- A size fits the last eight bytes of its word. -/
theorem readSize_append {n : Nat} (hn : n < 2 ^ 64) (rest : Bytes) :
    readSize (bigEndian 32 n ++ rest) = .ok (n, rest) := by
  have hzeros : (bigEndian 32 n).take 24 = List.replicate 24 0 := by
    -- All but the last eight bytes are the digits of nothing.
    have hdiv : n / 256 ^ 8 = 0 := Nat.div_eq_of_lt hn
    rw [bigEndian_add 24 8, hdiv, bigEndian_zero]
    exact List.take_left' List.length_replicate
  have hall : ((bigEndian 32 n).take 24).all (· = 0) = true := by
    rw [hzeros]
    rfl
  have hvalue : ofBigEndian (bigEndian 32 n) = n := by
    rw [ofBigEndian_bigEndian]
    exact Nat.mod_eq_of_lt (Nat.lt_trans hn (by decide))
  have hlength : (bigEndian 32 n).length = 32 := bigEndian_length 32 n
  generalize bigEndian 32 n = word at hall hvalue hlength ⊢
  rw [readSize, takeWord_append hlength]
  show (if (word.take 24).all (· = 0) = true then _ else _) = _
  rw [if_pos hall, hvalue]
  rfl

theorem follow_append {frame : Bytes} {offset : Nat} (hoffset : offset ≤ frame.length)
    (hframe : frame.length < 2 ^ 63) (rest : Bytes) :
    follow frame (bigEndian 32 offset ++ rest) = .ok (frame.drop offset, rest) := by
  rw [follow, readSize_append (by omega)]
  show (if frame.length < offset then _ else _) = _
  rw [if_neg (Nat.not_lt.2 hoffset)]
  rfl

/-! ## Byte strings -/

theorem encodePacked_length (bs : Bytes) :
    bs.length + 32 ≤ (encodePacked bs).length := by
  simp only [encodePacked, List.length_append, bigEndian_length]
  omega

theorem readPacked_append {bs : Bytes} (hbs : bs.length < 2 ^ 64) (rest : Bytes) :
    readPacked (encodePacked bs ++ rest) = .ok bs := by
  have hlength : bs.length ≤ (bs ++ (padding bs.length ++ rest)).length := by
    rw [List.length_append]
    exact Nat.le_add_right _ _
  rw [readPacked, encodePacked, List.append_assoc, List.append_assoc, readSize_append hbs]
  show (if (bs ++ (padding bs.length ++ rest)).length < bs.length then _ else _) = _
  rw [if_neg (Nat.not_lt.2 hlength)]
  show Except.ok ((bs ++ (padding bs.length ++ rest)).take bs.length) = _
  rw [List.take_left]

end TokenBridge.Abi
