import Mathlib.Data.List.Basic
import TokenBridge.Text.Base64

set_option autoImplicit false

/-! # Bytes survive base 64

Reading is written down here from the table of the signs; what is written is read back as the bytes
it was (`decodeChars_encodeChars`). Two of the signs cannot stand for themselves in a URL. They are
the last two of the table, and bytes of one kind never give them, wherever they stand (`Mild`,
`plain_of_mem_encodeChars`).
-/

namespace TokenBridge.Base64

/-! ## Signs -/

/-- The signs of the 64 values, in order. -/
def alphabet : List Char :=
  "ABCDEFGHIJKLMNOPQRSTUVWXYZabcdefghijklmnopqrstuvwxyz0123456789+/".toList

/-- The value of a sign. -/
def value? (c : Char) : Option Nat := alphabet.findIdx? (· = c)

theorem value?_symbol {n : Nat} (h : n < 64) : value? (symbol n) = some n := by
  revert n
  decide

theorem symbol_ne_filler {n : Nat} (h : n < 64) : symbol n ≠ '=' := by
  revert n
  decide

/-- All signs but the last two are letters and digits. -/
theorem isAlphanum_symbol {n : Nat} (h : n < 62) : (symbol n).isAlphanum = true := by
  revert n
  decide

/-! ## Reading -/

/-- Reads groups of four signs. The last group may be filled up; the bits that are left over in it
must be zero. -/
def decodeChars : List Char → Option Bytes
  | [] => some []
  | a :: b :: c :: d :: rest => do
      let a ← value? a
      let b ← value? b
      if c = '=' then
        if d = '=' ∧ rest = [] ∧ b % 16 = 0 then
          some [UInt8.ofNat (a * 4 + b / 16)]
        else
          none
      else
        let c ← value? c
        if d = '=' then
          if rest = [] ∧ c % 4 = 0 then
            some [UInt8.ofNat (a * 4 + b / 16), UInt8.ofNat (b % 16 * 16 + c / 4)]
          else
            none
        else
          let d ← value? d
          let bytes ← decodeChars rest
          return UInt8.ofNat (a * 4 + b / 16) :: UInt8.ofNat (b % 16 * 16 + c / 4) ::
            UInt8.ofNat (c % 4 * 64 + d) :: bytes
  | _ => none

/-- The bytes that a text spells. -/
def decode (s : String) : Option Bytes := decodeChars s.toList

/-! Each kind of group brings the bytes that its signs make up. -/

section Groups

variable {a b c d : Nat}

theorem decodeChars_one (ha : a < 64) (hb : b < 64) (hleft : b % 16 = 0) :
    decodeChars [symbol a, symbol b, '=', '='] = some [UInt8.ofNat (a * 4 + b / 16)] := by
  rw [decodeChars, value?_symbol ha, value?_symbol hb]
  exact if_pos ⟨rfl, rfl, hleft⟩

theorem decodeChars_two (ha : a < 64) (hb : b < 64) (hc : c < 64) (hleft : c % 4 = 0) :
    decodeChars [symbol a, symbol b, symbol c, '='] =
      some [UInt8.ofNat (a * 4 + b / 16), UInt8.ofNat (b % 16 * 16 + c / 4)] := by
  rw [decodeChars, value?_symbol ha, value?_symbol hb, value?_symbol hc]
  show (if symbol c = '=' then _ else _) = _
  rw [if_neg (symbol_ne_filler hc)]
  exact if_pos ⟨rfl, hleft⟩

theorem decodeChars_three (ha : a < 64) (hb : b < 64) (hc : c < 64) (hd : d < 64)
    {rest : List Char} {bytes : Bytes} (hrest : decodeChars rest = some bytes) :
    decodeChars (symbol a :: symbol b :: symbol c :: symbol d :: rest) =
      some (UInt8.ofNat (a * 4 + b / 16) :: UInt8.ofNat (b % 16 * 16 + c / 4) ::
        UInt8.ofNat (c % 4 * 64 + d) :: bytes) := by
  rw [decodeChars, value?_symbol ha, value?_symbol hb, value?_symbol hc, value?_symbol hd, hrest]
  show (if symbol c = '=' then _ else _) = _
  rw [if_neg (symbol_ne_filler hc)]
  show (if symbol d = '=' then _ else _) = _
  rw [if_neg (symbol_ne_filler hd)]
  rfl

end Groups

theorem ofNat_eq {n : Nat} {b : UInt8} (h : n = b.toNat) : UInt8.ofNat n = b := by
  rw [h, UInt8.ofNat_toNat]

/-- Bytes are read back from their signs. -/
theorem decodeChars_encodeChars (bs : Bytes) : decodeChars (encodeChars bs) = some bs := by
  induction bs using encodeChars.induct with
  | case1 => rfl
  | case2 a =>
      have ha := a.toNat_lt
      rw [encodeChars, decodeChars_one (by omega) (by omega) (by omega)]
      rw [ofNat_eq (b := a) (by omega)]
  | case3 a b =>
      have ha := a.toNat_lt
      have hb := b.toNat_lt
      rw [encodeChars, decodeChars_two (by omega) (by omega) (by omega) (by omega)]
      rw [ofNat_eq (b := a) (by omega), ofNat_eq (b := b) (by omega)]
  | case4 a b c rest ih =>
      have ha := a.toNat_lt
      have hb := b.toNat_lt
      have hc := c.toNat_lt
      rw [encodeChars, decodeChars_three (by omega) (by omega) (by omega) (by omega) ih]
      rw [ofNat_eq (b := a) (by omega), ofNat_eq (b := b) (by omega),
        ofNat_eq (b := c) (by omega)]

theorem decode_encode (bs : Bytes) : decode (encode bs) = some bs := by
  rw [decode, encode, String.toList_ofList, decodeChars_encodeChars]

/-! ## Signs that stand for themselves everywhere -/

/-- The number of a byte that gives neither of the last two signs, at whatever place of its group it
stands: its first bit is zero, and its last six bits are none of their values. -/
def Mild (n : Nat) : Prop := n < 128 ∧ n % 64 < 62

instance (n : Nat) : Decidable (Mild n) := inferInstanceAs (Decidable (_ ∧ _))

/-- A letter, a digit, or what fills up the last group. -/
def Plain (c : Char) : Prop := c.isAlphanum = true ∨ c = '='

instance (c : Char) : Decidable (Plain c) := inferInstanceAs (Decidable (_ ∨ _))

theorem plain_symbol {n : Nat} (h : n < 62) : Plain (symbol n) := .inl (isAlphanum_symbol h)

/-- Only the third byte of a group gives its last six bits to one sign. Into each of the other signs
goes the first bit of a byte, which is zero, while the last two signs differ in their last bit only
and have all others set. -/
theorem plain_of_mem_encodeChars {bs : Bytes} (h : ∀ b ∈ bs, Mild b.toNat) :
    ∀ c ∈ encodeChars bs, Plain c := by
  induction bs using encodeChars.induct with
  | case1 => exact fun _ hc => nomatch hc
  | case2 a =>
      simp only [List.forall_mem_cons] at h
      obtain ⟨⟨ha, -⟩, -⟩ := h
      simp only [encodeChars, List.forall_mem_cons]
      exact ⟨plain_symbol (by omega), plain_symbol (by omega), .inr rfl, .inr rfl,
        fun _ hc => nomatch hc⟩
  | case3 a b =>
      simp only [List.forall_mem_cons] at h
      obtain ⟨⟨ha, -⟩, ⟨hb, -⟩, -⟩ := h
      simp only [encodeChars, List.forall_mem_cons]
      exact ⟨plain_symbol (by omega), plain_symbol (by omega), plain_symbol (by omega), .inr rfl,
        fun _ hc => nomatch hc⟩
  | case4 a b c rest ih =>
      simp only [List.forall_mem_cons] at h
      obtain ⟨⟨ha, -⟩, ⟨hb, -⟩, ⟨hc, hthird⟩, hrest⟩ := h
      simp only [encodeChars, List.forall_mem_cons]
      exact ⟨plain_symbol (by omega), plain_symbol (by omega), plain_symbol (by omega),
        plain_symbol hthird, ih hrest⟩

end TokenBridge.Base64
