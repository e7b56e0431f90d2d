import TokenBridge.Identifier
import TokenBridge.Proofs.Outcome
import TokenBridge.Proofs.Text.Hex

set_option autoImplicit false

/-! # What identifiers spell

A text is read as bytes if and only if it has two hexadecimal digits for each of them, in any case
(`decodeText_eq_ok_iff`). An identifier may have a mark in front of its digits, and spells one byte
at least (`toBytes_eq_ok_iff`). It spells a text if its digits are those of the bytes of that text
(`toText_eq_ok_iff`).
-/

namespace TokenBridge

/-! ## Digits -/

namespace Hex

/-- A hexadecimal digit, in either case. -/
def IsDigit (c : Char) : Prop := c ∈ "0123456789abcdefABCDEF".toList

instance (c : Char) : Decidable (IsDigit c) := inferInstanceAs (Decidable (c ∈ _))

/-- In lower case the characters are the digits of the bytes. -/
def Spells (digits : List Char) (bs : Bytes) : Prop := digits.map Char.toLower = encodeChars bs

theorem toLower_of_isDigit {c : Char} (h : IsDigit c) : ∃ n < 16, c.toLower = digit n := by
  have hall : ("0123456789abcdefABCDEF".toList.all
      fun c => decide (∃ n : Nat, n < 16 ∧ c.toLower = digit n)) = true := by decide +kernel
  exact of_decide_eq_true (List.all_eq_true.1 hall c h)

theorem isDigit_of_toLower {c : Char} {n : Nat} (hn : n < 16) (h : c.toLower = digit n) :
    IsDigit c := by
  have hall : ∀ c : Char, c.toNat < 128 → ∀ n < 16, c.toLower = digit n → IsDigit c :=
    Utf8.forall_ascii (by decide +kernel)
  exact hall c (value?_of_toLower hn h).1 n hn h

/-- The byte that two digits spell. -/
theorem encodeChars_byte {m n : Nat} (hm : m < 16) (hn : n < 16) (bs : Bytes) :
    encodeChars (UInt8.ofNat (m * 16 + n) :: bs) = digit m :: digit n :: encodeChars bs := by
  have hbyte : (UInt8.ofNat (m * 16 + n)).toNat = m * 16 + n := by
    rw [UInt8.toNat_ofNat', Nat.mod_eq_of_lt (by omega)]
  have hhigh : (m * 16 + n) / 16 = m := by omega
  have hlow : (m * 16 + n) % 16 = n := by omega
  rw [encodeChars_cons, hbyte, hhigh, hlow]

theorem exists_spells {n : Nat} {digits : List Char} (hlength : digits.length = 2 * n)
    (h : ∀ c ∈ digits, IsDigit c) : ∃ bs : Bytes, bs.length = n ∧ Spells digits bs := by
  induction n generalizing digits with
  | zero => exact ⟨[], rfl, by rw [List.length_eq_zero_iff.1 hlength]; rfl⟩
  | succ n ih =>
      obtain ⟨high, low, rest, rfl⟩ : ∃ high low rest, digits = high :: low :: rest := by
        match digits, hlength with
        | high :: low :: rest, _ => exact ⟨high, low, rest, rfl⟩
      simp only [List.forall_mem_cons] at h
      obtain ⟨hhigh, hlow, hrest⟩ := h
      obtain ⟨i, hi, hhigh⟩ := toLower_of_isDigit hhigh
      obtain ⟨j, hj, hlow⟩ := toLower_of_isDigit hlow
      obtain ⟨bs, hbs, hspells⟩ := ih (by simpa [Nat.mul_succ] using hlength) hrest
      refine ⟨UInt8.ofNat (i * 16 + j) :: bs, by rw [List.length_cons, hbs], ?_⟩
      rw [Spells, List.map_cons, List.map_cons, encodeChars_byte hi hj, hhigh, hlow, hspells]

/-- Digits spell so many bytes if there are twice as many of them. -/
theorem exists_spells_iff {n : Nat} {digits : List Char} :
    (∃ bs : Bytes, bs.length = n ∧ Spells digits bs) ↔
      digits.length = 2 * n ∧ ∀ c ∈ digits, IsDigit c := by
  constructor
  · rintro ⟨bs, rfl, hspells⟩
    refine ⟨length_of_map_toLower hspells, fun c hc => ?_⟩
    have hmem : c.toLower ∈ encodeChars bs := hspells ▸ List.mem_map_of_mem hc
    obtain ⟨n, hn, hdigit⟩ := exists_digit_of_mem hmem
    exact isDigit_of_toLower hn hdigit
  · rintro ⟨hlength, h⟩
    exact exists_spells hlength h

/-! ## Reading digits -/

theorem of_value? {b : UInt8} {n : Nat} (h : value? b = some n) :
    n < 16 ∧ b.toNat < 128 ∧ (Char.ofNat b.toNat).toLower = digit n := by
  have hall : ∀ k < 256, ∀ n ∈ value? (UInt8.ofNat k),
      n < 16 ∧ k < 128 ∧ (Char.ofNat k).toLower = digit n := by
    decide +kernel
  refine hall b.toNat b.toNat_lt n ?_
  rw [UInt8.ofNat_toNat]
  exact h

/-- Only digits are read. -/
theorem of_decodePairs {index : Nat} {text bs : Bytes} (h : decodePairs index text = .ok bs) :
    (∀ b ∈ text, b.toNat < 128) ∧
      text.map (fun b => (Char.ofNat b.toNat).toLower) = encodeChars bs := by
  -- By the pairs as they are read: only the last case reads both digits, all others stop.
  induction index, text using decodePairs.induct generalizing bs with
  | case1 =>
      cases h
      exact ⟨fun _ hb => (nomatch hb), rfl⟩
  | case2 => cases h
  | case3 index a b rest ha =>
      rw [decodePairs, ha] at h
      cases h
  | case4 index a b rest hi ha hb =>
      rw [decodePairs, ha, hb] at h
      cases h
  | case5 index a b rest hi lo hb ha ih =>
      rw [decodePairs, ha, hb] at h
      obtain ⟨bytes, hrest, h⟩ := Outcome.bind_eq_ok.1 h
      cases h
      obtain ⟨hsmall, hdigits⟩ := ih hrest
      obtain ⟨hhi, hasmall, hadigit⟩ := of_value? ha
      obtain ⟨hlo, hbsmall, hbdigit⟩ := of_value? hb
      refine ⟨List.forall_mem_cons.2 ⟨hasmall, List.forall_mem_cons.2 ⟨hbsmall, hsmall⟩⟩, ?_⟩
      rw [List.map_cons, List.map_cons, hadigit, hbdigit, hdigits, encodeChars_byte hhi hlo]

theorem decodeText_eq_ok_iff {s : String} {bs : Bytes} :
    decodeText s = .ok bs ↔ Spells s.toList bs := by
  constructor
  · intro h
    rw [← String.ofList_toList (s := s), decodeText, decode] at h
    split at h
    · cases h
    · obtain ⟨hsmall, hdigits⟩ := of_decodePairs h
      have hchars := Utf8.map_ofNat_encode (Utf8.ascii_of_encode hsmall)
      calc s.toList.map Char.toLower
          = ((Utf8.encode (String.ofList s.toList)).map fun b => Char.ofNat b.toNat).map
              Char.toLower := by rw [hchars]
        _ = encodeChars bs := by
            rw [List.map_map]
            exact hdigits
  · intro h
    rw [← String.ofList_toList (s := s)]
    exact decodeText_of_map_toLower h

end Hex

/-! ## Identifiers -/

namespace Identifier

open Hex (IsDigit Spells)

/-- The identifier is these digits, with or without their mark. -/
def IsWritten (value : String) (digits : List Char) : Prop :=
  value.toList = digits ∨ value.toList = '0' :: 'x' :: digits

theorem isWritten_stripMark (value : String) : IsWritten value (Hex.stripMark value).toList := by
  unfold Hex.stripMark
  split
  · next rest hmarked =>
      rw [String.toList_ofList]
      exact .inr hmarked
  · exact .inl rfl

/-- The mark is no digit, and so the digits are all that is left without it. -/
theorem stripMark_of_isWritten {value : String} {digits : List Char} {bs : Bytes}
    (hwritten : IsWritten value digits) (hspells : Spells digits bs) :
    Hex.stripMark value = String.ofList digits := by
  rcases hwritten with hplain | hmarked
  · unfold Hex.stripMark
    split
    · next rest hmarked =>
        rw [hplain] at hmarked
        have hmem : 'x'.toLower ∈ Hex.encodeChars bs := by
          rw [← hspells, hmarked]
          exact List.mem_map_of_mem (by simp)
        obtain ⟨n, hn, hdigit⟩ := Hex.exists_digit_of_mem hmem
        have hall : ∀ n < 16, 'x'.toLower ≠ Hex.digit n := by decide
        exact absurd hdigit (hall n hn)
    · rw [← hplain, String.ofList_toList]
  · rw [← String.ofList_toList (s := value), hmarked, Hex.stripMark_marked]

/-- The bytes of an identifier are those that its digits spell, and there is one at least. -/
theorem toBytes_eq_ok_iff {value : String} {bs : Bytes} :
    toBytes value = .ok bs ↔ bs ≠ [] ∧ ∃ digits, IsWritten value digits ∧ Spells digits bs := by
  rw [toBytes]
  constructor
  · intro h
    split at h
    · cases h
    · next hfull =>
        have hspells := Hex.decodeText_eq_ok_iff.1 (Outcome.mapError_eq_ok.1 h)
        refine ⟨?_, _, isWritten_stripMark value, hspells⟩
        rintro rfl
        refine hfull (String.isEmpty_iff.2 ?_)
        rw [← String.toList_eq_nil_iff]
        exact List.map_eq_nil_iff.1 hspells
  · rintro ⟨hne, digits, hwritten, hspells⟩
    have hfull : ¬(String.ofList digits).isEmpty = true := by
      rw [String.isEmpty_iff, ← String.toList_eq_nil_iff, String.toList_ofList]
      rintro rfl
      exact hne (Hex.encodeChars_injective hspells.symm)
    rw [stripMark_of_isWritten hwritten hspells, if_neg hfull,
      Hex.decodeText_of_map_toLower hspells]
    rfl

end Identifier
end TokenBridge
