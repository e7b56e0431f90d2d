import TokenBridge.Proofs.Text.Utf8
import TokenBridge.Text.Hex

set_option autoImplicit false

/-! # Bytes survive hexadecimal text

Different bytes have different digits (`encodeChars_injective`), and digits in any case are read as
the bytes that have them in lower case (`decodeText_of_map_toLower`).
-/

namespace TokenBridge

/-! ## Texts of one byte for each character -/

namespace Utf8

variable {cs : List Char}

theorem encode_ofList_of_ascii (h : ∀ c ∈ cs, c.toNat < 128) :
    encode (String.ofList cs) = cs.map fun c => UInt8.ofNat c.toNat := by
  rw [encode, String.toList_ofList]
  induction cs with
  | nil => rfl
  | cons c cs ih =>
      obtain ⟨hc, hcs⟩ := List.forall_mem_cons.1 h
      have hone : String.utf8EncodeChar c = [UInt8.ofNat c.toNat] :=
        if_pos (Nat.le_of_lt_succ hc)
      rw [List.flatMap_cons, hone, ih hcs, List.map_cons, List.singleton_append]

theorem encode_length (s : String) : (encode s).length = s.utf8ByteSize := by
  rw [← String.size_toByteArray, ← String.ofList_toList (s := s), String.toByteArray_ofList,
    List.utf8Encode, List.size_toByteArray, String.ofList_toList]
  rfl

/-- What is seen of all 128 characters of one byte holds of each of them. -/
theorem forall_ascii {p : Char → Prop} (h : ∀ n < 128, p (Char.ofNat n)) :
    ∀ c : Char, c.toNat < 128 → p c := by
  intro c hc
  have hp := h c.toNat hc
  rwa [Char.ofNat_toNat] at hp

theorem ascii_of_isAlphanum {c : Char} (h : c.isAlphanum = true) : c.toNat < 128 := by
  have hbelow : ∀ last : Char, c.val ≤ last.val → last.toNat < 128 → c.toNat < 128 :=
    fun _ hle hlast => Nat.lt_of_le_of_lt (UInt32.le_iff_toNat_le.1 hle) hlast
  rcases Bool.or_eq_true_iff.1 h with hletter | hdigit
  · rcases Bool.or_eq_true_iff.1 hletter with hupper | hlower
    · exact hbelow 'Z' (of_decide_eq_true hupper).2 (by decide)
    · exact hbelow 'z' (of_decide_eq_true (Bool.and_eq_true_iff.1 hlower).2) (by decide)
  · exact hbelow '9' (of_decide_eq_true (Bool.and_eq_true_iff.1 hdigit).2) (by decide)

/-- A character of one byte is the number of that byte. -/
theorem ofNat_toNat_of_ascii {c : Char} (hc : c.toNat < 128) :
    Char.ofNat (UInt8.ofNat c.toNat).toNat = c := by
  rw [UInt8.toNat_ofNat', Nat.mod_eq_of_lt (by omega), Char.ofNat_toNat]

/-- A character of several bytes has no byte below 128. -/
theorem le_of_mem_utf8EncodeChar {c : Char} (hc : 0x7F < c.toNat) :
    ∀ b ∈ String.utf8EncodeChar c, 0x80 ≤ b.toNat := by
  rw [utf8EncodeChar_eq, if_neg (Nat.not_le.2 hc)]
  split
  · simp only [List.forall_mem_cons, further_toNat, UInt8.toNat_ofNat']
    exact ⟨by omega, by omega, fun _ hb => nomatch hb⟩
  · split
    · simp only [List.forall_mem_cons, further_toNat, UInt8.toNat_ofNat']
      exact ⟨by omega, by omega, by omega, fun _ hb => nomatch hb⟩
    · simp only [List.forall_mem_cons, further_toNat, UInt8.toNat_ofNat']
      exact ⟨by omega, by omega, by omega, by omega, fun _ hb => nomatch hb⟩

/-- A byte below 128 is a character. -/
theorem mem_of_mem_encode {s : String} {b : UInt8} (h : b ∈ encode s) (hb : b.toNat < 128) :
    Char.ofNat b.toNat ∈ s.toList := by
  obtain ⟨c, hc, hbyte⟩ := List.mem_flatMap.1 h
  have hsmall : c.toNat ≤ 0x7F := by
    by_contra hbig
    have := le_of_mem_utf8EncodeChar (Nat.not_le.1 hbig) b hbyte
    omega
  rw [utf8EncodeChar_eq, if_pos hsmall] at hbyte
  rw [List.mem_singleton.1 hbyte]
  show Char.ofNat (UInt8.ofNat c.toNat).toNat ∈ _
  rw [ofNat_toNat_of_ascii (by omega)]
  exact hc

theorem ascii_of_encode (h : ∀ b ∈ encode (String.ofList cs), b.toNat < 128) :
    ∀ c ∈ cs, c.toNat < 128 := by
  intro c hc
  by_contra hbig
  obtain ⟨b, hb⟩ := List.exists_mem_of_ne_nil _ String.utf8EncodeChar_ne_nil
  have hmem : b ∈ encode (String.ofList cs) := by
    rw [encode, String.toList_ofList]
    exact List.mem_flatMap.2 ⟨c, hc, hb⟩
  have hlow := h b hmem
  have hhigh := le_of_mem_utf8EncodeChar (by omega) b hb
  omega

theorem map_ofNat_encode (h : ∀ c ∈ cs, c.toNat < 128) :
    (encode (String.ofList cs)).map (fun b => Char.ofNat b.toNat) = cs := by
  rw [encode_ofList_of_ascii h, List.map_map]
  exact (List.map_congr_left fun c hc => ofNat_toNat_of_ascii (h c hc)).trans (List.map_id cs)

end Utf8

namespace Hex

/-! ## Digits -/

theorem digit_inj {m n : Nat} (hm : m < 16) (hn : n < 16) (h : digit m = digit n) : m = n := by
  have hall : ∀ m < 16, ∀ n < 16, digit m = digit n → m = n := by decide
  exact hall m hm n hn h

/-- Raising a digit and lowering it again gives the digit, which is in lower case. -/
theorem toLower_digit {n : Nat} (hn : n < 16) :
    (digit n).toLower = digit n ∧ (digit n).toUpper.toLower = digit n := by
  revert n
  decide

theorem encodeChars_cons (b : UInt8) (bs : Bytes) :
    encodeChars (b :: bs) = digit (b.toNat / 16) :: digit (b.toNat % 16) :: encodeChars bs := rfl

theorem encodeChars_injective : Function.Injective encodeChars := by
  intro bs
  induction bs with
  | nil =>
      rintro (_ | ⟨c, cs⟩) h
      · rfl
      · cases h
  | cons b bs ih =>
      rintro (_ | ⟨c, cs⟩) h
      · cases h
      · have hb := b.toNat_lt
        have hc := c.toNat_lt
        rw [encodeChars_cons, encodeChars_cons, List.cons.injEq, List.cons.injEq] at h
        obtain ⟨hhigh, hlow, hrest⟩ := h
        have hhigh := digit_inj (by omega) (by omega) hhigh
        have hlow := digit_inj (by omega) (by omega) hlow
        rw [ih hrest, UInt8.toNat_inj.1 (by omega : b.toNat = c.toNat)]

theorem exists_digit_of_mem {bs : Bytes} {c : Char} (h : c ∈ encodeChars bs) :
    ∃ n < 16, c = digit n := by
  obtain ⟨b, -, hc⟩ := List.mem_flatMap.1 h
  have hb := b.toNat_lt
  simp only [List.mem_cons, List.not_mem_nil, or_false] at hc
  rcases hc with rfl | rfl
  · exact ⟨_, by omega, rfl⟩
  · exact ⟨_, by omega, rfl⟩

/-! ## Reading -/

theorem stripMark_marked (cs : List Char) :
    stripMark (String.ofList ('0' :: 'x' :: cs)) = String.ofList cs := by
  rw [stripMark, String.toList_ofList]
  rfl

/-- Only characters of one byte are lowered to such. -/
theorem toNat_lt_of_toLower {c : Char} (h : c.toLower.toNat < 128) : c.toNat < 128 := by
  by_contra hbig
  -- Lowering leaves a character alone that is no letter of one byte.
  have hupper : ¬(c.val ≥ 'A'.val ∧ c.val ≤ 'Z'.val) := by
    rintro ⟨-, hle⟩
    exact hbig (Nat.lt_of_le_of_lt (UInt32.le_iff_toNat_le.1 hle) (by decide))
  have hsame : c.toLower = c := dif_neg hupper
  rw [hsame] at h
  exact hbig h

/-- A digit has the same value in upper case. -/
theorem value?_of_toLower {c : Char} {n : Nat} (hn : n < 16) (h : c.toLower = digit n) :
    c.toNat < 128 ∧ value? (UInt8.ofNat c.toNat) = some n := by
  have hdigit : ∀ n < 16, (digit n).toNat < 128 := by decide
  have hvalue : ∀ c : Char, c.toNat < 128 → ∀ n < 16, c.toLower = digit n →
      value? (UInt8.ofNat c.toNat) = some n := Utf8.forall_ascii (by decide +kernel)
  have hsmall : c.toNat < 128 := toNat_lt_of_toLower (h ▸ hdigit n hn)
  exact ⟨hsmall, hvalue c hsmall n hn h⟩

section Spelled

variable {bs : Bytes} {cs : List Char}

theorem ascii_of_map_toLower (h : cs.map Char.toLower = encodeChars bs) :
    ∀ c ∈ cs, c.toNat < 128 := by
  intro c hc
  have hmem : c.toLower ∈ encodeChars bs := h ▸ List.mem_map_of_mem hc
  obtain ⟨n, hn, hdigit⟩ := exists_digit_of_mem hmem
  exact (value?_of_toLower hn hdigit).1

theorem decodePairs_of_map_toLower (h : cs.map Char.toLower = encodeChars bs) (index : Nat) :
    decodePairs index (cs.map fun c => UInt8.ofNat c.toNat) = .ok bs := by
  induction bs generalizing cs index with
  | nil =>
      rw [List.map_eq_nil_iff.1 h]
      rfl
  | cons b bs ih =>
      rw [encodeChars_cons] at h
      obtain ⟨high, _, rfl, hhigh, h⟩ := List.map_eq_cons_iff.1 h
      obtain ⟨low, rest, rfl, hlow, h⟩ := List.map_eq_cons_iff.1 h
      have hb := b.toNat_lt
      have hbyte : UInt8.ofNat (b.toNat / 16 * 16 + b.toNat % 16) = b := by
        rw [Nat.div_add_mod', UInt8.ofNat_toNat]
      rw [List.map_cons, List.map_cons, decodePairs,
        (value?_of_toLower (by omega) hhigh).2, (value?_of_toLower (by omega) hlow).2]
      show (decodePairs (index + 2) _ >>= fun bytes => Except.ok (UInt8.ofNat _ :: bytes)) = _
      rw [ih h, hbyte]
      rfl

theorem encodeChars_length (bs : Bytes) : (encodeChars bs).length = 2 * bs.length := by
  induction bs with
  | nil => rfl
  | cons b bs ih =>
      rw [encodeChars_cons, List.length_cons, List.length_cons, List.length_cons, ih]
      omega

theorem length_of_map_toLower (h : cs.map Char.toLower = encodeChars bs) :
    cs.length = 2 * bs.length := by
  rw [← encodeChars_length, ← h, List.length_map]

theorem utf8ByteSize_of_map_toLower (h : cs.map Char.toLower = encodeChars bs) :
    (String.ofList cs).utf8ByteSize = 2 * bs.length := by
  rw [← Utf8.encode_length, Utf8.encode_ofList_of_ascii (ascii_of_map_toLower h), List.length_map,
    length_of_map_toLower h]

/-- Digits in any case are read as the bytes that have them in lower case. -/
theorem decodeText_of_map_toLower (h : cs.map Char.toLower = encodeChars bs) :
    decodeText (String.ofList cs) = .ok bs := by
  have hlength := length_of_map_toLower h
  have heven : ¬(cs.map fun c => UInt8.ofNat c.toNat).length % 2 = 1 := by
    rw [List.length_map]
    omega
  rw [decodeText, Utf8.encode_ofList_of_ascii (ascii_of_map_toLower h), decode, if_neg heven,
    decodePairs_of_map_toLower h]

end Spelled

theorem map_toLower_encodeChars (bs : Bytes) :
    (encodeChars bs).map Char.toLower = encodeChars bs := by
  refine (List.map_congr_left fun c hc => ?_).trans (List.map_id _)
  obtain ⟨n, hn, rfl⟩ := exists_digit_of_mem hc
  exact (toLower_digit hn).1

/-- Bytes are read back from their digits. -/
theorem decodeText_encode (bs : Bytes) : decodeText (encode bs) = .ok bs :=
  decodeText_of_map_toLower (map_toLower_encodeChars bs)

theorem toList_encodeMarked (bs : Bytes) :
    (encodeMarked bs).toList = '0' :: 'x' :: encodeChars bs := by
  have hdigits : (encode bs).toList = encodeChars bs := String.toList_ofList
  rw [encodeMarked, String.toList_append, hdigits]
  rfl

theorem stripMark_encodeMarked (bs : Bytes) : stripMark (encodeMarked bs) = encode bs := by
  rw [← String.ofList_toList (s := encodeMarked bs), toList_encodeMarked, stripMark_marked, encode]

end Hex
end TokenBridge
