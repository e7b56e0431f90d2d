import TokenBridge.Proofs.Outcome
import TokenBridge.Text.Utf8

set_option autoImplicit false

/-! # Texts survive UTF-8

What is written for a text is read as that text (`decode_encode`), and no other bytes are read as it
(`encode_of_decode`). A character is written in one to four bytes; the first of them tells how many
follow and between which bounds the second one lies, and these bounds leave out just the numbers
that are written in fewer bytes or belong to no character.
-/

namespace TokenBridge.Utf8

/-! ## Further bytes -/

theorem tail_cons {lo hi b : UInt8} (hlo : lo.toNat ≤ b.toNat) (hhi : b.toNat ≤ hi.toNat)
    (n seen acc : Nat) (rest : Bytes) :
    tail (n + 1) lo hi seen acc (b :: rest) =
      tail n 0x80 0xBF (seen + 1) (acc * 64 + b.toNat % 64) rest := by
  rw [tail, if_pos ⟨UInt8.le_iff_toNat_le.2 hlo, UInt8.le_iff_toNat_le.2 hhi⟩]

/-- The byte that carries the last six bits of a number. -/
def further (v : Nat) : UInt8 := UInt8.ofNat (v % 64 + 0x80)

@[simp] theorem further_toNat (v : Nat) : (further v).toNat = v % 64 + 0x80 := by
  rw [further, UInt8.toNat_ofNat']
  omega

/-- A byte that follows the second one may carry any six bits. -/
theorem tail_further (v n seen acc : Nat) (rest : Bytes) :
    tail (n + 1) 0x80 0xBF seen acc (further v :: rest) =
      tail n 0x80 0xBF (seen + 1) (acc * 64 + v % 64) rest := by
  have hlo : (0x80 : UInt8).toNat = 0x80 := rfl
  have hhi : (0xBF : UInt8).toNat = 0xBF := rfl
  rw [tail_cons (by rw [hlo, further_toNat]; omega) (by rw [hhi, further_toNat]; omega),
    further_toNat]
  congr 1
  omega

/-! ## First bytes -/

theorem lead?_two {b : UInt8} (hlo : 0xC2 ≤ b.toNat) (hhi : b.toNat ≤ 0xDF) :
    lead? b = some (1, 0x80, 0xBF) := by
  rw [lead?, if_pos ⟨UInt8.le_iff_toNat_le.2 hlo, UInt8.le_iff_toNat_le.2 hhi⟩]

/-- The second of three bytes is bounded so that the number needs three bytes and is no
surrogate. -/
theorem lead?_three {b : UInt8} (hlo : 0xE0 ≤ b.toNat) (hhi : b.toNat ≤ 0xEF) :
    ∃ lo hi, lead? b = some (2, lo, hi) ∧
      lo.toNat = (if b.toNat = 0xE0 then 0xA0 else 0x80) ∧
      hi.toNat = (if b.toNat = 0xED then 0x9F else 0xBF) := by
  have htwo : ¬(0xC2 ≤ b ∧ b ≤ 0xDF) := by
    simp only [UInt8.le_iff_toNat_le, UInt8.reduceToNat]
    omega
  have hrange : 0xE1 ≤ b.toNat → 0xE1 ≤ b ∧ b ≤ 0xEF :=
    fun h => ⟨UInt8.le_iff_toNat_le.2 h, UInt8.le_iff_toNat_le.2 hhi⟩
  rw [lead?, if_neg htwo]
  by_cases hfirst : b.toNat = 0xE0
  · obtain rfl : b = 0xE0 := UInt8.toNat_inj.1 hfirst
    exact ⟨0xA0, 0xBF, rfl, rfl, rfl⟩
  · rw [if_neg fun heq => hfirst (congrArg UInt8.toNat heq)]
    by_cases hsurrogates : b.toNat = 0xED
    · obtain rfl : b = 0xED := UInt8.toNat_inj.1 hsurrogates
      exact ⟨0x80, 0x9F, rfl, rfl, rfl⟩
    · rw [if_neg fun heq => hsurrogates (congrArg UInt8.toNat heq), if_pos (hrange (by omega)),
        if_neg hfirst, if_neg hsurrogates]
      exact ⟨0x80, 0xBF, rfl, rfl, rfl⟩

/-- The second of four bytes is bounded so that the number needs four bytes and is one of a
character. -/
theorem lead?_four {b : UInt8} (hlo : 0xF0 ≤ b.toNat) (hhi : b.toNat ≤ 0xF4) :
    ∃ lo hi, lead? b = some (3, lo, hi) ∧
      lo.toNat = (if b.toNat = 0xF0 then 0x90 else 0x80) ∧
      hi.toNat = (if b.toNat = 0xF4 then 0x8F else 0xBF) := by
  have hcases : b.toNat = 0xF0 ∨ b.toNat = 0xF1 ∨ b.toNat = 0xF2 ∨ b.toNat = 0xF3 ∨
      b.toNat = 0xF4 := by omega
  rcases hcases with h | h | h | h | h
  · obtain rfl : b = 0xF0 := UInt8.toNat_inj.1 h
    exact ⟨0x90, 0xBF, rfl, rfl, rfl⟩
  · obtain rfl : b = 0xF1 := UInt8.toNat_inj.1 h
    exact ⟨0x80, 0xBF, rfl, rfl, rfl⟩
  · obtain rfl : b = 0xF2 := UInt8.toNat_inj.1 h
    exact ⟨0x80, 0xBF, rfl, rfl, rfl⟩
  · obtain rfl : b = 0xF3 := UInt8.toNat_inj.1 h
    exact ⟨0x80, 0xBF, rfl, rfl, rfl⟩
  · obtain rfl : b = 0xF4 := UInt8.toNat_inj.1 h
    exact ⟨0x80, 0x8F, rfl, rfl, rfl⟩

/-! ## Whole characters -/

/-- A character of more than one byte, and what follows it. -/
theorem decodeFrom_of_tail {b lo hi : UInt8} {n v : Nat} {bs rest : Bytes} {index : Nat}
    (hb : 0x80 ≤ b.toNat) (hlead : lead? b = some (n, lo, hi))
    (htail : tail n lo hi 1 (leadBits n b) bs = .ok (v, rest)) :
    decodeFrom index (b :: bs) =
      (decodeFrom (index + n + 1) rest).map fun cs => Char.ofNat v :: cs := by
  have hbig : ¬b < 0x80 := by
    rw [UInt8.lt_iff_toNat_lt]
    exact Nat.not_lt.2 hb
  rw [decodeFrom, if_neg hbig]
  simp only [hlead]
  split
  · next h =>
      rw [htail] at h
      cases h
  · next h =>
      rw [htail] at h
      cases h
      cases decodeFrom (index + n + 1) rest <;> rfl

theorem decodeFrom_one {v : Nat} (hhi : v ≤ 0x7F) (index : Nat) (rest : Bytes) :
    decodeFrom index (UInt8.ofNat v :: rest) =
      (decodeFrom (index + 1) rest).map fun cs => Char.ofNat v :: cs := by
  have hb : (UInt8.ofNat v).toNat = v := by
    rw [UInt8.toNat_ofNat']
    omega
  have hsmall : UInt8.ofNat v < 0x80 := by
    rw [UInt8.lt_iff_toNat_lt, hb]
    exact Nat.lt_succ_of_le hhi
  rw [decodeFrom, if_pos hsmall, hb]
  cases decodeFrom (index + 1) rest <;> rfl

theorem decodeFrom_two {v : Nat} (hlo : 0x7F < v) (hhi : v ≤ 0x7FF) (index : Nat) (rest : Bytes) :
    decodeFrom index (UInt8.ofNat (v / 64 % 32 + 0xC0) :: further v :: rest) =
      (decodeFrom (index + 1 + 1) rest).map fun cs => Char.ofNat v :: cs := by
  have hb : (UInt8.ofNat (v / 64 % 32 + 0xC0)).toNat = v / 64 + 0xC0 := by
    rw [UInt8.toNat_ofNat']
    omega
  have hbits : leadBits 1 (UInt8.ofNat (v / 64 % 32 + 0xC0)) = v / 64 := by
    rw [leadBits, if_pos rfl, hb]
    omega
  refine decodeFrom_of_tail (by omega) (lead?_two (by omega) (by omega)) ?_
  rw [tail_further, hbits, tail, Nat.div_add_mod']

theorem decodeFrom_three {v : Nat} (hlo : 0x7FF < v) (hhi : v ≤ 0xFFFF)
    (hvalid : v < 0xD800 ∨ 0xDFFF < v) (index : Nat) (rest : Bytes) :
    decodeFrom index
        (UInt8.ofNat (v / 4096 % 16 + 0xE0) :: further (v / 64) :: further v :: rest) =
      (decodeFrom (index + 2 + 1) rest).map fun cs => Char.ofNat v :: cs := by
  have hb : (UInt8.ofNat (v / 4096 % 16 + 0xE0)).toNat = v / 4096 + 0xE0 := by
    rw [UInt8.toNat_ofNat']
    omega
  have hbits : leadBits 2 (UInt8.ofNat (v / 4096 % 16 + 0xE0)) = v / 4096 := by
    rw [leadBits, if_neg (by decide), if_pos rfl, hb]
    omega
  obtain ⟨lo, hi, hlead, hlo', hhi'⟩ :=
    lead?_three (b := UInt8.ofNat (v / 4096 % 16 + 0xE0)) (by omega) (by omega)
  rw [hb] at hlo' hhi'
  -- The numbers that are too small, and the surrogates, are those that the bounds leave out.
  have hle : lo.toNat ≤ (further (v / 64)).toNat := by
    rw [hlo', further_toNat]
    split <;> omega
  have hge : (further (v / 64)).toNat ≤ hi.toNat := by
    rw [hhi', further_toNat]
    split <;> omega
  refine decodeFrom_of_tail (by omega) hlead ?_
  rw [tail_cons hle hge, tail_further, hbits, further_toNat, tail]
  congr 2
  omega

theorem decodeFrom_four {v : Nat} (hlo : 0xFFFF < v) (hhi : v < 0x110000) (index : Nat)
    (rest : Bytes) :
    decodeFrom index (UInt8.ofNat (v / 262144 % 8 + 0xF0) :: further (v / 4096) ::
        further (v / 64) :: further v :: rest) =
      (decodeFrom (index + 3 + 1) rest).map fun cs => Char.ofNat v :: cs := by
  have hb : (UInt8.ofNat (v / 262144 % 8 + 0xF0)).toNat = v / 262144 + 0xF0 := by
    rw [UInt8.toNat_ofNat']
    omega
  have hbits : leadBits 3 (UInt8.ofNat (v / 262144 % 8 + 0xF0)) = v / 262144 := by
    rw [leadBits, if_neg (by decide), if_neg (by decide), hb]
    omega
  obtain ⟨lo, hi, hlead, hlo', hhi'⟩ :=
    lead?_four (b := UInt8.ofNat (v / 262144 % 8 + 0xF0)) (by omega) (by omega)
  rw [hb] at hlo' hhi'
  have hle : lo.toNat ≤ (further (v / 4096)).toNat := by
    rw [hlo', further_toNat]
    split <;> omega
  have hge : (further (v / 4096)).toNat ≤ hi.toNat := by
    rw [hhi', further_toNat]
    split <;> omega
  refine decodeFrom_of_tail (by omega) hlead ?_
  rw [tail_cons hle hge, tail_further, tail_further, hbits, further_toNat, tail]
  congr 2
  omega

theorem utf8EncodeChar_eq (c : Char) :
    String.utf8EncodeChar c =
      if c.toNat ≤ 0x7F then [UInt8.ofNat c.toNat]
      else if c.toNat ≤ 0x7FF then [UInt8.ofNat (c.toNat / 64 % 32 + 0xC0), further c.toNat]
      else if c.toNat ≤ 0xFFFF then
        [UInt8.ofNat (c.toNat / 4096 % 16 + 0xE0), further (c.toNat / 64), further c.toNat]
      else
        [UInt8.ofNat (c.toNat / 262144 % 8 + 0xF0), further (c.toNat / 4096),
          further (c.toNat / 64), further c.toNat] := rfl

/-- A character is read back from its bytes. -/
theorem decodeFrom_char (c : Char) (index : Nat) (rest : Bytes) :
    ∃ index', decodeFrom index (String.utf8EncodeChar c ++ rest) =
      (decodeFrom index' rest).map fun cs => c :: cs := by
  have hvalid : c.toNat < 0xD800 ∨ 0xDFFF < c.toNat ∧ c.toNat < 0x110000 := c.valid
  have hofNat : Char.ofNat c.toNat = c := Char.ofNat_toNat c
  rw [utf8EncodeChar_eq]
  -- From here on the number is all that is known of the character.
  generalize c.toNat = v at hvalid hofNat
  subst hofNat
  by_cases h1 : v ≤ 0x7F
  · rw [if_pos h1]
    exact ⟨_, decodeFrom_one h1 index rest⟩
  · rw [if_neg h1]
    by_cases h2 : v ≤ 0x7FF
    · rw [if_pos h2]
      exact ⟨_, decodeFrom_two (by omega) h2 index rest⟩
    · rw [if_neg h2]
      by_cases h3 : v ≤ 0xFFFF
      · rw [if_pos h3]
        exact ⟨_, decodeFrom_three (by omega) h3 (by omega) index rest⟩
      · rw [if_neg h3]
        exact ⟨_, decodeFrom_four (by omega) (by omega) index rest⟩

/-! ## Whole texts -/

theorem decodeFrom_flatMap (cs : List Char) (index : Nat) :
    decodeFrom index (cs.flatMap String.utf8EncodeChar) = .ok cs := by
  induction cs generalizing index with
  | nil =>
      rw [List.flatMap_nil, decodeFrom]
  | cons c cs ih =>
      obtain ⟨index', hchar⟩ := decodeFrom_char c index (cs.flatMap String.utf8EncodeChar)
      rw [List.flatMap_cons, hchar, ih]
      rfl

/-- A text is read back from its bytes. -/
theorem decode_encode (s : String) : decode (encode s) = .ok s := by
  rw [decode, encode, decodeFrom_flatMap]
  exact congrArg Except.ok String.ofList_toList

/-! ## Reading backwards

Each character takes just the bytes that are written for it, because the bounds of the bytes after
the first admit no number that is written in fewer.
-/

theorem tail_zero_eq_ok {lo hi : UInt8} {seen acc v : Nat} {bs rest : Bytes}
    (h : tail 0 lo hi seen acc bs = .ok (v, rest)) : v = acc ∧ bs = rest := by
  cases h
  exact ⟨rfl, rfl⟩

theorem tail_succ_eq_ok {n : Nat} {lo hi : UInt8} {seen acc v : Nat} {bs rest : Bytes}
    (h : tail (n + 1) lo hi seen acc bs = .ok (v, rest)) :
    ∃ b bs', bs = b :: bs' ∧ lo.toNat ≤ b.toNat ∧ b.toNat ≤ hi.toNat ∧
      tail n 0x80 0xBF (seen + 1) (acc * 64 + b.toNat % 64) bs' = .ok (v, rest) := by
  cases bs with
  | nil => cases h
  | cons b bs' =>
      rw [tail] at h
      split at h
      · next hb =>
          exact ⟨b, bs', rfl, UInt8.le_iff_toNat_le.1 hb.1, UInt8.le_iff_toNat_le.1 hb.2, h⟩
      · cases h

/-- A byte within the bounds is the one that carries its six bits. -/
theorem eq_further {b : UInt8} {v : Nat} (hlo : 0x80 ≤ b.toNat) (hhi : b.toNat ≤ 0xBF)
    (hv : v % 64 = b.toNat % 64) : b = further v := by
  rw [← UInt8.toNat_inj, further_toNat]
  omega

/-- No character starts with any other byte. -/
theorem lead?_eq_none {b : UInt8} (h : b.toNat < 0xC2 ∨ 0xF4 < b.toNat) : lead? b = none := by
  have hrange : ∀ lo hi : UInt8, 0xC2 ≤ lo.toNat → hi.toNat ≤ 0xF4 → ¬(lo ≤ b ∧ b ≤ hi) := by
    intro lo hi hlo hhi hb
    have h1 := UInt8.le_iff_toNat_le.1 hb.1
    have h2 := UInt8.le_iff_toNat_le.1 hb.2
    omega
  have hne : ∀ b' : UInt8, 0xC2 ≤ b'.toNat → b'.toNat ≤ 0xF4 → b ≠ b' := by
    rintro b' hlo hhi rfl
    omega
  rw [lead?, if_neg (hrange _ _ (by decide) (by decide)), if_neg (hne _ (by decide) (by decide)),
    if_neg (hne _ (by decide) (by decide)), if_neg (hrange _ _ (by decide) (by decide)),
    if_neg (hne _ (by decide) (by decide)), if_neg (hrange _ _ (by decide) (by decide)),
    if_neg (hne _ (by decide) (by decide))]

theorem toNat_ofNat {v : Nat} (hv : v.isValidChar) : (Char.ofNat v).toNat = v := by
  rw [Char.ofNat, dif_pos hv]
  rfl

theorem cons_of_tail_one {b : UInt8} {v : Nat} {bs rest : Bytes} (hlo : 0xC2 ≤ b.toNat)
    (hhi : b.toNat ≤ 0xDF) (h : tail 1 0x80 0xBF 1 (leadBits 1 b) bs = .ok (v, rest)) :
    b :: bs = String.utf8EncodeChar (Char.ofNat v) ++ rest := by
  obtain ⟨b₁, bs, rfl, hlo₁, hhi₁, h⟩ := tail_succ_eq_ok h
  obtain ⟨hv, rfl⟩ := tail_zero_eq_ok h
  rw [leadBits, if_pos rfl] at hv
  have hlow := eq_further (v := v) hlo₁ hhi₁ (by omega)
  have hhigh : b = UInt8.ofNat (v / 64 % 32 + 0xC0) := by
    rw [← UInt8.toNat_inj, UInt8.toNat_ofNat']
    omega
  rw [utf8EncodeChar_eq, toNat_ofNat (.inl (by omega)), if_neg (by omega), if_pos (by omega),
    ← hlow, ← hhigh]
  rfl

theorem cons_of_tail_two {b lo hi : UInt8} {v : Nat} {bs rest : Bytes} (hlo : 0xE0 ≤ b.toNat)
    (hhi : b.toNat ≤ 0xEF) (hlo' : lo.toNat = if b.toNat = 0xE0 then 0xA0 else 0x80)
    (hhi' : hi.toNat = if b.toNat = 0xED then 0x9F else 0xBF)
    (h : tail 2 lo hi 1 (leadBits 2 b) bs = .ok (v, rest)) :
    b :: bs = String.utf8EncodeChar (Char.ofNat v) ++ rest := by
  obtain ⟨b₁, bs, rfl, hlo₁, hhi₁, h⟩ := tail_succ_eq_ok h
  obtain ⟨b₂, bs, rfl, hlo₂, hhi₂, h⟩ := tail_succ_eq_ok h
  obtain ⟨hv, rfl⟩ := tail_zero_eq_ok h
  rw [leadBits, if_neg (by decide), if_pos rfl] at hv
  obtain ⟨hlo₁, hhi₁, hlong, hsurrogates⟩ : 0x80 ≤ b₁.toNat ∧ b₁.toNat ≤ 0xBF ∧
      (b.toNat = 0xE0 → 0xA0 ≤ b₁.toNat) ∧ (b.toNat = 0xED → b₁.toNat ≤ 0x9F) := by
    rw [hlo'] at hlo₁
    rw [hhi'] at hhi₁
    split at hlo₁ <;> split at hhi₁ <;> omega
  have hmiddle := eq_further (v := v / 64) hlo₁ hhi₁ (by omega)
  have hlow := eq_further (v := v) hlo₂ hhi₂ (by omega)
  have hhigh : b = UInt8.ofNat (v / 4096 % 16 + 0xE0) := by
    rw [← UInt8.toNat_inj, UInt8.toNat_ofNat']
    omega
  have hvalid : v.isValidChar := by
    show v < 0xD800 ∨ 0xDFFF < v ∧ v < 0x110000
    omega
  rw [utf8EncodeChar_eq, toNat_ofNat hvalid, if_neg (by omega), if_neg (by omega),
    if_pos (by omega), ← hlow, ← hmiddle, ← hhigh]
  rfl

theorem cons_of_tail_three {b lo hi : UInt8} {v : Nat} {bs rest : Bytes} (hlo : 0xF0 ≤ b.toNat)
    (hhi : b.toNat ≤ 0xF4) (hlo' : lo.toNat = if b.toNat = 0xF0 then 0x90 else 0x80)
    (hhi' : hi.toNat = if b.toNat = 0xF4 then 0x8F else 0xBF)
    (h : tail 3 lo hi 1 (leadBits 3 b) bs = .ok (v, rest)) :
    b :: bs = String.utf8EncodeChar (Char.ofNat v) ++ rest := by
  obtain ⟨b₁, bs, rfl, hlo₁, hhi₁, h⟩ := tail_succ_eq_ok h
  obtain ⟨b₂, bs, rfl, hlo₂, hhi₂, h⟩ := tail_succ_eq_ok h
  obtain ⟨b₃, bs, rfl, hlo₃, hhi₃, h⟩ := tail_succ_eq_ok h
  obtain ⟨hv, rfl⟩ := tail_zero_eq_ok h
  rw [leadBits, if_neg (by decide), if_neg (by decide)] at hv
  obtain ⟨hlo₁, hhi₁, hlong, hlast⟩ : 0x80 ≤ b₁.toNat ∧ b₁.toNat ≤ 0xBF ∧
      (b.toNat = 0xF0 → 0x90 ≤ b₁.toNat) ∧ (b.toNat = 0xF4 → b₁.toNat ≤ 0x8F) := by
    rw [hlo'] at hlo₁
    rw [hhi'] at hhi₁
    split at hlo₁ <;> split at hhi₁ <;> omega
  have hsecond := eq_further (v := v / 4096) hlo₁ hhi₁ (by omega)
  have hthird := eq_further (v := v / 64) hlo₂ hhi₂ (by omega)
  have hfourth := eq_further (v := v) hlo₃ hhi₃ (by omega)
  have hfirst : b = UInt8.ofNat (v / 262144 % 8 + 0xF0) := by
    rw [← UInt8.toNat_inj, UInt8.toNat_ofNat']
    omega
  rw [utf8EncodeChar_eq, toNat_ofNat (.inr (by omega)), if_neg (by omega), if_neg (by omega),
    if_neg (by omega), ← hfourth, ← hthird, ← hsecond, ← hfirst]
  rfl

/-- A character of more than one byte takes the bytes that are written for it. -/
theorem cons_of_tail {b lo hi : UInt8} {n v : Nat} {bs rest : Bytes}
    (hlead : lead? b = some (n, lo, hi)) (h : tail n lo hi 1 (leadBits n b) bs = .ok (v, rest)) :
    b :: bs = String.utf8EncodeChar (Char.ofNat v) ++ rest := by
  by_cases hnone : b.toNat < 0xC2 ∨ 0xF4 < b.toNat
  · rw [lead?_eq_none hnone] at hlead
    cases hlead
  by_cases htwo : b.toNat ≤ 0xDF
  · rw [lead?_two (by omega) htwo] at hlead
    cases hlead
    exact cons_of_tail_one (by omega) htwo h
  by_cases hthree : b.toNat ≤ 0xEF
  · obtain ⟨lo', hi', hlead', hlo', hhi'⟩ := lead?_three (b := b) (by omega) hthree
    rw [hlead'] at hlead
    cases hlead
    exact cons_of_tail_two (by omega) hthree hlo' hhi' h
  · obtain ⟨lo', hi', hlead', hlo', hhi'⟩ := lead?_four (b := b) (by omega) (by omega)
    rw [hlead'] at hlead
    cases hlead
    exact cons_of_tail_three (by omega) (by omega) hlo' hhi' h

theorem cons_of_lt {b : UInt8} (hb : b < 0x80) (rest : Bytes) :
    b :: rest = String.utf8EncodeChar (Char.ofNat b.toNat) ++ rest := by
  have hlt : b.toNat < 0x80 := UInt8.lt_iff_toNat_lt.1 hb
  rw [utf8EncodeChar_eq, toNat_ofNat (.inl (by omega)), if_pos (by omega), UInt8.ofNat_toNat]
  rfl

theorem flatMap_of_decodeFrom {index : Nat} {bs : Bytes} {cs : List Char}
    (h : decodeFrom index bs = .ok cs) : cs.flatMap String.utf8EncodeChar = bs := by
  induction index, bs using decodeFrom.induct generalizing cs with
  | case1 index =>
      rw [decodeFrom] at h
      cases h
      rfl
  | case2 index b rest hb ih =>
      rw [decodeFrom, if_pos hb] at h
      obtain ⟨others, hothers, h⟩ := Outcome.bind_eq_ok.1 h
      cases h
      rw [List.flatMap_cons, ih hothers]
      exact (cons_of_lt hb rest).symm
  | case3 index b rest hb hlead =>
      rw [decodeFrom, if_neg hb] at h
      simp only [hlead] at h
      cases h
  | case4 index b rest hb n lo hi hlead bad htail =>
      rw [decodeFrom, if_neg hb] at h
      simp only [hlead] at h
      split at h
      · cases h
      · next hok =>
          rw [htail] at hok
          cases hok
  | case5 index b rest hb n lo hi hlead v rest' htail ih =>
      have hbig : 0x80 ≤ b.toNat := Nat.not_lt.1 fun hlt => hb (UInt8.lt_iff_toNat_lt.2 hlt)
      rw [decodeFrom_of_tail hbig hlead htail] at h
      obtain ⟨others, hothers, rfl⟩ := Outcome.map_eq_ok.1 h
      rw [List.flatMap_cons, ih hothers]
      exact (cons_of_tail hlead htail).symm

/-- Only the bytes of a text are read as that text. -/
theorem encode_of_decode {bs : Bytes} {s : String} (h : decode bs = .ok s) : encode s = bs := by
  obtain ⟨cs, hcs, rfl⟩ := Outcome.map_eq_ok.1 h
  rw [encode, String.toList_ofList]
  exact flatMap_of_decodeFrom hcs

theorem encode_injective : Function.Injective encode := by
  intro s t h
  have hdecode : (.ok s : Except Fault String) = .ok t := by
    rw [← decode_encode s, h, decode_encode]
  exact Except.ok.inj hdecode

end TokenBridge.Utf8
