import TokenBridge.Proofs.Address.Evm
import TokenBridge.Proofs.Identifier
import TokenBridge.Token

set_option autoImplicit false

/-! # Spellings of tokens

A family takes a text for a token if and only if it is spelled as the tokens of that family are
(`IsSpelled`). Two texts that it takes have the same canonical bytes if and only if they are
spellings of the same token: the same digits up to case and mark where tokens are named by bytes,
and the same text where they are named by denominations (`canonical_identifies`).
-/

namespace TokenBridge

/-! ## Addresses -/

namespace EvmAddress

/-- An address is read from the digits of its bytes, in any case, with or without their mark. -/
theorem parse_eq_ok_iff {text : String} {a : EvmAddress} :
    parse text = .ok a ↔
      ∃ digits, Identifier.IsWritten text digits ∧ Hex.Spells digits (toBytes a) := by
  rw [parse]
  constructor
  · intro h
    split at h
    · cases h
    · next hsize =>
        split at h
        · next bs hbs =>
            obtain rfl := Except.ok.inj h
            have hspells := Hex.decodeText_eq_ok_iff.1 hbs
            have hlength := Hex.utf8ByteSize_of_map_toLower hspells
            rw [String.ofList_toList, not_not.1 hsize] at hlength
            refine ⟨_, Identifier.isWritten_stripMark text, ?_⟩
            rwa [toBytes_ofBytes (by omega)]
        · cases h
  · rintro ⟨digits, hwritten, hspells⟩
    have hsize : (String.ofList digits).utf8ByteSize = 40 := by
      rw [Hex.utf8ByteSize_of_map_toLower hspells, toBytes_length]
    rw [Identifier.stripMark_of_isWritten hwritten hspells, if_neg (not_not.2 hsize),
      Hex.decodeText_of_map_toLower hspells]
    show Except.ok (ofBytes (toBytes a)) = _
    rw [ofBytes_toBytes]

end EvmAddress

/-! ## Denominations -/

namespace Denom

theorem ascii_of_isDenomChar {c : Char} (h : isDenomChar c = true) : c.toNat < 128 := by
  rcases Bool.or_eq_true_iff.1 h with h | h
  · exact Utf8.ascii_of_isAlphanum h
  · have hmarks : ("/:._-".toList.all fun m => m.toNat < 128) = true := by decide
    exact of_decide_eq_true (List.all_eq_true.1 hmarks c (List.contains_iff_mem.1 h))

theorem isDenomChar_iff {c : Char} :
    isDenomChar c = true ↔ c.isAlphanum = true ∨ c ∈ ['/', ':', '.', '_', '-'] :=
  Bool.or_eq_true_iff.trans (or_congr_right List.contains_iff_mem)

theorem isDenomChar_of_isAlpha {c : Char} (h : c.isAlpha = true) : isDenomChar c = true :=
  isDenomChar_iff.2 (.inl (Bool.or_eq_true_iff.2 (.inl h)))

theorem utf8ByteSize_of_isDenomChar {token : String}
    (h : ∀ c ∈ token.toList, isDenomChar c = true) : token.utf8ByteSize = token.toList.length := by
  have hbytes := Utf8.encode_ofList_of_ascii fun c hc => ascii_of_isDenomChar (h c hc)
  rw [String.ofList_toList] at hbytes
  rw [← Utf8.encode_length, hbytes, List.length_map]

/-- The bytes are counted first, but all characters that a denomination may hold have one byte. -/
theorem validate_eq_ok_iff {token : String} :
    validate token = .ok () ↔ ∃ first rest, token.toList = first :: rest ∧ first.isAlpha = true ∧
      2 ≤ rest.length ∧ rest.length ≤ 127 ∧ ∀ c ∈ rest, isDenomChar c = true := by
  have hbytes {first : Char} {rest : List Char} (htoken : token.toList = first :: rest)
      (hletter : first.isAlpha = true) (hrest : ∀ c ∈ rest, isDenomChar c = true) :
      token.utf8ByteSize = rest.length + 1 := by
    rw [utf8ByteSize_of_isDenomChar, htoken, List.length_cons]
    rw [htoken]
    exact List.forall_mem_cons.2 ⟨isDenomChar_of_isAlpha hletter, hrest⟩
  rw [validate]
  constructor
  · intro h
    split at h
    · cases h
    · next hsize =>
        split at h
        · cases h
        · next first rest htoken =>
            split at h
            · cases h
            · next hletter =>
                split at h
                · cases h
                · next hgood =>
                    have hletter : first.isAlpha = true := by simpa using hletter
                    have hrest : ∀ c ∈ rest, isDenomChar c = true := by simpa using hgood
                    have hbytes := hbytes htoken hletter hrest
                    exact ⟨first, rest, htoken, hletter, by omega, by omega, hrest⟩
  · rintro ⟨first, rest, htoken, hletter, hleast, hmost, hrest⟩
    have hbytes := hbytes htoken hletter hrest
    have hgood : rest.find? (fun c => !isDenomChar c) = none := by simpa using hrest
    rw [if_neg (by omega), htoken]
    dsimp only
    rw [if_neg (by simp [hletter]), hgood]

end Denom

namespace Token

/-! ## Spellings -/

/-- The text is hexadecimal digits, in any case, with or without their mark. -/
def IsHex (text : String) (digits : List Char) : Prop :=
  Identifier.IsWritten text digits ∧ ∀ c ∈ digits, Hex.IsDigit c

/-- The text is spelled as the tokens of a family are. -/
def IsSpelled : ChainFamily → String → Prop
  | .evm, text => ∃ digits, IsHex text digits ∧ digits.length = 40
  | .cosmos, text => ∃ first rest, text.toList = first :: rest ∧ first.isAlpha = true ∧
      2 ≤ rest.length ∧ rest.length ≤ 127 ∧
      ∀ c ∈ rest, c.isAlphanum = true ∨ c ∈ ['/', ':', '.', '_', '-']
  | .aptos, text => ∃ digits, IsHex text digits ∧ digits ≠ [] ∧ digits.length % 2 = 0

/-- The texts are the same digits up to their case and their mark. -/
def SameDigits (text text' : String) : Prop :=
  ∃ digits digits', IsHex text digits ∧ IsHex text' digits' ∧
    digits.map Char.toLower = digits'.map Char.toLower

/-- The texts are spellings of the same token of a family. -/
def SameToken : ChainFamily → String → String → Prop
  | .evm, text, text' | .aptos, text, text' => SameDigits text text'
  | .cosmos, text, text' => text = text'

/-! ## Digits -/

section Digits

variable {text text' : String} {digits digits' : List Char} {bs bs' : Bytes}

theorem isHex_of_spells (hwritten : Identifier.IsWritten text digits) (h : Hex.Spells digits bs) :
    IsHex text digits :=
  ⟨hwritten, (Hex.exists_spells_iff.1 ⟨bs, rfl, h⟩).2⟩

/-- The mark is no digit, so that a text has its digits in one way only. -/
theorem IsHex.unique (h : IsHex text digits) (h' : IsHex text digits') : digits = digits' := by
  have hmark {ds : List Char} (hds : ∀ c ∈ '0' :: 'x' :: ds, Hex.IsDigit c) : False :=
    absurd (hds 'x' (by simp)) (by decide)
  obtain ⟨hwritten, hdigits⟩ := h
  obtain ⟨hwritten', hdigits'⟩ := h'
  rcases hwritten with hwritten | hwritten <;> rcases hwritten' with hwritten' | hwritten'
  · exact hwritten.symm.trans hwritten'
  · exact (hmark (hwritten.symm.trans hwritten' ▸ hdigits)).elim
  · exact (hmark (hwritten'.symm.trans hwritten ▸ hdigits')).elim
  · exact (List.cons.inj (List.cons.inj (hwritten.symm.trans hwritten')).2).2

/-- Texts that spell bytes are the same digits if and only if the bytes are the same. -/
theorem eq_iff_sameDigits (hwritten : Identifier.IsWritten text digits)
    (hspells : Hex.Spells digits bs) (hwritten' : Identifier.IsWritten text' digits')
    (hspells' : Hex.Spells digits' bs') : bs = bs' ↔ SameDigits text text' := by
  have hhex := isHex_of_spells hwritten hspells
  have hhex' := isHex_of_spells hwritten' hspells'
  constructor
  · rintro rfl
    exact ⟨digits, digits', hhex, hhex', hspells.trans hspells'.symm⟩
  · rintro ⟨found, found', hfound, hfound', hsame⟩
    rw [hfound.unique hhex, hfound'.unique hhex'] at hsame
    exact Hex.encodeChars_injective (hspells.symm.trans (hsame.trans hspells'))

end Digits

/-! ## Canonical bytes -/

section Canonical

variable {text : String} {token : Bytes}

theorem canonical_evm_eq_ok_iff :
    canonical .evm text = .ok token ↔ token.length = 20 ∧
      ∃ digits, Identifier.IsWritten text digits ∧ Hex.Spells digits token := by
  rw [canonical, Outcome.mapError_eq_ok, Outcome.map_eq_ok]
  simp only [EvmAddress.parse_eq_ok_iff]
  constructor
  · rintro ⟨a, hspelled, rfl⟩
    exact ⟨EvmAddress.toBytes_length a, hspelled⟩
  · rintro ⟨hlength, hspelled⟩
    have hbytes := EvmAddress.toBytes_ofBytes hlength
    exact ⟨.ofBytes token, by rwa [hbytes], hbytes⟩

theorem canonical_cosmos_eq_ok_iff :
    canonical .cosmos text = .ok token ↔
      Denom.validate text = .ok () ∧ token = Utf8.encode text := by
  rw [canonical, Outcome.mapError_eq_ok, Outcome.map_eq_ok]
  constructor
  · rintro ⟨⟨⟩, hvalid, rfl⟩
    exact ⟨hvalid, rfl⟩
  · rintro ⟨hvalid, rfl⟩
    exact ⟨(), hvalid, rfl⟩

theorem canonical_aptos_eq_ok_iff :
    canonical .aptos text = .ok token ↔ token ≠ [] ∧
      ∃ digits, Identifier.IsWritten text digits ∧ Hex.Spells digits token := by
  rw [canonical, Outcome.mapError_eq_ok, Identifier.toBytes_eq_ok_iff]

/-- A text has canonical bytes if it is spelled as a token of the family, and only then. -/
theorem exists_canonical_iff (family : ChainFamily) :
    (∃ token, canonical family text = .ok token) ↔ IsSpelled family text := by
  cases family with
  | evm =>
      simp only [canonical_evm_eq_ok_iff]
      constructor
      · rintro ⟨token, hlength, digits, hwritten, hspells⟩
        have hdigits := Hex.length_of_map_toLower hspells
        exact ⟨digits, isHex_of_spells hwritten hspells, by omega⟩
      · rintro ⟨digits, ⟨hwritten, hdigits⟩, hlength⟩
        obtain ⟨token, htoken, hspells⟩ := Hex.exists_spells (n := 20) hlength hdigits
        exact ⟨token, htoken, digits, hwritten, hspells⟩
  | cosmos =>
      simp only [canonical_cosmos_eq_ok_iff, Denom.validate_eq_ok_iff, Denom.isDenomChar_iff]
      constructor
      · rintro ⟨_, hspelled, -⟩
        exact hspelled
      · exact fun hspelled => ⟨_, hspelled, rfl⟩
  | aptos =>
      simp only [canonical_aptos_eq_ok_iff]
      constructor
      · rintro ⟨token, hne, digits, hwritten, hspells⟩
        have hdigits := Hex.length_of_map_toLower hspells
        refine ⟨digits, isHex_of_spells hwritten hspells, ?_, by omega⟩
        rintro rfl
        exact hne (Hex.encodeChars_injective hspells.symm)
      · rintro ⟨digits, ⟨hwritten, hdigits⟩, hne, heven⟩
        obtain ⟨token, -, hspells⟩ := Hex.exists_spells (n := digits.length / 2) (by omega) hdigits
        refine ⟨token, ?_, digits, hwritten, hspells⟩
        rintro rfl
        exact hne (List.map_eq_nil_iff.1 hspells)

end Canonical

/-- The texts that a family takes for tokens are those that are spelled as its tokens are. Of these,
the spellings of one token have the same bytes, and no others have. -/
theorem canonical_identifies (family : ChainFamily) :
    (∀ text, (∃ token, canonical family text = .ok token) ↔ IsSpelled family text) ∧
    ∀ text text' token token', canonical family text = .ok token →
      canonical family text' = .ok token' → (token = token' ↔ SameToken family text text') := by
  refine ⟨fun _ => exists_canonical_iff family, fun text text' token token' h h' => ?_⟩
  cases family with
  | evm =>
      obtain ⟨-, digits, hwritten, hspells⟩ := canonical_evm_eq_ok_iff.1 h
      obtain ⟨-, digits', hwritten', hspells'⟩ := canonical_evm_eq_ok_iff.1 h'
      exact eq_iff_sameDigits hwritten hspells hwritten' hspells'
  | cosmos =>
      obtain ⟨-, rfl⟩ := canonical_cosmos_eq_ok_iff.1 h
      obtain ⟨-, rfl⟩ := canonical_cosmos_eq_ok_iff.1 h'
      exact Utf8.encode_injective.eq_iff
  | aptos =>
      obtain ⟨-, digits, hwritten, hspells⟩ := canonical_aptos_eq_ok_iff.1 h
      obtain ⟨-, digits', hwritten', hspells'⟩ := canonical_aptos_eq_ok_iff.1 h'
      exact eq_iff_sameDigits hwritten hspells hwritten' hspells'

/-- An address in mixed case with its mark, and in lower case without it, are the same token. -/
theorem sameToken_sampleSpellings :
    ∃ token, canonical .evm "0x5FbDB2315678afecb367f032d93F642f64180aa3" = .ok token ∧
      canonical .evm "5fbdb2315678afecb367f032d93f642f64180aa3" = .ok token ∧
      SameToken .evm "0x5FbDB2315678afecb367f032d93F642f64180aa3"
        "5fbdb2315678afecb367f032d93f642f64180aa3" := by
  have hmixed : canonical .evm "0x5FbDB2315678afecb367f032d93F642f64180aa3" =
      .ok (bigEndian 20 0x5fbdb2315678afecb367f032d93f642f64180aa3) := by decide +kernel
  have hlower : canonical .evm "5fbdb2315678afecb367f032d93f642f64180aa3" =
      .ok (bigEndian 20 0x5fbdb2315678afecb367f032d93f642f64180aa3) := by decide +kernel
  exact ⟨_, hmixed, hlower, ((canonical_identifies .evm).2 _ _ _ _ hmixed hlower).1 rfl⟩

end Token
end TokenBridge
