import TokenBridge.Address.Cosmos
import TokenBridge.Proofs.Text.Bech32
import TokenBridge.Proofs.Text.Utf8

set_option autoImplicit false

/-! # Spellings of a Cosmos address

On the wire an address is the text in which it was given, and an account can be spelled in more than
one way: in either case, and with either checksum. Two spellings give the same bytes if they agree
in both, and only then (`toBytes_eq_iff`); case aside, they differ in their checksums at most.
-/

namespace TokenBridge

namespace CosmosAddress

variable {s t : String} {a b : CosmosAddress}

/-- An address is taken if its text holds something, and keeps that text. -/
theorem parse_eq_ok : parse s = .ok a ↔ ∃ d, decode s = .ok d ∧ ⟨s, d.hrp⟩ = a :=
  Outcome.map_eq_ok

theorem decode_eq_ok {d : Decoded} (h : decode s = .ok d) :
    ∃ b, Bech32.decode s = .ok b ∧ Bech32.payload? b.symbols = some d.payload ∧ b.hrp = d.hrp := by
  rw [decode] at h
  split at h
  · cases h
  · next b hb =>
      split at h
      · cases h
      · next payload hpayload =>
          split at h
          · cases h
            exact ⟨b, hb, hpayload, rfl⟩
          · cases h

/-- Texts that hold the same bytes and the same readable part hold the same symbols. -/
theorem bech32_decode_eq {d : Decoded} (hs : decode s = .ok d) (ht : decode t = .ok d) :
    ∃ b, Bech32.decode s = .ok b ∧ Bech32.decode t = .ok b := by
  obtain ⟨⟨hrp, symbols⟩, hs, hpayload, hhrp⟩ := decode_eq_ok hs
  obtain ⟨⟨hrp', symbols'⟩, ht, hpayload', hhrp'⟩ := decode_eq_ok ht
  obtain rfl : symbols = symbols' := Bech32.eq_of_payload? hpayload hpayload'
  obtain rfl : hrp = hrp' := hhrp.trans hhrp'.symm
  exact ⟨_, hs, ht⟩

theorem toBytes_inj_of_parse (hs : parse s = .ok a) (ht : parse t = .ok b) :
    a.toBytes = b.toBytes ↔ s = t := by
  obtain ⟨d, -, rfl⟩ := parse_eq_ok.1 hs
  obtain ⟨e, -, rfl⟩ := parse_eq_ok.1 ht
  exact Utf8.encode_injective.eq_iff

/-- Two spellings of an account give the same bytes if they are written in the same case and with
the same checksum constant, which is one of two, and only then. In lower case they differ in the six
characters of their checksums at most. -/
theorem toBytes_eq_iff (hs : parse s = .ok a) (ht : parse t = .ok b) (hsame : decode s = decode t) :
    (a.toBytes = b.toBytes ↔
      Bech32.letterCase s = Bech32.letterCase t ∧ Bech32.constantOf s = Bech32.constantOf t) ∧
    (∀ u ∈ [s, t], ∃ x ∈ Bech32.residues, Bech32.constantOf u = some x) ∧
    ∃ common cs ds : List Char, cs.length = 6 ∧ ds.length = 6 ∧
      s.toList.map Char.toLower = common ++ cs ∧ t.toList.map Char.toLower = common ++ ds := by
  obtain ⟨d, hd, -⟩ := parse_eq_ok.1 hs
  obtain ⟨held, hs', ht'⟩ := bech32_decode_eq hd (hsame.symm.trans hd)
  obtain ⟨_, _, _, hspelled⟩ := Bech32.exists_spelled hs'
  obtain ⟨_, _, _, hspelled'⟩ := Bech32.exists_spelled ht'
  refine ⟨(toBytes_inj_of_parse hs ht).trans ⟨?_, ?_⟩, ?_, hspelled.exists_common hspelled'⟩
  · rintro rfl
    exact ⟨rfl, rfl⟩
  · rintro ⟨hcase, hconstant⟩
    exact hspelled.eq_of_spelled hspelled' hcase hconstant
  · simp only [List.forall_mem_cons]
    exact ⟨⟨_, hspelled.residue, hspelled.constantOf_eq⟩,
      ⟨_, hspelled'.residue, hspelled'.constantOf_eq⟩, fun _ h => nomatch h⟩

/-! ## Samples

An account in lower case, in upper case, and in lower case with the other checksum.
-/

def sampleLower : String := "union1qypqxpq9qcrsszg2pvxq6rs0zqg3yyc544dkgd"

def sampleUpper : String := "UNION1QYPQXPQ9QCRSSZG2PVXQ6RS0ZQG3YYC544DKGD"

def sampleOther : String := "union1qypqxpq9qcrsszg2pvxq6rs0zqg3yyc5qfa6d0"

/-- The account of all three. -/
def sampleAccount : Decoded :=
  ⟨[1, 2, 3, 4, 5, 6, 7, 8, 9, 10, 11, 12, 13, 14, 15, 16, 17, 18, 19, 20], "union"⟩

theorem decode_sampleLower : decode sampleLower = .ok sampleAccount := by
  decide +kernel

theorem decode_sampleUpper : decode sampleUpper = .ok sampleAccount := by
  decide +kernel

theorem decode_sampleOther : decode sampleOther = .ok sampleAccount := by
  decide +kernel

theorem toBytes_sampleOther :
    (toBytes ⟨sampleLower, "union"⟩ = toBytes ⟨sampleOther, "union"⟩ ↔
      Bech32.letterCase sampleLower = Bech32.letterCase sampleOther ∧
        Bech32.constantOf sampleLower = Bech32.constantOf sampleOther) ∧
    (∀ u ∈ [sampleLower, sampleOther], ∃ x ∈ Bech32.residues, Bech32.constantOf u = some x) ∧
    ∃ common cs ds : List Char, cs.length = 6 ∧ ds.length = 6 ∧
      sampleLower.toList.map Char.toLower = common ++ cs ∧
        sampleOther.toList.map Char.toLower = common ++ ds :=
  toBytes_eq_iff (parse_eq_ok.2 ⟨_, decode_sampleLower, rfl⟩)
    (parse_eq_ok.2 ⟨_, decode_sampleOther, rfl⟩) (decode_sampleLower.trans decode_sampleOther.symm)

/-- One account, two addresses: the case of the letters shows in the bytes. -/
theorem not_forall_toBytes_eq : ¬ ∀ (s t : String) (a b : CosmosAddress),
    parse s = .ok a → parse t = .ok b → decode s = decode t → a.toBytes = b.toBytes := by
  intro h
  have hbytes : toBytes ⟨sampleLower, "union"⟩ = toBytes ⟨sampleUpper, "union"⟩ :=
    h sampleLower sampleUpper _ _ (parse_eq_ok.2 ⟨_, decode_sampleLower, rfl⟩)
      (parse_eq_ok.2 ⟨_, decode_sampleUpper, rfl⟩)
      (decode_sampleLower.trans decode_sampleUpper.symm)
  exact absurd (Utf8.encode_injective hbytes) (by decide)

end CosmosAddress
end TokenBridge
