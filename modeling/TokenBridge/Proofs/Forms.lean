import TokenBridge.Forms
import TokenBridge.Proofs.Address.Cosmos
import TokenBridge.Proofs.Contract.Bridge

set_option autoImplicit false

/-! # Requests and receipts are read as they were written

Every value that is written as a data text is read back from it: requests with their parts, tokens,
receipts, coins, and what is said to contracts (`forms_lossless`). Amounts are written in as few
hexadecimal digits as they need.
-/

namespace TokenBridge

open Json

/-! ## Amounts -/

namespace Literal

theorem digit?_digitChar {d : Nat} (hd : d < 16) :
    d.digitChar ≠ '_' ∧ digit? d.digitChar = some d := by
  revert d
  decide

theorem readDigits_concat {base acc m : Nat} {cs : List Char} (h : readDigits base acc cs = some m)
    (c : Char) : readDigits base acc (cs ++ [c]) = readDigits base m [c] := by
  induction cs generalizing acc with
  | nil =>
      cases h
      rfl
  | cons d cs ih =>
      rw [readDigits] at h
      rw [List.cons_append, readDigits]
      split at h
      · next hblank =>
          rw [if_pos hblank]
          exact ih h
      · next hblank =>
          rw [if_neg hblank]
          split at h
          · next v hv =>
              split at h
              · next hlt =>
                  rw [if_pos hlt]
                  exact ih h
              · cases h
          · cases h

theorem readDigits_digitChar {base d : Nat} (hbase : base ≤ 16) (hd : d < base) (acc : Nat) :
    readDigits base acc [d.digitChar] = some (acc * base + d) := by
  obtain ⟨hblank, hdigit⟩ := digit?_digitChar (Nat.lt_of_lt_of_le hd hbase)
  rw [readDigits, if_neg hblank, hdigit]
  exact if_pos hd

/-- The digits of a number are read as that number, in every base up to sixteen. -/
theorem readDigits_toDigits {base : Nat} (hone : 1 < base) (hbase : base ≤ 16) (n : Nat) :
    readDigits base 0 (Nat.toDigits base n) = some n := by
  induction n using Nat.strongRecOn with
  | ind n ih =>
      rw [Nat.toDigits_eq_if hone]
      split
      · next hsmall =>
          rw [readDigits_digitChar hbase hsmall, Nat.zero_mul, Nat.zero_add]
      · next hlarge =>
          -- The last digit is read onto the number that the others spell.
          have hfront := ih (n / base) (Nat.div_lt_self (by omega) hone)
          rw [readDigits_concat hfront, readDigits_digitChar hbase (Nat.mod_lt n (by omega)),
            Nat.mul_comm, Nat.div_add_mod]

theorem toList_quantity (n : Nat) :
    (Hex.quantity n).toList = '0' :: 'x' :: Nat.toDigits 16 n := by
  calc (Hex.quantity n).toList
      = "0x".toList ++ (String.ofList (Nat.toDigits 16 n)).toList := String.toList_append
    _ = "0x".toList ++ Nat.toDigits 16 n := congrArg _ String.toList_ofList

theorem read_quantity (n : Nat) : read (Hex.quantity n) = some n := by
  rw [read, toList_quantity]
  exact readDigits_toDigits (by decide) (by decide) n

end Literal

namespace Amount

theorem read_write (a : Amount) : read (form.write a) = .ok a := by
  show read (.string (Hex.quantity a.toNat)) = .ok a
  rw [read, Literal.read_quantity]
  dsimp only
  rw [if_pos (show a.toNat < Nat.pow 2 256 from a.isLt), BitVec.ofNat_toNat, BitVec.setWidth_eq]

theorem faithful_form : form.Faithful 0 := ⟨fun _ _ _ => rfl, read_write⟩

/-- Only zero is written with a zero behind the mark. -/
theorem write_eq (a : Amount) :
    ∃ digits, form.write a = .string (String.ofList ('0' :: 'x' :: digits)) ∧
      (a ≠ 0 → digits.head? ≠ some '0') := by
  refine ⟨Nat.toDigits 16 a.toNat, ?_, fun ha => ?_⟩
  · refine congrArg Json.string (String.toList_inj.1 ?_)
    rw [Literal.toList_quantity, String.toList_ofList]
  · cases hdigits : Nat.toDigits 16 a.toNat with
    | nil => exact fun h => nomatch h
    | cons c cs =>
        have hne : a.toNat ≠ 0 := fun h => ha (BitVec.eq_of_toNat_eq h)
        exact fun h => head_toDigits_ne (by decide) hne hdigits (Option.some.inj h)

end Amount

/-! ## Single values -/

theorem ChainFamily.faithful_form : form.Faithful 0 where
  fits _ _ _ := rfl
  read f := by cases f <;> rfl

theorem TxHash.faithful_form : TxHash.form.Faithful 0 := Form.faithful_string

/-- An address that was given as a text is read back as that address. -/
theorem CosmosAddress.parse_print {s : String} {a : CosmosAddress} (h : parse s = .ok a) :
    form.parse (form.print a) = some a := by
  obtain ⟨d, -, rfl⟩ := parse_eq_ok.1 h
  exact Form.faithful_string.parse_print_via (by decide) (congrArg Except.toOption h)

/-! ## Records -/

theorem TokenMetadata.faithful_form : form.Faithful 1 where
  fits m depth hdepth := by
    refine fits_flat hdepth ?_
    simp only [List.forall_mem_cons]
    exact ⟨⟨by decide, rfl⟩, ⟨by decide, rfl⟩,
      ⟨by decide, fits_ofNat m.decimals.toNat_lt (by decide) _⟩, fun _ h => nomatch h⟩
  read m := by
    have hdecimals : asUnsigned 8 (ofNat m.decimals.toNat) = .ok m.decimals.toNat :=
      asUnsigned_ofNat m.decimals.toNat_lt
    refine Outcome.bind_eq_ok.2 ⟨_, asRecord_object _ (by decide) ?_, ?_⟩
    · exact .cons ⟨rfl, rfl⟩ <| .cons ⟨rfl, rfl⟩ <| .cons ⟨rfl, check_field hdecimals⟩ .nil
    · refine Outcome.bind_eq_ok.2 ⟨m.symbol, rfl, ?_⟩
      refine Outcome.bind_eq_ok.2 ⟨m.name, rfl, ?_⟩
      refine Outcome.bind_eq_ok.2 ⟨_, hdecimals, ?_⟩
      show Except.ok (TokenMetadata.mk _ _ (UInt8.ofNat _)) = _
      rw [UInt8.ofNat_toNat]

theorem Channel.faithful_form : form.Faithful 1 where
  fits c depth hdepth := by
    refine fits_flat hdepth ?_
    simp only [List.forall_mem_cons]
    exact ⟨⟨by decide, fits_ofNat c.sourceId.toNat_lt (by decide) _⟩,
      ⟨by decide, fits_ofNat c.destinationId.toNat_lt (by decide) _⟩, ⟨by decide, rfl⟩,
      ⟨by decide, rfl⟩, fun _ h => nomatch h⟩
  read c := by
    have hsource : asUnsigned 32 (ofNat c.sourceId.toNat) = .ok c.sourceId.toNat :=
      asUnsigned_ofNat c.sourceId.toNat_lt
    have hdestination : asUnsigned 32 (ofNat c.destinationId.toNat) = .ok c.destinationId.toNat :=
      asUnsigned_ofNat c.destinationId.toNat_lt
    refine Outcome.bind_eq_ok.2 ⟨_, asRecord_object _ (by decide) ?_, ?_⟩
    · exact .cons ⟨rfl, check_field hsource⟩ <| .cons ⟨rfl, check_field hdestination⟩ <|
        .cons ⟨rfl, rfl⟩ <| .cons ⟨rfl, rfl⟩ .nil
    · refine Outcome.bind_eq_ok.2 ⟨_, hsource, ?_⟩
      refine Outcome.bind_eq_ok.2 ⟨_, hdestination, ?_⟩
      show Except.ok (Channel.mk _ _ c.sourcePort c.destinationPort) = _
      rw [UInt32.ofNat_toNat, UInt32.ofNat_toNat]

theorem Endpoint.faithful_form : form.Faithful 1 where
  fits e depth hdepth := by
    refine fits_flat hdepth ?_
    simp only [List.forall_mem_cons]
    exact ⟨⟨by decide, fits_ofNat e.channel.toNat_lt (by decide) _⟩, ⟨by decide, rfl⟩,
      fun _ h => nomatch h⟩
  read e := by
    have hchannel : asUnsigned 32 (ofNat e.channel.toNat) = .ok e.channel.toNat :=
      asUnsigned_ofNat e.channel.toNat_lt
    refine Outcome.bind_eq_ok.2 ⟨_, asRecord_object _ (by decide) ?_, ?_⟩
    · exact .cons ⟨rfl, check_field hchannel⟩ <| .cons ⟨rfl, rfl⟩ .nil
    · refine Outcome.bind_eq_ok.2 ⟨_, hchannel, ?_⟩
      show Except.ok (Endpoint.mk _ e.contract) = _
      rw [UInt32.ofNat_toNat]

theorem Receipt.faithful_form : form.Faithful 1 where
  fits r depth hdepth := by
    refine fits_flat hdepth ?_
    simp only [List.forall_mem_cons]
    refine ⟨⟨by decide, rfl⟩, ⟨by decide, ?_⟩, fun _ h => nomatch h⟩
    cases r.height with
    | none => rfl
    | some h => exact fits_ofNat h.toNat_lt (by decide) _
  read r := by
    have hheight : asOptional (asUnsigned 64) ((r.height.map fun h => ofNat h.toNat).getD .null) =
        .ok (r.height.map UInt64.toNat) := by
      cases r.height with
      | none => rfl
      | some h => exact congrArg (Except.map some) (asUnsigned_ofNat h.toNat_lt)
    refine Outcome.bind_eq_ok.2 ⟨_, asRecord_object _ (by decide) ?_, ?_⟩
    · exact .cons ⟨rfl, rfl⟩ <| .cons ⟨rfl, check_field hheight⟩ .nil
    · refine Outcome.bind_eq_ok.2 ⟨r.hash, rfl, ?_⟩
      refine Outcome.bind_eq_ok.2 ⟨_, hheight, ?_⟩
      show Except.ok (Receipt.mk r.hash ((r.height.map UInt64.toNat).map UInt64.ofNat)) = _
      cases r with
      | mk hash height =>
          cases height with
          | none => rfl
          | some h => rw [Option.map_some, Option.map_some, UInt64.ofNat_toNat]

theorem Funds.faithful_form : form.Faithful 1 where
  fits f depth hdepth := by
    refine fits_flat hdepth ?_
    simp only [List.forall_mem_cons]
    exact ⟨⟨by decide, rfl⟩, ⟨by decide, fits_ofNat f.amount.isLt (by decide) _⟩,
      fun _ h => nomatch h⟩
  read f := by
    have hamount : asUnsigned 128 (ofNat f.amount.toNat) = .ok f.amount.toNat :=
      asUnsigned_ofNat f.amount.isLt
    refine Outcome.bind_eq_ok.2 ⟨_, asRecord_object _ (by decide) ?_, ?_⟩
    · exact .cons ⟨rfl, rfl⟩ <| .cons ⟨rfl, check_field hamount⟩ .nil
    · refine Outcome.bind_eq_ok.2 ⟨f.denom, rfl, ?_⟩
      refine Outcome.bind_eq_ok.2 ⟨_, hamount, ?_⟩
      show Except.ok (Funds.mk f.denom (BitVec.ofNat 128 f.amount.toNat)) = _
      rw [BitVec.ofNat_toNat, BitVec.setWidth_eq]

theorem Intent.faithful_form : form.Faithful 1 where
  fits i depth hdepth := by
    refine fits_flat hdepth ?_
    simp only [List.forall_mem_cons]
    exact ⟨⟨by decide, rfl⟩, ⟨by decide, rfl⟩, ⟨by decide, rfl⟩, ⟨by decide, rfl⟩, ⟨by decide, rfl⟩,
      fun _ h => nomatch h⟩
  read i := by
    have hbase := Amount.read_write i.baseAmount
    have hquote := Amount.read_write i.quoteAmount
    refine Outcome.bind_eq_ok.2 ⟨_, asRecord_object _ (by decide) ?_, ?_⟩
    · exact .cons ⟨rfl, rfl⟩ <| .cons ⟨rfl, rfl⟩ <| .cons ⟨rfl, rfl⟩ <|
        .cons ⟨rfl, check_field hbase⟩ <| .cons ⟨rfl, check_field hquote⟩ .nil
    · refine Outcome.bind_eq_ok.2 ⟨i.sender, rfl, ?_⟩
      refine Outcome.bind_eq_ok.2 ⟨i.receiver, rfl, ?_⟩
      refine Outcome.bind_eq_ok.2 ⟨i.baseToken, rfl, ?_⟩
      refine Outcome.bind_eq_ok.2 ⟨_, hbase, ?_⟩
      exact Outcome.bind_eq_ok.2 ⟨_, hquote, rfl⟩

theorem BatchRequest.faithful_form : form.Faithful 3 := by
  have hfamily : ChainFamily.form.optional.Faithful 0 :=
    ChainFamily.faithful_form.optional fun _ h => nomatch h
  have hchannel : Channel.form.optional.Faithful 1 :=
    Channel.faithful_form.optional fun _ h => nomatch h
  have hbridge : Form.string.optional.Faithful 0 :=
    Form.faithful_string.optional fun _ h => nomatch h
  have hintents : Intent.form.list.Faithful 2 := Intent.faithful_form.list
  constructor
  · intro r depth hdepth
    refine fits_record (by omega) ?_
    simp only [List.forall_mem_cons]
    exact ⟨⟨_, rfl, hfamily.fits r.source? (by omega)⟩,
      ⟨_, rfl, hfamily.fits r.destination? (by omega)⟩,
      ⟨_, rfl, hchannel.fits r.channel? (by omega)⟩, ⟨_, rfl, hbridge.fits r.bridge? (by omega)⟩,
      ⟨_, rfl, hintents.fits r.intents (by omega)⟩, fun _ h => nomatch h⟩
  · intro r
    have hsource := hfamily.read r.source?
    have hdestination := hfamily.read r.destination?
    have hend := hchannel.read r.channel?
    have htext := hbridge.read r.bridge?
    have hitems := hintents.read r.intents
    refine Outcome.bind_eq_ok.2 ⟨_, asRecord_object _ (by decide) ?_, ?_⟩
    · exact .cons ⟨rfl, check_field hsource⟩ <| .cons ⟨rfl, check_field hdestination⟩ <|
        .cons ⟨rfl, check_field hend⟩ <| .cons ⟨rfl, check_field htext⟩ <|
          .cons ⟨rfl, check_field hitems⟩ .nil
    · refine Outcome.bind_eq_ok.2 ⟨_, hsource, ?_⟩
      refine Outcome.bind_eq_ok.2 ⟨_, hdestination, ?_⟩
      refine Outcome.bind_eq_ok.2 ⟨_, hend, ?_⟩
      refine Outcome.bind_eq_ok.2 ⟨_, htext, ?_⟩
      exact Outcome.bind_eq_ok.2 ⟨_, hitems, rfl⟩

/-! ## All forms -/

/-- Every value of a type that is both written and read is read back from its text as it was, and
so is every address that was given as a text. Amounts are written in hexadecimal digits, of which
only zero has a zero in front. -/
theorem forms_lossless :
    BatchRequest.form.Lossless ∧ Channel.form.Lossless ∧ Intent.form.Lossless ∧
      ChainFamily.form.Lossless ∧ Endpoint.form.Lossless ∧ TokenMetadata.form.Lossless ∧
      TxHash.form.Lossless ∧ Receipt.form.Lossless ∧ Funds.form.Lossless ∧
      Contract.SendMessage.form.Lossless ∧ Contract.PredictQuery.form.Lossless ∧
      Contract.TokenInfoQuery.form.Lossless ∧
    (∀ s a, CosmosAddress.parse s = .ok a →
      CosmosAddress.form.parse (CosmosAddress.form.print a) = some a) ∧
    Amount.form.Lossless ∧
    ∀ a : Amount, ∃ digits,
      Amount.form.write a = .string (String.ofList ('0' :: 'x' :: digits)) ∧
        (a ≠ 0 → digits.head? ≠ some '0') :=
  ⟨BatchRequest.faithful_form.lossless (by decide), Channel.faithful_form.lossless (by decide),
    Intent.faithful_form.lossless (by decide), ChainFamily.faithful_form.lossless (by decide),
    Endpoint.faithful_form.lossless (by decide), TokenMetadata.faithful_form.lossless (by decide),
    TxHash.faithful_form.lossless (by decide), Receipt.faithful_form.lossless (by decide),
    Funds.faithful_form.lossless (by decide),
    Contract.SendMessage.faithful_form.lossless (by decide),
    Contract.PredictQuery.faithful_form.lossless (by decide),
    Contract.TokenInfoQuery.faithful_form.lossless (by decide),
    fun _ _ => CosmosAddress.parse_print, Amount.faithful_form.lossless (by decide),
    Amount.write_eq⟩

end TokenBridge
