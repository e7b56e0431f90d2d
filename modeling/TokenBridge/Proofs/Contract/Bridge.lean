import TokenBridge.Contract.Bridge
import TokenBridge.Proofs.Json.Form

set_option autoImplicit false

/-! # What is said to contracts

A message is an object that names what is asked, with the arguments in it. All messages are read as
they were written.
-/

namespace TokenBridge.Contract

open Json

theorem readCase_object {α : Type} (name : String) (read : Json → Except Mismatch α) (v : Json) :
    readCase name read (.object [(name, v)]) = read v := if_pos rfl

theorem SendMessage.faithful_form : form.Faithful 2 where
  fits m depth hdepth := by
    refine fits_choice (by omega) rfl (fits_flat (by omega) ?_)
    simp only [List.forall_mem_cons]
    exact ⟨⟨by decide, fits_ofNat m.channel.toNat_lt (by decide) _⟩,
      ⟨by decide, fits_ofNat m.timeoutHeight.toNat_lt (by decide) _⟩,
      ⟨by decide, fits_ofNat m.timeoutTimestamp.toNat_lt (by decide) _⟩, ⟨by decide, rfl⟩,
      ⟨by decide, rfl⟩, fun _ h => nomatch h⟩
  read m := by
    have hchannel : asUnsigned 32 (ofNat m.channel.toNat) = .ok m.channel.toNat :=
      asUnsigned_ofNat m.channel.toNat_lt
    have hheight : asUnsigned 64 (ofNat m.timeoutHeight.toNat) = .ok m.timeoutHeight.toNat :=
      asUnsigned_ofNat m.timeoutHeight.toNat_lt
    have htimestamp :
        asUnsigned 64 (ofNat m.timeoutTimestamp.toNat) = .ok m.timeoutTimestamp.toNat :=
      asUnsigned_ofNat m.timeoutTimestamp.toNat_lt
    refine (readCase_object _ _ _).trans ?_
    -- The arguments one after another, each found under its name and read.
    refine Outcome.bind_eq_ok.2 ⟨_, asRecord_object _ (by decide) ?_, ?_⟩
    · exact .cons ⟨rfl, check_field hchannel⟩ <| .cons ⟨rfl, check_field hheight⟩ <|
        .cons ⟨rfl, check_field htimestamp⟩ <| .cons ⟨rfl, rfl⟩ <| .cons ⟨rfl, rfl⟩ .nil
    · refine Outcome.bind_eq_ok.2 ⟨_, hchannel, ?_⟩
      refine Outcome.bind_eq_ok.2 ⟨_, hheight, ?_⟩
      refine Outcome.bind_eq_ok.2 ⟨_, htimestamp, ?_⟩
      show Except.ok (SendMessage.mk _ _ _ m.salt m.instruction) = _
      rw [UInt32.ofNat_toNat, UInt64.ofNat_toNat, UInt64.ofNat_toNat]

theorem PredictQuery.faithful_form : form.Faithful 2 where
  fits q depth hdepth := by
    refine fits_choice (by omega) rfl (fits_flat (by omega) ?_)
    simp only [List.forall_mem_cons]
    exact ⟨⟨by decide, rfl⟩, ⟨by decide, fits_ofNat q.channel.toNat_lt (by decide) _⟩,
      ⟨by decide, rfl⟩, fun _ h => nomatch h⟩
  read q := by
    have hchannel : asUnsigned 32 (ofNat q.channel.toNat) = .ok q.channel.toNat :=
      asUnsigned_ofNat q.channel.toNat_lt
    refine (readCase_object _ _ _).trans ?_
    refine Outcome.bind_eq_ok.2 ⟨_, asRecord_object _ (by decide) ?_, ?_⟩
    · exact .cons ⟨rfl, rfl⟩ <| .cons ⟨rfl, check_field hchannel⟩ <| .cons ⟨rfl, rfl⟩ .nil
    · refine Outcome.bind_eq_ok.2 ⟨q.path, rfl, ?_⟩
      refine Outcome.bind_eq_ok.2 ⟨_, hchannel, ?_⟩
      show Except.ok (PredictQuery.mk q.path _ q.token) = _
      rw [UInt32.ofNat_toNat]

theorem TokenInfoQuery.faithful_form : form.Faithful 2 where
  fits _ _ hdepth := by
    refine fits_choice (by omega) rfl (fits_flat (by omega) ?_)
    exact fun _ h => nomatch h
  read _ := rfl

end TokenBridge.Contract
