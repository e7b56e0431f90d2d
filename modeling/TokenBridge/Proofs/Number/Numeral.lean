import Mathlib.Data.List.Induction
import TokenBridge.Number.Numeral
import TokenBridge.Proofs.Outcome

set_option autoImplicit false

/-! # Which numbers are read

A whole number is read from its decimal digits, which may stand after a plus sign and after zeros,
and from nothing else (`read_eq_ok`). That the reader stops at the first digit which makes the
number too large does no harm: further digits cannot make it smaller.
-/

namespace TokenBridge.Numeral

variable {bound acc n : Nat} {c : Char} {digits : List Char} {s : String}

/-- The text is the decimal numeral of `n`. A plus sign may come before it, and then any number of
zeros. -/
def Spells (s : String) (n : Nat) : Prop :=
  ∃ sign zeros, (sign = [] ∨ sign = ['+']) ∧
    s.toList = sign ++ (List.replicate zeros '0' ++ Nat.toDigits 10 n)

/-! ## Digits -/

theorem exists_digitChar (h : c.isDigit = true) : ∃ d, d < 10 ∧ c = Nat.digitChar d := by
  have hrange : 48 ≤ c.toNat ∧ c.toNat ≤ 57 := by
    simp only [Char.isDigit, Bool.and_eq_true, decide_eq_true_eq, ge_iff_le] at h
    exact h
  have hd : c.toNat - 48 < 10 := by omega
  refine ⟨c.toNat - 48, hd, Char.toNat_inj.1 ?_⟩
  rw [Nat.toNat_digitChar_of_lt_ten hd]
  omega

theorem le_ofDigitChars : acc ≤ Nat.ofDigitChars 10 digits acc := by
  induction digits generalizing acc with
  | nil => exact Nat.le_refl _
  | cons c digits ih =>
      rw [Nat.ofDigitChars_cons]
      exact Nat.le_trans (by omega) ih

/-- Digits are zeros and then the numeral of the number that they make. -/
theorem exists_eq_replicate_append (hne : digits ≠ [])
    (hdigits : ∀ c ∈ digits, c.isDigit = true) :
    ∃ zeros, digits =
      List.replicate zeros '0' ++ Nat.toDigits 10 (Nat.ofDigitChars 10 digits 0) := by
  induction digits using List.reverseRecOn with
  | nil => exact absurd rfl hne
  | append_singleton front c ih =>
      obtain ⟨d, hd, rfl⟩ := exists_digitChar (hdigits c (by simp))
      have hlast : [Nat.digitChar d] = Nat.toDigits 10 d := (Nat.toDigits_of_lt_base hd).symm
      rw [Nat.ofDigitChars_append, Nat.ofDigitChars_cons_digitChar_of_lt_ten hd,
        Nat.ofDigitChars_nil, hlast]
      by_cases hfront : front = []
      · subst hfront
        exact ⟨0, by simp⟩
      · obtain ⟨zeros, hzeros⟩ := ih hfront fun c hc => hdigits c (List.mem_append_left _ hc)
        -- If only zeros came before, the last of them is one in front of the numeral now.
        rcases Nat.eq_zero_or_pos (Nat.ofDigitChars 10 front 0) with hzero | hpos
        · refine ⟨zeros + 1, ?_⟩
          rw [hzero, Nat.toDigits_zero] at hzeros
          rw [hzero, hzeros, List.replicate_succ', Nat.mul_zero, Nat.zero_add]
        · refine ⟨zeros, ?_⟩
          rw [← Nat.toDigits_append_toDigits (by decide) hpos hd, ← List.append_assoc, ← hzeros]

/-! ## The reader -/

theorem digit?_eq (h : c.isDigit = true) : digit? c = some (c.toNat - 48) := if_pos h

theorem digit?_eq_none (h : ¬c.isDigit = true) : digit? c = none := if_neg h

/-- The number that digits make is read if it is below the bound. -/
theorem readDigits_eq_ok (hacc : acc < bound) :
    readDigits bound acc digits = .ok n ↔
      (∀ c ∈ digits, c.isDigit = true) ∧ Nat.ofDigitChars 10 digits acc = n ∧ n < bound := by
  induction digits generalizing acc with
  | nil =>
      simp only [readDigits, Except.ok.injEq, Nat.ofDigitChars_nil]
      refine ⟨?_, fun h => h.2.1⟩
      rintro rfl
      exact ⟨fun c hc => (nomatch hc), rfl, hacc⟩
  | cons c digits ih =>
      by_cases hc : c.isDigit = true
      · have hnext : acc * 10 + (c.toNat - 48) = 10 * acc + (c.toNat - '0'.toNat) :=
          congrArg (· + (c.toNat - 48)) (Nat.mul_comm acc 10)
        rw [readDigits, digit?_eq hc, Nat.ofDigitChars_cons, List.forall_mem_cons]
        simp only [hnext, hc, true_and]
        split
        · next hlt => exact ih hlt
        · next hge =>
            constructor
            · intro h
              cases h
            · rintro ⟨-, rfl, hlt⟩
              exact absurd (Nat.lt_of_le_of_lt le_ofDigitChars hlt) hge
      · rw [readDigits, digit?_eq_none hc, List.forall_mem_cons]
        constructor
        · intro h
          cases h
        · exact fun h => absurd h.1.1 hc

/-- What is read is what stands after a sign. -/
theorem read_eq_ok_iff_readDigits :
    read bound s = .ok n ↔ ∃ sign digits, (sign = [] ∨ sign = ['+']) ∧
      s.toList = sign ++ digits ∧ digits ≠ [] ∧ readDigits bound 0 digits = .ok n := by
  constructor
  · intro h
    rw [read] at h
    split at h
    · cases h
    · cases h
    · next digits hne heq => exact ⟨['+'], digits, .inr rfl, heq, hne, h⟩
    · next hne _ _ => exact ⟨[], s.toList, .inl rfl, rfl, hne, h⟩
  · rintro ⟨sign, digits, hsign, hs, hne, hread⟩
    rw [read, hs]
    rcases hsign with rfl | rfl
    · split
      · next heq => exact absurd heq hne
      · next heq =>
          -- A sign is no digit, and so it cannot be the first of them.
          rw [show digits = ['+'] from heq] at hread
          cases hread
      · next digits' hne' heq =>
          rw [show digits = '+' :: digits' from heq] at hread
          cases hread
      · exact hread
    · split
      · next heq => cases heq
      · next heq => exact absurd (List.cons.inj heq).2 hne
      · next digits' hne' heq => rwa [← (List.cons.inj heq).2]
      · next hother => exact (hother digits rfl).elim

/-- A number is read exactly from the texts that spell it, if it is below the bound. -/
theorem read_eq_ok (hbound : 0 < bound) : read bound s = .ok n ↔ n < bound ∧ Spells s n := by
  rw [read_eq_ok_iff_readDigits]
  simp only [readDigits_eq_ok hbound]
  constructor
  · rintro ⟨sign, digits, hsign, hs, hne, hdigits, rfl, hlt⟩
    obtain ⟨zeros, hzeros⟩ := exists_eq_replicate_append hne hdigits
    exact ⟨hlt, sign, zeros, hsign, by rw [hs, ← hzeros]⟩
  · rintro ⟨hlt, sign, zeros, hsign, hs⟩
    refine ⟨sign, _, hsign, hs, by simp [Nat.toDigits_ne_nil], ?_, ?_, hlt⟩
    · intro c hc
      rcases List.mem_append.1 hc with hc | hc
      · rw [List.eq_of_mem_replicate hc]
        rfl
      · exact Nat.isDigit_of_mem_toDigits (by decide) (by decide) hc
    · rw [Nat.ofDigitChars_append, Nat.ofDigitChars_replicate_zero, Nat.mul_zero,
        Nat.ofDigitChars_ten_toDigits]

theorem readUInt64_eq_ok {n : UInt64} : readUInt64 s = .ok n ↔ Spells s n.toNat := by
  rw [readUInt64, Outcome.map_eq_ok]
  constructor
  · rintro ⟨m, hread, rfl⟩
    obtain ⟨hlt, hspells⟩ := (read_eq_ok (by decide)).1 hread
    rwa [UInt64.toNat_ofNat_of_lt' hlt]
  · intro hspells
    exact ⟨n.toNat, (read_eq_ok (by decide)).2 ⟨n.toNat_lt, hspells⟩, UInt64.ofNat_toNat⟩

end TokenBridge.Numeral
