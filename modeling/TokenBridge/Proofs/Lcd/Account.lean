import TokenBridge.Lcd.Account
import TokenBridge.Proofs.Number.Numeral

set_option autoImplicit false

/-! # What is read of an account

The numbers of an account are texts that spell them, and they are zero where the answer has no such
value (`Told`). The reader takes a value that is no text for zero as well. Nothing else is read
(`read_eq_ok_iff`), and so an account is as the answer tells it if and only if no value of this kind
stands under the two names.
-/

namespace TokenBridge.Lcd.AccountInfo

open Json

variable {account v : Json} {name : String} {n : UInt64}

/-! ## Where a value stands -/

/-- The account has a value of its own, or else the account on which it is based has one. -/
inductive Stands (account : Json) (name : String) (v : Json) : Prop
  | own (h : account.field? name = some v)
  | based (base : Json) (hown : account.field? name = none)
      (hbase : account.field? "base_account" = some base) (h : base.field? name = some v)

/-- Neither of the two accounts has a value of that name. -/
def Missing (account : Json) (name : String) : Prop :=
  account.field? name = none ∧
    ∀ base, account.field? "base_account" = some base → base.field? name = none

theorem find?_eq_some_iff : find? account name = some v ↔ Stands account name v := by
  rw [find?]
  constructor
  · intro h
    cases hown : account.field? name with
    | some w =>
        rw [hown] at h
        exact .own (hown.trans h)
    | none =>
        rw [hown] at h
        obtain ⟨base, hbase, hv⟩ := Option.bind_eq_some_iff.1 h
        exact .based base hown hbase hv
  · intro h
    cases h with
    | own h => rw [h]
    | based base hown hbase h =>
        rw [hown, hbase]
        exact h

theorem find?_eq_none_iff : find? account name = none ↔ Missing account name := by
  rw [find?, Missing]
  cases account.field? name with
  | some w => simp
  | none => simp [Option.bind_eq_none_iff]

/-- One value at most stands under a name. -/
theorem Stands.unique {w : Json} (hv : Stands account name v) (hw : Stands account name w) :
    v = w :=
  Option.some.inj ((find?_eq_some_iff.2 hv).symm.trans (find?_eq_some_iff.2 hw))

theorem Missing.not_stands (h : Missing account name) : ¬Stands account name v := by
  intro hv
  have hsome := find?_eq_some_iff.2 hv
  rw [find?_eq_none_iff.2 h] at hsome
  cases hsome

/-! ## Numbers -/

/-- What the account tells of one of its numbers: it is zero where there is no value, and else what
the text spells. -/
inductive Told (account : Json) (name : String) (n : UInt64) : Prop
  | missing (h : Missing account name) (hn : n = 0)
  | spelled (s : String) (h : Stands account name (.string s)) (hs : Numeral.Spells s n.toNat)

/-- There is a value of that name, and it is no text. -/
def NoText (account : Json) (name : String) : Prop :=
  ∃ v, Stands account name v ∧ v.string? = none

theorem missing_or_noText_or_text (account : Json) (name : String) :
    Missing account name ∨ NoText account name ∨ ∃ s, Stands account name (.string s) := by
  cases hfind : find? account name with
  | none => exact .inl (find?_eq_none_iff.1 hfind)
  | some v =>
      have hv := find?_eq_some_iff.1 hfind
      cases v with
      | string s => exact .inr (.inr ⟨s, hv⟩)
      | _ => exact .inr (.inl ⟨_, hv, rfl⟩)

theorem Missing.told_iff (h : Missing account name) : Told account name n ↔ n = 0 := by
  constructor
  · intro htold
    cases htold with
    | missing _ hn => exact hn
    | spelled s hs _ => exact absurd hs h.not_stands
  · exact .missing h

theorem Stands.told_iff {s : String} (h : Stands account name (.string s)) :
    Told account name n ↔ Numeral.Spells s n.toNat := by
  constructor
  · intro htold
    cases htold with
    | missing hmissing _ => exact absurd h hmissing.not_stands
    | spelled s' h' hs =>
        rw [Json.string.inj (h.unique h')]
        exact hs
  · exact .spelled s h

theorem Missing.not_noText (h : Missing account name) : ¬NoText account name := by
  rintro ⟨v, hv, -⟩
  exact h.not_stands hv

theorem Stands.not_noText {s : String} (h : Stands account name (.string s)) :
    ¬NoText account name := by
  rintro ⟨v, hv, hnone⟩
  rw [hv.unique h] at hnone
  cases hnone

theorem Told.not_noText (h : Told account name n) : ¬NoText account name := by
  cases h with
  | missing h _ => exact h.not_noText
  | spelled s h _ => exact h.not_noText

/-! ## The reader -/

theorem readNumber_of_text {s : String}
    (h : ((find? account name).bind string?).getD "0" = s) :
    readNumber account name = .ok n ↔ Numeral.Spells s n.toNat := by
  rw [readNumber, h, Outcome.mapError_eq_ok, Numeral.readUInt64_eq_ok]

theorem spells_zero_iff : Numeral.Spells "0" n.toNat ↔ n = 0 := by
  have hzero : Numeral.readUInt64 "0" = .ok 0 := rfl
  rw [← Numeral.readUInt64_eq_ok, hzero]
  exact ⟨fun h => (Except.ok.inj h).symm, fun h => congrArg _ h.symm⟩

theorem readNumber_eq_ok_iff :
    readNumber account name = .ok n ↔ Told account name n ∨ NoText account name ∧ n = 0 := by
  rcases missing_or_noText_or_text account name with hmissing | hno | ⟨s, hs⟩
  · have htext : ((find? account name).bind string?).getD "0" = "0" := by
      rw [find?_eq_none_iff.2 hmissing]
      rfl
    rw [readNumber_of_text htext, spells_zero_iff, hmissing.told_iff]
    simp [hmissing.not_noText]
  · have htext : ((find? account name).bind string?).getD "0" = "0" := by
      obtain ⟨v, hv, hnone⟩ := hno
      rw [find?_eq_some_iff.2 hv, Option.bind_some, hnone]
      rfl
    have htold : ¬Told account name n := fun h => h.not_noText hno
    rw [readNumber_of_text htext, spells_zero_iff]
    simp [hno, htold]
  · have htext : ((find? account name).bind string?).getD "0" = s := by
      rw [find?_eq_some_iff.2 hs]
      rfl
    rw [readNumber_of_text htext, hs.told_iff]
    simp [hs.not_noText]

theorem read_eq_ok_iff_readNumber {answer : Json} {info : AccountInfo} :
    read answer = .ok info ↔ ∃ account, answer.field? "account" = some account ∧
      readNumber account "sequence" = .ok info.sequence ∧
      readNumber account "account_number" = .ok info.number := by
  rw [read]
  cases answer.field? "account" with
  | none =>
      constructor
      · intro h
        cases h
      · rintro ⟨_, ⟨⟩, _⟩
  | some account =>
      constructor
      · intro h
        obtain ⟨sequence, hsequence, h⟩ := Outcome.bind_eq_ok.1 h
        obtain ⟨number, hnumber, h⟩ := Outcome.bind_eq_ok.1 h
        cases h
        exact ⟨account, rfl, hsequence, hnumber⟩
      · rintro ⟨_, ⟨⟩, hsequence, hnumber⟩
        exact Outcome.bind_eq_ok.2 ⟨_, hsequence, Outcome.bind_eq_ok.2 ⟨_, hnumber, rfl⟩⟩

/-- The answer has an account and tells both of its numbers. -/
def Describes (answer : Json) (info : AccountInfo) : Prop :=
  ∃ account, answer.field? "account" = some account ∧
    Told account "sequence" info.sequence ∧ Told account "account_number" info.number

/-- The answer has an account with a number that is no text. -/
def Garbled (answer : Json) : Prop :=
  ∃ account, answer.field? "account" = some account ∧
    (NoText account "sequence" ∨ NoText account "account_number")

/-- What is read of an account; it is as the answer tells it, unless one of the values under the two
names is no text. Such a value counts as zero. -/
theorem read_eq_ok_iff (answer : Json) (info : AccountInfo) :
    (read answer = .ok info ↔ ∃ account, answer.field? "account" = some account ∧
      (Told account "sequence" info.sequence ∨
        NoText account "sequence" ∧ info.sequence = 0) ∧
      (Told account "account_number" info.number ∨
        NoText account "account_number" ∧ info.number = 0)) ∧
    (read answer = .ok info → (Describes answer info ↔ ¬Garbled answer)) := by
  have hread : read answer = .ok info ↔ _ := read_eq_ok_iff_readNumber
  simp only [readNumber_eq_ok_iff] at hread
  refine ⟨hread, fun h => ?_⟩
  obtain ⟨account, haccount, hsequence, hnumber⟩ := hread.1 h
  constructor
  · rintro ⟨_, h', htold⟩ ⟨_, h'', hno⟩
    cases haccount.symm.trans h'
    cases haccount.symm.trans h''
    exact hno.elim htold.1.not_noText htold.2.not_noText
  · intro hno
    refine ⟨account, haccount, hsequence.resolve_right ?_, hnumber.resolve_right ?_⟩
    · exact fun h => hno ⟨account, haccount, .inl h.1⟩
    · exact fun h => hno ⟨account, haccount, .inr h.1⟩

/-- An account whose sequence is a number and no text. -/
def sampleAnswer : Json :=
  .object [("account", .object [("account_number", .string "1"), ("sequence", ofNat 7)])]

/-- Its sequence is taken for zero, which the answer does not tell. -/
theorem not_forall_describes :
    ¬∀ answer info, read answer = .ok info → Describes answer info := by
  intro h
  have hread : read sampleAnswer = .ok ⟨0, 1⟩ := rfl
  obtain ⟨account, haccount, htold, -⟩ := h _ _ hread
  cases haccount
  exact htold.not_noText ⟨ofNat 7, .own rfl, rfl⟩

end TokenBridge.Lcd.AccountInfo
