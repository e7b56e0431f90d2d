import Mathlib.Order.Monotone.Basic
import TokenBridge.Polling
import TokenBridge.Proofs.Conversation

set_option autoImplicit false

/-! # The first decisive answer decides

Polling puts one question again and again. What it comes to is decided by the first answer that
decides anything, if that comes in time: the answers before it only cost time, and nothing is asked
after it (`firstDecides_poll`). The pauses alone tell how much time has passed (`Patience.waited`).
-/

namespace TokenBridge

namespace Patience

/-- The patience for what comes after that many pauses. -/
def afterPauses (p : Patience) : Nat → Patience
  | 0 => p
  | n + 1 => p.afterPause.afterPauses n

/-- How long that many pauses take. -/
def waited (p : Patience) : Nat → Nat
  | 0 => 0
  | n + 1 => max 1 p.pause + p.afterPause.waited n

theorem limit_afterPauses (p : Patience) (n : Nat) : (p.afterPauses n).limit = p.limit := by
  induction n generalizing p with
  | zero => rfl
  | succ n ih => exact ih p.afterPause

theorem waited_lt_succ (p : Patience) (n : Nat) : p.waited n < p.waited (n + 1) := by
  induction n generalizing p with
  | zero =>
      simp only [waited]
      omega
  | succ n ih => exact Nat.add_lt_add_left (ih p.afterPause) _

theorem waited_strictMono (p : Patience) : StrictMono p.waited :=
  strictMono_nat_of_lt_succ p.waited_lt_succ

end Patience

namespace Dialogue

variable {Q : Type} {Answer : Q → Type} {α : Type}

/-- One question, with each of the answers in turn. -/
def repeated (q : Q) (answers : List (Answer q)) : List (Exchange Answer) :=
  answers.map (Sigma.mk q)

/-- The dialogue puts one question until an answer decides. `inTime n` tells that there is time for
another question after `n` answers that did not. -/
structure FirstDecides (d : Dialogue Answer α) (q : Q) (undecided : Answer q → Prop)
    (decides : Answer q → α → Prop) (inTime : Nat → Prop) (late : α) : Prop where
  undecided_iff : ∀ r, undecided r ↔ ∀ a, ¬decides r a
  unique : ∀ r a b, decides r a → decides r b → a = b
  /-- Nothing else is asked, and that only while there is time and no answer has decided. -/
  asks : ∀ log q', (∃ next, d.Leads log (ask q' next)) ↔ q' = q ∧
    ∃ answers, log = repeated q answers ∧ (∀ r ∈ answers, undecided r) ∧ inTime answers.length
  /-- The result is what the first decisive answer decides, whatever came before it. Without one,
  the dialogue ends as soon as there is no time left. -/
  ends : ∀ log a, d.Leads log (done a) ↔
    (∃ before r, log = repeated q (before ++ [r]) ∧ (∀ b ∈ before, undecided b) ∧
      inTime before.length ∧ decides r a) ∨
    (a = late ∧ ∃ answers, log = repeated q answers ∧ (∀ r ∈ answers, undecided r) ∧
      ¬inTime answers.length ∧ ∀ n < answers.length, inTime n)
  /-- Nothing is asked after a decisive answer. -/
  stops : ∀ before r after a rest, d.Leads (repeated q (before ++ r :: after)) rest →
    (∀ b ∈ before, undecided b) → decides r a → after = [] ∧ rest = done a

section Polling

variable {p : Patience} {q : Q} {decide : Answer q → Option α} {late : α} {waited : Nat}
  {log : List (Exchange Answer)} {rest : Dialogue Answer α}

theorem pollFrom_of_late (h : ¬waited < p.limit) : pollFrom p q decide late waited = done late := by
  rw [pollFrom, if_neg h]

theorem leads_pollFrom_cons (h : waited < p.limit) {r : Answer q} (hr : decide r = none) :
    (pollFrom p q decide late waited).Leads (⟨q, r⟩ :: log) rest ↔
      (pollFrom p.afterPause q decide late (waited + max 1 p.pause)).Leads log rest := by
  rw [pollFrom_of_left p q decide late waited h, leads_ask_cons_iff, hr]

/-- Undecided answers have no influence on what follows, other than by the time that they take. -/
theorem leads_pollFrom_append {before : List (Answer q)} (hbefore : ∀ b ∈ before, decide b = none)
    (htime : ∀ n < before.length, waited + p.waited n < p.limit) :
    (pollFrom p q decide late waited).Leads (repeated q before ++ log) rest ↔
      (pollFrom (p.afterPauses before.length) q decide late
        (waited + p.waited before.length)).Leads log rest := by
  induction before generalizing p waited with
  | nil => exact Iff.rfl
  | cons b before ih =>
      obtain ⟨hb, hbefore⟩ := List.forall_mem_cons.1 hbefore
      have hfirst : waited < p.limit := htime 0 (Nat.succ_pos _)
      have hlater : ∀ n < before.length,
          waited + max 1 p.pause + p.afterPause.waited n < p.afterPause.limit := by
        intro n hn
        rw [Nat.add_assoc]
        exact htime (n + 1) (Nat.succ_lt_succ hn)
      have hrest := ih (p := p.afterPause) hbefore hlater
      rw [Nat.add_assoc] at hrest
      exact (leads_pollFrom_cons hfirst hb).trans hrest

theorem leads_pollFrom_single {r : Answer q} {a : α} (h : waited < p.limit)
    (hr : decide r = some a) :
    (pollFrom p q decide late waited).Leads (⟨q, r⟩ :: log) rest ↔ log = [] ∧ rest = done a := by
  rw [pollFrom_of_left p q decide late waited h, leads_ask_cons_iff, hr, leads_done_iff]

/-- Whatever was answered, there was time for the question. -/
theorem lt_limit_of_leads_cons {x : Exchange Answer}
    (h : (pollFrom p q decide late waited).Leads (x :: log) rest) : waited < p.limit := by
  by_contra hlate
  rw [pollFrom_of_late hlate] at h
  cases h

theorem lt_limit_of_leads {before : List (Answer q)} {x : Exchange Answer}
    (h : (pollFrom p q decide late waited).Leads (repeated q before ++ x :: log) rest)
    (hbefore : ∀ b ∈ before, decide b = none) :
    ∀ n ≤ before.length, waited + p.waited n < p.limit := by
  induction before generalizing p waited with
  | nil =>
      intro n hn
      obtain rfl : n = 0 := Nat.le_zero.1 hn
      exact lt_limit_of_leads_cons h
  | cons b before ih =>
      obtain ⟨hb, hbefore⟩ := List.forall_mem_cons.1 hbefore
      have hfirst := lt_limit_of_leads_cons h
      have hlater := ih ((leads_pollFrom_cons hfirst hb).1 h) hbefore
      intro n hn
      cases n with
      | zero => exact hfirst
      | succ n =>
          have hn' := hlater n (Nat.le_of_succ_le_succ hn)
          rw [Nat.add_assoc] at hn'
          exact hn'

/-- What has been said is undecided answers for which there was time, and then one that decides or
none. -/
theorem exists_of_leads_pollFrom (h : (pollFrom p q decide late waited).Leads log rest) :
    ∃ before, (∀ b ∈ before, decide b = none) ∧
      (∀ n < before.length, waited + p.waited n < p.limit) ∧
      ((log = repeated q before ∧
          rest = pollFrom (p.afterPauses before.length) q decide late
            (waited + p.waited before.length)) ∨
        ∃ r a, log = repeated q (before ++ [r]) ∧ waited + p.waited before.length < p.limit ∧
          decide r = some a ∧ rest = done a) := by
  induction log generalizing p waited with
  | nil => exact ⟨[], by simp, by simp, .inl ⟨rfl, leads_nil_iff.1 h⟩⟩
  | cons x log ih =>
      have hfirst := lt_limit_of_leads_cons h
      obtain ⟨r, rfl⟩ : ∃ r, x = ⟨q, r⟩ := by
        rw [pollFrom_of_left p q decide late waited hfirst] at h
        cases h with
        | ask _ _ r _ => exact ⟨r, rfl⟩
      cases hr : decide r with
      | some a =>
          obtain ⟨rfl, rfl⟩ := (leads_pollFrom_single hfirst hr).1 h
          exact ⟨[], by simp, by simp, .inr ⟨r, a, rfl, hfirst, hr, rfl⟩⟩
      | none =>
          obtain ⟨before, hbefore, htime, hend⟩ := ih ((leads_pollFrom_cons hfirst hr).1 h)
          simp only [Nat.add_assoc] at htime hend
          refine ⟨r :: before, List.forall_mem_cons.2 ⟨hr, hbefore⟩, ?_, ?_⟩
          · intro n hn
            cases n with
            | zero => exact hfirst
            | succ n => exact htime n (Nat.lt_of_succ_lt_succ hn)
          · rcases hend with ⟨rfl, hrest⟩ | ⟨r', a, rfl, hlast, hr', hrest⟩
            · exact .inl ⟨rfl, hrest⟩
            · exact .inr ⟨r', a, rfl, hlast, hr', hrest⟩

/-! ## Polling from the start -/

/-- While there is time for a question, there was time for all those before it. -/
theorem waited_lt_limit {n : Nat} (hn : p.waited n < p.limit) :
    ∀ m < n, p.waited m < p.limit := by
  intro m hm
  exact Nat.lt_trans (p.waited_strictMono hm) hn

theorem leads_poll_append {before : List (Answer q)} (hbefore : ∀ b ∈ before, decide b = none)
    (htime : ∀ n < before.length, p.waited n < p.limit) :
    (poll p q decide late).Leads (repeated q before ++ log) rest ↔
      (pollFrom (p.afterPauses before.length) q decide late (p.waited before.length)).Leads
        log rest := by
  have htime' : ∀ n < before.length, 0 + p.waited n < p.limit := by simpa only [Nat.zero_add]
  rw [poll, leads_pollFrom_append hbefore htime', Nat.zero_add]

theorem leads_poll_repeated {answers : List (Answer q)} (hanswers : ∀ r ∈ answers, decide r = none)
    (htime : ∀ n < answers.length, p.waited n < p.limit) :
    (poll p q decide late).Leads (repeated q answers) rest ↔
      rest = pollFrom (p.afterPauses answers.length) q decide late (p.waited answers.length) := by
  rw [← List.append_nil (repeated q answers), leads_poll_append hanswers htime, leads_nil_iff]

theorem repeated_append_cons (before after : List (Answer q)) (r : Answer q) :
    repeated q (before ++ r :: after) = repeated q before ++ ⟨q, r⟩ :: repeated q after :=
  List.map_append

theorem leads_poll_decided {before after : List (Answer q)} {r : Answer q} {a : α}
    (hbefore : ∀ b ∈ before, decide b = none) (htime : p.waited before.length < p.limit)
    (hr : decide r = some a) :
    (poll p q decide late).Leads (repeated q (before ++ r :: after)) rest ↔
      after = [] ∧ rest = done a := by
  have hnow : p.waited before.length < (p.afterPauses before.length).limit := by
    rwa [Patience.limit_afterPauses]
  rw [repeated_append_cons, leads_poll_append hbefore (waited_lt_limit htime),
    leads_pollFrom_single hnow hr, repeated, List.map_eq_nil_iff]

theorem exists_of_leads_poll (h : (poll p q decide late).Leads log rest) :
    ∃ before, (∀ b ∈ before, decide b = none) ∧
      (∀ n < before.length, p.waited n < p.limit) ∧
      ((log = repeated q before ∧
          rest = pollFrom (p.afterPauses before.length) q decide late (p.waited before.length)) ∨
        ∃ r a, log = repeated q (before ++ [r]) ∧ p.waited before.length < p.limit ∧
          decide r = some a ∧ rest = done a) := by
  have h := exists_of_leads_pollFrom h
  simp only [Nat.zero_add] at h
  exact h

theorem exists_leads_poll_ask_iff {q' : Q} :
    (∃ next, (poll p q decide late).Leads log (ask q' next)) ↔ q' = q ∧
      ∃ answers, log = repeated q answers ∧ (∀ r ∈ answers, decide r = none) ∧
        p.waited answers.length < p.limit := by
  have hlimit : ∀ n, (p.afterPauses n).limit = p.limit := p.limit_afterPauses
  constructor
  · rintro ⟨next, h⟩
    obtain ⟨before, hbefore, -, ⟨rfl, hrest⟩ | ⟨r, a, -, -, -, hrest⟩⟩ := exists_of_leads_poll h
    · by_cases hnow : p.waited before.length < p.limit
      · rw [pollFrom_of_left _ _ _ _ _ ((hlimit _).symm ▸ hnow)] at hrest
        cases hrest
        exact ⟨rfl, before, rfl, hbefore, hnow⟩
      · rw [pollFrom_of_late ((hlimit _).symm ▸ hnow)] at hrest
        cases hrest
    · cases hrest
  · rintro ⟨rfl, answers, rfl, hanswers, htime⟩
    have hask := pollFrom_of_left (p.afterPauses answers.length) q' decide late
      (p.waited answers.length) ((hlimit _).symm ▸ htime)
    exact ⟨_, (leads_poll_repeated hanswers (waited_lt_limit htime)).2 hask.symm⟩

theorem leads_poll_done_iff {a : α} :
    (poll p q decide late).Leads log (done a) ↔
      (∃ before r, log = repeated q (before ++ [r]) ∧ (∀ b ∈ before, decide b = none) ∧
        p.waited before.length < p.limit ∧ decide r = some a) ∨
      (a = late ∧ ∃ answers, log = repeated q answers ∧ (∀ r ∈ answers, decide r = none) ∧
        ¬p.waited answers.length < p.limit ∧ ∀ n < answers.length, p.waited n < p.limit) := by
  have hlimit : ∀ n, (p.afterPauses n).limit = p.limit := p.limit_afterPauses
  constructor
  · intro h
    obtain ⟨before, hbefore, htime, ⟨rfl, hrest⟩ | ⟨r, b, rfl, hnow, hr, hrest⟩⟩ :=
      exists_of_leads_poll h
    · by_cases hnow : p.waited before.length < p.limit
      · rw [pollFrom_of_left _ _ _ _ _ ((hlimit _).symm ▸ hnow)] at hrest
        cases hrest
      · rw [pollFrom_of_late ((hlimit _).symm ▸ hnow)] at hrest
        cases hrest
        exact .inr ⟨rfl, before, rfl, hbefore, hnow, htime⟩
    · cases hrest
      exact .inl ⟨before, r, rfl, hbefore, hnow, hr⟩
  · rintro (⟨before, r, rfl, hbefore, htime, hr⟩ | ⟨rfl, answers, rfl, hanswers, hlate, htime⟩)
    · exact (leads_poll_decided hbefore htime hr).2 ⟨rfl, rfl⟩
    · refine (leads_poll_repeated hanswers htime).2 (pollFrom_of_late ?_).symm
      rwa [hlimit]

/-- It makes no difference if one sees beforehand that there is no time at all. -/
theorem ite_done_poll (seconds : UInt64) (hlimit : p.limit = 1000 * seconds.toNat) :
    (if seconds = 0 then done late else poll p q decide late) = poll p q decide late := by
  split
  · next hzero =>
      have hnone : p.limit = 0 := by
        rw [hlimit, hzero]
        rfl
      exact (poll_of_limit_zero p hnone q decide late).symm
  · rfl

/-- Polling comes to what the first decisive answer decides, if that comes in time. -/
theorem firstDecides_poll {undecided : Answer q → Prop} {decides : Answer q → α → Prop}
    (hundecided : ∀ r, undecided r ↔ decide r = none)
    (hdecides : ∀ r a, decides r a ↔ decide r = some a) :
    (poll p q decide late).FirstDecides q undecided decides (fun n => p.waited n < p.limit)
      late := by
  obtain rfl : undecided = fun r => decide r = none := by
    funext r
    exact propext (hundecided r)
  obtain rfl : decides = fun r a => decide r = some a := by
    funext r a
    exact propext (hdecides r a)
  constructor
  case undecided_iff =>
    intro r
    exact Option.eq_none_iff_forall_ne_some
  case unique =>
    intro r a b ha hb
    exact Option.some.inj (ha.symm.trans hb)
  case asks => exact fun log q' => exists_leads_poll_ask_iff
  case ends => exact fun log a => leads_poll_done_iff
  case stops =>
    intro before r after a rest h hbefore hr
    have hnow := lt_limit_of_leads (repeated_append_cons before after r ▸ h) hbefore
      before.length (Nat.le_refl _)
    rw [Nat.zero_add] at hnow
    exact (leads_poll_decided hbefore hnow hr).1 h

end Polling

end Dialogue

end TokenBridge
