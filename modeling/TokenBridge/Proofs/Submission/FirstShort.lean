import TokenBridge.Proofs.Submission.Scan

set_option autoImplicit false

/-! # The first requirement that is not met

A search reads the allowances from a cursor on, in order and each once, up to the first one that
cannot be read or is too low. What is too low is approved at once, and nothing else is. So the
search comes to nothing if and only if all allowances are high enough, it comes to an approval if
and only if that was sent, and it fails if and only if a read or the approval has failed
(`approvesFirstShort`).
-/

namespace TokenBridge.Submission

open Dialogue

/-- What a search comes to. -/
abbrev Finding := Except Report (Option SubmittedApproval)

/-! ## What is said of one requirement -/

/-- The allowance was read, and is high enough. -/
def ReadMet (spender : String) (r : Requirement) (e : Event) : Prop :=
  ∃ allowance : Amount, r.amount ≤ allowance ∧
    e = answered (.allowance r.token spender) (.ok allowance)

/-- What is said of the requirement at which a search halts, and what the search has come to by
then. As long as an approval has not been answered, that is nothing yet. -/
inductive Halts (spender : String) (r : Requirement) (index : Nat) : Log → Option Finding → Prop
  | unread (e : Report) :
      Halts spender r index [answered (.allowance r.token spender) (.error e)]
        (some (.error (e.under s!"Failed to read allowance for {r.token}")))
  | short {allowance : Amount} (hshort : allowance < r.amount) :
      Halts spender r index [answered (.allowance r.token spender) (.ok allowance)] none
  | unapproved {allowance : Amount} (hshort : allowance < r.amount) (e : Report) :
      Halts spender r index [answered (.allowance r.token spender) (.ok allowance),
          answered (.approve r.token spender r.amount) (.error e)]
        (some (.error (e.under s!"Failed to approve {r.token}")))
  | approved {allowance : Amount} (hshort : allowance < r.amount) (hash : TxHash) :
      Halts spender r index [answered (.allowance r.token spender) (.ok allowance),
          answered (.approve r.token spender r.amount) (.ok hash)]
        (some (.ok (some ⟨index, hash⟩)))

section Search

variable {spender : String} {index : Nat} {r : Requirement} {rest : List Requirement} {log : Log}
  {d : Talk Finding} {o : Finding}

theorem leads_of_readMet {e : Event} (he : ReadMet spender r e)
    (hrest : (approveFirstShort spender (index + 1) rest).Leads log d) :
    (approveFirstShort spender index (r :: rest)).Leads (e :: log) d := by
  obtain ⟨allowance, hmet, rfl⟩ := he
  refine leads_ask_iff.2 (.inr ⟨_, log, rfl, ?_⟩)
  show (if r.amount ≤ allowance then _ else _ : Talk Finding).Leads log d
  rwa [if_pos hmet]

theorem leads_of_halts (h : Halts spender r index log (some o)) :
    (approveFirstShort spender index (r :: rest)).Leads log (done o) := by
  cases h with
  | unread e => exact .ask _ _ _ (.refl _)
  | @unapproved allowance hshort e =>
      refine .ask _ _ _ ?_
      show (if r.amount ≤ allowance then _ else _ : Talk Finding).Leads _ _
      rw [if_neg (BitVec.not_le.2 hshort)]
      exact .ask _ _ _ (.refl _)
  | @approved allowance hshort hash =>
      refine .ask _ _ _ ?_
      show (if r.amount ≤ allowance then _ else _ : Talk Finding).Leads _ _
      rw [if_neg (BitVec.not_le.2 hshort)]
      exact .ask _ _ _ (.refl _)

/-- At a requirement that is met the search goes on, and at any other one it halts. -/
theorem of_leads_approveFirstShort_cons
    (h : (approveFirstShort spender index (r :: rest)).Leads log d) :
    (log = [] ∧ ∀ o, d ≠ done o) ∨
    (∃ e more, log = e :: more ∧ ReadMet spender r e ∧
      (approveFirstShort spender (index + 1) rest).Leads more d) ∨
    ∃ o?, Halts spender r index log o? ∧ ∀ o, d = done o → o? = some o := by
  rcases leads_ask_iff.1 h with ⟨rfl, rfl⟩ | ⟨(answer : Except Report Amount), more, rfl, hread⟩
  · exact .inl ⟨rfl, fun o heq => nomatch heq⟩
  cases answer with
  | error e =>
      obtain ⟨rfl, rfl⟩ := leads_done_iff.1 hread
      refine .inr (.inr ⟨_, .unread e, ?_⟩)
      rintro _ ⟨⟩
      rfl
  | ok allowance =>
      have hread : (if r.amount ≤ allowance then _ else _ : Talk Finding).Leads more d := hread
      by_cases hmet : r.amount ≤ allowance
      · rw [if_pos hmet] at hread
        exact .inr (.inl ⟨_, more, rfl, ⟨allowance, hmet, rfl⟩, hread⟩)
      rw [if_neg hmet] at hread
      have hshort : allowance < r.amount := BitVec.not_le.1 hmet
      rcases leads_ask_iff.1 hread with
        ⟨rfl, rfl⟩ | ⟨(answer : Except Report TxHash), more, rfl, hsent⟩
      · exact .inr (.inr ⟨none, .short hshort, fun o heq => nomatch heq⟩)
      cases answer with
      | error e =>
          obtain ⟨rfl, rfl⟩ := leads_done_iff.1 hsent
          refine .inr (.inr ⟨_, .unapproved hshort e, ?_⟩)
          rintro _ ⟨⟩
          rfl
      | ok hash =>
          obtain ⟨rfl, rfl⟩ := leads_done_iff.1 hsent
          refine .inr (.inr ⟨_, .approved hshort hash, ?_⟩)
          rintro _ ⟨⟩
          rfl

/-! ## What is said of a list of requirements -/

theorem leads_of_reads {before after : List Requirement} {reads : Log}
    (hreads : List.Forall₂ (ReadMet spender) before reads)
    (h : (approveFirstShort spender (index + before.length) after).Leads log d) :
    (approveFirstShort spender index (before ++ after)).Leads (reads ++ log) d := by
  induction hreads generalizing index with
  | nil => exact h
  | @cons r e before reads he _ ih =>
      have hindex : index + 1 + before.length = index + (r :: before).length :=
        Nat.add_right_comm index 1 before.length
      exact leads_of_readMet he (ih (hindex ▸ h))

/-- All that can be said are reads of requirements that are met, one for each, and then what is said
of the one at which the search halts. -/
theorem of_leads_approveFirstShort {requirements : List Requirement}
    (h : (approveFirstShort spender index requirements).Leads log d) :
    (∃ before after, requirements = before ++ after ∧
      List.Forall₂ (ReadMet spender) before log ∧ ∀ o, d = done o → after = [] ∧ o = .ok none) ∨
    ∃ before r after reads last o?, requirements = before ++ r :: after ∧ log = reads ++ last ∧
      List.Forall₂ (ReadMet spender) before reads ∧
      Halts spender r (index + before.length) last o? ∧ ∀ o, d = done o → o? = some o := by
  induction requirements generalizing index log with
  | nil =>
      obtain ⟨rfl, rfl⟩ := leads_done_iff.1 h
      refine .inl ⟨[], [], rfl, .nil, ?_⟩
      rintro _ ⟨⟩
      exact ⟨rfl, rfl⟩
  | cons r rest ih =>
      rcases of_leads_approveFirstShort_cons h with
        ⟨rfl, hd⟩ | ⟨e, more, rfl, he, hmore⟩ | ⟨o?, hhalts, hd⟩
      · exact .inl ⟨[], r :: rest, rfl, .nil, fun o heq => absurd heq (hd o)⟩
      · rcases ih hmore with
          ⟨before, after, rfl, hreads, hd⟩ |
          ⟨before, r', after, reads, last, o?, rfl, rfl, hreads, hhalts, hd⟩
        · exact .inl ⟨r :: before, after, rfl, .cons he hreads, hd⟩
        · have hindex : index + 1 + before.length = index + (r :: before).length :=
            Nat.add_right_comm index 1 before.length
          exact .inr ⟨r :: before, r', after, e :: reads, last, o?, rfl, rfl, .cons he hreads,
            hindex ▸ hhalts, hd⟩
      · exact .inr ⟨[], r, rest, [], log, o?, rfl, rfl, .nil, hhalts, hd⟩

end Search

/-! ## Searches from a cursor on -/

section Cursor

variable {α : Type} {l before after : List α} {a : α} {cursor i : Nat}

theorem take_drop_of_drop_eq_append (h : l.drop cursor = before ++ after) :
    (l.take (cursor + before.length)).drop cursor = before := by
  rw [List.drop_take, h, Nat.add_sub_cancel_left, List.take_left]

theorem getElem?_of_drop_eq_append (h : l.drop cursor = before ++ a :: after) :
    l[cursor + before.length]? = some a := by
  rw [← List.getElem?_drop, h, List.getElem?_append_right (Nat.le_refl _), Nat.sub_self]
  rfl

theorem drop_eq_append_cons (hle : cursor ≤ i) (ha : l[i]? = some a) :
    l.drop cursor = (l.take i).drop cursor ++ a :: l.drop (i + 1) ∧
      cursor + ((l.take i).drop cursor).length = i := by
  obtain ⟨hi, rfl⟩ := List.getElem?_eq_some_iff.1 ha
  have hlength : (l.take i).length = i := List.length_take_of_le (Nat.le_of_lt hi)
  constructor
  · rw [List.getElem_cons_drop, ← List.drop_append_of_le_length (by omega), List.take_append_drop]
  · rw [List.length_drop]
    omega

end Cursor

/-- The requirements from `cursor` up to the one at `i` were read, in order and each once, and all
are met. -/
def ReadUpTo (spender : String) (requirements : List Requirement) (cursor i : Nat) (reads : Log) :
    Prop :=
  List.Forall₂ (ReadMet spender) ((requirements.take i).drop cursor) reads

/-- The dialogue looks for the first requirement from `cursor` on that is not met, and approves that
one. -/
structure ApprovesFirstShort (spender : String) (requirements : List Requirement) (cursor : Nat)
    (d : Talk Finding) : Prop where
  /-- Whatever has been said so far, it is reads of requirements that are met, in order and each
  once, and then what is said of the one at which the search halts: a read that fails or shows that
  the allowance is too low, and in that case the approval. -/
  course : ∀ {log rest}, d.Leads log rest →
    ∃ i reads last, log = reads ++ last ∧ cursor ≤ i ∧
      ReadUpTo spender requirements cursor i reads ∧
      (last = [] ∨ ∃ r o?, requirements[i]? = some r ∧ Halts spender r i last o?)
  /-- The search comes to nothing if all requirements are met, and only then. -/
  passes : ∀ {log}, d.Leads log (done (.ok none)) ↔
    List.Forall₂ (ReadMet spender) (requirements.drop cursor) log
  /-- The search comes to an approval if that was sent, and only then. -/
  finds : ∀ {log s}, d.Leads log (done (.ok (some s))) ↔
    ∃ r reads, ∃ allowance : Amount, cursor ≤ s.index ∧ requirements[s.index]? = some r ∧
      ReadUpTo spender requirements cursor s.index reads ∧ allowance < r.amount ∧
      log = reads ++ [answered (.allowance r.token spender) (.ok allowance),
        answered (.approve r.token spender r.amount) (.ok s.hash)]
  /-- The search fails if a read or the approval has failed, and only then. -/
  fails : ∀ {log e}, d.Leads log (done (.error e)) ↔
    ∃ i r reads, ∃ e' : Report, cursor ≤ i ∧ requirements[i]? = some r ∧
      ReadUpTo spender requirements cursor i reads ∧
      ((e = e'.under s!"Failed to read allowance for {r.token}" ∧
          log = reads ++ [answered (.allowance r.token spender) (.error e')]) ∨
        e = e'.under s!"Failed to approve {r.token}" ∧
          ∃ allowance : Amount, allowance < r.amount ∧
            log = reads ++ [answered (.allowance r.token spender) (.ok allowance),
              answered (.approve r.token spender r.amount) (.error e')])

section Requirements

variable {spender : String} {requirements : List Requirement} {cursor : Nat} {log : Log}
  {o : Finding}

/-- A search ends because all requirements are met, or at the one at which it halts. -/
theorem leads_done_iff_read_or_halts :
    (approveFirstShort spender cursor (requirements.drop cursor)).Leads log (done o) ↔
      (o = .ok none ∧ List.Forall₂ (ReadMet spender) (requirements.drop cursor) log) ∨
      ∃ i r reads last, cursor ≤ i ∧ requirements[i]? = some r ∧
        ReadUpTo spender requirements cursor i reads ∧ log = reads ++ last ∧
        Halts spender r i last (some o) := by
  constructor
  · intro h
    rcases of_leads_approveFirstShort h with
      ⟨before, after, heq, hreads, hd⟩ |
      ⟨before, r, after, reads, last, o?, heq, rfl, hreads, hhalts, hd⟩
    · obtain ⟨rfl, rfl⟩ := hd o rfl
      rw [heq, List.append_nil]
      exact .inl ⟨rfl, hreads⟩
    · obtain rfl := hd o rfl
      refine .inr ⟨cursor + before.length, r, reads, last, Nat.le_add_right _ _,
        getElem?_of_drop_eq_append heq, ?_, rfl, hhalts⟩
      rwa [ReadUpTo, take_drop_of_drop_eq_append heq]
  · rintro (⟨rfl, hreads⟩ | ⟨i, r, reads, last, hle, hr, hreads, rfl, hhalts⟩)
    · have hend : Leads (approveFirstShort spender (cursor + (requirements.drop cursor).length) [])
          [] (done (.ok none)) := .refl _
      have h := leads_of_reads hreads hend
      rwa [List.append_nil, List.append_nil] at h
    · obtain ⟨hdrop, hi⟩ := drop_eq_append_cons hle hr
      rw [hdrop]
      exact leads_of_reads hreads (leads_of_halts (by rwa [hi]))

end Requirements

/-- Whatever a chain answers, the requirements of a transfer are searched for the first one from a
cursor on that is not met, and that one is approved for the contract of the transfer. -/
theorem approvesFirstShort (t : Transfer) (cursor : Nat) :
    ApprovesFirstShort t.endpoint.contract t.approvals cursor
      (approveFirstShort t.endpoint.contract cursor (t.approvals.drop cursor)) where
  course h := by
    rcases of_leads_approveFirstShort h with
      ⟨before, after, heq, hreads, -⟩ |
      ⟨before, r, after, reads, last, o?, heq, rfl, hreads, hhalts, -⟩
    · refine ⟨cursor + before.length, _, [], (List.append_nil _).symm, Nat.le_add_right _ _, ?_,
        .inl rfl⟩
      rwa [ReadUpTo, take_drop_of_drop_eq_append heq]
    · refine ⟨cursor + before.length, reads, last, rfl, Nat.le_add_right _ _, ?_,
        .inr ⟨r, o?, getElem?_of_drop_eq_append heq, hhalts⟩⟩
      rwa [ReadUpTo, take_drop_of_drop_eq_append heq]
  passes := by
    intro log
    rw [leads_done_iff_read_or_halts]
    constructor
    · rintro (⟨-, hreads⟩ | ⟨i, r, reads, last, -, -, -, -, hhalts⟩)
      · exact hreads
      · cases hhalts
    · exact fun hreads => .inl ⟨rfl, hreads⟩
  finds := by
    intro log s
    rw [leads_done_iff_read_or_halts]
    constructor
    · rintro (⟨hnone, -⟩ | ⟨i, r, reads, last, hle, hr, hreads, rfl, hhalts⟩)
      · cases hnone
      · cases hhalts with
        | approved hshort hash => exact ⟨r, reads, _, hle, hr, hreads, hshort, rfl⟩
    · rintro ⟨r, reads, allowance, hle, hr, hreads, hshort, rfl⟩
      exact .inr ⟨s.index, r, reads, _, hle, hr, hreads, rfl, .approved hshort s.hash⟩
  fails := by
    intro log e
    rw [leads_done_iff_read_or_halts]
    constructor
    · rintro (⟨hnone, -⟩ | ⟨i, r, reads, last, hle, hr, hreads, rfl, hhalts⟩)
      · cases hnone
      · cases hhalts with
        | unread e' => exact ⟨i, r, reads, e', hle, hr, hreads, .inl ⟨rfl, rfl⟩⟩
        | unapproved hshort e' =>
            exact ⟨i, r, reads, e', hle, hr, hreads, .inr ⟨rfl, _, hshort, rfl⟩⟩
    · rintro ⟨i, r, reads, e', hle, hr, hreads, ⟨rfl, rfl⟩ | ⟨rfl, allowance, hshort, rfl⟩⟩
      · exact .inr ⟨i, r, reads, _, hle, hr, hreads, rfl, .unread e'⟩
      · exact .inr ⟨i, r, reads, _, hle, hr, hreads, rfl, .unapproved hshort e'⟩

end TokenBridge.Submission
