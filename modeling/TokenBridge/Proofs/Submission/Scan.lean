import TokenBridge.Proofs.Submission.History

set_option autoImplicit false

/-! # Looking for a requirement that is not met

What is known after the allowances have been read from a cursor on: which requirements are met, and
which one has been approved. The approvals as a whole ask for nothing but allowances, approvals and
receipts, so that nothing is sent on the way.
-/

namespace TokenBridge.Submission

open Dialogue

/-! ## What a log tells of a requirement -/

/-- The allowance was read, and was high enough. -/
def Enough (spender : String) (h : Log) (r : Requirement) : Prop :=
  ∃ allowance : Amount, answered (.allowance r.token spender) (.ok allowance) ∈ h ∧
    r.amount ≤ allowance

/-- The approval was sent under that hash. -/
def Approved (spender : String) (h : Log) (r : Requirement) (hash : TxHash) : Prop :=
  answered (.approve r.token spender r.amount) (.ok hash) ∈ h

theorem Enough.append {spender : String} {h : Log} {r : Requirement} (new : Log)
    (hr : Enough spender h r) : Enough spender (h ++ new) r := by
  obtain ⟨allowance, hmem, hle⟩ := hr
  exact ⟨allowance, List.mem_append_left _ hmem, hle⟩

/-! ## The scan -/

/-- What is asked while looking through the requirements. -/
def ScanCall (spender : String) (requirements : List Requirement) (e : Event) : Prop :=
  ∃ r ∈ requirements, (∃ x, e = answered (.allowance r.token spender) x) ∨
    ∃ x, e = answered (.approve r.token spender r.amount) x

/-- What a search from `cursor` on brings back, if its last call is answered that way. -/
inductive Found (spender : String) (requirements : List Requirement) (cursor : Nat) :
    (c : WriterCall) → c.Answer → Except Report (Option SubmittedApproval) → Prop
  | met {r : Requirement} (hr : r ∈ requirements.drop cursor) {allowance : Amount}
      (hle : r.amount ≤ allowance) :
      Found spender requirements cursor (.allowance r.token spender) (.ok allowance) (.ok none)
  | unread {r : Requirement} (hr : r ∈ requirements.drop cursor) (e : Report) :
      Found spender requirements cursor (.allowance r.token spender) (.error e)
        (.error (e.under s!"Failed to read allowance for {r.token}"))
  | approved {r : Requirement} {index : Nat} (hle : cursor ≤ index)
      (hr : requirements[index]? = some r) (hash : TxHash) :
      Found spender requirements cursor (.approve r.token spender r.amount) (.ok hash)
        (.ok (some ⟨index, hash⟩))
  | unapproved {r : Requirement} (hr : r ∈ requirements.drop cursor) (e : Report) :
      Found spender requirements cursor (.approve r.token spender r.amount) (.error e)
        (.error (e.under s!"Failed to approve {r.token}"))

/-- What is known after the requirements have been looked through from `cursor` on. -/
def Scanned (spender : String) (requirements : List Requirement) (cursor : Nat) :
    Except Report (Option SubmittedApproval) → Log → Prop
  | .ok none, h => ∀ r ∈ requirements.drop cursor, Enough spender h r
  | .ok (some s), h => cursor ≤ s.index ∧ ∃ r, requirements[s.index]? = some r ∧
      (∀ r' ∈ (requirements.take s.index).drop cursor, Enough spender h r') ∧
      Approved spender h r s.hash
  | .error _, _ => True

/-- The requirements up to the one at `i` are those before it and that one. -/
theorem mem_take_succ_drop {l : List Requirement} {c i : Nat} {r r' : Requirement}
    (hr : l[i]? = some r) (h : r' ∈ (l.take (i + 1)).drop c) :
    r' ∈ (l.take i).drop c ∨ r' = r := by
  rw [List.take_add_one, hr, List.drop_append, List.mem_append] at h
  rcases h with h | h
  · exact .inl h
  · exact .inr (by simpa using List.mem_of_mem_drop h)

theorem mem_drop_of_getElem? {l : List Requirement} {c i : Nat} {r : Requirement} (hle : c ≤ i)
    (hr : l[i]? = some r) : r ∈ l.drop c := by
  refine List.mem_of_getElem? (i := i - c) ?_
  rw [List.getElem?_drop, Nat.add_sub_cancel' hle, hr]

theorem obeys_approveFirstShort_found (spender : String) (requirements : List Requirement)
    (cursor : Nat) (h : Log) :
    (approveFirstShort spender cursor (requirements.drop cursor)).Obeys
      (fun _ e => ScanCall spender (requirements.drop cursor) e)
      (fun o h' => Scanned spender requirements cursor o h' ∧
        (Quiet h → LastCall (fun c x => Found spender requirements cursor c x o) h')) h := by
  -- From `index` on, with the requirements between the cursor and `index` read and met.
  have key : ∀ (rest : List Requirement) (index : Nat) (h' : Log),
      requirements.drop index = rest → cursor ≤ index →
      (∀ r ∈ (requirements.take index).drop cursor, Enough spender h' r) →
      (Quiet h → LastCall (fun c x => Found spender requirements cursor c x (.ok none)) h') →
      (approveFirstShort spender index rest).Obeys
        (fun _ e => ScanCall spender (requirements.drop cursor) e)
        (fun o h' => Scanned spender requirements cursor o h' ∧
          (Quiet h → LastCall (fun c x => Found spender requirements cursor c x o) h')) h' := by
    intro rest
    induction rest with
    | nil =>
        intro index h' hrest hle hmet hlast
        refine ⟨fun r hr => hmet r ?_, hlast⟩
        rwa [List.take_of_length_le (List.drop_eq_nil_iff.1 hrest)]
    | cons r rest ih =>
        intro index h' hrest hle hmet _
        have hr : requirements[index]? = some r := by
          rw [← List.head?_drop, hrest, List.head?_cons]
        have hmem : r ∈ requirements.drop cursor := mem_drop_of_getElem? hle hr
        rw [approveFirstShort, obeys_bind, obeys_call]
        intro (answer : Except Report Amount)
        refine ⟨⟨r, hmem, .inl ⟨_, rfl⟩⟩, ?_⟩
        cases answer with
        | error e => exact ⟨trivial, fun _ => lastCall_answered (.unread hmem e)⟩
        | ok allowance =>
            show Obeys _ _ (if r.amount ≤ allowance then _ else _) _
            by_cases henough : r.amount ≤ allowance
            · rw [if_pos henough]
              refine ih (index + 1) _ ?_ (by omega) ?_ fun _ => lastCall_answered (.met hmem henough)
              · rw [← List.tail_drop, hrest, List.tail_cons]
              · intro r' hr'
                rcases mem_take_succ_drop hr hr' with hr' | rfl
                · exact (hmet r' hr').append _
                · exact ⟨allowance, List.mem_append_right _ List.mem_cons_self, henough⟩
            · rw [if_neg henough, obeys_bind, obeys_call]
              intro (answer : Except Report TxHash)
              refine ⟨⟨r, hmem, .inr ⟨_, rfl⟩⟩, ?_⟩
              cases answer with
              | error e => exact ⟨trivial, fun _ => lastCall_answered (.unapproved hmem e)⟩
              | ok hash =>
                  refine ⟨⟨hle, r, hr, fun r' hr' => ?_, ?_⟩,
                    fun _ => lastCall_answered (.approved hle hr hash)⟩
                  · exact ((hmet r' hr').append _).append _
                  · exact List.mem_append_right _ List.mem_cons_self
  refine key _ cursor h rfl (Nat.le_refl _) ?_ fun hh => hh.lastCall _
  intro r hr
  rw [List.drop_eq_nil_of_le (List.length_take_le _ _)] at hr
  cases hr

theorem obeys_approveFirstShort (spender : String) (requirements : List Requirement) (cursor : Nat)
    (h : Log) :
    (approveFirstShort spender cursor (requirements.drop cursor)).Obeys
      (fun _ e => ScanCall spender requirements e) (Scanned spender requirements cursor) h := by
  refine (obeys_approveFirstShort_found spender requirements cursor h).mono ?_ fun _ _ ho => ho.1
  rintro _ _ ⟨r, hr, hcall⟩
  exact ⟨r, List.mem_of_mem_drop hr, hcall⟩

/-! ## Approvals as a whole -/

/-- A call that sends nothing. -/
def Preparation (e : Event) : Prop :=
  ∃ c x, e = answered c x ∧ ∀ request, c ≠ .submit request

theorem preparation_switchChain (x : WriterCall.switchChain.Answer) :
    Preparation (answered .switchChain x) :=
  ⟨_, x, rfl, fun _ heq => nomatch heq⟩

theorem preparation_awaitReceipt (hash : TxHash) (x : (WriterCall.awaitReceipt hash).Answer) :
    Preparation (answered (.awaitReceipt hash) x) :=
  ⟨_, x, rfl, fun _ heq => nomatch heq⟩

theorem ScanCall.preparation {spender : String} {requirements : List Requirement} {e : Event}
    (he : ScanCall spender requirements e) : Preparation e := by
  obtain ⟨r, -, ⟨x, rfl⟩ | ⟨x, rfl⟩⟩ := he
  · exact ⟨_, x, rfl, fun _ heq => nomatch heq⟩
  · exact ⟨_, x, rfl, fun _ heq => nomatch heq⟩

/-- What is asked for the approvals: allowances, approvals and receipts. -/
def ApprovalCall (t : Transfer) (e : Event) : Prop :=
  ScanCall t.endpoint.contract t.approvals e ∨ ∃ hash x, e = answered (.awaitReceipt hash) x

theorem ApprovalCall.preparation {t : Transfer} {e : Event} (he : ApprovalCall t e) :
    Preparation e := by
  rcases he with he | ⟨hash, x, rfl⟩
  · exact he.preparation
  · exact preparation_awaitReceipt hash x

theorem Approval.obeys_next_calls (t : Transfer) (a : Approval) (h : Log) :
    (a.next t).Obeys (fun _ e => ApprovalCall t e) (fun _ _ => True) h := by
  rcases a with p | p <;> cases p
  -- Only what is in progress asks for anything.
  case submit.inProgress cursor =>
    refine obeys_bind.2 ((obeys_approveFirstShort _ _ cursor h).mono ?_ ?_)
    · exact fun _ _ he => .inl he
    · exact fun _ _ _ => trivial
  case receipt.inProgress s =>
    exact obeys_bind.2 fun x => ⟨.inr ⟨s.hash, x, rfl⟩, trivial⟩
  all_goals exact trivial

/-- Nothing is sent for the approvals. -/
theorem Approval.obeys_next_preparation (t : Transfer) (a : Approval) (h : Log) :
    (a.next t).Obeys (fun _ e => Preparation e) (fun _ _ => True) h :=
  (a.obeys_next_calls t h).mono (fun _ _ he => he.preparation) fun _ _ hr => hr

end TokenBridge.Submission
