import TokenBridge.Proofs.Submission.Standing

set_option autoImplicit false

/-! # One turn of a submission

What one transition does, seen from where the submission stands: what it asks was announced by the
standing that it starts from, and the standing that it leads to follows and records what came of the
step (`Lane.obeys_next_turn`).
-/

namespace TokenBridge.Submission

open Dialogue

/-! ## Calls and what comes of them -/

/-- A call of the step that is in progress, about what that step is about. -/
inductive Standing.Announces (t : Transfer) : Standing → WriterCall → Prop
  | switchChain : Announces t ⟨.switchChain, .inProgress .nothing⟩ .switchChain
  | allowance {cursor : Nat} {r : Requirement} (hr : r ∈ t.approvals.drop cursor) :
      Announces t ⟨.approvalSubmit cursor, .inProgress (.cursor cursor)⟩
        (.allowance r.token t.endpoint.contract)
  | approve {cursor : Nat} {r : Requirement} (hr : r ∈ t.approvals.drop cursor) :
      Announces t ⟨.approvalSubmit cursor, .inProgress (.cursor cursor)⟩
        (.approve r.token t.endpoint.contract r.amount)
  | approvalReceipt (a : SubmittedApproval) :
      Announces t ⟨.approvalReceipt a.index, .inProgress (.approval a)⟩ (.awaitReceipt a.hash)
  | submit (salt : Salt) :
      Announces t ⟨.transferSubmit, .inProgress (.salt salt)⟩ (.submit (t.request salt))
  | transferReceipt (hash : TxHash) :
      Announces t ⟨.transferReceipt, .inProgress (.hash hash)⟩ (.awaitReceipt hash)

theorem Standing.Announces.inProgress {t : Transfer} {v : Standing} {c : WriterCall}
    (h : v.Announces t c) : ∃ datum, v.progress = .inProgress datum := by
  cases h <;> exact ⟨_, rfl⟩

/-- What a step about that datum brings back, if its last call is answered that way. -/
inductive Brings (t : Transfer) :
    Datum → (c : WriterCall) → c.Answer → Except Report Datum → Prop
  | switched {datum : Datum} (x : Except Report Unit) :
      Brings t datum .switchChain x (x.map fun _ => .nothing)
  | found {cursor : Nat} {c : WriterCall} {x : c.Answer}
      {o : Except Report (Option SubmittedApproval)}
      (h : Found t.endpoint.contract t.approvals cursor c x o) :
      Brings t (.cursor cursor) c x (o.map .sent)
  | sent {datum : Datum} {request : SendRequest} (x : Except Report TxHash) :
      Brings t datum (.submit request) x (x.map .hash)
  | received {datum : Datum} {hash : TxHash} (x : Except Report Receipt) :
      Brings t datum (.awaitReceipt hash) x (x.map .receipt)

/-- The step that was in progress has ended with what its last call has brought. -/
inductive Standing.Records (t : Transfer) :
    Standing → (c : WriterCall) → c.Answer → Standing → Prop
  | settled {p : Position} {datum : Datum} {c : WriterCall} {x : c.Answer}
      {o : Except Report Datum} (h : Brings t datum c x o) :
      Records t ⟨p, .inProgress datum⟩ c x ⟨p, .settle p.name datum o⟩

theorem Standing.Records.inProgress {t : Transfer} {v w : Standing} {c : WriterCall} {x : c.Answer}
    (h : v.Records t c x w) : ∃ datum, v.progress = .inProgress datum := by
  cases h
  exact ⟨_, rfl⟩

/-! ## Turns -/

/-- A transition from `v` asks what `v` announces, or draws a salt, but no salt between a call and
the state that records it. -/
def Announced (t : Transfer) (v : Standing) : Law Effect.Answer := fun h e =>
  (∃ c x, e = answered c x ∧ v.Announces t c) ∨ (∃ salt, e = salted salt) ∧ Quiet h

/-- A transition has led from `v` to `w`. -/
structure Turn (t : Transfer) (v w : Standing) (h : Log) : Prop where
  follows : v.Ordered t → v.Follows w
  ordered : v.Ordered t → w.Ordered t
  recorded : LastCall (fun c x => v.Records t c x w) h

/-- A step about `d` was carried out and has brought back `o`. -/
structure Settled {R : Type} (t : Transfer) (d : Datum) (g : R → Datum) (o : Except Report R)
    (h : Log) : Prop where
  brings : LastCall (fun c x => Brings t d c x (o.map g)) h
  found : ∀ r cursor a, o = .ok r → d = .cursor cursor → g r = .approval a →
    cursor ≤ a.index ∧ a.index < t.approvals.length

/-- Before the transfer, a transition leads to a stage of the family, or on to the transfer. -/
def Turned {A : Type} (t : Transfer) (before : A → Standing) (v : Standing) :
    Option A → Log → Prop
  | some a, h => Turn t v (before a) h
  | none, h => Quiet h ∧ ∃ p c r, v = ⟨p, .complete c r⟩ ∧ p < .transferSubmit

section Turn

variable {t : Transfer} {h : Log}

theorem Standing.ordered_of_not_complete {p : Position} {v : Progress Datum Datum}
    (hv : v.isComplete = false)
    (hawaited : ∀ a, v.context = .approval a → a.index < t.approvals.length) :
    Standing.Ordered t ⟨p, v⟩ where
  found := by
    rintro cursor a rfl
    cases hv
  awaited := hawaited

theorem turn_onward {p q : Position} {c r d : Datum} (hh : Quiet h)
    (hlt : Standing.Ordered t ⟨p, .complete c r⟩ → p < q)
    (hd : Standing.Ordered t ⟨p, .complete c r⟩ →
      ∀ a, d = .approval a → a.index < t.approvals.length) :
    Turn t ⟨p, .complete c r⟩ ⟨q, .notStarted d⟩ h where
  follows hordered := .onward (hlt hordered)
  ordered hordered := Standing.ordered_of_not_complete rfl (hd hordered)
  recorded := hh.lastCall _

theorem turn_begin {p : Position} {v : Progress Datum Datum} {d : Datum} (hh : Quiet h)
    (hv : v.Goes (.inProgress d)) : Turn t ⟨p, v⟩ ⟨p, .inProgress d⟩ h where
  follows _ := .within hv
  ordered hordered := by
    refine Standing.ordered_of_not_complete rfl fun a ha => hordered.awaited a ?_
    rw [hv.context_eq]
    exact ha
  recorded := hh.lastCall _

theorem Settled.turn {R : Type} {p : Position} {d : Datum} {g : R → Datum} {o : Except Report R}
    (ho : Settled t d g o h) :
    Turn t ⟨p, .inProgress d⟩ ⟨p, .settle p.name d (o.map g)⟩ h where
  follows _ := .within (Progress.goes_settle _ _ _)
  ordered hordered := by
    cases o with
    | ok r =>
        refine ⟨fun cursor a heq => ?_, hordered.awaited⟩
        obtain ⟨hcursor, ha⟩ := Progress.complete.inj heq
        exact ho.found r cursor a rfl hcursor ha
    | error e => exact Standing.ordered_of_not_complete rfl hordered.awaited
  recorded c x heq := .settled (ho.brings c x heq)

/-- A transition of a step is a turn, if what carries the step out makes calls that were announced
and brings back what came of the last one, and if what comes after the step is a turn. -/
theorem Progress.obeys_next_turn {C R S : Type} {stage : Progress C R → S} {name : String}
    {act : C → Talk (Except Report R)} {after : C → R → Talk (Option S)} {p : Progress C R}
    {f : C → Datum} {g : R → Datum} {post : Option S → Log → Prop} (standing : S → Standing)
    (position : C → Position) (hstage : ∀ p, standing (stage p) = p.standing position f g)
    (hname : ∀ c, (position c).name = name)
    (hpost : ∀ s h, Turn t (p.standing position f g) (standing s) h → post (some s) h)
    (hact : ∀ c, (act c).Obeys (Announced t ⟨position c, .inProgress (f c)⟩)
      (Settled t (f c) g) h)
    (hafter : ∀ c r, p = .complete c r →
      (after c r).Obeys (Announced t (p.standing position f g)) post h)
    (hh : Quiet h) :
    (p.next stage name act after).Obeys (Announced t (p.standing position f g)) post h := by
  cases p with
  | notStarted c =>
      refine hpost _ h ?_
      rw [hstage]
      exact turn_begin hh (.start _)
  | failed c reason =>
      refine hpost _ h ?_
      rw [hstage]
      exact turn_begin hh (.retry _ _)
  | inProgress c =>
      refine obeys_bind.2 ((hact c).mono (fun _ _ hx => hx) ?_)
      intro o h' ho
      -- The failure of a step is named after the position.
      refine hpost _ h' ?_
      rw [hstage, ← hname c, standing_settle]
      exact ho.turn
  | complete c r => exact hafter c r rfl

/-- A step that makes one call brings back its answer. -/
theorem obeys_call_settled {c : WriterCall} {p : Position} {d : Datum} {g : c.Result → Datum}
    (hc : Standing.Announces t ⟨p, .inProgress d⟩ c) (hx : ∀ x, Brings t d c x (x.map g))
    (hd : ∀ n, d ≠ .cursor n) :
    (call c).Obeys (Announced t ⟨p, .inProgress d⟩) (Settled t d g) h := by
  intro x
  refine ⟨.inl ⟨c, x, rfl, hc⟩, lastCall_answered (hx x), ?_⟩
  intro r cursor a _ hcursor
  exact absurd hcursor (hd cursor)

/-- A search for a requirement that is not met brings back what came of its last call. -/
theorem obeys_approveFirstShort_settled (cursor : Nat) (hh : Quiet h) :
    (approveFirstShort t.endpoint.contract cursor (t.approvals.drop cursor)).Obeys
      (Announced t ⟨.approvalSubmit cursor, .inProgress (.cursor cursor)⟩)
      (Settled t (.cursor cursor) .sent) h := by
  refine (obeys_approveFirstShort_found t.endpoint.contract t.approvals cursor h).mono ?_ ?_
  · rintro _ _ ⟨r, hr, ⟨x, rfl⟩ | ⟨x, rfl⟩⟩
    · exact .inl ⟨_, x, rfl, .allowance hr⟩
    · exact .inl ⟨_, x, rfl, .approve hr⟩
  · rintro o h' ⟨hscanned, hfound⟩
    refine ⟨fun c x heq => .found (hfound hh c x heq), ?_⟩
    rintro sent _ a rfl ⟨⟩ ha
    cases sent with
    | none => cases ha
    | some s =>
        cases ha
        obtain ⟨hle, r, hr, -⟩ := hscanned
        exact ⟨hle, (List.getElem?_eq_some_iff.1 hr).1⟩

theorem Approval.obeys_next_turned (a : Approval) (hh : Quiet h) :
    (a.next t).Obeys (Announced t a.standing) (Turned t Approval.standing a.standing) h := by
  cases a with
  | submit p =>
      refine Progress.obeys_next_turn standing .approvalSubmit (fun _ => rfl) (fun _ => rfl)
        (fun _ _ hs => hs) ?_ ?_ hh
      · exact fun cursor => obeys_approveFirstShort_settled cursor hh
      · rintro cursor sent rfl
        cases sent with
        | none => exact ⟨hh, _, _, _, rfl, Position.approvalSubmit_lt_transferSubmit cursor⟩
        | some s =>
            refine turn_onward hh (fun hordered => ?_) ?_
            · exact Position.approvalSubmit_lt_approvalReceipt.2 (hordered.found cursor s rfl).1
            · rintro hordered _ ⟨⟩
              exact (hordered.found cursor s rfl).2
  | receipt p =>
      refine Progress.obeys_next_turn standing
        (fun s : SubmittedApproval => .approvalReceipt s.index) (fun _ => rfl) (fun _ => rfl)
        (fun _ _ hs => hs) ?_ ?_ hh
      · exact fun s => obeys_call_settled (.approvalReceipt s) .received fun _ heq => nomatch heq
      · -- The requirement is one of the list, and so the index behind it is a greater one.
        rintro s r rfl
        refine turn_onward hh (fun hordered => ?_) fun _ _ heq => nomatch heq
        rw [indexAfter_of_lt (hordered.awaited s rfl)]
        exact Position.approvalReceipt_lt_approvalSubmit.2 (Nat.lt_succ_self _)

end Turn

/-! ## The stages of a family -/

/-- The stages of a flow stand between switching and the transfer. -/
structure Flow.Stands {A : Type} (flow : Flow A) (t : Transfer) (before : A → Standing) :
    Prop where
  first : ∀ h, Quiet h →
    Turned t before ⟨.switchChain, .complete .nothing .nothing⟩ flow.first h
  next : ∀ a h, Quiet h →
    (flow.next t a).Obeys (Announced t (before a)) (Turned t before (before a)) h

theorem evmFlow_stands (t : Transfer) : evmFlow.Stands t Approval.standing where
  first _ hh :=
    turn_onward hh (fun _ => Position.switchChain_lt_approvalSubmit 0) fun _ _ heq => nomatch heq
  next a _ hh := a.obeys_next_turned hh

theorem cosmosFlow_stands (t : Transfer) : cosmosFlow.Stands t (fun a => nomatch a) where
  first _ hh := ⟨hh, _, _, _, rfl, Position.switchChain_lt_transferSubmit⟩
  next a := nomatch a

section Flow

variable {A : Type} {flow : Flow A} {t : Transfer} {before : A → Standing} {h : Log}

theorem obeys_enter_turn {v : Standing} {r : Option A} (hr : Turned t before v r h) :
    (Stage.enter r).Obeys (Announced t v)
      (fun r h => ∃ s', r = some s' ∧ Turn t v (s'.standing before) h) h := by
  cases r with
  | some a => exact ⟨_, rfl, hr⟩
  | none =>
      obtain ⟨hh, p, c, r, rfl, hlt⟩ := hr
      refine obeys_bind.2 fun salt => ⟨.inr ⟨⟨salt, rfl⟩, hh⟩, _, rfl, ?_⟩
      exact turn_onward (quiet_salted h salt) (fun _ => hlt) fun _ _ heq => nomatch heq

/-- Every transition is a turn. -/
theorem Flow.Stands.obeys_next_turn (hflow : flow.Stands t before) (s : Stage A)
    (hopen : s.isComplete = false) (hh : Quiet h) :
    (s.next flow t).Obeys (Announced t (s.standing before))
      (fun r h => ∃ s', r = some s' ∧ Turn t (s.standing before) (s'.standing before) h) h := by
  cases s with
  | filling =>
      refine ⟨_, rfl, turn_onward hh (fun _ => Position.filling_lt_switchChain) ?_⟩
      exact fun _ _ heq => nomatch heq
  | before a =>
      -- Entering what comes next asks for nothing but the salt of the transfer.
      refine obeys_bind.2 ((hflow.next a h hh).mono (fun _ _ hx => hx) ?_)
      intro r h' hr
      exact obeys_enter_turn hr
  | switchChain p =>
      refine Progress.obeys_next_turn (Stage.standing before) (fun _ => .switchChain)
        (fun _ => rfl) (fun _ => rfl) (fun s _ hs => ⟨s, rfl, hs⟩) ?_ ?_ hh
      · exact fun _ => obeys_call_settled .switchChain .switched fun _ heq => nomatch heq
      · rintro c r rfl
        exact obeys_enter_turn (hflow.first h hh)
  | transferSubmit p =>
      refine Progress.obeys_next_turn (Stage.standing before) (fun _ => .transferSubmit)
        (fun _ => rfl) (fun _ => rfl) (fun s _ hs => ⟨s, rfl, hs⟩) ?_ ?_ hh
      · exact fun salt => obeys_call_settled (.submit salt) .sent fun _ heq => nomatch heq
      · rintro salt hash rfl
        refine ⟨_, rfl, turn_onward hh (fun _ => Position.transferSubmit_lt_transferReceipt) ?_⟩
        exact fun _ _ heq => nomatch heq
  | transferReceipt p =>
      refine Progress.obeys_next_turn (Stage.standing before) (fun _ => .transferReceipt)
        (fun _ => rfl) (fun _ => rfl) (fun s _ hs => ⟨s, rfl, hs⟩) ?_ ?_ hh
      · exact fun hash => obeys_call_settled (.transferReceipt hash) .received
          fun _ heq => nomatch heq
      · rintro hash receipt rfl
        cases hopen

/-- Every transition is a turn, and publishes nothing on the way. -/
theorem Lane.obeys_next_turn {family : ChainFamily} {wrap : Stage A → State}
    (lane : Lane family flow wrap) (hflow : flow.Stands t before) (s : Stage A)
    (hopen : s.isComplete = false) (hh : Quiet h) :
    (s.next flow t).Obeys
      (fun h' e => (Announced t (s.standing before) h' e ∧ ∀ s', e ≠ published s') ∧
        lastState h' = lastState h)
      (fun r h' => ∃ s', r = some s' ∧ Turn t (s.standing before) (s'.standing before) h' ∧
        lastState h' = lastState h) h := by
  have hturn := (hflow.obeys_next_turn s hopen hh).and (lane.next_unpublished t s h)
  refine (hturn.keep (fun h' => lastState h' = lastState h) rfl ?_).mono (fun _ _ hx => hx) ?_
  · intro h' e he hlast
    rw [lastState_snoc_of_ne he.2, hlast]
  · rintro r h' ⟨⟨⟨s', rfl, hs'⟩, -⟩, hlast⟩
    exact ⟨s', rfl, hs', hlast⟩

end Flow

end TokenBridge.Submission
