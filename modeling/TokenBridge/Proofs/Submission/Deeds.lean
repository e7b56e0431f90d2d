import TokenBridge.Proofs.Simulation.Books
import TokenBridge.Proofs.Submission.Termination

set_option autoImplicit false

/-! # What is done and what is to be done

The deeds of a submission are its approvals, its transfer and their receipts, as far as the calls
succeeded. With a simulated writer, what is still to be done from a stage on can be told from the
stage and the books of the writer (`Stage.todo`). A transition does the first part of it, or fails
and uses up a failure; what is done and what is to be done stay the same together
(`Trial.obeys_next_due`).
-/

namespace TokenBridge.Submission

open Dialogue Simulation

/-! ## Deeds -/

/-- What a call that succeeded has done. The salt of a transfer is left out. -/
inductive Deed
  | approved (token spender : String) (amount : Amount) (hash : TxHash)
  | sent (instruction : Bytes) (endpoint : Endpoint) (funds : List Funds) (hash : TxHash)
  | confirmed (hash : TxHash) (receipt : Receipt)
  deriving DecidableEq, Repr

def deed? : (c : WriterCall) → c.Result → Option Deed
  | .approve token spender amount, hash => some (.approved token spender amount hash)
  | .submit request, hash => some (.sent request.instruction request.endpoint request.funds hash)
  | .awaitReceipt hash, receipt => some (.confirmed hash receipt)
  | .switchChain, _ | .allowance .., _ => none

def Event.deed? : Event → Option Deed
  | ⟨.call c, .ok x⟩ => Submission.deed? c x
  | _ => none

def deedsOf (h : Log) : List Deed := h.filterMap Event.deed?

@[simp] theorem deedsOf_snoc (h : Log) (e : Event) :
    deedsOf (h ++ [e]) = deedsOf h ++ (Event.deed? e).toList := by
  cases he : Event.deed? e <;> simp [deedsOf, he]

/-! ## What is to be done -/

/-- The receipt that a simulated writer gives for a hash. -/
def receiptTodo (hash : TxHash) : List Deed := [.confirmed hash ⟨hash, some 100⟩]

def transferTodo (t : Transfer) (b : Books) : List Deed :=
  .sent t.instruction.encode t.endpoint t.funds b.hash :: receiptTodo b.hash

/-- The approvals of the requirements that are short when it is their turn, then the transfer. -/
def approvalsTodo (t : Transfer) : List Requirement → Books → List Deed
  | [], b => transferTodo t b
  | r :: rest, b =>
      if r.amount ≤ b.allowance r.token then approvalsTodo t rest b
      else
        .approved r.token t.endpoint.contract r.amount b.hash :: receiptTodo b.hash ++
          approvalsTodo t rest (b.after (.approve r.token t.endpoint.contract r.amount))

/-- After an approval that was sent. -/
def sentTodo (t : Transfer) (s : SubmittedApproval) (b : Books) : List Deed :=
  receiptTodo s.hash ++ approvalsTodo t (t.approvals.drop (indexAfter t s.index)) b

def Progress.todo {C R : Type} (pending : C → Books → List Deed)
    (settled : C → R → Books → List Deed) : Progress C R → Books → List Deed
  | .complete c r => settled c r
  | p => pending p.context

/-- After the search for a requirement that is short. -/
def foundTodo (t : Transfer) : Option SubmittedApproval → Books → List Deed
  | none => transferTodo t
  | some s => sentTodo t s

def Approval.todo (t : Transfer) : Approval → Books → List Deed
  | .submit p => p.todo (fun cursor => approvalsTodo t (t.approvals.drop cursor))
      fun _ => foundTodo t
  | .receipt p =>
      p.todo (sentTodo t) fun s _ => approvalsTodo t (t.approvals.drop (indexAfter t s.index))

/-- From a stage before the transfer, or from the transfer itself. -/
def onwardTodo {A : Type} (t : Transfer) (todo : A → Books → List Deed) :
    Option A → Books → List Deed
  | none => transferTodo t
  | some a => todo a

/-- There are no stages before the transfer. -/
def noTodo : Empty → Books → List Deed := fun a => nomatch a

def Stage.todo {A : Type} (flow : Flow A) (t : Transfer) (todo : A → Books → List Deed) :
    Stage A → Books → List Deed
  | .filling => onwardTodo t todo flow.first
  | .switchChain p =>
      p.todo (fun _ => onwardTodo t todo flow.first) fun _ _ => onwardTodo t todo flow.first
  | .before a => todo a
  | .transferSubmit p => p.todo (fun _ => transferTodo t) fun _ hash _ => receiptTodo hash
  | .transferReceipt p => p.todo (fun hash _ => receiptTodo hash) fun _ _ _ => []

/-! ## Trials -/

/-- A simulated writer that a submission is tried on, and what is to be done with it in all. -/
structure Trial where
  salts : Nat → Salt
  world : World
  plan : List Deed

namespace Trial

variable (T : Trial)

/-- The writer after it was asked all that. -/
def writer (h : Log) : Writer := (replay (World.partner T.salts) T.world h).writer

/-- All answers are those of the writer. -/
abbrev Answered (h : Log) : Prop := AnsweredBy (World.partner T.salts) T.world h

/-- If the writer answers, the dialogue ends with `post`. -/
abbrev Plays {α : Type} (post : α → Log → Prop) (d : Talk α) (h : Log) : Prop :=
  Dialogue.Plays (World.partner T.salts) T.world post d h

/-- Together with `todo`, what was done is what is to be done in all. At most `n` failures are to
come, and fewer if the last call has failed. -/
structure Due (todo : Books → List Deed) (failed : Bool) (n : Nat) (h : Log) : Prop where
  plan : deedsOf h ++ todo (T.writer h).books = T.plan
  failures : (T.writer h).failuresLeft + failed.toNat ≤ n
  hasAllowances : (T.writer h).hasAllowances = true

/-- What is due after a step that does the first part of `todo`, if it is successful. -/
def After {R : Type} (todo : Books → List Deed) (rest : R → Books → List Deed) (n : Nat) :
    Except Report R → Log → Prop
  | .ok r, h => T.Due (rest r) false n h
  | .error _, h => T.Due todo true n h

variable {T} {todo : Books → List Deed} {n : Nat} {h : Log} {c : WriterCall}

theorem writer_call (x : c.Answer) :
    T.writer (h ++ [answered c x]) = ((T.writer h).answer c).2 := by
  simp only [writer, replay_snoc]
  rfl

theorem Due.of_unasked {e : Event} {failed : Bool} (hd : T.Due todo failed n h)
    (he : Event.deed? e = none) (hw : T.writer (h ++ [e]) = T.writer h) :
    T.Due todo failed n (h ++ [e]) := by
  refine ⟨?_, ?_, ?_⟩
  · rw [deedsOf_snoc, he, hw, Option.toList_none, List.append_nil]
    exact hd.plan
  · rw [hw]
    exact hd.failures
  · rw [hw]
    exact hd.hasAllowances

theorem Due.publish {failed : Bool} (hd : T.Due todo failed n h) (s : State) :
    T.Due todo failed n (h ++ [published s]) :=
  hd.of_unasked rfl (by simp only [writer, replay_snoc]; rfl)

theorem Due.salt (hd : T.Due todo false n h) (salt : Salt) :
    T.Due todo false n (h ++ [salted salt]) :=
  hd.of_unasked rfl (by simp only [writer, replay_snoc]; rfl)

/-- A call that fails leaves everything to be done. -/
theorem Due.fail (hd : T.Due todo false n h) (e : Report)
    (hfails : (T.writer h).Fails (T.writer (h ++ [answered c (.error e)]))) :
    T.Due todo true n (h ++ [answered c (.error e)]) := by
  refine ⟨?_, ?_, hfails.hasAllowances⟩
  · rw [deedsOf_snoc, hfails.books]
    simpa [Event.deed?] using hd.plan
  · have hle := hd.failures
    have hlt := hfails.failuresLeft
    simp only [Bool.toNat_false, Bool.toNat_true] at hle ⊢
    omega

/-- A call that does the first thing that is to be done. -/
theorem Due.act (hd : T.Due todo false n h) {x : c.Result} {rest : Books → List Deed}
    (hdoes : (T.writer h).Does c (T.writer (h ++ [answered c (.ok x)])))
    (htodo : todo (T.writer h).books =
      (deed? c x).toList ++ rest ((T.writer h).books.after c)) :
    T.Due rest false n (h ++ [answered c (.ok x)]) := by
  refine ⟨?_, ?_, hdoes.hasAllowances⟩
  · rw [deedsOf_snoc, hdoes.books, List.append_assoc]
    show deedsOf h ++ ((deed? c x).toList ++ _) = T.plan
    rw [← htodo]
    exact hd.plan
  · rw [hdoes.failuresLeft]
    exact hd.failures

/-- To go on after a call, one has to look at its failure and at the one result that it can have. -/
theorem plays_call {post : c.Answer → Log → Prop} (hw : (T.writer h).hasAllowances = true)
    (failed : ∀ e, (T.writer h).Fails (T.writer (h ++ [answered c (.error e)])) →
      post (.error e) (h ++ [answered c (.error e)]))
    (done : ∀ x, x = (T.writer h).books.result c →
      (T.writer h).Does c (T.writer (h ++ [answered c (.ok x)])) →
      post (.ok x) (h ++ [answered c (.ok x)])) :
    T.Plays post (call c) h := by
  refine obeys_call.2 fun x => ⟨trivial, fun hx => ?_⟩
  have hanswer : x = ((T.writer h).answer c).1 := (lawful_snoc.1 hx).2
  have hcases := Writer.answer_cases hw c
  rw [← writer_call x, ← hanswer] at hcases
  rcases hcases with ⟨e, rfl, hfails⟩ | ⟨rfl, hdoes⟩
  · exact failed e hfails
  · exact done _ rfl hdoes

/-- A call that does the first part of what is to be done. -/
theorem plays_call_due {rest : c.Result → Books → List Deed}
    (htodo : ∀ b, todo b = (deed? c (b.result c)).toList ++ rest (b.result c) (b.after c))
    (hd : T.Due todo false n h) : T.Plays (T.After todo rest n) (call c) h := by
  refine plays_call hd.hasAllowances ?_ ?_
  · exact fun e hfails => hd.fail e hfails
  · rintro x rfl hdoes
    exact hd.act hdoes (htodo _)

/-! ## Steps -/

/-- The transition of a step does the first part of what is to be done, if what carries the step out
does so. -/
theorem plays_next {C R S : Type} {stage : Progress C R → S} {name : String}
    {act : C → Talk (Except Report R)} {after : C → R → Talk (Option S)} {p : Progress C R}
    {post : Option S → Log → Prop} (pending : C → Books → List Deed)
    (settled : C → R → Books → List Deed) (hp : T.Due (p.todo pending settled) false n h)
    (hstage : ∀ p h, T.Due (p.todo pending settled) p.isFailed n h → post (some (stage p)) h)
    (hact : ∀ c, T.Due (pending c) false n h →
      T.Plays (T.After (pending c) (settled c) n) (act c) h)
    (hafter : ∀ c r, p = .complete c r → T.Due (settled c r) false n h →
      T.Plays post (after c r) h) :
    T.Plays post (p.next stage name act after) h := by
  cases p with
  | notStarted c | failed c _ => exact plays_pure (hstage (.inProgress c) h hp)
  | inProgress c =>
      refine plays_bind ((hact c hp).mono ?_)
      rintro (e | r) h' ho
      · exact plays_pure (hstage (.failed c _) h' ho)
      · exact plays_pure (hstage (.complete c r) h' ho)
  | complete c r => exact hafter c r rfl hp

/-! ## Approvals -/

/-- The search for a requirement that is short, when it has come to `requirements`. -/
theorem plays_approveFirstShort {t : Transfer} (requirements : List Requirement) (index : Nat)
    (hrest : t.approvals.drop index = requirements) (hd : T.Due todo false n h)
    (htodo : todo (T.writer h).books = approvalsTodo t requirements (T.writer h).books) :
    T.Plays (T.After todo (foundTodo t) n)
      (approveFirstShort t.endpoint.contract index requirements) h := by
  induction requirements generalizing index h with
  | nil =>
      refine plays_pure ⟨?_, hd.failures, hd.hasAllowances⟩
      rw [← hd.plan, htodo]
      rfl
  | cons r requirements ih =>
      have htail : t.approvals.drop (index + 1) = requirements := by
        rw [← List.tail_drop, hrest, List.tail_cons]
      have hlt : index < t.approvals.length := by
        by_contra hge
        rw [List.drop_eq_nil_of_le (Nat.not_lt.1 hge)] at hrest
        cases hrest
      rw [approveFirstShort]
      refine plays_bind (plays_call hd.hasAllowances ?_ ?_)
      · exact fun e hfails => plays_pure (hd.fail e hfails)
      · rintro x rfl hread
        -- Reading an allowance changes nothing.
        have hbooks : (T.writer (h ++ [_])).books = (T.writer h).books := hread.books
        have hdue : T.Due todo false n (h ++ [_]) := hd.act hread rfl
        generalize h ++ [_] = h' at hbooks hdue
        rw [← hbooks] at htodo
        show T.Plays _ (if r.amount ≤ (T.writer h).books.allowance r.token then _ else _) h'
        rw [← hbooks]
        by_cases henough : r.amount ≤ (T.writer h').books.allowance r.token
        · -- Nothing is to be done for this requirement.
          rw [if_pos henough]
          refine ih (index + 1) htail hdue ?_
          rw [htodo, approvalsTodo, if_pos henough]
        · -- Its approval is what is to be done first.
          rw [if_neg henough]
          refine plays_bind (plays_call hdue.hasAllowances ?_ ?_)
          · exact fun e hfails => plays_pure (hdue.fail e hfails)
          · rintro hash rfl happrove
            refine plays_pure (hdue.act happrove ?_)
            rw [htodo, approvalsTodo, if_neg henough, foundTodo, sentTodo, indexAfter_of_lt hlt,
              htail]
            rfl

/-- Before the transfer, each transition does the first part of what is to be done, or fails. -/
structure Plans {A : Type} (flow : Flow A) (t : Transfer) (todo : A → Books → List Deed) :
    Prop where
  first : flow.first.any flow.isFailed = false
  next : ∀ (T : Trial) (n : Nat) (a : A) (h : Log), T.Due (todo a) false n h →
    T.Plays (fun r h => T.Due (onwardTodo t todo r) (r.any flow.isFailed) n h) (flow.next t a) h

theorem plays_approval {t : Transfer} {a : Approval} (ha : T.Due (a.todo t) false n h) :
    T.Plays (fun r h => T.Due (onwardTodo t (Approval.todo t) r) (r.any Approval.isFailed) n h)
      (a.next t) h := by
  cases a with
  | submit p =>
      rw [Approval.todo] at ha
      refine plays_next _ _ ha (fun _ _ hp => hp) ?_ ?_
      · exact fun cursor hd => plays_approveFirstShort _ cursor rfl hd rfl
      · rintro cursor (_ | s) - hd
        · exact plays_pure hd
        · exact plays_pure hd
  | receipt p =>
      rw [Approval.todo] at ha
      refine plays_next _ _ ha (fun _ _ hp => hp) ?_ ?_
      · exact fun s hd => plays_call_due (fun b => rfl) hd
      · exact fun s r _ hd => plays_pure hd

theorem plans_evmFlow (t : Transfer) : Plans evmFlow t (Approval.todo t) where
  first := rfl
  next _ _ _ _ ha := plays_approval ha

theorem plans_cosmosFlow (t : Transfer) : Plans cosmosFlow t noTodo where
  first := rfl
  next _ _ a := nomatch a

/-! ## Stages -/

section Stages

variable {A : Type} {flow : Flow A} {t : Transfer} {before : A → Books → List Deed}

/-- Entering a stage before the transfer, or the transfer, changes nothing. -/
theorem plays_enter {r : Option A}
    (hd : T.Due (onwardTodo t before r) (r.any flow.isFailed) n h) :
    T.Plays (fun r h => ∃ s', r = some s' ∧
      T.Due (s'.todo flow t before) (s'.isFailed flow) n h) (Stage.enter r) h := by
  cases r with
  | some a => exact plays_pure ⟨_, rfl, hd⟩
  | none =>
      refine plays_bind (obeys_drawSalt.2 fun salt => ⟨trivial, fun _ => ?_⟩)
      exact plays_pure ⟨_, rfl, hd.salt salt⟩

/-- Every transition does the first part of what is to be done, or fails. -/
theorem plays_stage {s : Stage A} (plans : Plans flow t before) (hopen : s.isComplete = false)
    (hs : T.Due (s.todo flow t before) false n h) :
    T.Plays (fun r h => ∃ s', r = some s' ∧
      T.Due (s'.todo flow t before) (s'.isFailed flow) n h) (s.next flow t) h := by
  cases s with
  | filling => exact plays_pure ⟨_, rfl, hs⟩
  | switchChain p =>
      rw [Stage.todo] at hs
      refine plays_next _ _ hs (fun _ _ hp => ⟨_, rfl, hp⟩) ?_ ?_
      · exact fun c hd => plays_call_due (fun b => rfl) hd
      · exact fun c r _ hd => plays_enter (by rwa [plans.first])
  | before a => exact plays_bind ((plans.next T n a h hs).mono fun _ _ hr => plays_enter hr)
  | transferSubmit p =>
      rw [Stage.todo] at hs
      refine plays_next _ _ hs (fun _ _ hp => ⟨_, rfl, hp⟩) ?_ ?_
      · exact fun salt hd => plays_call_due (fun b => rfl) hd
      · exact fun salt hash _ hd => plays_pure ⟨_, rfl, hd⟩
  | transferReceipt p =>
      rw [Stage.todo] at hs
      refine plays_next _ _ hs (fun _ _ hp => ⟨_, rfl, hp⟩) ?_ ?_
      · exact fun hash hd => plays_call_due (fun b => rfl) hd
      · rintro hash receipt rfl
        cases hopen

end Stages

end Trial
end TokenBridge.Submission
