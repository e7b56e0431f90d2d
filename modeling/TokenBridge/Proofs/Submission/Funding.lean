import TokenBridge.Proofs.Batch.Composition
import TokenBridge.Proofs.Instruction.RoundTrip
import TokenBridge.Proofs.Simulation.Books
import TokenBridge.Proofs.Submission.ApprovalSafety
import TokenBridge.Proofs.Transfer

set_option autoImplicit false

/-! # A transfer is sent with what it needs

A submission asks nothing of its chain but what its transfer is made of (`Asks`), so that on a
simulated writer an allowance that has been granted is never lowered again (`Granted.replay`). Every
requirement is met when the transfer is sent, which means that by then its allowance is granted
(`Met.granted`). The requirements are the sums over the orders of the batch, and these are what is
sent.
-/

namespace TokenBridge

open Dialogue Simulation

namespace Submission

/-! ## What is asked -/

/-- What a submission of the transfer may ask of its chain. -/
inductive Asks (t : Transfer) : WriterCall → Prop
  | switchChain : Asks t .switchChain
  | allowance {r : Requirement} (hr : r ∈ t.approvals) :
      Asks t (.allowance r.token t.endpoint.contract)
  | approve {r : Requirement} (hr : r ∈ t.approvals) :
      Asks t (.approve r.token t.endpoint.contract r.amount)
  | submit {request : SendRequest} (hrequest : ∃ salt, request = t.request salt) :
      Asks t (.submit request)
  | awaitReceipt (hash : TxHash) : Asks t (.awaitReceipt hash)

/-- Nothing else is asked. -/
def asksOnly (t : Transfer) : Law Effect.Answer :=
  fun _ e => ∀ c x, e = answered c x → Asks t c

theorem Asks.lawful {t : Transfer} {c : WriterCall} (hc : Asks t c) (h : Log) (x : c.Answer) :
    asksOnly t h (answered c x) := by
  rintro _ _ ⟨⟩
  exact hc

theorem ApprovalCall.lawful {t : Transfer} {e : Event} (he : ApprovalCall t e) (h : Log) :
    asksOnly t h e := by
  rcases he with ⟨r, hr, ⟨x, rfl⟩ | ⟨x, rfl⟩⟩ | ⟨hash, x, rfl⟩
  · exact (Asks.allowance hr).lawful h x
  · exact (Asks.approve hr).lawful h x
  · exact (Asks.awaitReceipt hash).lawful h x

theorem Approval.obeys_next_asks (t : Transfer) (a : Approval) (h : Log) :
    (a.next t).Obeys (asksOnly t) (fun _ _ => True) h :=
  (a.obeys_next_calls t h).mono (fun h _ he => he.lawful h) fun _ _ hr => hr

section Lanes

variable {family : ChainFamily} {A : Type} {flow : Flow A} {wrap : Stage A → State}

/-- Entering the transfer asks the chain nothing. -/
theorem Stage.obeys_enter_asks (t : Transfer) (r : Option A) (h : Log) :
    (Stage.enter r).Obeys (asksOnly t) (fun r _ => ∃ s', r = some s' ∧ True) h := by
  cases r with
  | some a => exact ⟨_, rfl, trivial⟩
  | none => exact obeys_bind.2 fun salt => ⟨fun _ _ heq => (nomatch heq), _, rfl, trivial⟩

theorem Stage.obeys_next_asks {t : Transfer}
    (hbefore : ∀ a h, (flow.next t a).Obeys (asksOnly t) (fun _ _ => True) h) {s : Stage A}
    (hopen : s.isComplete = false) (h : Log) :
    (s.next flow t).Obeys (asksOnly t) (fun r _ => ∃ s', r = some s' ∧ True) h := by
  cases s with
  | filling => exact ⟨_, rfl, trivial⟩
  | switchChain p =>
      cases p with
      | notStarted | failed => exact ⟨_, rfl, trivial⟩
      | inProgress c => exact obeys_bind.2 fun x => ⟨Asks.switchChain.lawful h x, _, rfl, trivial⟩
      | complete => exact obeys_enter_asks t _ h
  | before a =>
      refine obeys_bind.2 ((hbefore a h).mono (fun _ _ hx => hx) ?_)
      exact fun r h _ => obeys_enter_asks t r h
  | transferSubmit p =>
      cases p with
      | notStarted | failed | complete => exact ⟨_, rfl, trivial⟩
      | inProgress salt =>
          exact obeys_bind.2 fun x => ⟨(Asks.submit ⟨salt, rfl⟩).lawful h x, _, rfl, trivial⟩
  | transferReceipt p =>
      cases p with
      | notStarted | failed => exact ⟨_, rfl, trivial⟩
      | complete => cases hopen
      | inProgress hash =>
          exact obeys_bind.2 fun x => ⟨(Asks.awaitReceipt hash).lawful h x, _, rfl, trivial⟩

theorem Lane.obeys_advance_asks (lane : Lane family flow wrap) {t : Transfer}
    (ht : t.source = family)
    (hbefore : ∀ a h, (flow.next t a).Obeys (asksOnly t) (fun _ _ => True) h) {s : State}
    (hs : ∃ stage, s.enter family = some (wrap stage)) (h : Log) :
    (advance family t s).Obeys (asksOnly t) (fun _ _ => True) h := by
  obtain ⟨stage, hs⟩ := hs
  refine (lane.obeys_advance (fun _ _ => True) (fun _ _ => True) ht ?_ ?_ hs trivial).mono
    (fun _ _ he => he.1) fun _ _ _ => trivial
  · exact fun s h _ => ⟨fun _ _ heq => (nomatch heq), trivial⟩
  · exact fun s h _ hopen => Stage.obeys_next_asks hbefore hopen h

end Lanes

/-- Wherever a submission is taken up, a chain is asked only for what the transfer is made of. -/
theorem obeys_advance_asks (writer : ChainFamily) (t : Transfer) (s : State) (h : Log) :
    (advance writer t s).Obeys (asksOnly t) (fun _ _ => True) h := by
  by_cases habandon : writer ≠ t.source ∨ t.source = .aptos
  · -- A submission that is given up asks nothing at all.
    rw [advance_eq_abandon s habandon]
    exact fun _ => ⟨fun _ _ heq => (nomatch heq), trivial⟩
  · obtain ⟨hw, hserved⟩ := not_or.1 habandon
    obtain rfl : writer = t.source := not_not.1 hw
    cases hsource : t.source with
    | evm =>
        refine evmLane.obeys_advance_asks hsource (Approval.obeys_next_asks t) ?_ h
        cases s <;> exact ⟨_, rfl⟩
    | cosmos =>
        refine cosmosLane.obeys_advance_asks hsource (fun a => nomatch a) ?_ h
        cases s <;> exact ⟨_, rfl⟩
    | aptos => exact absurd hsource hserved

theorem invariant_asks (writer : ChainFamily) (t : Transfer) :
    Invariant writer (· = t) (asksOnly t) (fun _ _ => True) where
  start := trivial
  advance := by
    rintro t s h rfl -
    refine (obeys_advance_asks writer t s h).mono ?_ ?_
    · exact fun h e he => ⟨he, fun _ _ => trivial⟩
    · exact fun _ _ _ _ _ => trivial

/-- In a history of a transfer, a chain is asked only for what the transfer is made of. -/
theorem asks_of_mem {writer : ChainFamily} {t : Transfer} {s : State} {h new : Log}
    {rest : Talk (Option State)} (hh : History writer (· = t) s h)
    (hl : (advance writer t s).Leads new rest) {c : WriterCall} {x : c.Answer}
    (hmem : answered c x ∈ h ++ new) : Asks t c := by
  obtain ⟨pre, post, hsplit⟩ := List.append_of_mem hmem
  exact (invariant_asks writer t).lawful hh rfl hl pre _ post hsplit c x rfl

/-! ## Allowances that are granted -/

/-- The allowance of the token is enough. -/
def Granted (b : Books) (r : Requirement) : Prop := r.amount ≤ b.allowance r.token

/-- An approval sets the allowance of its own token, and to what the requirement for it says. -/
theorem Granted.after {t : Transfer} (hnodup : (t.approvals.map Requirement.token).Nodup)
    {r : Requirement} (hr : r ∈ t.approvals) {c : WriterCall} (hc : Asks t c) {b : Books}
    (hb : Granted b r) : Granted (b.after c) r := by
  rw [Granted, Books.allowance_after]
  cases hc with
  | approve hr' =>
      dsimp only
      split
      · -- No other requirement is for this token.
        next htoken =>
          obtain rfl := List.inj_on_of_nodup_map hnodup hr hr' htoken
          exact Nat.le_refl _
      · exact hb
  | switchChain | allowance | submit | awaitReceipt => exact hb

section Answers

variable {salts : Nat → Salt} {world : World} {t : Transfer} {r : Requirement}

theorem Granted.partner (hnodup : (t.approvals.map Requirement.token).Nodup)
    (hr : r ∈ t.approvals) {q : Effect} (hq : ∀ c, q = .call c → Asks t c)
    (hb : Granted world.writer.books r) :
    Granted (World.partner salts world q).2.writer.books r := by
  cases q with
  | drawSalt | publish => exact hb
  | call c =>
      show Granted (world.writer.answer c).2.books r
      rcases world.writer.answer_books c with ⟨-, -, hbooks⟩ | ⟨-, hbooks⟩
      · rwa [hbooks]
      · rw [hbooks]
        exact hb.after hnodup hr (hq c rfl)

/-- What is granted stays granted. -/
theorem Granted.replay (hnodup : (t.approvals.map Requirement.token).Nodup)
    (hr : r ∈ t.approvals) {log : Log} (hlog : ∀ c x, answered c x ∈ log → Asks t c)
    (hb : Granted world.writer.books r) :
    Granted (replay (World.partner salts) world log).writer.books r := by
  -- The first event changes the world from which the others are replayed.
  induction log generalizing world with
  | nil => exact hb
  | cons e log ih =>
      refine ih (fun c x hmem => hlog c x (.tail _ hmem)) (hb.partner hnodup hr ?_)
      obtain ⟨q, x⟩ := e
      rintro c rfl
      exact hlog c x (.head _)

/-- What a call that succeeded tells of the books. -/
theorem books_of_answered {log : Log} {c : WriterCall} {x : c.Result}
    (hlog : AnsweredBy (World.partner salts) world (log ++ [answered c (.ok x)])) :
    x = (replay (World.partner salts) world log).writer.books.result c ∧
      (replay (World.partner salts) world (log ++ [answered c (.ok x)])).writer.books =
        (replay (World.partner salts) world log).writer.books.after c := by
  have hx : Except.ok x = ((replay (World.partner salts) world log).writer.answer c).1 :=
    (lawful_snoc.1 hlog).2
  rw [replay_snoc]
  rcases (replay (World.partner salts) world log).writer.answer_books c with
    ⟨e, he, -⟩ | ⟨hok, hbooks⟩
  · cases hx.trans he
  · exact ⟨Except.ok.inj (hx.trans hok), hbooks⟩

/-- When a requirement is met, its allowance is granted. -/
theorem Met.granted {spender : String} {log : Log} (hmet : Met spender log r)
    (hnodup : (t.approvals.map Requirement.token).Nodup) (hr : r ∈ t.approvals)
    (hasks : ∀ c x, answered c x ∈ log → Asks t c)
    (hlog : AnsweredBy (World.partner salts) world log) :
    Granted (Dialogue.replay (World.partner salts) world log).writer.books r := by
  -- Some call has read the allowance or set it.
  obtain ⟨c, x, hmem, hgrants⟩ : ∃ (c : WriterCall) (x : c.Result), answered c (.ok x) ∈ log ∧
      ∀ b : Books, x = b.result c → Granted (b.after c) r := by
    rcases hmet with ⟨allowance, hmem, hle⟩ | ⟨hash, receipt, hsub⟩
    · refine ⟨_, _, hmem, ?_⟩
      rintro b rfl
      exact hle
    · refine ⟨_, _, hsub.subset (.head _), fun b _ => ?_⟩
      rw [Granted, Books.allowance_after]
      dsimp only
      rw [if_pos rfl]
      exact Nat.le_refl _
  obtain ⟨pre, post, rfl⟩ := List.append_of_mem hmem
  rw [List.append_cons] at hlog hasks ⊢
  obtain ⟨hx, hbooks⟩ := books_of_answered hlog.of_append
  rw [replay_append]
  refine Granted.replay hnodup hr (fun c x hmem => hasks c x (List.mem_append_right _ hmem)) ?_
  rw [hbooks]
  exact hgrants _ hx

end Answers

/-! ## What is sent -/

section Sent

variable {family : ChainFamily} {t : Transfer} {s : State} {h new : Log}
  {rest : Talk (Option State)} {salts : Nat → Salt} {world : World} {pre post : Log}
  {request : SendRequest} {answer : Except Report TxHash}

/-- What is sent is the request of the transfer. -/
theorem exists_salt_of_sent (hh : History family (· = t) s h)
    (hl : (advance family t s).Leads new rest)
    (hsent : h ++ new = pre ++ answered (.submit request) answer :: post) :
    ∃ salt, request = t.request salt := by
  have hmem : answered (.submit request) answer ∈ h ++ new := by
    rw [hsent]
    exact List.mem_append_right _ (.head _)
  cases asks_of_mem hh hl hmem with
  | submit hrequest => exact hrequest

/-- Whenever a transfer from an EVM chain is sent, all its requirements are granted. -/
theorem granted_when_sent (hevm : t.source = .evm)
    (hnodup : (t.approvals.map Requirement.token).Nodup) (hh : History .evm (· = t) s h)
    (hl : (advance .evm t s).Leads new rest)
    (hanswers : AnsweredBy (World.partner salts) world (h ++ new))
    (hsent : h ++ new = pre ++ answered (.submit request) answer :: post) :
    ∀ r ∈ t.approvals, Granted (replay (World.partner salts) world pre).writer.books r := by
  intro r hr
  have hasks : ∀ c x, answered c x ∈ pre → Asks t c := by
    intro c x hmem
    refine asks_of_mem hh hl (?_ : answered c x ∈ h ++ new)
    rw [hsent]
    exact List.mem_append_left _ hmem
  have hmet : Met t.endpoint.contract pre r :=
    (invariant_safe t hevm).lawful hh rfl hl pre _ post hsent request answer rfl r hr
  rw [hsent] at hanswers
  exact hmet.granted hnodup hr hasks hanswers.of_append

/-- On an EVM chain the bridge may take of each base token what the orders with that token come to,
and no coins are attached. On a Cosmos chain the coins that are attached are those of the orders. -/
def Funded (native : List String) (orders : List Order) (b : Books) (request : SendRequest) :
    ChainFamily → Prop
  | .evm => request.funds = [] ∧ ∀ o ∈ orders,
      baseTotal orders o.baseToken ≤
        (b.allowance (EvmAddress.ofBytes o.baseToken).checksum).toNat
  | .cosmos => Transfer.Carries request.funds native orders
  | .aptos => False

/-- Whenever the transfer of an instruction is sent, it is funded. -/
theorem funded_of_sent {i : Instruction} {endpoint : Endpoint} {native : List String}
    (ht : Transfer.ofInstruction family i endpoint native = .ok t)
    (hh : History family (· = t) s h) (hl : (advance family t s).Leads new rest)
    (hanswers : AnsweredBy (World.partner salts) world (h ++ new))
    (hsent : h ++ new = pre ++ answered (.submit request) answer :: post) :
    Funded native i.orders (replay (World.partner salts) world pre).writer.books request
      family := by
  obtain ⟨salt, rfl⟩ := exists_salt_of_sent hh hl hsent
  cases family with
  | evm =>
      obtain ⟨requirements, rfl, hcovers⟩ := Transfer.ofInstruction_evm_eq_ok ht
      refine ⟨rfl, fun o ho => ?_⟩
      -- The token of the order has its requirement, and that one is granted.
      obtain ⟨r, hr, htoken, hamount⟩ := hcovers.exists_mem o ho
      have hgranted := granted_when_sent rfl hcovers.nodup hh hl hanswers hsent r hr
      rw [← hamount, ← htoken]
      exact hgranted
  | cosmos =>
      obtain ⟨funds, rfl, hcarries⟩ := Transfer.ofInstruction_cosmos_eq_ok ht
      exact hcarries
  | aptos =>
      -- Nothing is sent.
      obtain rfl := Transfer.ofInstruction_aptos_eq_ok ht
      have hnone := (invariant_abandon fun _ heq => .inr (by rw [heq])).lawful hh rfl hl
      exact nomatch hnone pre _ post hsent

end Sent

/-- Whenever the transfer of a batch that was composed is sent to a simulated writer, what is sent
reads as that batch, and it is funded: on an EVM chain the allowance of each base token is by then
at least the sum over the orders with that token; on a Cosmos chain exactly the native coins of the
orders are attached, and no allowance is ever read or approved. This is so whatever allowances the
writer starts with, whatever calls of it fail, and however often the submission is stopped and taken
up again. -/
theorem funded_when_sent {r : BatchRequest} {source destination : LiveReader} {batch : Instruction}
    (hbatch : (r.compose source destination).1 = .ok (some batch))
    (hlength : batch.encode.length < 2 ^ 60) {family : ChainFamily} {endpoint : Endpoint}
    {native : List String} {t : Transfer}
    (ht : Transfer.ofInstruction family batch endpoint native = .ok t) {s : State} {h new : Log}
    {rest : Talk (Option State)} (hh : History family (· = t) s h)
    (hl : (advance family t s).Leads new rest) {salts : Nat → Salt} {world : World}
    (hanswers : AnsweredBy (World.partner salts) world (h ++ new)) {pre post : Log}
    {request : SendRequest} {answer : Except Report TxHash}
    (hsent : h ++ new = pre ++ answered (.submit request) answer :: post) :
    Instruction.decode request.instruction = .ok batch ∧
      Funded native batch.orders (replay (World.partner salts) world pre).writer.books request
        family ∧
      (family = .cosmos → ∀ c x, answered c x ∈ h ++ new →
        Operation.of c ≠ .allowance ∧ Operation.of c ≠ .approve) := by
  refine ⟨?_, funded_of_sent ht hh hl hanswers hsent, ?_⟩
  · obtain ⟨salt, rfl⟩ := exists_salt_of_sent hh hl hsent
    show Instruction.decode t.instruction.encode = .ok batch
    rw [Transfer.instruction_of_ofInstruction ht]
    obtain ⟨orders, rfl⟩ := BatchRequest.exists_orders_of_compose hbatch
    refine Instruction.decode_encode_of_depth_le ?_ (Nat.lt_trans hlength (by decide))
    rw [Instruction.depth, Instruction.depthOf_map_order]
    decide
  · rintro rfl c x hmem
    obtain ⟨funds, rfl, -⟩ := Transfer.ofInstruction_cosmos_eq_ok ht
    cases asks_of_mem hh hl hmem with
    | allowance hr | approve hr => cases hr
    | switchChain | submit | awaitReceipt =>
        constructor
        · rintro ⟨⟩
        · rintro ⟨⟩

/-! ## A sample

The batch of the sample request, whose two orders are for one token.
-/

def sampleBatch : Instruction := .batch (BatchRequest.sampleOrders.map .order)

theorem compose_sampleBatch :
    (BatchRequest.sample.compose BatchRequest.sampleSource BatchRequest.sampleDestination).1 =
      .ok (some sampleBatch) :=
  BatchRequest.compose_of_fulfilledBy rfl rfl rfl rfl (by decide) (by decide)
    BatchRequest.sampleRoute_mem ⟨rfl, rfl⟩ BatchRequest.samplePort_contract
    BatchRequest.fulfilledBy_sampleOrders

/-- One allowance, for both orders. -/
def batchTransfer : Transfer :=
  ⟨.evm, sampleBatch, ⟨1, "bridge"⟩,
    [⟨(EvmAddress.ofBytes BatchRequest.sampleOrder.baseToken).checksum, 1500⟩], []⟩

theorem approvalsOf_sampleBatch :
    Transfer.approvalsOf sampleBatch.orders = .ok batchTransfer.approvals := by
  have hfold : sampleBatch.orders.foldlM Transfer.addApproval [] =
      .ok [(EvmAddress.ofBytes BatchRequest.sampleOrder.baseToken, 1500)] := by
    decide +kernel
  exact Outcome.bind_eq_ok.2 ⟨_, hfold, rfl⟩

theorem ofInstruction_sampleBatch :
    Transfer.ofInstruction .evm sampleBatch ⟨1, "bridge"⟩ [] = .ok batchTransfer :=
  Outcome.bind_eq_ok.2 ⟨_, approvalsOf_sampleBatch, rfl⟩

theorem length_sampleBatch : sampleBatch.encode.length < 2 ^ 60 := by
  decide +kernel

def batchWorld : World := ⟨Writer.new .evm [] true, 0, []⟩

def batchLog : Log := (advance .evm batchTransfer .empty).transcript samplePartner batchWorld

/-- The transfer is sent after one approval and its receipt. -/
theorem batchLog_sent :
    batchLog = batchLog.take 19 ++
      answered (.submit (batchTransfer.request 9)) (.ok (Writer.hashText 2)) ::
        batchLog.drop 20 := rfl

theorem batchLog_funded :
    Instruction.decode (batchTransfer.request 9).instruction = .ok sampleBatch ∧
      Funded [] sampleBatch.orders (replay samplePartner batchWorld (batchLog.take 19)).writer.books
        (batchTransfer.request 9) .evm := by
  have hanswers : AnsweredBy samplePartner batchWorld ([] ++ batchLog) :=
    AnsweredBy.transcript (lawful_nil _) (advance .evm batchTransfer .empty)
  obtain ⟨hdecode, hfunded, -⟩ := funded_when_sent compose_sampleBatch length_sampleBatch
    ofInstruction_sampleBatch .start (leads_transcript samplePartner batchWorld _) hanswers
    batchLog_sent
  exact ⟨hdecode, hfunded⟩

end Submission

end TokenBridge
