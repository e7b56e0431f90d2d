import TokenBridge.Proofs.ActsOnce
import TokenBridge.Proofs.Lcd.Asking
import TokenBridge.Proofs.Rpc.Asking

set_option autoImplicit false

/-! # Transactions are handed in once

A call of a signer hands in at most one transaction. It does so last of all, when every check has
been passed and everything that goes into the transaction has been answered, and the call succeeds
if and only if the transaction was then taken, with the hash that the chain told
(`handedIn_once`). This is so whatever is answered: connections may be lost, statuses may be bad,
and bodies may be cut off or be no data at all.
-/

namespace TokenBridge

open Dialogue

/-! ## EVM chains -/

namespace Rpc

/-- The transaction that a call hands in, with its limit of gas. -/
def Call.handedIn? : Call → Option (Transaction × UInt64)
  | sendTransaction t gasLimit => some (t, gasLimit)
  | chainId | transactionCount _ | gasPrice | estimateGas _ | transactionReceipt _ | view .. => none

theorem Call.handedIn?_eq_some {c : Call} {t : Transaction} {gasLimit : UInt64} :
    c.handedIn? = some (t, gasLimit) ↔ c = .sendTransaction t gasLimit := by
  cases c <;> simp [Call.handedIn?]

namespace Signer

variable {s : Signer} {target : EvmAddress} {input : Bytes}

/-- The transaction is filled: it brings the contract that input, and before it the node was asked
how many transactions the account has sent, for the price of gas, and how much gas the transaction
needs, and it answered each time with what the transaction says. -/
structure Filled (s : Signer) (target : EvmAddress) (input : Bytes)
    (before : List (Exchange Call.Answer)) (t : Transaction) (gasLimit : UInt64) : Prop where
  reachable : ∃ url, s.node.url = .ok url
  call : t = ⟨s.account, target, input, t.nonce, t.gasPrice, s.chainId⟩
  answered : ∃ counted priced estimated : Http.Outcome,
    before = [⟨.transactionCount s.account, counted⟩, ⟨.gasPrice, priced⟩,
      ⟨.estimateGas t, estimated⟩] ∧
    Brings uint64 counted t.nonce ∧ Brings price priced t.gasPrice ∧
    Brings uint64 estimated gasLimit

/-- The node has taken the transaction, and tells its hash. -/
def Taken (x : Exchange Call.Answer) (hash : TxHash) : Prop :=
  ∃ word, Brings Rpc.hash x.2 word ∧ hash = Hex.encodeMarked (wordBytes word)

/-- The first three questions hand nothing in. What they bring goes into the transaction, so that it
is filled when it is handed in with the fourth one. -/
theorem obeys_send (target : EvmAddress) (input : Bytes) :
    (s.send target input).run.Obeys
      (firstDeed Call.handedIn? fun before c => s.Filled target input before c.1 c.2)
      (StandsOnDeed Call.handedIn? Taken) [] := by
  rw [send]
  refine obeys_bind_run.2 (obeys_ask ?_ (fun _ _ => trivial) ?_)
  · intro o
    exact firstDeed_of_eq_none rfl (by simp)
  intro url counted nonce hurl hnonce
  refine obeys_bind_run.2 (obeys_ask ?_ (fun _ _ => trivial) ?_)
  · intro o
    exact firstDeed_of_eq_none rfl (by simp [Call.handedIn?])
  rintro _ priced gasPrice - hprice
  refine obeys_bind_run.2 (obeys_ask ?_ (fun _ _ => trivial) ?_)
  · intro o
    exact firstDeed_of_eq_none rfl (by simp [Call.handedIn?])
  rintro _ estimated gasLimit - hgas
  refine obeys_bind_run.2 (obeys_ask ?_ (fun _ _ => trivial) ?_)
  · intro o
    refine ⟨by simp [Call.handedIn?], ?_⟩
    rintro _ ⟨⟩
    exact ⟨⟨url, hurl⟩, rfl, counted, priced, estimated, rfl, hnonce, hprice, hgas⟩
  -- A result of the whole stands on the answer to that question.
  rintro _ o word - hword
  exact ⟨_, _, _, rfl, rfl, word, hword, rfl⟩

theorem leads_send {before : List (Exchange Call.Answer)} {t : Transaction} {gasLimit : UInt64}
    (hfilled : s.Filled target input before t gasLimit) {o : Http.Outcome} {hash : TxHash}
    (htaken : Taken ⟨.sendTransaction t gasLimit, o⟩ hash) :
    (s.send target input).run.Leads (before ++ [⟨.sendTransaction t gasLimit, o⟩])
      (done (.ok hash)) := by
  obtain ⟨⟨url, hurl⟩, hcall, counted, priced, estimated, rfl, hnonce, hprice, hgas⟩ := hfilled
  obtain ⟨word, hword, rfl⟩ := htaken
  cases t
  cases hcall
  rw [send]
  exact (leads_ask hurl hnonce).bind_run <| (leads_ask hurl hprice).bind_run <|
    (leads_ask hurl hgas).bind_run <| (leads_ask hurl hword).bind_run (.refl _)

theorem actsOnce_send (target : EvmAddress) (input : Bytes) :
    ActsOnce Call.handedIn? (fun before c => s.Filled target input before c.1 c.2) Taken
      (s.send target input).run := by
  refine actsOnce_of_obeys (fun _ => ⟨Http.Outcome.refused⟩) (obeys_send target input) ?_
  rintro before ⟨c, o⟩ ⟨t, gasLimit⟩ hash hc hfilled htaken
  obtain rfl : c = .sendTransaction t gasLimit := Call.handedIn?_eq_some.1 hc
  exact leads_send hfilled htaken

/-! ### Requests and approvals -/

/-- The request brings no funds, its contract and its envelope can be read, and the transaction is
filled with them. -/
def ReadyToSubmit (s : Signer) (request : SendRequest) (before : List (Exchange Call.Answer))
    (c : Transaction × UInt64) : Prop :=
  request.funds = [] ∧ ∃ bridge e, EvmAddress.parse request.endpoint.contract = .ok bridge ∧
    Envelope.decode request.instruction = .ok e ∧
    s.Filled bridge (s.sendInput request e) before c.1 c.2

theorem actsOnce_submit (s : Signer) (request : SendRequest) :
    ActsOnce Call.handedIn? (s.ReadyToSubmit request) Taken (s.submit request).run := by
  have hsend := actsOnce_ofExcept_bind (x := checkRequest request)
    (f := fun p => s.send p.1 (s.sendInput request p.2)) fun p _ => s.actsOnce_send _ _
  refine hsend.congr fun before c => ?_
  constructor
  · rintro ⟨⟨bridge, e⟩, hchecked, hfilled⟩
    obtain ⟨hfunds, hbridge, he⟩ := checkRequest_eq_ok_iff.1 hchecked
    exact ⟨hfunds, bridge, e, hbridge, he, hfilled⟩
  · rintro ⟨hfunds, bridge, e, hbridge, he, hfilled⟩
    exact ⟨(bridge, e), checkRequest_eq_ok_iff.2 ⟨hfunds, hbridge, he⟩, hfilled⟩

/-- The token and the spender can be read, and the transaction is filled with them. -/
def ReadyToApprove (s : Signer) (token spender : String) (amount : Amount)
    (before : List (Exchange Call.Answer)) (c : Transaction × UInt64) : Prop :=
  ∃ target allowed, EvmAddress.parse token = .ok target ∧ EvmAddress.parse spender = .ok allowed ∧
    s.Filled target (Contract.Token.approve.call (allowed, amount, ())) before c.1 c.2

theorem actsOnce_approve (s : Signer) (token spender : String) (amount : Amount) :
    ActsOnce Call.handedIn? (s.ReadyToApprove token spender amount) Taken
      (s.approve token spender amount).run := by
  have hsend := actsOnce_ofExcept_bind (x := parseAddress token) fun target _ =>
    actsOnce_ofExcept_bind (x := parseAddress spender)
      (f := fun allowed => s.send target (Contract.Token.approve.call (allowed, amount, ())))
      fun allowed _ => s.actsOnce_send _ _
  refine hsend.congr fun before c => ?_
  simp only [parseAddress, Outcome.mapError_eq_ok]
  constructor
  · rintro ⟨target, htarget, allowed, hallowed, hfilled⟩
    exact ⟨target, allowed, htarget, hallowed, hfilled⟩
  · rintro ⟨target, allowed, htarget, hallowed, hfilled⟩
    exact ⟨target, htarget, allowed, hallowed, hfilled⟩

end Signer
end Rpc

/-! ## Cosmos chains -/

namespace Lcd

/-- The transaction that a request hands in, and where. -/
def Request.handedIn? : Request → Option (Url × Transaction)
  | broadcast url t => some (url, t)
  | get _ => none

theorem Request.handedIn?_eq_some {q : Request} {url : Url} {t : Transaction} :
    q.handedIn? = some (url, t) ↔ q = .broadcast url t := by
  cases q <;> simp [Request.handedIn?]

namespace Signer

variable {s : Signer} {contract message : String} {funds : List Funds}

/-! ### What is filled in -/

/-- The transaction is filled: before it the server was asked for the account, and it answered with
the numbers that the transaction has. -/
structure Filled (s : Signer) (contract message : String) (funds : List Funds)
    (before : List (Exchange Request.Answer)) (url : Url) (t : Transaction) : Prop where
  reachable : Http.resolve s.server "/cosmos/tx/v1beta1/txs" = .ok url
  answered : ∃ (accountUrl : Url) (o : Http.Outcome) (answer : Json) (account : AccountInfo),
    Http.resolve s.server s!"/cosmos/auth/v1beta1/accounts/{s.address}" = .ok accountUrl ∧
    before = [⟨.get accountUrl, o⟩] ∧ Brings o answer ∧ AccountInfo.read answer = .ok account ∧
    s.Carries contract message funds account t

/-! ### What is answered -/

/-- The server has taken the transaction, and tells its hash. -/
def Taken (x : Exchange Request.Answer) (hash : TxHash) : Prop :=
  ∃ answer result, Brings x.2 answer ∧ TxResult.ofAnswer? answer = some result ∧
    result.code = 0 ∧ result.hash = hash ∧ hash ≠ ""

theorem ofAnswer?_unreadable : TxResult.ofAnswer? unreadable = none := rfl

-- Nothing else has to be known of how an answer is read.
attribute [local irreducible] TxResult.ofAnswer?

theorem acceptedHash_eq_ok {r : Http.Response} {hash : TxHash} :
    acceptedHash r = .ok hash ↔
      ∃ answer result, (r.isSuccess = true ∧ r.json = .ok answer) ∧
        TxResult.ofAnswer? answer = some result ∧ result.code = 0 ∧ result.hash = hash ∧
        hash ≠ "" := by
  rw [acceptedHash]
  cases hsuccess : r.isSuccess with
  | false => simp
  | true =>
      cases hjson : r.json with
      | error e => simp [Except.toOption, ofAnswer?_unreadable]
      | ok answer =>
          cases hresult : TxResult.ofAnswer? answer with
          | none => simp [Except.toOption, hresult]
          | some result =>
              by_cases hcode : result.code = 0
              · by_cases hhash : result.hash = ""
                · simp [Except.toOption, hresult, hcode, hhash, eq_comm]
                · have hne (h : result.hash = hash) : hash ≠ "" := h ▸ hhash
                  simpa [Except.toOption, hresult, hcode, hhash] using hne
              · simp [Except.toOption, hresult, hcode]

/-! ### Handing in -/

-- Which URL a path resolves to is never looked into.
attribute [local irreducible] Http.resolve

theorem obeys_execute (contract message : String) (funds : List Funds) :
    (s.execute contract message funds).run.Obeys
      (firstDeed Request.handedIn? fun before c => s.Filled contract message funds before c.1 c.2)
      (StandsOnDeed Request.handedIn? Taken) [] := by
  rw [execute]
  refine obeys_bind_run.2 (obeys_accountInfo ?_ (fun _ _ => trivial) ?_)
  · intro url o
    exact firstDeed_of_eq_none rfl (by simp)
  intro accountUrl o answer account haccountUrl ho hread
  dsimp only
  cases ht : s.transaction account contract message funds with
  | error e =>
      -- What is checked is not in order, and nothing is handed in.
      trivial
  | ok t =>
      show (s.broadcast t).run.Obeys _ _ _
      rw [broadcast]
      refine obeys_bind_run.2 (obeys_adapt.2 (obeys_put ?_ (fun _ _ => trivial) ?_))
      · intro url o' hurl
        refine ⟨by simp [Request.handedIn?], ?_⟩
        rintro _ ⟨⟩
        exact ⟨hurl, accountUrl, o, answer, account, haccountUrl, rfl, ho, hread,
          transaction_eq_ok_iff.1 ht⟩
      · intro url r hurl
        show Obeys _ _ (ExceptT.run (liftM (acceptedHash r))) _
        cases hhash : acceptedHash r with
        | error e => trivial
        | ok hash =>
            obtain ⟨answer', result, ⟨hsuccess, hjson⟩, hresult⟩ := acceptedHash_eq_ok.1 hhash
            exact ⟨_, _, _, rfl, rfl, answer', result, ⟨r, rfl, hsuccess, hjson⟩, hresult⟩

theorem leads_execute {before : List (Exchange Request.Answer)} {url : Url} {t : Transaction}
    (hfilled : s.Filled contract message funds before url t) {o : Http.Outcome} {hash : TxHash}
    (htaken : Taken ⟨.broadcast url t, o⟩ hash) :
    (s.execute contract message funds).run.Leads (before ++ [⟨.broadcast url t, o⟩])
      (done (.ok hash)) := by
  obtain ⟨hurl, accountUrl, o', answer, account, haccountUrl, rfl, ho', hread, hcarries⟩ := hfilled
  obtain ⟨answer', result, ⟨r, ho, hsuccess, hjson⟩, hresult⟩ := htaken
  obtain rfl : o = .answered r := ho
  rw [execute]
  refine (leads_accountInfo haccountUrl ho' hread).bind_run ?_
  rw [transaction_eq_ok_iff.2 hcarries]
  show (s.broadcast t).run.Leads _ _
  rw [broadcast]
  have hput := (leads_put (fun url => .broadcast url t) hurl r).adapt fun f =>
    Report.under "Failed to broadcast transaction" f.report
  have haccepted : acceptedHash r = .ok hash :=
    acceptedHash_eq_ok.2 ⟨answer', result, ⟨hsuccess, hjson⟩, hresult⟩
  have hlast : (liftM (acceptedHash r) : Talk Report TxHash).run.Leads [] (done (.ok hash)) := by
    rw [haccepted]
    exact .refl _
  exact hput.bind_run hlast

/-- The address of the contract and the denominations of the funds are good, and the transaction is
filled with the message for the request. -/
def ReadyToSubmit (s : Signer) (request : SendRequest) (before : List (Exchange Request.Answer))
    (c : Url × Transaction) : Prop :=
  s.Filled request.endpoint.contract (Contract.SendMessage.form.print (s.message request))
    request.funds before c.1 c.2

theorem actsOnce_submit (s : Signer) (request : SendRequest) :
    ActsOnce Request.handedIn? (s.ReadyToSubmit request) Taken (s.submit request).run := by
  refine actsOnce_of_obeys (fun _ => ⟨Http.Outcome.refused⟩) (obeys_execute _ _ _) ?_
  rintro before ⟨q, o⟩ ⟨url, t⟩ hash hq hready htaken
  obtain rfl : q = .broadcast url t := Request.handedIn?_eq_some.1 hq
  exact leads_execute hready htaken

end Signer
end Lcd

/-! ## Both kinds of signers -/

/-- Whatever a chain answers to a call of a signer, the call hands in at most one transaction. That
is the last that it asks, and it comes only when all checks have been passed and everything that was
asked before has been answered. The call succeeds if and only if the transaction was then taken,
with the hash that the chain told. -/
theorem handedIn_once (signer : Rpc.Signer) (cosmosSigner : Lcd.Signer) :
    (∀ request, ActsOnce Rpc.Call.handedIn? (signer.ReadyToSubmit request) Rpc.Signer.Taken
      (signer.submit request).run) ∧
    (∀ token spender amount, ActsOnce Rpc.Call.handedIn?
      (signer.ReadyToApprove token spender amount) Rpc.Signer.Taken
      (signer.approve token spender amount).run) ∧
    ∀ request, ActsOnce Lcd.Request.handedIn? (cosmosSigner.ReadyToSubmit request)
      Lcd.Signer.Taken (cosmosSigner.submit request).run :=
  ⟨signer.actsOnce_submit, signer.actsOnce_approve, cosmosSigner.actsOnce_submit⟩

end TokenBridge
