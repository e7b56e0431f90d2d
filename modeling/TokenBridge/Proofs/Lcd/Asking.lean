import TokenBridge.Lcd.Signer
import TokenBridge.Proofs.Conversation
import TokenBridge.Proofs.Outcome

set_option autoImplicit false

/-! # Asking a server

A request to a server comes to a value if and only if the answer brings it (`Brings`). Each is made
just once, at a path that the URL of the server decides (`obeys_put`, `leads_put`). What an account
is told to be, and a message, fill a transaction, if all that is checked is in order
(`transaction_eq_ok_iff`).
-/

namespace TokenBridge.Lcd

open Dialogue

/-! ## Answers -/

/-- An answer brings a value when its status tells of success, and its body is whole and spells the
value. -/
def Brings (o : Http.Outcome) (answer : Json) : Prop :=
  ∃ r, o = .answered r ∧ r.isSuccess = true ∧ r.json = .ok answer

/-! ## Requests -/

-- Which URL a path resolves to is never looked into.
attribute [local irreducible] Http.resolve

section Asking

variable {server path what address : String} {request : Url → Request} {law : Law Request.Answer}
  {h : List (Exchange Request.Answer)}

/-- A request is made once, at the URL that the path resolves to. It comes to a response, good or
bad, unless nobody answers. -/
theorem obeys_put {post : Except Http.Fault Http.Response → List (Exchange Request.Answer) → Prop}
    (hlaw : ∀ url o, Http.resolve server path = .ok url → law h ⟨request url, o⟩)
    (herror : ∀ e h, post (.error e) h)
    (hok : ∀ url r, Http.resolve server path = .ok url →
      post (.ok r) (h ++ [⟨request url, Http.Outcome.answered r⟩])) :
    (put server path request).run.Obeys law post h := by
  rw [put]
  cases hurl : Http.resolve server path with
  | error f => exact herror _ _
  | ok url =>
      intro (o : Http.Outcome)
      refine ⟨hlaw url o hurl, ?_⟩
      cases o with
      | refused => exact herror _ _
      | closed => exact herror _ _
      | answered r => exact hok url r hurl

theorem leads_put {url : Url} (request : Url → Request)
    (hurl : Http.resolve server path = .ok url) (r : Http.Response) :
    (put server path request).run.Leads [⟨request url, Http.Outcome.answered r⟩]
      (done (.ok r)) := by
  rw [put, hurl]
  exact .ask (request url) _ (show (request url).Answer from Http.Outcome.answered r) (.refl _)

/-- Of the responses, only a good one that can be read brings a value. -/
theorem obeys_getJson {post : Except Report Json → List (Exchange Request.Answer) → Prop}
    (hlaw : ∀ url o, law h ⟨.get url, o⟩) (herror : ∀ e h, post (.error e) h)
    (hok : ∀ url o answer, Http.resolve server path = .ok url → Brings o answer →
      post (.ok answer) (h ++ [⟨.get url, o⟩])) :
    (getJson server path what).run.Obeys law post h := by
  rw [getJson, get]
  refine obeys_bind_run.2 (obeys_adapt.2 (obeys_put ?_ (fun _ _ => herror _ _) ?_))
  · intro url o _
    exact hlaw url o
  intro url r hurl
  show Obeys law post (ExceptT.run _) _
  by_cases hsuccess : r.isSuccess = true
  · rw [if_neg (by simp [hsuccess])]
    cases hjson : r.json with
    | error e => exact herror _ _
    | ok answer => exact hok url _ answer hurl ⟨r, rfl, hsuccess, hjson⟩
  · rw [if_pos (by simpa using hsuccess)]
    exact herror _ _

theorem leads_getJson {url : Url} {o : Http.Outcome} {answer : Json}
    (hurl : Http.resolve server path = .ok url) (ho : Brings o answer) :
    (getJson server path what).run.Leads [⟨.get url, o⟩] (done (.ok answer)) := by
  obtain ⟨r, rfl, hsuccess, hjson⟩ := ho
  rw [getJson, get]
  refine ((leads_put .get hurl r).adapt _).bind_run ?_
  rw [if_neg (by simp [hsuccess]), hjson]
  exact .refl _

theorem obeys_accountInfo
    {post : Except Report AccountInfo → List (Exchange Request.Answer) → Prop}
    (hlaw : ∀ url o, law h ⟨.get url, o⟩) (herror : ∀ e h, post (.error e) h)
    (hok : ∀ url o answer account,
      Http.resolve server s!"/cosmos/auth/v1beta1/accounts/{address}" = .ok url →
      Brings o answer → AccountInfo.read answer = .ok account →
      post (.ok account) (h ++ [⟨.get url, o⟩])) :
    (accountInfo server address).run.Obeys law post h := by
  rw [accountInfo]
  refine obeys_bind_run.2 (obeys_getJson hlaw (fun _ _ => herror _ _) ?_)
  intro url o answer hurl ho
  dsimp only
  cases hread : AccountInfo.read answer with
  | error e => exact herror _ _
  | ok account => exact hok url o answer account hurl ho hread

theorem leads_accountInfo {url : Url} {o : Http.Outcome} {answer : Json} {account : AccountInfo}
    (hurl : Http.resolve server s!"/cosmos/auth/v1beta1/accounts/{address}" = .ok url)
    (ho : Brings o answer) (hread : AccountInfo.read answer = .ok account) :
    (accountInfo server address).run.Leads [⟨.get url, o⟩] (done (.ok account)) := by
  rw [accountInfo]
  refine (leads_getJson hurl ho).bind_run ?_
  rw [hread]
  exact .refl _

/-! Requests that the law admits at any time do not break it. -/

theorem keeps_put (hlaw : ∀ h url o, law h ⟨request url, o⟩) :
    Keeps law (put server path request).run :=
  ⟨fun h => obeys_put (fun url o _ => hlaw h url o) (fun _ _ => trivial) fun _ _ _ => trivial⟩

theorem keeps_accountInfo (hlaw : ∀ h url o, law h ⟨.get url, o⟩) :
    Keeps law (accountInfo server address).run :=
  ⟨fun h => obeys_accountInfo (hlaw h) (fun _ _ => trivial) fun _ _ _ _ _ _ _ => trivial⟩

end Asking

/-! ## Transactions -/

namespace Signer

variable {s : Signer} {contract message : String} {funds : List Funds}

/-- The transaction brings the contract that message and these funds, and has the numbers of the
account. All that is checked has been passed: the denominations of the coins and of the fee, the
address of the contract, and the name of the chain. -/
structure Carries (s : Signer) (contract message : String) (funds : List Funds)
    (account : AccountInfo) (t : Transaction) : Prop where
  coins : ∀ f ∈ funds, checkDenom "coin" f.denom = .ok ()
  contract : contractAddress contract = .ok t.contract
  fee : checkDenom "fee" s.feeDenom = .ok ()
  chain : checkChainId s.chainId = .ok ()
  fields : t = ⟨s.address, t.contract, message, funds, s.chainId, account.number,
    account.sequence, ⟨s.feeDenom, s.feeAmount⟩, s.gasLimit⟩

theorem transaction_eq_ok_iff {account : AccountInfo} {t : Transaction} :
    s.transaction account contract message funds = .ok t ↔
      s.Carries contract message funds account t := by
  simp only [transaction, Outcome.bind_eq_ok, Outcome.forM_eq_ok]
  constructor
  · rintro ⟨⟨⟩, hcoins, address, haddress, ⟨⟩, hfee, ⟨⟩, hchain, h⟩
    obtain rfl := Except.ok.inj h
    exact ⟨hcoins, haddress, hfee, hchain, rfl⟩
  · rintro ⟨hcoins, haddress, hfee, hchain, h⟩
    exact ⟨(), hcoins, _, haddress, (), hfee, (), hchain, congrArg Except.ok h.symm⟩

end Signer

end TokenBridge.Lcd
