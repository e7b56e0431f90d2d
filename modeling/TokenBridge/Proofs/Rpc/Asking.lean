import TokenBridge.Proofs.Conversation
import TokenBridge.Proofs.Outcome
import TokenBridge.Rpc.Signer

set_option autoImplicit false

/-! # Asking a node

A question to a node comes to a value if and only if the answer brings it: all of the answer has
arrived, and what stands in it spells the value (`Brings`). A signer asks every question just once
(`obeys_ask`, `leads_ask`), and what it makes of a request before that is decided by the request
alone (`checkRequest_eq_ok_iff`).
-/

namespace TokenBridge.Rpc

open Dialogue

/-! ## Answers -/

/-- An answer brings a value when all of it has arrived, its status is the usual one, and its body
holds a result that spells the value. -/
def Brings {α : Type} (d : Json.Decoder α) (o : Http.Outcome) (a : α) : Prop :=
  ∃ r text, o = .answered r ∧ r.complete = true ∧ r.status = 200 ∧
    Reply.alone.parse r.body = .ok (.ok text) ∧ d.parse text = .ok a

section Answers

variable {α : Type} {d : Json.Decoder α} {a : α}

theorem readText_eq_ok {text : String} : readText d text = .ok a ↔ d.parse text = .ok a := by
  rw [readText]
  cases d.parse text with
  | ok b => simp
  | error reason =>
      -- Whatever else the text may tell, it is not the value.
      cases Refusal.decoder.parse text <;> simp

theorem readBody_eq_ok {body : String} :
    readBody d body = .ok a ↔
      ∃ text, Reply.alone.parse body = .ok (.ok text) ∧ d.parse text = .ok a := by
  rw [readBody, Outcome.bind_eq_ok]
  simp only [readText_eq_ok]
  constructor
  · rintro ⟨reply, hreply, h⟩
    cases reply with
    | ok text => exact ⟨text, hreply, readText_eq_ok.1 h⟩
    | error refusal => cases h
  · rintro ⟨text, hreply, ha⟩
    exact ⟨.ok text, hreply, readText_eq_ok.2 ha⟩

theorem Node.result_eq_ok {url : Url} {o : Http.Outcome} :
    Node.result url d o = .ok a ↔ Brings d o a := by
  unfold Node.result Brings
  cases o with
  | refused => simp [Http.Outcome.response]
  | closed => simp [Http.Outcome.response]
  | answered r =>
      show readResponse d r = .ok a ↔ _
      rw [readResponse]
      by_cases hcomplete : r.complete = true
      · by_cases hstatus : r.status = 200
        · simp [hcomplete, hstatus, readBody_eq_ok]
        · simp [hcomplete, hstatus]
      · simp [hcomplete]

end Answers

namespace Signer

/-! ## Questions -/

section Asking

variable {s : Signer} {α : Type} {purpose : String} {c : Call} {d : Json.Decoder α}

/-- A question is put once if the node can be reached at all, and the dialogue goes on only with
what the answer brings. -/
theorem obeys_ask {law : Law Call.Answer} {h : List (Exchange Call.Answer)}
    {post : Except Report α → List (Exchange Call.Answer) → Prop} (hlaw : ∀ o, law h ⟨c, o⟩)
    (herror : ∀ e h, post (.error e) h)
    (hok : ∀ url o a, s.node.url = .ok url → Brings d o a → post (.ok a) (h ++ [⟨c, o⟩])) :
    (s.ask purpose c d).run.Obeys law post h := by
  rw [ask, Node.call]
  cases hurl : s.node.url with
  | error f => exact herror _ _
  | ok url =>
      intro o
      refine ⟨hlaw o, ?_⟩
      show post ((Node.result url d o).mapError _) _
      cases hresult : Node.result url d o with
      | error f => exact herror _ _
      | ok a => exact hok url o a hurl (Node.result_eq_ok.1 hresult)

theorem leads_ask {url : Url} {o : Http.Outcome} {a : α} (hurl : s.node.url = .ok url)
    (ha : Brings d o a) : (s.ask purpose c d).run.Leads [⟨c, o⟩] (done (.ok a)) := by
  rw [ask, Node.call, hurl]
  refine .ask c _ (show c.Answer from o) ?_
  show Leads (done ((Node.result url d o).mapError _)) [] _
  rw [Node.result_eq_ok.2 ha]
  exact .refl _

/-- A question that the law admits at any time does not break it. -/
theorem keeps_ask {law : Law Call.Answer} (hlaw : ∀ h o, law h ⟨c, o⟩) :
    Keeps law (s.ask purpose c d).run :=
  ⟨fun h => obeys_ask (hlaw h) (fun _ _ => trivial) fun _ _ _ _ _ => trivial⟩

end Asking

/-! ## Requests -/

/-- The checks, in order, are these three, and nothing else is looked at. -/
theorem checkRequest_eq_ok_iff {request : SendRequest} {bridge : EvmAddress} {e : Envelope} :
    checkRequest request = .ok (bridge, e) ↔
      request.funds = [] ∧ EvmAddress.parse request.endpoint.contract = .ok bridge ∧
        Envelope.decode request.instruction = .ok e := by
  by_cases hfunds : request.funds = []
  · have hempty : ¬(!request.funds.isEmpty) = true := by simp [hfunds]
    rw [checkRequest, if_neg hempty]
    simp only [Outcome.bind_eq_ok, bridgeAddress, Outcome.mapError_eq_ok, hfunds, true_and]
    constructor
    · rintro ⟨bridge', hbridge, e', he, h⟩
      obtain ⟨rfl, rfl⟩ := Prod.mk.inj (Except.ok.inj h)
      exact ⟨hbridge, he⟩
    · rintro ⟨hbridge, he⟩
      exact ⟨bridge, hbridge, e, he, rfl⟩
  · have hfull : (!request.funds.isEmpty) = true := by simpa using hfunds
    rw [checkRequest, if_pos hfull]
    exact ⟨fun h => (nomatch h), fun h => absurd h.1 hfunds⟩

end Signer

end TokenBridge.Rpc
