import TokenBridge.Proofs.Batch.Composition

set_option autoImplicit false

/-! # What is asked for a request that is refused

A request is refused for itself when the failure is not that of an answer. Nothing was asked then,
but for one case: an intent after the first whose amount or token is bad is found only when the
questions about the intents before it have been put (`asked_of_refused`).
-/

namespace TokenBridge

open Outcome

namespace CompleteRequest

variable {c : CompleteRequest} {endpoint : Endpoint} {intents : List AddressedIntent}

theorem orders_of_plan {source destination : LiveReader} (h : c.plan = .ok (endpoint, intents)) :
    c.orders source destination = buildOrders source destination endpoint intents := by
  rw [orders, h]

/-- All intents of a plan have addresses of the same two families. -/
theorem families_of_plan (h : c.plan = .ok (endpoint, intents)) :
    ∃ s d, ∀ a ∈ intents, a.sender.family = s ∧ a.receiver.family = d := by
  obtain ⟨route, -, -, haddressed⟩ := plan_eq_ok.1 h
  refine ⟨route.source.family, route.destination.family, fun a ha => ?_⟩
  obtain ⟨i, -, hi⟩ := exists_of_mem_right haddressed ha
  obtain ⟨sender, receiver, hsender, hreceiver, rfl⟩ := Intent.address_eq_ok.1 hi
  exact ⟨Address.family_of_parse hsender, Address.family_of_parse hreceiver⟩

/-- Behind an intent that has passed, only amounts and tokens can be bad: the readers have been
found to serve the families. -/
theorem check_eq_error_of_plan {source destination : ChainFamily} {i b : AddressedIntent}
    {t : Bytes} {e : OrderError} (h : c.plan = .ok (endpoint, intents)) (hi : i ∈ intents) (hb : b ∈ intents)
    (hpassed : b.check source destination = .ok t) (he : i.check source destination = .error e) :
    e = .invalidAmount ∨ ∃ fault, e = .invalidToken i.sender.family i.baseToken fault := by
  obtain ⟨s, d, hfamilies⟩ := families_of_plan h
  obtain ⟨-, hsource, hdestination, -⟩ := AddressedIntent.check_eq_ok.1 hpassed
  rcases AddressedIntent.check_eq_error he with hamount | htoken | ⟨hmismatch, -⟩
  · exact .inl hamount
  · exact .inr htoken
  · rw [hsource, hdestination, (hfamilies i hi).1, (hfamilies i hi).2, (hfamilies b hb).1,
      (hfamilies b hb).2] at hmismatch
    exact absurd hmismatch (not_or.2 ⟨not_not.2 rfl, not_not.2 rfl⟩)

end CompleteRequest

namespace BatchRequest

variable {r : BatchRequest} {source destination : LiveReader} {e : OrderError}
  {asked : List Question}

theorem compose_eq_error :
    r.compose source destination = (.error e, asked) ↔
      ∃ c, r.complete? = some c ∧ c.orders source destination = (.error e, asked) := by
  constructor
  · intro h
    rw [compose] at h
    split at h
    · cases h
    · next c hc =>
        refine ⟨c, hc, ?_⟩
        rcases horders : c.orders source destination with ⟨e' | orders, questions⟩
        all_goals
          rw [horders] at h
          cases h
        rfl
  · rintro ⟨c, hc, horders⟩
    simp only [compose, hc, horders]
    rfl

/-- An intent after the first is refused for its amount or its token, and all questions about the
intents before it have been put. -/
def RefusedLate (r : BatchRequest) (source destination : LiveReader) (e : OrderError)
    (asked : List Question) : Prop :=
  ∃ c endpoint before i after, r.complete? = some c ∧
    c.plan = .ok (endpoint, before ++ i :: after) ∧ before ≠ [] ∧
    (∀ b ∈ before, ∃ t, b.check source.family destination.family = .ok t) ∧
    i.check source.family destination.family = .error e ∧
    (e = .invalidAmount ∨ ∃ fault, e = .invalidToken i.sender.family i.baseToken fault) ∧
    asked = before.zipIdx.flatMap fun b =>
      (b.1.start (source.view b.2) (destination.view b.2) endpoint).2

/-- A request that is refused for itself has cost no question, unless what is wrong is the amount or
the token of an intent after the first. -/
theorem asked_of_refused (h : r.compose source destination = (.error e, asked))
    (he : e.isRetryable = false) : asked = [] ∨ r.RefusedLate source destination e asked := by
  obtain ⟨c, hc, horders⟩ := compose_eq_error.1 h
  rcases hplan : c.plan with e' | ⟨endpoint, intents⟩
  · rw [CompleteRequest.orders, hplan] at horders
    cases horders
    exact .inl rfl
  · rw [CompleteRequest.orders_of_plan hplan] at horders
    obtain ⟨before, i, after, rfl, hbefore, hi, rfl⟩ := buildOrders_of_refused horders he
    rcases before with _ | ⟨b, before⟩
    · exact .inl rfl
    · obtain ⟨t, ht⟩ := hbefore b List.mem_cons_self
      have hkind := CompleteRequest.check_eq_error_of_plan hplan
        (List.mem_append_right _ List.mem_cons_self) List.mem_cons_self ht hi
      exact .inr ⟨c, endpoint, b :: before, i, after, hc, hplan, List.cons_ne_nil _ _, hbefore, hi,
        hkind, rfl⟩

/-! ## A sample of the exception -/

/-- The second intent of the request is for nothing. -/
def badSample : BatchRequest :=
  { sample with intents := [sampleIntent, { sampleIntent with baseAmount := 0 }] }

def sampleAddressed : AddressedIntent where
  sender := .evm 0xf39fd6e51aad88f6f4ce6ab8827279cfffb92266
  receiver := .cosmos ⟨sampleIntent.receiver, "union"⟩
  baseToken := sampleIntent.baseToken
  baseAmount := sampleIntent.baseAmount
  quoteAmount := sampleIntent.quoteAmount

theorem check_sampleAddressed {amount : Amount} (h : amount ≠ 0) :
    { sampleAddressed with baseAmount := amount }.check .evm .cosmos = .ok sampleOrder.baseToken :=
  AddressedIntent.check_eq_ok.2 ⟨h, rfl, rfl, sampleToken_canonical⟩

theorem badSample_complete? :
    badSample.complete? = some ⟨.evm, .cosmos, sampleChannel, badSample.intents⟩ :=
  complete?_eq_some rfl rfl rfl rfl (by decide) (List.cons_ne_nil _ _)

theorem address_sampleIntent (amount : Amount) :
    Intent.address .evm .cosmos { sampleIntent with baseAmount := amount } =
      .ok { sampleAddressed with baseAmount := amount } :=
  Intent.address_eq_ok.2 ⟨_, _, sampleSender_parse, sampleReceiver_parse, rfl⟩

theorem plan_badSample :
    (CompleteRequest.mk .evm .cosmos sampleChannel badSample.intents).plan =
      .ok (⟨2, sampleContract⟩, [sampleAddressed, { sampleAddressed with baseAmount := 0 }]) :=
  CompleteRequest.plan_eq_ok.2 ⟨sampleRoute, rfl, map_eq_ok.2 ⟨_, samplePort_contract, rfl⟩,
    .cons (address_sampleIntent _) (.cons (address_sampleIntent 0) .nil)⟩

theorem compose_badSample :
    badSample.compose sampleSource sampleDestination =
      (.error .invalidAmount,
        [.metadata sampleIntent.baseToken, .quote 2 sampleOrder.baseToken]) := by
  have hcheck : sampleAddressed.check sampleSource.family sampleDestination.family =
      .ok sampleOrder.baseToken :=
    check_sampleAddressed (by decide : sampleIntent.baseAmount ≠ 0)
  refine compose_eq_error.2 ⟨_, badSample_complete?, ?_⟩
  rw [CompleteRequest.orders_of_plan plan_badSample]
  simp only [buildOrders, startOrders, Reader.view_live, AddressedIntent.start, hcheck]
  rfl

theorem badSample_refusedLate :
    badSample.RefusedLate sampleSource sampleDestination .invalidAmount
      [.metadata sampleIntent.baseToken, .quote 2 sampleOrder.baseToken] :=
  (asked_of_refused compose_badSample rfl).resolve_left (List.cons_ne_nil _ _)

/-- A request can be refused for its second amount when its first intent has been asked about. -/
theorem not_forall_asked_eq_nil :
    ¬ ∀ (r : BatchRequest) (source destination : Reader) (e : OrderError) (asked : List Question),
      r.compose source destination = (.error e, asked) → e.isRetryable = false → asked = [] := by
  intro h
  have hnone := h badSample sampleSource sampleDestination _ _ compose_badSample rfl
  cases hnone

end BatchRequest

end TokenBridge
