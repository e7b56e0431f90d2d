import TokenBridge.Proofs.Batch.Questions
import TokenBridge.Proofs.Order.Single

set_option autoImplicit false

/-! # When it helps to ask again

A request whose failure is that of an answer may be composed later, when the chains answer
otherwise. This is so if and only if the intents behind the one whose answer failed are good in
themselves (`curable_iff_of_unanswered`): those are not looked at before the failure is reported, so
that a failure can be reported as one that may pass although the request can never be served. A
request that is refused for itself is never served, whatever the chains answer
(`final_of_refused`).
-/

namespace TokenBridge

open Outcome

/-! ## Other answers of the same chain -/

/-- A reader of the same family that knows the same coins. It may answer anything, and it may answer
about each intent in another way. -/
structure LiveReader.SameChain (r r' : LiveReader) : Prop where
  family : r'.family = r.family
  native? : ∀ k, (r'.view k).native? = (r.view k).native?

/-- The chain when it answers every question. -/
def Reader.answering (r : Reader) : Reader :=
  { r with metadata := fun _ => .ok ⟨"", "", 0⟩, quote := fun _ _ => .ok [] }

def LiveReader.answering (r : LiveReader) : LiveReader where
  family := r.family
  view := fun k => (r.view k).answering
  family_view := r.family_view

theorem LiveReader.sameChain_answering (r : LiveReader) : r.SameChain r.answering :=
  ⟨rfl, fun _ => rfl⟩

theorem Reader.exists_resolve_answering (r : Reader) (token : String) :
    ∃ m, r.answering.resolve token = .ok m := by
  cases hnative : r.native? token with
  | some m => exact ⟨m, resolve_eq_ok.2 (.inl hnative)⟩
  | none => exact ⟨_, resolve_eq_ok.2 (.inr ⟨hnative, rfl⟩)⟩

/-- Other answers of the two chains would make a batch of the very same request. -/
def BatchRequest.Curable (r : BatchRequest) (source destination : LiveReader) : Prop :=
  ∃ source' destination' batch, source.SameChain source' ∧ destination.SameChain destination' ∧
    (r.compose source' destination').1 = .ok (some batch)

/-! ## Intents that are good in themselves -/

namespace AddressedIntent

variable {i : AddressedIntent} {source destination : Reader} {s d : ChainFamily} {t : Bytes}
  {o : Order}

/-- The amount is positive, and the token is one of its family. -/
def Sound (i : AddressedIntent) : Prop :=
  i.baseAmount ≠ 0 ∧ ∃ t, Token.canonical i.sender.family i.baseToken = .ok t

/-- Readers of the two families serve those of the addresses. -/
def ServedBy (i : AddressedIntent) (source destination : ChainFamily) : Prop :=
  source = i.sender.family ∧ destination = i.receiver.family

theorem exists_check_eq_ok : (∃ t, i.check s d = .ok t) ↔ i.Sound ∧ i.ServedBy s d := by
  simp only [check_eq_ok]
  constructor
  · rintro ⟨t, hpositive, hsource, hdestination, ht⟩
    exact ⟨⟨hpositive, t, ht⟩, hsource, hdestination⟩
  · rintro ⟨⟨hpositive, t, ht⟩, hsource, hdestination⟩
    exact ⟨t, hpositive, hsource, hdestination, ht⟩

theorem Yields.sound {endpoint : Endpoint} (h : i.Yields source destination endpoint o) :
    i.Sound := by
  obtain ⟨t, m, quote, hcheck, -⟩ := h
  exact (exists_check_eq_ok.1 ⟨t, hcheck⟩).1

/-- A good intent has its order when every question is answered. -/
theorem exists_yields_answering (endpoint : Endpoint)
    (h : i.check source.family destination.family = .ok t) :
    ∃ o, i.Yields source.answering destination.answering endpoint o := by
  obtain ⟨m, hm⟩ := source.exists_resolve_answering i.baseToken
  exact ⟨_, t, m, [], h, hm, rfl, rfl⟩

end AddressedIntent

/-! ## Requests that can be cured -/

namespace BatchRequest

variable {r : BatchRequest} {source destination : LiveReader} {c : CompleteRequest}
  {endpoint : Endpoint} {intents : List AddressedIntent} {e : OrderError}

/-- What can be composed under any answers has good intents. -/
theorem Curable.sound (hcurable : r.Curable source destination) (hc : r.complete? = some c)
    (hplan : c.plan = .ok (endpoint, intents)) : ∀ i ∈ intents, i.Sound := by
  intro i hi
  obtain ⟨source', destination', batch, -, -, hcompose⟩ := hcurable
  obtain ⟨orders, horders, -⟩ := (compose_of_complete? hc).1 hcompose
  rw [CompleteRequest.orders_of_plan hplan, buildOrders_eq_ok] at horders
  obtain ⟨k, o, -, hyields⟩ := exists_of_mem_zipIdx horders hi
  exact hyields.sound

/-- If the intents are good and the readers serve their families, it is enough that all questions
are answered. -/
theorem curable_of_sound (hc : r.complete? = some c) (hplan : c.plan = .ok (endpoint, intents))
    (hsound : ∀ i ∈ intents, i.Sound ∧ i.ServedBy source.family destination.family) :
    r.Curable source destination := by
  have hyields : ∀ i ∈ intents.zipIdx, ∃ o,
      i.1.Yields (source.answering.view i.2) (destination.answering.view i.2) endpoint o := by
    rintro ⟨i, k⟩ hi
    have hgood := hsound i (List.fst_mem_of_mem_zipIdx hi)
    obtain ⟨t, ht⟩ := AddressedIntent.exists_check_eq_ok.2 hgood
    rw [← source.family_view k, ← destination.family_view k] at ht
    exact AddressedIntent.exists_yields_answering endpoint ht
  obtain ⟨orders, horders⟩ := exists_forall₂ hyields
  refine ⟨source.answering, destination.answering, .batch (orders.map .order),
    source.sameChain_answering, destination.sameChain_answering, ?_⟩
  refine (compose_of_complete? hc).2 ⟨orders, ?_, rfl⟩
  rw [CompleteRequest.orders_of_plan hplan]
  exact buildOrders_eq_ok.2 horders

/-- The intents of a plan are served by the same readers. -/
theorem servedBy_of_plan (hplan : c.plan = .ok (endpoint, intents)) {i b : AddressedIntent}
    (hi : i ∈ intents) (hb : b ∈ intents) {s d : ChainFamily} (hserved : i.ServedBy s d) :
    b.ServedBy s d := by
  obtain ⟨_, _, hfamilies⟩ := CompleteRequest.families_of_plan hplan
  obtain ⟨hsource, hdestination⟩ := hserved
  refine ⟨?_, ?_⟩
  · rw [hsource, (hfamilies i hi).1, (hfamilies b hb).1]
  · rw [hdestination, (hfamilies i hi).2, (hfamilies b hb).2]

/-- No plan fails for want of an answer: it is made before any question is put. -/
theorem isRetryable_of_plan (h : c.plan = .error e) : e.isRetryable = false := by
  rw [CompleteRequest.plan] at h
  rcases bind_eq_error.1 h with hroute | ⟨route, -, h⟩
  · rw [Route.find] at hroute
    split at hroute
    · cases hroute
    · cases hroute
      rfl
  · rcases bind_eq_error.1 h with hchannel | ⟨endpoint, -, h⟩
    · obtain ⟨fault, -, rfl⟩ := mapError_eq_error.1 hchannel
      rfl
    · rcases bind_eq_error.1 h with haddresses | ⟨intents, -, h⟩
      · obtain ⟨i, -, hi⟩ := mapM_eq_error haddresses
        obtain ⟨address, -, rfl⟩ := mapError_eq_error.1 hi
        rfl
      · cases h

theorem exists_plan_of_unanswered (h : (c.orders source destination).1 = .error e)
    (he : e.isRetryable = true) :
    ∃ endpoint intents, c.plan = .ok (endpoint, intents) ∧
      (buildOrders source destination endpoint intents).1 = .error e := by
  rcases hplan : c.plan with e' | ⟨endpoint, intents⟩
  · rw [CompleteRequest.orders, hplan] at h
    cases h
    rw [isRetryable_of_plan hplan] at he
    cases he
  · rw [CompleteRequest.orders_of_plan hplan] at h
    exact ⟨endpoint, intents, rfl, h⟩

/-- When a request fails for want of an answer, the intent that was asked about and all before it
are good in themselves, and other answers would do if and only if those behind it are good as
well. -/
theorem curable_iff_of_unanswered {asked : List Question}
    (h : r.compose source destination = (.error e, asked)) (he : e.isRetryable = true) :
    ∃ c endpoint before i after, r.complete? = some c ∧
      c.plan = .ok (endpoint, before ++ i :: after) ∧
      i.build (source.view before.length) (destination.view before.length) endpoint =
        .error e ∧
      (∀ b ∈ before ++ [i], b.Sound) ∧
      (r.Curable source destination ↔ ∀ b ∈ after, b.Sound) := by
  obtain ⟨c, hc, horders⟩ := compose_eq_error.1 h
  obtain ⟨endpoint, intents, hplan, hbuild⟩ :=
    exists_plan_of_unanswered (congrArg Prod.fst horders) he
  obtain ⟨before, i, after, rfl, hchecked, hi⟩ := buildOrders_of_unanswered hbuild he
  have hpassed : ∀ b ∈ before ++ [i], b.Sound ∧ b.ServedBy source.family destination.family :=
    fun b hb => AddressedIntent.exists_check_eq_ok.1 (hchecked b hb)
  have hmem : i ∈ before ++ i :: after := List.mem_append_right _ List.mem_cons_self
  refine ⟨c, endpoint, before, i, after, hc, hplan, hi, fun b hb => (hpassed b hb).1, ?_, ?_⟩
  · intro hcurable b hb
    exact hcurable.sound hc hplan b (List.mem_append_right _ (List.mem_cons_of_mem _ hb))
  · intro hafter
    refine curable_of_sound hc hplan fun b hb => ⟨?_, ?_⟩
    · rw [List.append_cons, List.mem_append] at hb
      exact hb.elim (fun hb => (hpassed b hb).1) (hafter b)
    · -- The readers serve the intent that was asked about, and so they serve all of them.
      have hlast : i ∈ before ++ [i] := List.mem_append_right _ List.mem_cons_self
      exact servedBy_of_plan hplan hmem hb (hpassed i hlast).2

/-! ## Requests that are refused for good -/

variable {source' destination' : LiveReader}

/-- Where an intent is refused for itself, no readers of the same families get all orders built. The
failure stays the same, unless an answer about an intent before it fails. -/
theorem buildOrders_of_family {asked : List Question}
    (h : buildOrders source destination endpoint intents = (.error e, asked))
    (he : e.isRetryable = false) (hs : source'.family = source.family)
    (hd : destination'.family = destination.family) :
    ∃ e', (buildOrders source' destination' endpoint intents).1 = .error e' ∧
      (e' = e ∨ e'.isRetryable = true) := by
  obtain ⟨before, i, after, rfl, hbefore, hi, -⟩ := buildOrders_of_refused h he
  rw [← hs, ← hd] at hbefore hi
  have hrefused : ¬∃ t, i.check source'.family destination'.family = .ok t := by
    rintro ⟨t, ht⟩
    rw [hi] at ht
    cases ht
  rcases hbuild : buildOrders source' destination' endpoint (before ++ i :: after) with
    ⟨e' | orders, asked'⟩
  · refine ⟨e', rfl, ?_⟩
    cases hretry : e'.isRetryable with
    | true => exact .inr rfl
    | false =>
        -- Here too it is the first intent that does not pass.
        obtain ⟨before', i', after', hsplit, hbefore', hi', -⟩ :=
          buildOrders_of_refused hbuild hretry
        have hrefused' : ¬∃ t, i'.check source'.family destination'.family = .ok t := by
          rintro ⟨t, ht⟩
          rw [hi'] at ht
          cases ht
        obtain rfl := eq_of_first hsplit hbefore hrefused hbefore' hrefused'
        rw [hi] at hi'
        exact .inl (Except.error.inj hi').symm
  · have hall := buildOrders_eq_ok.1 (congrArg Prod.fst hbuild)
    obtain ⟨k, o, -, t, m, quote, ht, -⟩ :=
      exists_of_mem_zipIdx hall (List.mem_append_right _ List.mem_cons_self)
    rw [LiveReader.family_view, LiveReader.family_view] at ht
    exact absurd ⟨t, ht⟩ hrefused

/-- A request that fails for any other reason than an answer fails with all readers of the same two
families, whatever they know, whatever they answer, and however long it takes them: for the same
reason, or because an answer fails before that is found. -/
theorem final_of_refused (h : (r.compose source destination).1 = .error e)
    (he : e.isRetryable = false) (hs : source'.family = source.family)
    (hd : destination'.family = destination.family) :
    ∃ e', (r.compose source' destination').1 = .error e' ∧ (e' = e ∨ e'.isRetryable = true) := by
  obtain ⟨c, hc, horders⟩ := compose_eq_error.1 (Prod.ext h rfl)
  have hcompose {e' : OrderError} (he' : (c.orders source' destination').1 = .error e') :
      (r.compose source' destination').1 = .error e' :=
    congrArg Prod.fst (compose_eq_error.2 ⟨c, hc, Prod.ext he' rfl⟩)
  rcases hplan : c.plan with e' | ⟨endpoint, intents⟩
  · -- The plan is made without the readers.
    rw [CompleteRequest.orders, hplan] at horders
    obtain ⟨heq, -⟩ := Prod.mk.inj horders
    refine ⟨e, hcompose ?_, .inl rfl⟩
    rw [CompleteRequest.orders, hplan]
    exact heq
  · rw [CompleteRequest.orders_of_plan hplan] at horders
    obtain ⟨e', hbuild, heq⟩ := buildOrders_of_family horders he hs hd
    refine ⟨e', hcompose ?_, heq⟩
    rw [CompleteRequest.orders_of_plan hplan]
    exact hbuild

/-- With its second intent for nothing, the sample fails even when every question is answered. -/
theorem final_badSample :
    ∃ e', (badSample.compose sampleSource.answering sampleDestination.answering).1 = .error e' ∧
      (e' = .invalidAmount ∨ e'.isRetryable = true) :=
  final_of_refused (congrArg Prod.fst compose_badSample) rfl rfl rfl

/-! ## A sample of a failure that will not pass

The source knows no token, and the second intent is for nothing.
-/

def unawareSource : Reader := Simulation.ReaderTables.reader ⟨.evm, [], [], [], none, []⟩

theorem compose_badSample_unaware :
    badSample.compose unawareSource sampleDestination =
      (.error (.metadataResolution sampleIntent.baseToken
          (.of s!"token {sampleIntent.baseToken} not found")),
        [.metadata sampleIntent.baseToken]) := by
  have hcheck : sampleAddressed.check unawareSource.family sampleDestination.family =
      .ok sampleOrder.baseToken :=
    check_sampleAddressed (by decide : sampleIntent.baseAmount ≠ 0)
  refine compose_eq_error.2 ⟨_, badSample_complete?, ?_⟩
  rw [CompleteRequest.orders_of_plan plan_badSample]
  simp only [buildOrders, startOrders, Reader.view_live, AddressedIntent.start, hcheck]
  rfl

/-- The failure is reported as one that may pass, although the second intent is for nothing. -/
theorem badSample_not_curable : ¬ badSample.Curable unawareSource sampleDestination := by
  obtain ⟨c, endpoint, before, i, after, hc, hplan, -, hpassed, hiff⟩ :=
    curable_iff_of_unanswered compose_badSample_unaware rfl
  obtain rfl := Option.some.inj (hc.symm.trans badSample_complete?)
  rw [plan_badSample] at hplan
  obtain ⟨-, hsplit⟩ := Prod.mk.inj (Except.ok.inj hplan)
  -- The second intent stands behind the one that was asked about, since all before that are good.
  have hmem : { sampleAddressed with baseAmount := 0 } ∈ before ++ i :: after := by
    rw [← hsplit]
    exact List.mem_cons_of_mem _ List.mem_cons_self
  rw [List.append_cons, List.mem_append] at hmem
  intro hcurable
  rcases hmem with hmem | hmem
  · exact (hpassed _ hmem).1 rfl
  · exact (hiff.1 hcurable _ hmem).1 rfl

/-- A failure that is said to be one that may pass need not be one. -/
theorem not_forall_curable :
    ¬ ∀ (r : BatchRequest) (source destination : Reader) (e : OrderError) (asked : List Question),
      r.compose source destination = (.error e, asked) → e.isRetryable = true →
        r.Curable source destination := by
  intro h
  have hcurable := h badSample unawareSource sampleDestination _ _ compose_badSample_unaware rfl
  have hsound := hcurable.sound badSample_complete? plan_badSample
    { sampleAddressed with baseAmount := 0 } (List.mem_cons_of_mem _ List.mem_cons_self)
  exact hsound.1 rfl

end BatchRequest

end TokenBridge
