import TokenBridge.Proofs.Batch.Timing
import TokenBridge.Proofs.Simulation.Composing

set_option autoImplicit false

/-! # What is read for a batch

While a batch is composed, the metadata of a token is read from the source and its counterpart from
the destination, each at most once for each intent that the route takes, in the order of the intents
and no further than the first failure; for a batch that comes out, once for each of its orders
(`reads_of_compose`). However often the orders are polled, nothing is read again.
-/

namespace TokenBridge

open Outcome

/-! ## The questions about intents -/

section

variable {source destination : Reader} {endpoint : Endpoint} {i : AddressedIntent}
  {intents read read' quoted quoted' : List AddressedIntent} {asked asked' : List Question}

/-- Metadata was asked for the tokens of some intents, as far as these are no native coins, and the
counterparts of the tokens of others, all of them good. -/
structure AskedFor (source destination : Reader) (endpoint : Endpoint)
    (read quoted : List AddressedIntent) (asked : List Question) : Prop where
  tokens : asked.filterMap Question.token? =
    (read.map AddressedIntent.baseToken).filter fun token => (source.native? token).isNone
  quotes : List.Forall₂
    (fun i q => i.check source.family destination.family = .ok q.2 ∧ q.1 = endpoint.channel)
    quoted (asked.filterMap Question.quoted?)

namespace AskedFor

theorem nil : AskedFor source destination endpoint [] [] [] := ⟨rfl, .nil⟩

theorem append (h : AskedFor source destination endpoint read quoted asked)
    (h' : AskedFor source destination endpoint read' quoted' asked') :
    AskedFor source destination endpoint (read ++ read') (quoted ++ quoted')
      (asked ++ asked') where
  tokens := by rw [List.filterMap_append, h.tokens, h'.tokens, List.map_append, List.filter_append]
  quotes := by
    rw [List.filterMap_append]
    exact List.rel_append h.quotes h'.quotes

theorem resolve : AskedFor source destination endpoint [i] []
    (source.resolveQuestions i.baseToken) := by
  rw [Reader.resolveQuestions]
  cases hnative : source.native? i.baseToken with
  | none => exact ⟨by simp [Question.token?, hnative], .nil⟩
  | some m => exact ⟨by simp [hnative], .nil⟩

theorem quote {baseToken : Bytes}
    (h : i.check source.family destination.family = .ok baseToken) :
    AskedFor source destination endpoint [] [i] [.quote endpoint.channel baseToken] :=
  ⟨rfl, .cons ⟨h, rfl⟩ .nil⟩

end AskedFor

/-- For one intent nothing is asked, or its metadata, or its metadata and its counterpart; and both
if its order is started. -/
theorem AddressedIntent.askedFor_start (i : AddressedIntent) (source destination : Reader)
    (endpoint : Endpoint) : ∃ read quoted,
      AskedFor source destination endpoint read quoted (i.start source destination endpoint).2 ∧
        quoted <+: read ∧ read <+: [i] ∧
        ((∃ p, (i.start source destination endpoint).1 = .ok p) → quoted = [i]) := by
  rw [start]
  cases hcheck : i.check source.family destination.family with
  | error e =>
      refine ⟨[], [], .nil, List.prefix_rfl, List.nil_prefix, ?_⟩
      rintro ⟨_, ⟨⟩⟩
  | ok baseToken =>
      dsimp only
      split
      · refine ⟨[i], [], .resolve, List.nil_prefix, List.prefix_rfl, ?_⟩
        rintro ⟨_, ⟨⟩⟩
      · have hboth : AskedFor source destination endpoint [i] [i]
            (source.resolveQuestions i.baseToken ++ [.quote endpoint.channel baseToken]) :=
          AskedFor.resolve.append (.quote hcheck)
        split <;> exact ⟨[i], [i], hboth, List.prefix_rfl, List.prefix_rfl, fun _ => rfl⟩

/-- Questions are put about intents in their order, and about all if all orders are started. -/
theorem askedFor_startOrders (source destination : Reader) (endpoint : Endpoint) (k : Nat)
    (intents : List AddressedIntent) : ∃ read quoted,
      AskedFor source destination endpoint read quoted
        (startOrders source destination endpoint k intents).2 ∧
      quoted <+: read ∧ read <+: intents ∧
      ((∃ started, (startOrders source destination endpoint k intents).1 = .ok started) →
        quoted = intents) := by
  induction intents generalizing k with
  | nil => exact ⟨[], [], .nil, List.prefix_rfl, List.prefix_rfl, fun _ => rfl⟩
  | cons i rest ih =>
      obtain ⟨read, quoted, hasked, hquoted, hread, hstarted⟩ :=
        i.askedFor_start source destination endpoint
      rw [startOrders, Reader.view_live, Reader.view_live]
      rcases hstart : i.start source destination endpoint with ⟨e | p, asked⟩
      · rw [hstart] at hasked
        refine ⟨read, quoted, hasked, hquoted, hread.trans ⟨rest, rfl⟩, ?_⟩
        rintro ⟨_, ⟨⟩⟩
      · rw [hstart] at hasked hstarted
        -- The first order has been started, so everything has been asked about its intent.
        obtain rfl := hstarted ⟨p, rfl⟩
        obtain rfl : read = [i] := hread.eq_of_length_le hquoted.length_le
        obtain ⟨read', quoted', hasked', hquoted', hread', hstarted'⟩ := ih (k + 1)
        refine ⟨i :: read', i :: quoted', hasked.append hasked', ?_, ?_, ?_⟩
        · exact List.cons_prefix_cons.2 ⟨rfl, hquoted'⟩
        · exact List.cons_prefix_cons.2 ⟨rfl, hread'⟩
        · rintro ⟨started, h⟩
          obtain ⟨others, hothers, -⟩ := map_eq_ok.1 h
          rw [hstarted' ⟨others, hothers⟩]

end

namespace BatchRequest

open Simulation (Readers)

variable {r : BatchRequest} {c : CompleteRequest} {endpoint : Endpoint}
  {intents read quoted : List AddressedIntent} {asked : List Question}

/-! ## The readers afterwards -/

/-- The intents that are considered: as many as the route of a complete request takes. -/
def considered (r : BatchRequest) : List Intent :=
  match r.complete? with
  | none => []
  | some c =>
      match Route.find c.source c.destination with
      | .error _ => []
      | .ok route => c.intents.take route.maxOrders

/-- What is to be predicted for an intent: the counterpart of its token in canonical form, at the
destination end of the channel. Nothing is predicted for an intent that is for nothing. -/
def Predicts (r : BatchRequest) (i : Intent) (prediction : UInt32 × Bytes) : Prop :=
  i.baseAmount ≠ 0 ∧ (∃ channel, r.channel? = some channel ∧ prediction.1 = channel.destinationId) ∧
    ∃ family, r.source? = some family ∧ Token.canonical family i.baseToken = .ok prediction.2

/-- What has come to the readers: at the source a call for each intent in `read` whose token is no
native coin; at the destination a prediction for each intent in `quoted`, in their order; and
nothing else. -/
structure Reads (r : BatchRequest) (w w' : Readers) (read quoted : List Intent) : Prop where
  sourceCalls : w'.source.calls =
    w.source.calls + read.countP fun i => i.baseToken ∉ w.source.tables.native
  sourcePredictions : w'.source.predictions = w.source.predictions
  destinationCalls : w'.destination.calls = w.destination.calls + quoted.length
  destinationPredictions : ∃ new, w'.destination.predictions = w.destination.predictions ++ new ∧
    List.Forall₂ r.Predicts quoted new

theorem reads_nil (r : BatchRequest) (w : Readers) : r.Reads w w [] [] :=
  ⟨rfl, rfl, rfl, [], (List.append_nil _).symm, .nil⟩

theorem parts_of_complete? (h : r.complete? = some c) :
    r.source? = some c.source ∧ r.channel? = some c.channel ∧ r.intents = c.intents := by
  rw [complete?] at h
  split at h
  · next hsource _ hchannel _ =>
      split at h
      · cases h
      · cases h
        exact ⟨hsource, hchannel, rfl⟩
  · cases h

theorem countP_map_isNone (native : List String) (read : List Intent) :
    ((read.map Intent.baseToken).filter fun token => (nativeAmong native token).isNone).length =
      read.countP fun i => i.baseToken ∉ native := by
  rw [← List.countP_eq_length_filter, List.countP_map]
  refine List.countP_congr fun i _ => ?_
  simp only [Function.comp_apply, nativeAmong]
  split <;> simp_all

/-- Where questions are put about addressed intents, the readers hear of the intents as they were
given. -/
theorem reads_of_askedFor (w : Readers) (hc : r.complete? = some c)
    (hplan : c.plan = .ok (endpoint, intents)) (hread : read <+: intents)
    (hquoted : quoted <+: read)
    (hasked : AskedFor w.source.reader w.destination.reader endpoint read quoted asked) :
    ∃ given givenQuoted, givenQuoted <+: given ∧ given <+: r.considered ∧
      given.length = read.length ∧ givenQuoted.length = quoted.length ∧
      r.Reads w (w.hearAll asked) given givenQuoted := by
  obtain ⟨route, hroute, hendpoint, haddressed⟩ := CompleteRequest.plan_eq_ok.1 hplan
  obtain ⟨hsource, hchannel, -⟩ := parts_of_complete? hc
  obtain ⟨contract, -, rfl⟩ := map_eq_ok.1 hendpoint
  have hconsidered : r.considered = c.intents.take route.maxOrders := by
    simp only [considered, hc, hroute]
  obtain ⟨given, hgiven, hgivenRead⟩ := exists_prefix_of_forall₂ haddressed hread
  obtain ⟨givenQuoted, hbegin, hgivenQuoted⟩ := exists_prefix_of_forall₂ hgivenRead hquoted
  refine ⟨given, givenQuoted, hbegin, hconsidered ▸ hgiven, hgivenRead.length_eq,
    hgivenQuoted.length_eq, ?_⟩
  rw [w.hearAll_eq]
  refine ⟨?_, rfl, ?_, _, rfl, ?_⟩
  · -- Addressing an intent does not change its token.
    have htokens : read.map AddressedIntent.baseToken = given.map Intent.baseToken := by
      rw [← List.forall₂_eq_eq_eq, List.forall₂_map_left_iff, List.forall₂_map_right_iff]
      refine hgivenRead.flip.imp fun a i h => ?_
      obtain ⟨_, _, -, -, rfl⟩ := Intent.address_eq_ok.1 h
      rfl
    rw [hasked.tokens, htokens, ← countP_map_isNone]
    rfl
  · rw [← hasked.quotes.length_eq, hgivenQuoted.length_eq]
  · refine (exists_forall₂_and.1 ⟨quoted, hgivenQuoted, hasked.quotes⟩).imp ?_
    rintro i prediction ⟨a, ha, hcheck, hend⟩
    obtain ⟨sender, receiver, hsender, -, rfl⟩ := Intent.address_eq_ok.1 ha
    obtain ⟨hpositive, -, -, htoken⟩ := AddressedIntent.check_eq_ok.1 hcheck
    rw [Address.family_of_parse hsender, (Route.find_eq_ok.1 hroute).2.1] at htoken
    exact ⟨hpositive, ⟨_, hchannel, hend⟩, _, hsource, htoken⟩

theorem considered_prefix (r : BatchRequest) : r.considered <+: r.intents := by
  rw [considered]
  split
  · exact List.nil_prefix
  · next c hc =>
      rw [(parts_of_complete? hc).2.2]
      split
      · exact List.nil_prefix
      · exact List.take_prefix _ _

/-- Whatever comes of a request, what is read is read from the right side and once: metadata from
the source and counterparts from the destination, for the first of the intents that are considered.
If a batch comes out, both are read for as many intents as the batch has orders. -/
theorem reads_of_compose (w : Readers) (r : BatchRequest) :
    (w.compose r).1 = some (r.compose w.source.reader w.destination.reader).1 ∧
      ∃ read quoted, quoted <+: read ∧ read <+: r.considered ∧
        r.Reads w (w.compose r).2 read quoted ∧
        ∀ batch, (w.compose r).1 = some (.ok (some batch)) → ∃ orders : List Order,
          batch = .batch (orders.map .order) ∧ read = r.intents.take orders.length ∧
            quoted = read ∧ read.length = orders.length := by
  rw [w.compose_eq r]
  refine ⟨rfl, ?_⟩
  simp only [Option.some.injEq]
  cases hc : r.complete? with
  | none =>
      rw [compose, hc]
      refine ⟨[], [], List.nil_prefix, List.nil_prefix, r.reads_nil w, ?_⟩
      rintro _ ⟨⟩
  | some c =>
      rcases hplan : c.plan with e | ⟨endpoint, intents⟩
      · have hcompose : r.compose w.source.reader w.destination.reader = (.error e, []) :=
          compose_eq_error.2 ⟨c, hc, by rw [CompleteRequest.orders, hplan]⟩
        rw [hcompose]
        refine ⟨[], [], List.nil_prefix, List.nil_prefix, r.reads_nil w, ?_⟩
        rintro _ ⟨⟩
      · have hasked : (r.compose w.source.reader w.destination.reader).2 =
            (startOrders w.source.reader w.destination.reader endpoint 0 intents).2 := by
          simp only [compose, hc, CompleteRequest.orders_of_plan hplan]
          rfl
        obtain ⟨read, quoted, haskedFor, hquoted, hread, hstarted⟩ :=
          askedFor_startOrders w.source.reader w.destination.reader endpoint 0 intents
        obtain ⟨given, givenQuoted, hbegin, hgiven, hlength, hlengthQuoted, hreads⟩ :=
          reads_of_askedFor w hc hplan hread hquoted haskedFor
        rw [hasked]
        refine ⟨given, givenQuoted, hbegin, hgiven, hreads, fun batch hbatch => ?_⟩
        obtain ⟨orders, horders, rfl⟩ := (compose_of_complete? hc).1 hbatch
        rw [CompleteRequest.orders_of_plan hplan] at horders
        -- All orders have been started, so everything has been read for all of the intents.
        obtain ⟨started, hstart, -⟩ := bind_eq_ok.1 horders
        obtain rfl := hstarted ⟨started, hstart⟩
        have hcount := (List.length_zipIdx ..).symm.trans (buildOrders_eq_ok.1 horders).length_eq
        have hall : read.length = quoted.length :=
          Nat.le_antisymm hread.length_le hquoted.length_le
        have hgivenLength : given.length = orders.length := hlength.trans (hall.trans hcount)
        refine ⟨orders, rfl, ?_, ?_, hgivenLength⟩
        · rw [← hgivenLength]
          exact List.prefix_iff_eq_take.1 (hgiven.trans r.considered_prefix)
        · have hlengths := hlength.trans (hall.trans hlengthQuoted.symm)
          exact hbegin.eq_of_length_le (Nat.le_of_eq hlengths)

/-! ### A sample

Both readers have been asked before, and the source takes its time.
-/

def sampleReaders : Readers :=
  ⟨⟨slowSource, 3, []⟩, ⟨promptDestination, 1, [(7, [9])]⟩⟩

theorem compose_sampleReaders :
    (sample.compose sampleReaders.source.reader sampleReaders.destination.reader).1 =
      .ok (some (.batch (sampleOrders.map .order))) := by
  have hc : sample.complete? = some ⟨.evm, .cosmos, sampleChannel, sample.intents⟩ :=
    complete?_eq_some rfl rfl rfl rfl (by decide) (by decide)
  have hplan : (CompleteRequest.mk .evm .cosmos sampleChannel sample.intents).plan =
      .ok (⟨2, sampleContract⟩, _) :=
    CompleteRequest.plan_eq_ok.2
      ⟨sampleRoute, rfl, map_eq_ok.2 ⟨_, samplePort_contract, rfl⟩, address_sampleIntents⟩
  exact (compose_eq_some_iff_build hc hplan).2 ⟨sampleOrders, rfl, build_sampleIntents⟩

theorem eq_of_predicts_sample {i : Intent} {prediction : UInt32 × Bytes}
    (h : sample.Predicts i prediction) (hi : i.baseToken = sampleIntent.baseToken) :
    prediction = (2, sampleOrder.baseToken) := by
  obtain ⟨-, ⟨channel, hchannel, hend⟩, family, hfamily, htoken⟩ := h
  cases hchannel
  cases hfamily
  rw [hi, sampleToken_canonical] at htoken
  exact Prod.ext hend (Except.ok.inj htoken).symm

theorem reads_of_sample :
    (sampleReaders.compose sample).1 = some (.ok (some (.batch (sampleOrders.map .order)))) ∧
      (sampleReaders.compose sample).2.source.calls = 5 ∧
      (sampleReaders.compose sample).2.source.predictions = [] ∧
      (sampleReaders.compose sample).2.destination.calls = 3 ∧
      (sampleReaders.compose sample).2.destination.predictions =
        [(7, [9]), (2, sampleOrder.baseToken), (2, sampleOrder.baseToken)] := by
  obtain ⟨hresult, read, quoted, -, -, hreads, hbatch⟩ := reads_of_compose sampleReaders sample
  have hcomposed := hresult.trans (congrArg some compose_sampleReaders)
  obtain ⟨orders, horders, hread, rfl, -⟩ := hbatch _ hcomposed
  have hcount : orders.length = 2 := by
    have hlength := congrArg List.length (Instruction.batch.inj horders)
    rw [List.length_map, List.length_map] at hlength
    exact hlength.symm
  obtain rfl : quoted = [sampleIntent, { sampleIntent with baseAmount := 500 }] := by
    rw [hread, hcount]
    rfl
  obtain ⟨new, hnew, hpredicts⟩ := hreads.destinationPredictions
  obtain ⟨first, _, hfirst, hrest, rfl⟩ := List.forall₂_cons_left_iff.1 hpredicts
  obtain ⟨second, _, hsecond, hend, rfl⟩ := List.forall₂_cons_left_iff.1 hrest
  obtain rfl := List.forall₂_nil_left_iff.1 hend
  rw [eq_of_predicts_sample hfirst rfl, eq_of_predicts_sample hsecond rfl] at hnew
  exact ⟨hcomposed, hreads.sourceCalls, hreads.sourcePredictions, hreads.destinationCalls, hnew⟩

end BatchRequest

end TokenBridge
