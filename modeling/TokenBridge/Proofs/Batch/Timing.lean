import TokenBridge.Proofs.Batch.Questions
import TokenBridge.Proofs.Order.Single

set_option autoImplicit false

/-! # Composing at once and one at a time

The orders of a request are built at once, with answers that come when they come. What is composed
is the same as if each order were built on its own, and when nothing is composed, the failure is one
that an order has on its own (`compose_eq_alone`). So it does not matter for a batch how long the
answers take.
-/

namespace TokenBridge

open Outcome

/-! ## Readers that differ in their delays -/

/-- The two readers answer the same, though not after the same time. -/
structure Reader.SameAnswers (r r' : Reader) : Prop where
  family : r'.family = r.family
  native? : r'.native? = r.native?
  metadata : r'.metadata = r.metadata
  quote : r'.quote = r.quote

theorem Simulation.ReaderTables.sameAnswers_delays (t : ReaderTables)
    (delays : List (String × Nat)) :
    t.reader.SameAnswers { t with delays := delays }.reader :=
  ⟨rfl, rfl, rfl, rfl⟩

section SameAnswers

variable {source source' destination destination' : Reader} {endpoint : Endpoint}
  {i : AddressedIntent} {o : Order}

theorem Reader.SameAnswers.resolve_eq (h : source.SameAnswers source') (token : String) :
    source'.resolve token = source.resolve token := by
  rw [Reader.resolve, Reader.resolve, h.native?, h.metadata]

theorem Reader.SameAnswers.predict_eq (h : destination.SameAnswers destination')
    (endpoint : Endpoint) (token : Bytes) :
    destination'.predict endpoint token = destination.predict endpoint token := by
  rw [Reader.predict, Reader.predict, h.quote]

/-- Which order an intent has does not depend on when the answers come. -/
theorem AddressedIntent.yields_of_sameAnswers (hs : source.SameAnswers source')
    (hd : destination.SameAnswers destination') :
    i.Yields source' destination' endpoint o ↔ i.Yields source destination endpoint o := by
  simp only [Yields, hs.family, hd.family, hs.resolve_eq, hd.predict_eq]

end SameAnswers

/-! ## Requests -/

namespace BatchRequest

variable {r : BatchRequest} {s d : ChainFamily} {channel : Channel} {bridge contract : String}
  {source destination : Reader} {c : CompleteRequest} {endpoint : Endpoint}
  {intents : List AddressedIntent}

theorem compose_of_plan (hc : r.complete? = some c) (hplan : c.plan = .ok (endpoint, intents)) :
    (r.compose source destination).1 =
      (buildOrders source destination endpoint intents).1.map
        fun os => some (.batch (os.map .order)) := by
  simp only [compose, hc, CompleteRequest.orders_of_plan hplan]

/-- The batch is made of the orders that the intents have on their own. -/
theorem compose_eq_some_iff_build {batch : Instruction} (hc : r.complete? = some c)
    (hplan : c.plan = .ok (endpoint, intents)) :
    (r.compose source destination).1 = .ok (some batch) ↔
      ∃ orders : List Order, batch = .batch (orders.map .order) ∧
        List.Forall₂ (fun a o => a.build source destination endpoint = .ok o) intents orders := by
  have hbuild {orders : List Order} :
      (buildOrders source destination endpoint intents).1 = .ok orders ↔
        List.Forall₂ (fun a o => a.build source destination endpoint = .ok o) intents orders := by
    simp only [buildOrders_eq_ok_iff_build, Reader.view_live]
    exact forall₂_zipIdx_left
      (R := fun (a : AddressedIntent) o => a.build source destination endpoint = .ok o)
  rw [compose_of_plan hc hplan, map_eq_ok]
  constructor
  · rintro ⟨orders, horders, heq⟩
    exact ⟨orders, (Option.some.inj heq).symm, hbuild.1 horders⟩
  · rintro ⟨orders, rfl, horders⟩
    exact ⟨orders, hbuild.2 horders, rfl⟩

/-- There is a batch, or the failure of one of the intents on its own, and nothing else. -/
theorem compose_cases (hc : r.complete? = some c) (hplan : c.plan = .ok (endpoint, intents)) :
    (∃ batch, (r.compose source destination).1 = .ok (some batch)) ∨
      ∃ e, (r.compose source destination).1 = .error e ∧
        ∃ a ∈ intents, a.build source destination endpoint = .error e := by
  rw [compose_of_plan hc hplan]
  cases hbuild : (buildOrders source destination endpoint intents).1 with
  | ok orders => exact .inl ⟨_, rfl⟩
  | error e =>
      obtain ⟨before, i, after, rfl, -, hi⟩ := exists_build_eq_error hbuild
      exact .inr ⟨e, rfl, i, List.mem_append_right _ List.mem_cons_self, hi⟩

theorem compose_of_sameAnswers {source' destination' : Reader} {batch : Instruction}
    (hs : source.SameAnswers source') (hd : destination.SameAnswers destination')
    (hc : r.complete? = some c) (hplan : c.plan = .ok (endpoint, intents)) :
    (r.compose source' destination').1 = .ok (some batch) ↔
      (r.compose source destination).1 = .ok (some batch) := by
  rw [compose_eq_some_iff_build hc hplan, compose_eq_some_iff_build hc hplan]
  simp only [AddressedIntent.build_eq_ok, AddressedIntent.yields_of_sameAnswers hs hd]

/-- A request with all its parts, between families that a route joins, over a channel that ends at a
contract, for intents whose addresses can be read: whatever the simulated chains answer and however
long they take, a batch is composed if and only if each order can be built on its own, and it is
these orders in their order; otherwise the failure is one that an order has on its own. With other
delays the same batch is composed, or none as well. -/
theorem compose_eq_alone {route : Route} {source destination : Simulation.ReaderTables}
    (hsource : r.source? = some s) (hdestination : r.destination? = some d)
    (hchannel : r.channel? = some channel) (hbridge : r.bridge? = some bridge)
    (hblank : bridge ≠ "") (hintents : r.intents ≠ []) (hroute : route ∈ Route.table)
    (hjoins : route.source.family = s ∧ route.destination.family = d)
    (hport : Port.contract d channel.destinationPort = .ok contract)
    (haddresses : List.Forall₂ (fun i a => i.address route.source route.destination = .ok a)
      (r.intents.take route.maxOrders) intents) :
    (∀ batch, (r.compose source.reader destination.reader).1 = .ok (some batch) ↔
      ∃ orders : List Order, batch = .batch (orders.map .order) ∧
        List.Forall₂ (fun a o => a.build source.reader destination.reader
          ⟨channel.destinationId, contract⟩ = .ok o) intents orders) ∧
    ((∃ batch, (r.compose source.reader destination.reader).1 = .ok (some batch)) ∨
      ∃ e, (r.compose source.reader destination.reader).1 = .error e ∧
        ∃ a ∈ intents, a.build source.reader destination.reader
          ⟨channel.destinationId, contract⟩ = .error e) ∧
    ∀ delays delays' batch,
      (r.compose { source with delays := delays }.reader
        { destination with delays := delays' }.reader).1 = .ok (some batch) ↔
      (r.compose source.reader destination.reader).1 = .ok (some batch) := by
  have hc := complete?_eq_some hsource hdestination hchannel hbridge hblank hintents
  have hplan : (CompleteRequest.mk s d channel r.intents).plan =
      .ok (⟨channel.destinationId, contract⟩, intents) :=
    CompleteRequest.plan_eq_ok.2
      ⟨route, Route.find_eq_ok.2 ⟨hroute, hjoins⟩, map_eq_ok.2 ⟨contract, hport, rfl⟩, haddresses⟩
  refine ⟨fun batch => compose_eq_some_iff_build hc hplan, compose_cases hc hplan, ?_⟩
  intro delays delays' batch
  exact compose_of_sameAnswers (source.sameAnswers_delays delays)
    (destination.sameAnswers_delays delays') hc hplan

/-! ## A sample

The source takes its time over the token of both intents.
-/

def slowSource : Simulation.ReaderTables :=
  ⟨.evm, [(sampleIntent.baseToken, ⟨"MOCK", "Mock ERC20", 18⟩)], [], [], none,
    [(sampleIntent.baseToken, 50)]⟩

def promptDestination : Simulation.ReaderTables :=
  ⟨.cosmos, [], [], [], some (Utf8.encode "union1q"), []⟩

theorem build_sampleAddressed {amount : Amount} (h : amount ≠ 0) :
    { sampleAddressed with baseAmount := amount }.build slowSource.reader promptDestination.reader
      ⟨2, sampleContract⟩ = .ok { sampleOrder with baseAmount := amount } :=
  AddressedIntent.build_eq_ok.2 ⟨_, _, _, check_sampleAddressed h, rfl, rfl, rfl⟩

theorem build_sampleIntents :
    List.Forall₂
      (fun a o => a.build slowSource.reader promptDestination.reader ⟨2, sampleContract⟩ = .ok o)
      [sampleAddressed, { sampleAddressed with baseAmount := 500 }] sampleOrders :=
  .cons (build_sampleAddressed (by decide)) (.cons (build_sampleAddressed (by decide)) .nil)

theorem address_sampleIntents :
    List.Forall₂ (fun i a => i.address sampleRoute.source sampleRoute.destination = .ok a)
      (sample.intents.take sampleRoute.maxOrders)
      [sampleAddressed, { sampleAddressed with baseAmount := 500 }] :=
  .cons (address_sampleIntent _) (.cons (address_sampleIntent 500) .nil)

theorem compose_slow_sample :
    (sample.compose slowSource.reader promptDestination.reader).1 =
      .ok (some (.batch (sampleOrders.map .order))) := by
  have hcomplete : sample.source? = some .evm ∧ sample.destination? = some .cosmos ∧
      sample.channel? = some sampleChannel := ⟨rfl, rfl, rfl⟩
  have hbridge : sample.bridge? = some "0xf39Fd6e51aad88F6F4ce6aB8827279cffFb92266" := rfl
  exact ((compose_eq_alone hcomplete.1 hcomplete.2.1 hcomplete.2.2 hbridge (by decide) (by decide)
    sampleRoute_mem ⟨rfl, rfl⟩ samplePort_contract address_sampleIntents).1 _).2
      ⟨sampleOrders, rfl, build_sampleIntents⟩

end BatchRequest

end TokenBridge
