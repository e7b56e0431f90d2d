import TokenBridge.Batch
import TokenBridge.Proofs.Order.Build
import TokenBridge.Simulation.Reader

set_option autoImplicit false

/-! # What composing comes to

A batch is composed if and only if the request can be served and each of its intents, as many as the
route takes, has the order that the readers' answers make of it (`compose_eq_some`). Where a reader
answers about each intent in its own way, these are its answers about the place of the intent
(`orders_eq_ok_iff_fulfilledBy`).
-/

namespace TokenBridge

open Outcome

/-! ## Intents and their addresses -/

namespace Address

variable {kind : Kind} {text : String} {a : Address}

theorem family_of_parse (h : parse kind text = .ok a) : a.family = kind.family := by
  cases kind with
  | evm =>
      obtain ⟨b, -, rfl⟩ := map_eq_ok.1 (mapError_eq_ok.1 h)
      rfl
  | cosmos =>
      obtain ⟨b, -, rfl⟩ := map_eq_ok.1 (mapError_eq_ok.1 h)
      rfl

end Address

namespace Intent

variable {route : Route} {source destination : Reader} {endpoint : Endpoint} {i : Intent}
  {a : AddressedIntent} {o : Order}

theorem address_eq_ok {s d : Address.Kind} :
    i.address s d = .ok a ↔
      ∃ sender receiver, Address.parse s i.sender = .ok sender ∧
        Address.parse d i.receiver = .ok receiver ∧
        a = ⟨sender, receiver, i.baseToken, i.baseAmount, i.quoteAmount⟩ := by
  simp only [address, readAddress, bind_eq_ok, mapError_eq_ok]
  constructor
  · rintro ⟨sender, hsender, receiver, hreceiver, h⟩
    exact ⟨sender, receiver, hsender, hreceiver, (Except.ok.inj h).symm⟩
  · rintro ⟨sender, receiver, hsender, hreceiver, rfl⟩
    exact ⟨sender, hsender, receiver, hreceiver, rfl⟩

/-- The order does what the intent wants: it says what the intent says, and about the token what the
two readers answer. -/
structure FulfilledBy (route : Route) (source destination : Reader) (endpoint : Endpoint)
    (i : Intent) (o : Order) : Prop where
  sender : ∃ a, Address.parse route.source i.sender = .ok a ∧ o.sender = a.wire
  receiver : ∃ a, Address.parse route.destination i.receiver = .ok a ∧ o.receiver = a.wire
  positive : i.baseAmount ≠ 0
  baseAmount : o.baseAmount = i.baseAmount
  quoteAmount : o.quoteAmount = i.quoteAmount
  baseToken : Token.canonical route.source.family i.baseToken = .ok o.baseToken
  metadata : source.native? i.baseToken = some ⟨o.symbol, o.name, o.decimals⟩ ∨
    source.native? i.baseToken = none ∧
      source.metadata i.baseToken = .ok ⟨o.symbol, o.name, o.decimals⟩
  path : o.path = 0
  quoteToken : destination.quote endpoint o.baseToken = .ok o.quoteToken

/-- An order can be built from an intent when the readers serve the families of the route, and it is
the one that fulfils the intent. -/
theorem fulfilledBy_iff :
    (∃ a, i.address route.source route.destination = .ok a ∧
        a.Yields source destination endpoint o) ↔
      (source.family = route.source.family ∧ destination.family = route.destination.family) ∧
        i.FulfilledBy route source destination endpoint o := by
  simp only [address_eq_ok, AddressedIntent.Yields, AddressedIntent.check_eq_ok,
    Reader.resolve_eq_ok, Reader.predict_eq_ok]
  constructor
  · rintro ⟨_, ⟨sender, receiver, hsender, hreceiver, rfl⟩, token, m, quote,
      ⟨hpositive, hsource, hdestination, htoken⟩, hm, hquote, rfl⟩
    rw [Address.family_of_parse hsender] at hsource htoken
    rw [Address.family_of_parse hreceiver] at hdestination
    exact ⟨⟨hsource, hdestination⟩, {
      sender := ⟨sender, hsender, rfl⟩
      receiver := ⟨receiver, hreceiver, rfl⟩
      positive := hpositive
      baseAmount := rfl
      quoteAmount := rfl
      baseToken := htoken
      metadata := hm
      path := rfl
      quoteToken := hquote }⟩
  · rintro ⟨⟨hsource, hdestination⟩, h⟩
    obtain ⟨sender, hsender, hwireSender⟩ := h.sender
    obtain ⟨receiver, hreceiver, hwireReceiver⟩ := h.receiver
    refine ⟨_, ⟨sender, receiver, hsender, hreceiver, rfl⟩, o.baseToken,
      ⟨o.symbol, o.name, o.decimals⟩, o.quoteToken, ⟨h.positive, ?_, ?_, ?_⟩, h.metadata,
      h.quoteToken, ?_⟩
    · exact hsource.trans (Address.family_of_parse hsender).symm
    · exact hdestination.trans (Address.family_of_parse hreceiver).symm
    · rw [Address.family_of_parse hsender]
      exact h.baseToken
    · rw [AddressedIntent.order, ← hwireSender, ← hwireReceiver, ← h.baseAmount, ← h.quoteAmount,
        ← h.path]

end Intent

/-! ## Routes -/

namespace Route

variable {route : Route} {s d : ChainFamily}

theorem find_eq_ok :
    find s d = .ok route ↔
      route ∈ table ∧ route.source.family = s ∧ route.destination.family = d := by
  constructor
  · intro h
    rw [find] at h
    split at h
    · next hfound =>
        cases h
        have hjoins := List.find?_some hfound
        rw [joins, Bool.and_eq_true, decide_eq_true_iff, decide_eq_true_iff] at hjoins
        exact ⟨List.mem_of_find?_eq_some hfound, hjoins⟩
    · cases h
  · -- No two routes join the same families.
    rintro ⟨hmem, rfl, rfl⟩
    simp only [table, List.mem_cons, List.not_mem_nil, or_false] at hmem
    rcases hmem with rfl | rfl | rfl | rfl <;> rfl

theorem maxOrders_pos (h : route ∈ table) : 0 < route.maxOrders := by
  revert route
  decide

/-- No batch has more than two orders, and from a Cosmos chain a batch has one. -/
theorem maxOrders_le (h : route ∈ table) :
    route.maxOrders ≤ if route.source.family = .cosmos then 1 else 2 := by
  revert route
  decide

theorem take_ne_nil (h : route ∈ table) {intents : List Intent} (hintents : intents ≠ []) :
    intents.take route.maxOrders ≠ [] := by
  rw [ne_eq, List.take_eq_nil_iff, not_or]
  exact ⟨Nat.ne_of_gt (maxOrders_pos h), hintents⟩

end Route

/-! ## Requests -/

namespace CompleteRequest

variable {r : CompleteRequest} {endpoint : Endpoint} {intents : List AddressedIntent}

theorem plan_eq_ok :
    r.plan = .ok (endpoint, intents) ↔
      ∃ route, Route.find r.source r.destination = .ok route ∧
        r.channel.destination r.destination = .ok endpoint ∧
        List.Forall₂ (fun i a => i.address route.source route.destination = .ok a)
          (r.intents.take route.maxOrders) intents := by
  simp only [plan, bind_eq_ok, mapError_eq_ok, mapM_eq_ok]
  constructor
  · rintro ⟨route, hroute, e, he, as, has, h⟩
    cases h
    exact ⟨route, hroute, he, has⟩
  · rintro ⟨route, hroute, he, has⟩
    exact ⟨route, hroute, endpoint, he, intents, has, rfl⟩

variable {source destination : LiveReader} {orders : List Order}

theorem orders_eq_ok :
    (r.orders source destination).1 = .ok orders ↔
      ∃ endpoint intents, r.plan = .ok (endpoint, intents) ∧
        List.Forall₂
          (fun a o => a.1.Yields (source.view a.2) (destination.view a.2) endpoint o)
          intents.zipIdx orders := by
  rw [CompleteRequest.orders]
  cases hplan : r.plan with
  | error e => simp
  | ok p =>
      obtain ⟨endpoint, intents⟩ := p
      simp [buildOrders_eq_ok]

/-- The orders of a request come out if and only if its families are joined by a route, its channel
ends at a contract, the readers serve the families, and the orders fulfil the intents that the route
takes, with what the readers answer about the place of each intent. -/
theorem orders_eq_ok_iff_fulfilledBy (hintents : r.intents ≠ []) :
    (r.orders source destination).1 = .ok orders ↔
      ∃ route ∈ Route.table,
        (route.source.family = r.source ∧ route.destination.family = r.destination) ∧
        (source.family = r.source ∧ destination.family = r.destination) ∧
        ∃ contract, Port.contract r.destination r.channel.destinationPort = .ok contract ∧
          List.Forall₂
            (fun i o => i.1.FulfilledBy route (source.view i.2) (destination.view i.2)
              ⟨r.channel.destinationId, contract⟩ o)
            (r.intents.take route.maxOrders).zipIdx orders := by
  have hne {route : Route} (hroute : route ∈ Route.table) :
      (r.intents.take route.maxOrders).zipIdx ≠ [] := by
    rw [ne_eq, List.zipIdx_eq_nil_iff]
    exact Route.take_ne_nil hroute hintents
  -- The families of the readers are the same at all places.
  have hplace {route : Route} {endpoint : Endpoint} (i : Intent × Nat) (o : Order) :
      (∃ a, i.1.address route.source route.destination = .ok a ∧
          a.Yields (source.view i.2) (destination.view i.2) endpoint o) ↔
        (source.family = route.source.family ∧ destination.family = route.destination.family) ∧
          i.1.FulfilledBy route (source.view i.2) (destination.view i.2) endpoint o := by
    rw [Intent.fulfilledBy_iff, LiveReader.family_view, LiveReader.family_view]
  simp only [orders_eq_ok, plan_eq_ok, Route.find_eq_ok]
  constructor
  · rintro ⟨endpoint, intents, ⟨route, ⟨hroute, hjoins⟩, hend, haddressed⟩, hyields⟩
    obtain ⟨contract, hcontract, rfl⟩ := map_eq_ok.1 hend
    have hall := exists_forall₂_zipIdx.1 ⟨intents, haddressed, hyields⟩
    simp only [hplace, hjoins] at hall
    obtain ⟨hfamilies, hall⟩ := (forall₂_const_and (hne hroute)).1 hall
    exact ⟨route, hroute, hjoins, hfamilies, contract, hcontract, hall⟩
  · rintro ⟨route, hroute, hjoins, hfamilies, contract, hcontract, hall⟩
    have hall := (forall₂_const_and (hne hroute)).2 ⟨hfamilies, hall⟩
    rw [← hjoins.1, ← hjoins.2] at hall
    simp only [← hplace] at hall
    obtain ⟨intents, haddressed, hyields⟩ := (exists_forall₂_zipIdx
      (R := fun (i : Intent) a => i.address route.source route.destination = .ok a)
      (T := fun (a : AddressedIntent × Nat) o =>
        a.1.Yields (source.view a.2) (destination.view a.2) ⟨r.channel.destinationId, contract⟩ o)
      (k := 0)).2 hall
    have hend : r.channel.destination r.destination = .ok ⟨r.channel.destinationId, contract⟩ :=
      map_eq_ok.2 ⟨contract, hcontract, rfl⟩
    exact ⟨_, intents, ⟨route, ⟨hroute, hjoins⟩, hend, haddressed⟩, hyields⟩

/-- Readers that never change their minds answer the same at all places. -/
theorem orders_eq_ok_iff_of_live {source destination : Reader} (hintents : r.intents ≠ []) :
    (r.orders source destination).1 = .ok orders ↔
      ∃ route ∈ Route.table,
        (route.source.family = r.source ∧ route.destination.family = r.destination) ∧
        (source.family = r.source ∧ destination.family = r.destination) ∧
        ∃ contract, Port.contract r.destination r.channel.destinationPort = .ok contract ∧
          List.Forall₂
            (Intent.FulfilledBy route source destination ⟨r.channel.destinationId, contract⟩)
            (r.intents.take route.maxOrders) orders := by
  have hplace {route : Route} {endpoint : Endpoint} {intents : List Intent} :
      List.Forall₂ (fun i o => i.1.FulfilledBy route source destination endpoint o) intents.zipIdx
        orders ↔ List.Forall₂ (Intent.FulfilledBy route source destination endpoint) intents
          orders :=
    forall₂_zipIdx_left
  simp only [orders_eq_ok_iff_fulfilledBy hintents, Reader.family_live, Reader.view_live, hplace]

end CompleteRequest

namespace BatchRequest

section LiveReaders

variable {r : BatchRequest} {s d : ChainFamily} {channel : Channel} {bridge : String}
  {source destination : LiveReader} {batch : Instruction}

theorem complete?_eq_some (hsource : r.source? = some s) (hdestination : r.destination? = some d)
    (hchannel : r.channel? = some channel) (hbridge : r.bridge? = some bridge)
    (hblank : bridge ≠ "") (hintents : r.intents ≠ []) :
    r.complete? = some ⟨s, d, channel, r.intents⟩ := by
  have h : ¬ (bridge.isEmpty = true ∨ r.intents.isEmpty = true) := by
    rw [String.isEmpty_iff, List.isEmpty_iff]
    exact fun h => h.elim hblank hintents
  simp only [complete?, hsource, hdestination, hchannel, hbridge, if_neg h]

theorem of_complete?_eq_some {c : CompleteRequest} (h : r.complete? = some c) :
    r.source? = some c.source ∧ c.intents ≠ [] := by
  rw [complete?] at h
  split at h
  · next hsource _ _ _ =>
      split at h
      · cases h
      · next hparts =>
          cases h
          refine ⟨hsource, fun hnil => hparts (.inr ?_)⟩
          rw [List.isEmpty_iff]
          exact hnil
  · cases h

theorem compose_of_complete? {c : CompleteRequest} (h : r.complete? = some c) :
    (r.compose source destination).1 = .ok (some batch) ↔
      ∃ orders, (c.orders source destination).1 = .ok orders ∧
        batch = .batch (orders.map .order) := by
  have hcompose : (r.compose source destination).1 =
      (c.orders source destination).1.map fun os => some (.batch (os.map .order)) := by
    simp only [compose, h]
  rw [hcompose, map_eq_ok]
  simp only [Option.some.injEq, eq_comm]

/-- What is composed is a batch of orders, none of which stands deeper. -/
theorem exists_orders_of_compose (h : (r.compose source destination).1 = .ok (some batch)) :
    ∃ orders : List Order, batch = .batch (orders.map .order) := by
  cases hc : r.complete? with
  | none =>
      rw [compose, hc] at h
      cases h
  | some c =>
      obtain ⟨orders, -, hbatch⟩ := (compose_of_complete? hc).1 h
      exact ⟨orders, hbatch⟩

/-- The orders of a batch that was composed fulfil intents, on a route from the source of the
request and no more of them than that route takes. -/
theorem fulfilled_of_compose (hsource : r.source? = some s)
    (h : (r.compose source destination).1 = .ok (some batch)) :
    ∃ route ∈ Route.table, route.source.family = s ∧ ∃ endpoint intents orders,
      batch = .batch (orders.map .order) ∧ orders.length ≤ route.maxOrders ∧
      List.Forall₂
        (fun (i : Intent × Nat) o =>
          i.1.FulfilledBy route (source.view i.2) (destination.view i.2) endpoint o)
        (List.zipIdx intents) orders := by
  cases hc : r.complete? with
  | none =>
      rw [compose, hc] at h
      cases h
  | some c =>
      obtain ⟨orders, horders, rfl⟩ := (compose_of_complete? hc).1 h
      obtain ⟨hs, hintents⟩ := of_complete?_eq_some hc
      obtain rfl : c.source = s := Option.some.inj (hs.symm.trans hsource)
      obtain ⟨route, hroute, ⟨hfamily, -⟩, -, contract, -, hall⟩ :=
        (CompleteRequest.orders_eq_ok_iff_fulfilledBy hintents).1 horders
      refine ⟨route, hroute, hfamily, _, _, orders, rfl, ?_, hall⟩
      rw [← hall.length_eq, List.length_zipIdx, List.length_take]
      exact Nat.min_le_left _ _

end LiveReaders

variable {r : BatchRequest} {s d : ChainFamily} {channel : Channel} {bridge : String}
  {source destination : Reader} {batch : Instruction}

/-- Orders that fulfil the intents which the route takes make the batch. -/
theorem compose_of_fulfilledBy {route : Route} {contract : String} {orders : List Order}
    (hsource : r.source? = some route.source.family)
    (hdestination : r.destination? = some route.destination.family)
    (hchannel : r.channel? = some channel) (hbridge : r.bridge? = some bridge)
    (hblank : bridge ≠ "") (hintents : r.intents ≠ []) (hroute : route ∈ Route.table)
    (hfamilies : source.family = route.source.family ∧
      destination.family = route.destination.family)
    (hcontract : Port.contract route.destination.family channel.destinationPort = .ok contract)
    (horders : List.Forall₂
      (Intent.FulfilledBy route source destination ⟨channel.destinationId, contract⟩)
      (r.intents.take route.maxOrders) orders) :
    (r.compose source destination).1 = .ok (some (.batch (orders.map .order))) := by
  have hc := complete?_eq_some hsource hdestination hchannel hbridge hblank hintents
  refine (compose_of_complete? hc).2 ⟨orders, ?_, rfl⟩
  exact (CompleteRequest.orders_eq_ok_iff_of_live hintents).2
    ⟨route, hroute, ⟨rfl, rfl⟩, hfamilies, contract, hcontract, horders⟩

/-- Of a request with all its parts a batch is composed if and only if its families are joined by a
route, its channel ends at a contract, the readers serve the families, and each of the intents that
the route takes is fulfilled by an order. The batch is these orders. -/
theorem compose_eq_some (hsource : r.source? = some s) (hdestination : r.destination? = some d)
    (hchannel : r.channel? = some channel) (hbridge : r.bridge? = some bridge)
    (hblank : bridge ≠ "") (hintents : r.intents ≠ []) :
    (r.compose source destination).1 = .ok (some batch) ↔
      ∃ route ∈ Route.table, route.source.family = s ∧ route.destination.family = d ∧
        source.family = s ∧ destination.family = d ∧
        ∃ contract, Port.contract d channel.destinationPort = .ok contract ∧
          ∃ orders, batch = .batch (orders.map .order) ∧
            orders.length = min r.intents.length route.maxOrders ∧
            List.Forall₂
              (Intent.FulfilledBy route source destination ⟨channel.destinationId, contract⟩)
              (r.intents.take route.maxOrders) orders := by
  rw [compose_of_complete?
    (complete?_eq_some hsource hdestination hchannel hbridge hblank hintents)]
  simp only [CompleteRequest.orders_eq_ok_iff_of_live (r := ⟨s, d, channel, r.intents⟩) hintents]
  constructor
  · rintro ⟨orders, ⟨route, hroute, ⟨hs, hd⟩, ⟨hs', hd'⟩, contract, hcontract, hall⟩, rfl⟩
    refine ⟨route, hroute, hs, hd, hs', hd', contract, hcontract, orders, rfl, ?_, hall⟩
    rw [← hall.length_eq, List.length_take, Nat.min_comm]
  · rintro ⟨route, hroute, hs, hd, hs', hd', contract, hcontract, orders, rfl, -, hall⟩
    exact ⟨orders, ⟨route, hroute, ⟨hs, hd⟩, ⟨hs', hd'⟩, contract, hcontract, hall⟩, rfl⟩

/-! ## A sample

A request for three transfers on a route that takes two; the third intent could not be served.
-/

def sampleRoute : Route := ⟨.evm, .cosmos, 2⟩

def sampleIntent : Intent where
  sender := "0xf39Fd6e51aad88F6F4ce6aB8827279cffFb92266"
  receiver := "union1qypqxpq9qcrsszg2pvxq6rs0zqg3yyc544dkgd"
  baseToken := "0x5FbDB2315678afecb367f032d93F642f64180aa3"
  baseAmount := 1000
  quoteAmount := 990

def sampleContract : String := "union1qypqxpq9qcrsszg2pvxq6rs0zqg3yyc544dkgd"

def sampleChannel : Channel where
  sourceId := 1
  destinationId := 2
  sourcePort := "0xf39fd6e51aad88f6f4ce6ab8827279cfffb92266"
  destinationPort :=
    "0x756e696f6e31717970717870713971637273737a673270767871367273307a716733797963353434646b6764"

def sample : BatchRequest where
  source? := some .evm
  destination? := some .cosmos
  channel? := some sampleChannel
  bridge? := some "0xf39Fd6e51aad88F6F4ce6aB8827279cffFb92266"
  intents := [sampleIntent, { sampleIntent with baseAmount := 500 },
    { sampleIntent with receiver := "" }]

def sampleSource : Reader :=
  Simulation.ReaderTables.reader
    ⟨.evm, [(sampleIntent.baseToken, ⟨"MOCK", "Mock ERC20", 18⟩)], [], [], none, []⟩

def sampleDestination : Reader :=
  Simulation.ReaderTables.reader ⟨.cosmos, [], [], [], some (Utf8.encode "union1q"), []⟩

def sampleOrder : Order where
  sender := EvmAddress.toBytes 0xf39fd6e51aad88f6f4ce6ab8827279cfffb92266
  receiver := Utf8.encode sampleIntent.receiver
  baseToken := EvmAddress.toBytes 0x5fbdb2315678afecb367f032d93f642f64180aa3
  baseAmount := 1000
  symbol := "MOCK"
  name := "Mock ERC20"
  decimals := 18
  path := 0
  quoteToken := Utf8.encode "union1q"
  quoteAmount := 990

theorem sampleRoute_mem : sampleRoute ∈ Route.table := by decide

theorem samplePort_contract :
    Port.contract .cosmos sampleChannel.destinationPort = .ok sampleContract := by
  decide +kernel

theorem sampleSender_parse :
    Address.parse .evm sampleIntent.sender =
      .ok (.evm 0xf39fd6e51aad88f6f4ce6ab8827279cfffb92266) := by
  decide +kernel

theorem sampleReceiver_parse :
    Address.parse .cosmos sampleIntent.receiver =
      .ok (.cosmos ⟨sampleIntent.receiver, "union"⟩) := by
  decide +kernel

theorem sampleToken_canonical :
    Token.canonical .evm sampleIntent.baseToken = .ok sampleOrder.baseToken := by
  decide +kernel

theorem fulfilledBy_sampleOrder {amount : Amount} (h : amount ≠ 0) :
    Intent.FulfilledBy sampleRoute sampleSource sampleDestination ⟨2, sampleContract⟩
      { sampleIntent with baseAmount := amount } { sampleOrder with baseAmount := amount } where
  sender := ⟨_, sampleSender_parse, rfl⟩
  receiver := ⟨_, sampleReceiver_parse, rfl⟩
  positive := h
  baseAmount := rfl
  quoteAmount := rfl
  baseToken := sampleToken_canonical
  metadata := .inr ⟨rfl, rfl⟩
  path := rfl
  quoteToken := rfl

def sampleOrders : List Order := [sampleOrder, { sampleOrder with baseAmount := 500 }]

theorem fulfilledBy_sampleOrders :
    List.Forall₂
      (Intent.FulfilledBy sampleRoute sampleSource sampleDestination ⟨2, sampleContract⟩)
      (sample.intents.take sampleRoute.maxOrders) sampleOrders :=
  .cons (fulfilledBy_sampleOrder (by decide)) (.cons (fulfilledBy_sampleOrder (by decide)) .nil)

theorem compose_sample :
    (sample.compose sampleSource sampleDestination).1 =
      .ok (some (.batch (sampleOrders.map .order))) :=
  (compose_eq_some rfl rfl rfl rfl (by decide) (by decide)).2
    ⟨sampleRoute, by decide, rfl, rfl, rfl, rfl, sampleContract, samplePort_contract, sampleOrders,
      rfl, rfl, fulfilledBy_sampleOrders⟩

end BatchRequest

end TokenBridge
