import TokenBridge.Order.Build
import TokenBridge.Proofs.Outcome

set_option autoImplicit false

/-! # What building orders comes to

However long the answers take, the orders of a list of intents can be built if and only if each of
them can be built from its own answers (`buildOrders_eq_ok`). If an intent is refused for itself,
nothing was asked about it or about any that follows (`buildOrders_of_refused`).
-/

namespace TokenBridge

open Outcome

/-! ## Answers that are waited for -/

namespace Pending

variable {α β : Type} {p : Pending α} {q : Pending β} {e : OrderError}

theorem result_of_failure? (h : p.failure? = some e) : p.result = .error e := by
  rcases p with ⟨_ | delay, e' | a⟩
  · exact congrArg Except.error (Option.some.inj h)
  all_goals cases h

theorem map_result_eq_ok {f : α → β} {b : β} :
    (p.map f).result = .ok b ↔ ∃ a, p.result = .ok a ∧ f a = b :=
  map_eq_ok

theorem map_result_eq_error {f : α → β} : (p.map f).result = .error e ↔ p.result = .error e :=
  map_eq_error

theorem both_result_eq_ok {x : α × β} :
    (p.both q).result = .ok x ↔ p.result = .ok x.1 ∧ q.result = .ok x.2 := by
  rcases p with ⟨m, e | a⟩ <;> rcases q with ⟨n, f | b⟩
  case error.error =>
    simp only [both]
    split <;> simp
  case ok.ok =>
    show Except.ok (a, b) = Except.ok x ↔ Except.ok a = .ok x.1 ∧ Except.ok b = .ok x.2
    simp only [Except.ok.injEq, Prod.ext_iff]
  all_goals simp [both]

theorem both_result_eq_error (h : (p.both q).result = .error e) :
    p.result = .error e ∨ q.result = .error e := by
  rcases p with ⟨m, e' | a⟩ <;> rcases q with ⟨n, f | b⟩
  case error.error =>
    simp only [both] at h
    split at h
    · cases h
      exact .inl rfl
    · cases h
      exact .inr rfl
  case error.ok =>
    cases h
    exact .inl rfl
  case ok.error =>
    cases h
    exact .inr rfl
  case ok.ok => cases h

end Pending

/-! ## Failures in time -/

/-- What has come when all answers have come, as far as they are orders. -/
def finished (started : List (Pending Order)) : List Order :=
  started.filterMap fun p => p.result.toOption

theorem finished_of_firstFailure {started : List (Pending Order)}
    (h : firstFailure started = none) :
    List.Forall₂ (fun p o => p.result = .ok o) started (finished started) := by
  induction started with
  | nil => exact .nil
  | cons p rest ih =>
      rw [firstFailure] at h
      split at h
      · next o ho =>
          rw [finished, List.filterMap_cons_some (b := o) (by rw [ho]; rfl)]
          exact .cons ho (ih h)
      · cases h
      · split at h <;> cases h

theorem firstFailure_eq_some {started : List (Pending Order)} {t : Nat} {e : OrderError}
    (h : firstFailure started = some (t, e)) : ∃ p ∈ started, p.result = .error e := by
  induction started generalizing t e with
  | nil => cases h
  | cons p rest ih =>
      -- It is the failure of `p` or one of those behind it.
      have hlater : ∀ {t e}, firstFailure rest = some (t, e) →
          ∃ p' ∈ p :: rest, p'.result = .error e := by
        intro t e hrest
        obtain ⟨p', hmem, hp'⟩ := ih hrest
        exact ⟨p', List.mem_cons_of_mem _ hmem, hp'⟩
      rw [firstFailure] at h
      split at h
      · exact hlater h
      · next hp _ =>
          cases h
          exact ⟨p, List.mem_cons_self, hp⟩
      · next hp hrest =>
          split at h
          · cases h
            exact hlater hrest
          · cases h
            exact ⟨p, List.mem_cons_self, hp⟩

theorem finishOrders_eq_error {started : List (Pending Order)} {e : OrderError}
    (h : finishOrders started = .error e) : ∃ p ∈ started, p.result = .error e := by
  rw [finishOrders] at h
  split at h
  · next hfailure =>
      cases h
      exact firstFailure_eq_some hfailure
  · cases h

/-- The orders are there when every answer has come and none is a failure. -/
theorem finishOrders_eq_ok {started : List (Pending Order)} {orders : List Order} :
    finishOrders started = .ok orders ↔
      List.Forall₂ (fun p o => p.result = .ok o) started orders := by
  constructor
  · intro h
    rw [finishOrders] at h
    split at h
    · cases h
    · next hnone =>
        cases h
        exact finished_of_firstFailure hnone
  · intro h
    have hnone : firstFailure started = none ∧ finished started = orders := by
      induction h with
      | nil => exact ⟨rfl, rfl⟩
      | cons hp _ ih =>
          refine ⟨?_, ?_⟩
          · rw [firstFailure, hp]
            exact ih.1
          · rw [finished, List.filterMap_cons_some (by rw [hp]; rfl)]
            exact congrArg _ ih.2
    rw [finishOrders, hnone.1, ← hnone.2]
    rfl

/-! ## One order -/

theorem checkFamily_eq_ok {actual expected : ChainFamily} {u : Unit} :
    checkFamily actual expected = .ok u ↔ actual = expected := by
  rw [checkFamily]
  split <;> simp_all

theorem checkFamily_eq_error {actual expected : ChainFamily} {e : OrderError} :
    checkFamily actual expected = .error e ↔
      actual ≠ expected ∧ e = .capabilityMismatch expected actual := by
  rw [checkFamily]
  split <;> simp_all [eq_comm]

namespace Reader

variable {r : Reader} {e : OrderError}

theorem resolve_eq_ok {token : String} {m : TokenMetadata} :
    r.resolve token = .ok m ↔
      r.native? token = some m ∨ r.native? token = none ∧ r.metadata token = .ok m := by
  rw [resolve]
  split
  · next m' hnative => simp [hnative]
  · next hnative => simp [hnative, mapError_eq_ok]

theorem predict_eq_ok {endpoint : Endpoint} {token quote : Bytes} :
    r.predict endpoint token = .ok quote ↔ r.quote endpoint token = .ok quote := by
  rw [predict, mapError_eq_ok]

theorem isRetryable_of_resolve {token : String} (h : r.resolve token = .error e) :
    e.isRetryable = true := by
  rw [resolve] at h
  split at h
  · cases h
  · obtain ⟨cause, -, rfl⟩ := mapError_eq_error.1 h
    rfl

theorem isRetryable_of_predict {endpoint : Endpoint} {token : Bytes}
    (h : r.predict endpoint token = .error e) : e.isRetryable = true := by
  obtain ⟨cause, -, rfl⟩ := mapError_eq_error.1 h
  rfl

end Reader

namespace AddressedIntent

section Check

variable {i : AddressedIntent} {source destination : ChainFamily} {baseToken : Bytes}
  {e : OrderError}

theorem check_of_zero (h : i.baseAmount = 0) :
    i.check source destination = .error .invalidAmount := by
  rw [check, if_pos h]
  rfl

theorem check_of_ne_zero (h : i.baseAmount ≠ 0) :
    i.check source destination =
      checkFamily source i.sender.family >>= fun _ =>
        checkFamily destination i.receiver.family >>= fun _ =>
          (Token.canonical i.sender.family i.baseToken).mapError
            (.invalidToken i.sender.family i.baseToken) := by
  rw [check, if_neg h]

theorem check_eq_ok :
    i.check source destination = .ok baseToken ↔
      i.baseAmount ≠ 0 ∧ source = i.sender.family ∧ destination = i.receiver.family ∧
        Token.canonical i.sender.family i.baseToken = .ok baseToken := by
  by_cases hzero : i.baseAmount = 0
  · rw [check_of_zero hzero]
    exact ⟨fun h => (nomatch h), fun h => absurd hzero h.1⟩
  · rw [check_of_ne_zero hzero]
    simp only [bind_eq_ok, checkFamily_eq_ok, mapError_eq_ok]
    constructor
    · rintro ⟨-, hsource, -, hdestination, htoken⟩
      exact ⟨hzero, hsource, hdestination, htoken⟩
    · rintro ⟨-, hsource, hdestination, htoken⟩
      exact ⟨(), hsource, (), hdestination, htoken⟩

/-- Why an intent is refused for itself. -/
theorem check_eq_error (h : i.check source destination = .error e) :
    e = .invalidAmount ∨
      (∃ fault, e = .invalidToken i.sender.family i.baseToken fault) ∨
      (source ≠ i.sender.family ∨ destination ≠ i.receiver.family) ∧
        ∃ expected actual, e = .capabilityMismatch expected actual := by
  by_cases hzero : i.baseAmount = 0
  · rw [check_of_zero hzero] at h
    cases h
    exact .inl rfl
  · rw [check_of_ne_zero hzero] at h
    rcases bind_eq_error.1 h with h | ⟨_, -, h⟩
    · obtain ⟨hne, rfl⟩ := checkFamily_eq_error.1 h
      exact .inr (.inr ⟨.inl hne, _, _, rfl⟩)
    · rcases bind_eq_error.1 h with h | ⟨_, -, h⟩
      · obtain ⟨hne, rfl⟩ := checkFamily_eq_error.1 h
        exact .inr (.inr ⟨.inr hne, _, _, rfl⟩)
      · obtain ⟨fault, -, rfl⟩ := mapError_eq_error.1 h
        exact .inr (.inl ⟨fault, rfl⟩)

end Check

variable {i : AddressedIntent} {source destination : Reader} {endpoint : Endpoint}
  {baseToken : Bytes} {e : OrderError}

/-- The order can be built from what the readers answer about the intent alone. -/
def Yields (i : AddressedIntent) (source destination : Reader) (endpoint : Endpoint) (o : Order) :
    Prop :=
  ∃ baseToken m quote, i.check source.family destination.family = .ok baseToken ∧
    source.resolve i.baseToken = .ok m ∧ destination.predict endpoint baseToken = .ok quote ∧
    o = i.order baseToken m quote

/-- A good intent fails to start only for an answer that is a failure. -/
theorem start_of_check (endpoint : Endpoint)
    (h : i.check source.family destination.family = .ok baseToken) :
    (∃ e, (i.start source destination endpoint).1 = .error e ∧
      (source.resolve i.baseToken = .error e ∨
        destination.predict endpoint baseToken = .error e)) ∨
    ∃ p, (i.start source destination endpoint).1 = .ok p ∧
      (∀ e, p.result = .error e → source.resolve i.baseToken = .error e ∨
        destination.predict endpoint baseToken = .error e) ∧
      ∀ o, p.result = .ok o ↔ ∃ m quote, source.resolve i.baseToken = .ok m ∧
        destination.predict endpoint baseToken = .ok quote ∧ o = i.order baseToken m quote := by
  simp only [start, h]
  split
  · next e hfailure => exact .inl ⟨e, rfl, .inl (Pending.result_of_failure? hfailure)⟩
  · split
    · next e hfailure => exact .inl ⟨e, rfl, .inr (Pending.result_of_failure? hfailure)⟩
    · refine .inr ⟨_, rfl, ?_, ?_⟩
      · exact fun e he => Pending.both_result_eq_error (Pending.map_result_eq_error.1 he)
      · intro o
        simp only [Pending.map_result_eq_ok, Pending.both_result_eq_ok, Prod.exists]
        constructor
        · rintro ⟨m, quote, ⟨hm, hquote⟩, rfl⟩
          exact ⟨m, quote, hm, hquote, rfl⟩
        · rintro ⟨m, quote, hm, hquote, rfl⟩
          exact ⟨m, quote, ⟨hm, hquote⟩, rfl⟩

theorem start_of_check_error (h : i.check source.family destination.family = .error e) :
    i.start source destination endpoint = (.error e, []) := by
  simp only [start, h]

theorem start_yields {o : Order} :
    i.Yields source destination endpoint o ↔
      ∃ p, (i.start source destination endpoint).1 = .ok p ∧ p.result = .ok o := by
  cases hcheck : i.check source.family destination.family with
  | error e =>
      rw [start_of_check_error hcheck]
      constructor
      · rintro ⟨t, m, quote, ht, -⟩
        rw [hcheck] at ht
        cases ht
      · rintro ⟨p, hp, -⟩
        cases hp
  | ok t =>
      have hyields : i.Yields source destination endpoint o ↔
          ∃ m quote, source.resolve i.baseToken = .ok m ∧
            destination.predict endpoint t = .ok quote ∧ o = i.order t m quote := by
        constructor
        · rintro ⟨t', m, quote, ht, hm⟩
          rw [hcheck] at ht
          cases ht
          exact ⟨m, quote, hm⟩
        · rintro ⟨m, quote, hm⟩
          exact ⟨t, m, quote, hcheck, hm⟩
      rw [hyields]
      rcases start_of_check endpoint hcheck with ⟨e, he, hfails⟩ | ⟨p, hp, -, hok⟩
      · -- One of the answers is a failure, so there is no order.
        rw [he]
        constructor
        · rintro ⟨m, quote, hm, hquote, -⟩
          rw [hm, hquote] at hfails
          rcases hfails with h | h <;> cases h
        · rintro ⟨p, hp, -⟩
          cases hp
      · rw [hp, ← hok]
        exact ⟨fun h => ⟨p, rfl, h⟩, fun ⟨_, h, ho⟩ => Except.ok.inj h ▸ ho⟩

theorem check_of_start {p : Pending Order} (h : (i.start source destination endpoint).1 = .ok p) :
    ∃ t, i.check source.family destination.family = .ok t := by
  cases hcheck : i.check source.family destination.family with
  | error e =>
      rw [start_of_check_error hcheck] at h
      cases h
  | ok t => exact ⟨t, rfl⟩

/-- Whatever comes of an order that has been started, its failure is that of an answer. -/
theorem isRetryable_of_start {p : Pending Order}
    (hp : (i.start source destination endpoint).1 = .ok p) (he : p.result = .error e) :
    e.isRetryable = true := by
  cases hcheck : i.check source.family destination.family with
  | error e' =>
      rw [start_of_check_error hcheck] at hp
      cases hp
  | ok t =>
      rcases start_of_check endpoint hcheck with ⟨e', he', -⟩ | ⟨p', hp', hfails, -⟩
      · rw [he'] at hp
        cases hp
      · rw [hp'] at hp
        cases hp
        exact (hfails e he).elim Reader.isRetryable_of_resolve Reader.isRetryable_of_predict

/-- An intent that is refused for itself has put no question. -/
theorem start_of_refused {asked : List Question}
    (h : i.start source destination endpoint = (.error e, asked)) (he : e.isRetryable = false) :
    i.check source.family destination.family = .error e ∧ asked = [] := by
  cases hcheck : i.check source.family destination.family with
  | error e' =>
      rw [start_of_check_error hcheck] at h
      cases h
      exact ⟨rfl, rfl⟩
  | ok t =>
      rcases start_of_check endpoint hcheck with ⟨e', he', hfails⟩ | ⟨p, hp, -⟩
      · rw [h] at he'
        cases he'
        rw [hfails.elim Reader.isRetryable_of_resolve Reader.isRetryable_of_predict] at he
        cases he
      · rw [h] at hp
        cases hp

end AddressedIntent

/-! ## Several orders -/

section

variable {source destination : LiveReader} {endpoint : Endpoint} {intents : List AddressedIntent}
  {k : Nat} {e : OrderError} {asked : List Question}

/-- Each order is started with what the readers answer about its place. -/
theorem startOrders_eq_ok {started : List (Pending Order)} :
    (startOrders source destination endpoint k intents).1 = .ok started ↔
      List.Forall₂
        (fun i p => (i.1.start (source.view i.2) (destination.view i.2) endpoint).1 = .ok p)
        (intents.zipIdx k) started := by
  induction intents generalizing started k with
  | nil =>
      rw [List.zipIdx_nil, List.forall₂_nil_left_iff]
      exact ⟨fun h => (Except.ok.inj h).symm, fun h => h ▸ rfl⟩
  | cons i rest ih =>
      rw [List.zipIdx_cons, List.forall₂_cons_left_iff, startOrders]
      rcases hstart : i.start (source.view k) (destination.view k) endpoint with ⟨e | p, asked⟩
      · simp
      · show (startOrders source destination endpoint (k + 1) rest).1.map (p :: ·) = .ok started ↔ _
        rw [map_eq_ok]
        constructor
        · rintro ⟨others, hothers, rfl⟩
          exact ⟨p, others, rfl, ih.1 hothers, rfl⟩
        · rintro ⟨p', others, hp', hothers, rfl⟩
          cases hp'
          exact ⟨others, ih.2 hothers, rfl⟩

theorem AddressedIntent.check_of_start_view {i : AddressedIntent} {p : Pending Order}
    (h : (i.start (source.view k) (destination.view k) endpoint).1 = .ok p) :
    ∃ t, i.check source.family destination.family = .ok t := by
  simpa using AddressedIntent.check_of_start h

/-- An order that has been started stands at the place of its intent, and all intents are good. -/
theorem exists_of_mem_started {started : List (Pending Order)} {p : Pending Order}
    (h : (startOrders source destination endpoint 0 intents).1 = .ok started) (hp : p ∈ started) :
    ∃ before i after, intents = before ++ i :: after ∧
      (∀ b ∈ intents, ∃ t, b.check source.family destination.family = .ok t) ∧
      (i.start (source.view before.length) (destination.view before.length) endpoint).1 =
        .ok p := by
  have hall := startOrders_eq_ok.1 h
  obtain ⟨⟨i, k⟩, hmem, hi⟩ := exists_of_mem_right hall hp
  obtain ⟨hk, hget⟩ := List.getElem?_eq_some_iff.1 (List.mk_mem_zipIdx_iff_getElem?.1 hmem)
  refine ⟨intents.take k, i, intents.drop (k + 1), ?_, fun b hb => ?_, ?_⟩
  · rw [← hget, List.getElem_cons_drop, List.take_append_drop]
  · obtain ⟨j, p', -, hp'⟩ := exists_of_mem_zipIdx hall hb
    exact AddressedIntent.check_of_start_view hp'
  · rw [List.length_take_of_le (Nat.le_of_lt hk)]
    exact hi

/-- The orders are started up to the first that fails to start. -/
theorem startOrders_eq_error
    (h : startOrders source destination endpoint k intents = (.error e, asked)) :
    ∃ before i after last, intents = before ++ i :: after ∧
      (∀ b ∈ before, ∃ t, b.check source.family destination.family = .ok t) ∧
      i.start (source.view (k + before.length)) (destination.view (k + before.length)) endpoint =
        (.error e, last) ∧
      asked = ((before.zipIdx k).flatMap fun b =>
        (b.1.start (source.view b.2) (destination.view b.2) endpoint).2) ++ last := by
  induction intents generalizing asked k with
  | nil => cases h
  | cons i rest ih =>
      rw [startOrders] at h
      rcases hstart : i.start (source.view k) (destination.view k) endpoint with ⟨e' | p, first⟩
      · rw [hstart] at h
        cases h
        exact ⟨[], i, rest, _, rfl, fun _ hb => (nomatch hb), hstart, rfl⟩
      · rw [hstart] at h
        rcases hrest : startOrders source destination endpoint (k + 1) rest with
          ⟨e' | others, more⟩
        · simp only [hrest] at h
          cases h
          obtain ⟨before, i', after, last, rfl, hbefore, hi', rfl⟩ := ih hrest
          have hi := AddressedIntent.check_of_start_view (congrArg Prod.fst hstart)
          refine ⟨i :: before, i', after, last, rfl, List.forall_mem_cons.2 ⟨hi, hbefore⟩, ?_, ?_⟩
          · rw [List.length_cons, ← Nat.add_assoc, Nat.add_right_comm]
            exact hi'
          · rw [List.zipIdx_cons, List.flatMap_cons, hstart, List.append_assoc]
        · simp only [hrest] at h
          cases h

/-- The orders can be built if and only if each of them can. -/
theorem buildOrders_eq_ok {orders : List Order} :
    (buildOrders source destination endpoint intents).1 = .ok orders ↔
      List.Forall₂
        (fun i o => i.1.Yields (source.view i.2) (destination.view i.2) endpoint o)
        intents.zipIdx orders := by
  have hbuild : (buildOrders source destination endpoint intents).1 =
      (startOrders source destination endpoint 0 intents).1 >>= finishOrders := rfl
  rw [hbuild, bind_eq_ok]
  simp only [startOrders_eq_ok, finishOrders_eq_ok, AddressedIntent.start_yields]
  exact exists_forall₂_and

/-- What is asked before an intent is refused for itself is asked about those before it, which are
good. -/
theorem buildOrders_of_refused
    (h : buildOrders source destination endpoint intents = (.error e, asked))
    (he : e.isRetryable = false) :
    ∃ before i after, intents = before ++ i :: after ∧
      (∀ b ∈ before, ∃ t, b.check source.family destination.family = .ok t) ∧
      i.check source.family destination.family = .error e ∧
      asked = before.zipIdx.flatMap fun b =>
        (b.1.start (source.view b.2) (destination.view b.2) endpoint).2 := by
  rw [buildOrders] at h
  rcases hstart : startOrders source destination endpoint 0 intents with ⟨e' | started, first⟩
  · rw [hstart] at h
    cases h
    obtain ⟨before, i, after, last, rfl, hbefore, hi, rfl⟩ := startOrders_eq_error hstart
    obtain ⟨hcheck, rfl⟩ := AddressedIntent.start_of_refused hi he
    rw [LiveReader.family_view, LiveReader.family_view] at hcheck
    exact ⟨before, i, after, rfl, hbefore, hcheck, List.append_nil _⟩
  · -- The failure of an order that has been started is that of an answer.
    rw [hstart] at h
    obtain ⟨p, hp, hfails⟩ := finishOrders_eq_error (congrArg Prod.fst h)
    obtain ⟨before, i, after, -, -, hi⟩ := exists_of_mem_started (congrArg Prod.fst hstart) hp
    rw [AddressedIntent.isRetryable_of_start hi hfails] at he
    cases he

end

end TokenBridge
