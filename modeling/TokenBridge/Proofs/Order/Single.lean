import TokenBridge.Proofs.Order.Build

set_option autoImplicit false

/-! # One order on its own

An intent whose order is built on its own is served or refused by the answers about it alone
(`build`). When several orders are built at once, whatever goes wrong is what would have gone wrong
for one of them alone (`exists_build_eq_error`), and if it was an answer that failed, then this
intent and all before it are good in themselves (`buildOrders_of_unanswered`).
-/

namespace TokenBridge

open Outcome

namespace AddressedIntent

variable {i : AddressedIntent} {source destination : Reader} {endpoint : Endpoint} {o : Order}
  {e : OrderError} {baseToken : Bytes}

/-- What comes of an intent whose order is built on its own: the order is started, and its answers
are waited for. -/
def build (i : AddressedIntent) (source destination : Reader) (endpoint : Endpoint) :
    Except OrderError Order :=
  (i.start source destination endpoint).1 >>= Pending.result

theorem build_eq_ok :
    i.build source destination endpoint = .ok o ↔ i.Yields source destination endpoint o := by
  rw [build, bind_eq_ok, start_yields]

theorem build_of_start_error {asked : List Question}
    (h : i.start source destination endpoint = (.error e, asked)) :
    i.build source destination endpoint = .error e := by
  rw [build, h]
  rfl

theorem build_of_start {p : Pending Order}
    (h : (i.start source destination endpoint).1 = .ok p) :
    i.build source destination endpoint = p.result := by
  rw [build, h]
  rfl

/-- What is wrong with the intent itself cannot be cured. -/
theorem isRetryable_of_check {s d : ChainFamily} (h : i.check s d = .error e) :
    e.isRetryable = false := by
  rcases check_eq_error h with rfl | ⟨fault, rfl⟩ | ⟨-, expected, actual, rfl⟩
  · rfl
  · rfl
  · rfl

/-- An answer fails only when the intent itself has been found good. -/
theorem check_of_build_error (h : i.build source destination endpoint = .error e)
    (he : e.isRetryable = true) : ∃ t, i.check source.family destination.family = .ok t := by
  cases hcheck : i.check source.family destination.family with
  | ok t => exact ⟨t, rfl⟩
  | error e' =>
      rw [build_of_start_error (start_of_check_error hcheck)] at h
      cases h
      rw [isRetryable_of_check hcheck] at he
      cases he

end AddressedIntent

/-! ## Several orders -/

variable {source destination : LiveReader} {endpoint : Endpoint} {intents : List AddressedIntent}
  {e : OrderError}

theorem finishOrders_singleton (p : Pending Order) : finishOrders [p] = p.result.map ([·]) := by
  rcases p with ⟨delay, e | o⟩
  · rfl
  · rfl

/-- One intent is served the same way whether it is alone or a list of one. -/
theorem buildOrders_singleton (i : AddressedIntent) :
    (buildOrders source destination endpoint [i]).1 =
      (i.build (source.view 0) (destination.view 0) endpoint).map ([·]) := by
  rw [buildOrders, startOrders]
  rcases hstart : i.start (source.view 0) (destination.view 0) endpoint with ⟨e | p, asked⟩
  · rw [AddressedIntent.build_of_start_error hstart]
    rfl
  · rw [AddressedIntent.build_of_start (congrArg Prod.fst hstart), ← finishOrders_singleton]
    rfl

/-- The orders are the orders that the intents would have alone. -/
theorem buildOrders_eq_ok_iff_build {orders : List Order} :
    (buildOrders source destination endpoint intents).1 = .ok orders ↔
      List.Forall₂
        (fun i o => i.1.build (source.view i.2) (destination.view i.2) endpoint = .ok o)
        intents.zipIdx orders := by
  simp only [AddressedIntent.build_eq_ok]
  exact buildOrders_eq_ok

/-- The failure of several orders is the failure of one of them alone, and all intents before it are
good in themselves. -/
theorem exists_build_eq_error
    (h : (buildOrders source destination endpoint intents).1 = .error e) :
    ∃ before i after, intents = before ++ i :: after ∧
      (∀ b ∈ before, ∃ t, b.check source.family destination.family = .ok t) ∧
      i.build (source.view before.length) (destination.view before.length) endpoint =
        .error e := by
  rw [buildOrders] at h
  rcases hstart : startOrders source destination endpoint 0 intents with ⟨e' | started, asked⟩
  · rw [hstart] at h
    cases h
    obtain ⟨before, i, after, last, rfl, hbefore, hi, -⟩ := startOrders_eq_error hstart
    rw [Nat.zero_add] at hi
    exact ⟨before, i, after, rfl, hbefore, AddressedIntent.build_of_start_error hi⟩
  · rw [hstart] at h
    obtain ⟨p, hp, hfails⟩ := finishOrders_eq_error h
    obtain ⟨before, i, after, rfl, hall, hi⟩ :=
      exists_of_mem_started (congrArg Prod.fst hstart) hp
    refine ⟨before, i, after, rfl, fun b hb => hall b (List.mem_append_left _ hb), ?_⟩
    rw [AddressedIntent.build_of_start hi, hfails]

/-- If an answer has failed, the intent that it is about and those before it are good in
themselves. -/
theorem buildOrders_of_unanswered
    (h : (buildOrders source destination endpoint intents).1 = .error e)
    (he : e.isRetryable = true) :
    ∃ before i after, intents = before ++ i :: after ∧
      (∀ b ∈ before ++ [i], ∃ t, b.check source.family destination.family = .ok t) ∧
      i.build (source.view before.length) (destination.view before.length) endpoint =
        .error e := by
  obtain ⟨before, i, after, rfl, hbefore, hi⟩ := exists_build_eq_error h
  refine ⟨before, i, after, rfl, fun b hb => ?_, hi⟩
  rcases List.mem_append.1 hb with hb | hb
  · exact hbefore b hb
  · rw [List.mem_singleton.1 hb]
    simpa using AddressedIntent.check_of_build_error hi he

end TokenBridge
