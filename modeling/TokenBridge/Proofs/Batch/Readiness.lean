import TokenBridge.Proofs.Batch.Composition
import TokenBridge.Text.Blank

set_option autoImplicit false

/-! # When a request is ready

Nothing comes of a request while a part of it is missing, and nobody is asked then, whatever else is
wrong with it. Every other request ends in an error or in a batch with orders in it
(`compose_readiness`). A bridge is missing if its text is empty: one of white space is there.
-/

namespace TokenBridge

open Outcome

namespace CompleteRequest

theorem orders_ne_nil {c : CompleteRequest} {source destination : LiveReader} {orders : List Order}
    (hintents : c.intents ≠ []) (h : (c.orders source destination).1 = .ok orders) :
    orders ≠ [] := by
  obtain ⟨route, hroute, -, -, contract, -, hall⟩ := (orders_eq_ok_iff_fulfilledBy hintents).1 h
  rintro rfl
  refine Route.take_ne_nil hroute hintents ?_
  exact List.zipIdx_eq_nil_iff.1 (List.forall₂_nil_right_iff.1 hall)

end CompleteRequest

namespace BatchRequest

variable {r : BatchRequest} {source destination : LiveReader}

/-- A part is missing, where a bridge is missing too if its text is `void`. -/
def Lacks (r : BatchRequest) (void : String → Prop) : Prop :=
  r.source? = none ∨ r.destination? = none ∨ r.channel? = none ∨
    (∀ bridge, r.bridge? = some bridge → void bridge) ∨ r.intents = []

theorem complete?_eq_none : r.complete? = none ↔ r.Lacks (· = "") := by
  constructor
  · intro h
    by_contra hall
    simp only [Lacks, not_or, ← ne_eq, Option.ne_none_iff_exists', not_forall] at hall
    obtain ⟨⟨s, hs⟩, ⟨d, hd⟩, ⟨channel, hchannel⟩, ⟨bridge, hbridge, hvoid⟩, hintents⟩ := hall
    rw [complete?_eq_some hs hd hchannel hbridge hvoid hintents] at h
    cases h
  · intro h
    rw [complete?]
    split
    · next hs hd hchannel hbridge =>
        apply if_pos
        rw [String.isEmpty_iff, List.isEmpty_iff]
        rcases h with h | h | h | h | h
        · cases hs.symm.trans h
        · cases hd.symm.trans h
        · cases hchannel.symm.trans h
        · exact .inl (h _ hbridge)
        · exact .inr h
    · rfl

theorem compose_of_lacks (h : r.Lacks (· = "")) :
    r.compose source destination = (.ok none, []) := by
  rw [compose, complete?_eq_none.2 h]

/-- A request with all its parts is never passed over. -/
theorem compose_of_not_lacks (h : ¬ r.Lacks (· = "")) :
    (∃ e, (r.compose source destination).1 = .error e) ∨
      ∃ orders : List Order, orders ≠ [] ∧
        (r.compose source destination).1 = .ok (some (.batch (orders.map .order))) := by
  obtain ⟨c, hc⟩ := Option.ne_none_iff_exists'.1 (mt complete?_eq_none.1 h)
  cases horders : (c.orders source destination).1 with
  | error e =>
      left
      refine ⟨e, ?_⟩
      rw [compose, hc]
      exact map_eq_error.2 horders
  | ok orders =>
      right
      refine ⟨orders, CompleteRequest.orders_ne_nil (of_complete?_eq_some hc).2 horders, ?_⟩
      exact (compose_of_complete? hc).2 ⟨orders, horders, rfl⟩

/-- There is no batch, and no failure, if and only if a part is missing. No question has been put
then. Otherwise there is a failure, or a batch with orders in it. -/
theorem compose_readiness (r : BatchRequest) (source destination : LiveReader) :
    ((r.compose source destination).1 = .ok none ↔ r.Lacks (· = "")) ∧
    (r.compose source destination = (.ok none, []) ↔ r.Lacks (· = "")) ∧
    (r.Lacks (· = "") ∨ (∃ e, (r.compose source destination).1 = .error e) ∨
      ∃ orders : List Order, orders ≠ [] ∧
        (r.compose source destination).1 = .ok (some (.batch (orders.map .order)))) := by
  have hready : (r.compose source destination).1 = .ok none → r.Lacks (· = "") := by
    intro h
    by_contra hall
    have hcomes : (∃ e, (r.compose source destination).1 = .error e) ∨ _ :=
      compose_of_not_lacks hall
    rw [h] at hcomes
    rcases hcomes with ⟨e, he⟩ | ⟨orders, -, hbatch⟩
    · cases he
    · cases hbatch
  refine ⟨⟨hready, ?_⟩, ⟨?_, compose_of_lacks⟩, ?_⟩
  · intro h
    rw [compose_of_lacks h]
  · intro h
    apply hready
    rw [h]
  · by_cases h : r.Lacks (· = "")
    · exact .inl h
    · exact .inr (compose_of_not_lacks h)

/-- What the text of the bridge says plays no part, as long as it says something. -/
theorem compose_bridge {bridge bridge' : String} (h : bridge ≠ "") (h' : bridge' ≠ "") :
    { r with bridge? := some bridge }.compose source destination =
      { r with bridge? := some bridge' }.compose source destination := by
  have hcomplete : { r with bridge? := some bridge }.complete? =
      { r with bridge? := some bridge' }.complete? := by
    have hvoid : bridge.isEmpty = bridge'.isEmpty := by
      rw [Bool.eq_iff_iff, String.isEmpty_iff, String.isEmpty_iff]
      exact iff_of_false h h'
    simp only [complete?]
    cases r.source? <;> cases r.destination? <;> cases r.channel? <;> simp only [hvoid]
  rw [compose, compose, hcomplete]

/-- With a bridge of white space a batch is composed. -/
theorem not_forall_compose_eq_none : ¬ ∀ (r : BatchRequest) (source destination : Reader),
    (r.compose source destination).1 = .ok none ↔ r.Lacks (Blank.trim · = "") := by
  intro h
  have hblank : { sample with bridge? := some " " }.Lacks (Blank.trim · = "") := by
    refine .inr (.inr (.inr (.inl ?_)))
    rintro _ ⟨⟩
    decide
  have hnone := (h _ sampleSource sampleDestination).2 hblank
  have hcompose := compose_of_fulfilledBy (r := { sample with bridge? := some " " }) rfl rfl rfl rfl
    (by decide) (by decide) sampleRoute_mem ⟨rfl, rfl⟩ samplePort_contract
    fulfilledBy_sampleOrders
  rw [hcompose] at hnone
  cases hnone

end BatchRequest
end TokenBridge
