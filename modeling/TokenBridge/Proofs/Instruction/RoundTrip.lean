import TokenBridge.Instruction.Envelope
import TokenBridge.Proofs.Abi.RoundTrip

set_option autoImplicit false

/-! # Instructions are read as they were written

A tree of instructions is read back from its bytes if no more than `maxDepth` batches stand inside
each other, and is refused for its depth if there are more (`decode_encode_of_depth`). The levels
that are left to be opened are counted down on the way into the tree, and the content of an envelope
is shorter than the envelope, so that the bound on the length reaches down to the leaves.
-/

namespace TokenBridge

open Abi

/-! ## Lengths -/

/-- The content of an envelope is no longer than the envelope. -/
theorem Envelope.operand_length_le (e : Envelope) : e.operand.length ≤ e.encode.length := by
  have hmem : Ty.bytes.part e.operand ∈ fields.parts (fields.raw e.toFields) :=
    .tail _ (.tail _ (.head _))
  calc e.operand.length
      ≤ (encodePacked e.operand).length := by
        have hpacked := encodePacked_length e.operand
        omega
    _ ≤ (Ty.bytes.part e.operand).size := Ty.encode_length_le_size .bytes e.operand
    _ ≤ e.encode.length := Part.size_le_assemble hmem

/-- Each envelope in a batch is no longer than the content of the batch. -/
theorem length_le_encode_batch {items : List Envelope.fields.Value} {e : Envelope.fields.Value}
    (he : e ∈ items) :
    (encode Envelope.fields e).length ≤ (encode batchFields (items, ())).length := by
  let envelope : Ty := .tuple Envelope.fields
  let raws : List envelope.Raw := items.map envelope.raw
  have hitem : envelope.part (envelope.raw e) ∈ raws.map envelope.part :=
    List.mem_map_of_mem (List.mem_map_of_mem he)
  have hbatch : (Ty.array envelope).part raws ∈ batchFields.parts (raws, ()) := .head _
  calc (encode Envelope.fields e).length
      ≤ (envelope.part (envelope.raw e)).size := envelope.encode_length_le_size _
    _ ≤ (Part.assemble (raws.map envelope.part)).length := Part.size_le_assemble hitem
    _ ≤ ((Ty.array envelope).encode raws).length := by
        show _ ≤ (bigEndian 32 raws.length ++ Part.assemble (raws.map envelope.part)).length
        rw [List.length_append]
        exact Nat.le_add_left _ _
    _ ≤ ((Ty.array envelope).part raws).size := (Ty.array envelope).encode_length_le_size raws
    _ ≤ (encode batchFields (items, ())).length := Part.size_le_assemble hbatch

/-! ## Contents -/

namespace Instruction

theorem decodeEnvelope_encode {e : Envelope} (hlength : e.encode.length < 2 ^ 63) :
    Envelope.decode e.encode = .ok e := by
  rw [Envelope.decode, Envelope.encode, Abi.decode_encode rfl _ _ hlength]
  rfl

theorem decodeOrder_encode {o : Order}
    (hlength : (Abi.encode Order.fields o.toFields).length < 2 ^ 63) :
    decodeOrder (Abi.encode Order.fields o.toFields) = .ok o := by
  rw [decodeOrder, Abi.decode_encode rfl _ _ hlength]
  rfl

theorem decodeBatch_encode {items : List Envelope.fields.Value}
    (hlength : (Abi.encode batchFields (items, ())).length < 2 ^ 63) :
    decodeBatch (Abi.encode batchFields (items, ())) = .ok (items.map Envelope.ofFields) := by
  rw [decodeBatch, Abi.decode_encode rfl _ _ hlength]
  rfl

theorem map_envelopes (items : List Instruction) :
    (envelopes items).map Envelope.ofFields = items.map toEnvelope := by
  induction items with
  | nil => rfl
  | cons i items ih => exact congrArg (_ :: ·) ih

theorem mem_envelopes {i : Instruction} {items : List Instruction} (hi : i ∈ items) :
    i.toEnvelope.toFields ∈ envelopes items := by
  induction hi with
  | head => exact .head _
  | tail _ _ ih => exact .tail _ ih

/-- An instruction in a batch is no longer than the batch. -/
theorem encode_length_le_batch {i : Instruction} {items : List Instruction} (hi : i ∈ items) :
    i.encode.length ≤ (batch items).encode.length :=
  (length_le_encode_batch (mem_envelopes hi)).trans (batch items).toEnvelope.operand_length_le

/-! ## Envelopes with good tags -/

theorem ofEnvelope_order (levels : Nat) (operand : Bytes) :
    ofEnvelope levels ⟨1, orderOpcode, operand⟩ = (decodeOrder operand).map order := by
  have hversion : ¬(1 : UInt8) < 1 := by decide
  rw [ofEnvelope.eq_def, if_pos rfl, if_neg hversion]

theorem batchOpcode_ne_orderOpcode : batchOpcode ≠ orderOpcode := by decide

theorem ofEnvelope_batch_zero (operand : Bytes) :
    ofEnvelope 0 ⟨0, batchOpcode, operand⟩ = .error .tooDeep := by
  rw [ofEnvelope.eq_def, if_neg batchOpcode_ne_orderOpcode, if_pos rfl, if_neg fun h => h rfl]

theorem ofEnvelope_batch_succ (levels : Nat) (operand : Bytes) :
    ofEnvelope (levels + 1) ⟨0, batchOpcode, operand⟩ =
      decodeBatch operand >>= fun es =>
        es.mapM (ofEnvelope levels) >>= fun items => pure (batch items) := by
  rw [ofEnvelope.eq_def, if_neg batchOpcode_ne_orderOpcode, if_pos rfl, if_neg fun h => h rfl]

/-! ## Trees -/

/-- What holds of orders, and of each batch if it holds of its items, holds of all instructions. -/
@[elab_as_elim]
theorem induct {P : Instruction → Prop} (order : ∀ o, P (order o))
    (batch : ∀ items, (∀ i ∈ items, P i) → P (batch items)) : ∀ i, P i
  | .order o => order o
  | .batch items => batch items fun i _ => induct order batch i

/-- Items are read one after the other, up to one that is too deep. -/
theorem mapM_ofEnvelope {levels : Nat} {items : List Instruction}
    (hitems : ∀ i ∈ items, ofEnvelope levels i.toEnvelope =
      if i.depth ≤ levels then .ok i else .error .tooDeep) :
    (items.map toEnvelope).mapM (ofEnvelope levels) =
      if depthOf items ≤ levels then .ok items else .error .tooDeep := by
  induction items with
  | nil => rfl
  | cons i items ih =>
      rw [List.map_cons, List.mapM_cons, hitems i List.mem_cons_self,
        ih fun i hi => hitems i (List.mem_cons_of_mem _ hi), depthOf]
      by_cases hi : i.depth ≤ levels
      · rw [if_pos hi]
        by_cases hrest : depthOf items ≤ levels
        · rw [if_pos hrest, if_pos (Nat.max_le.2 ⟨hi, hrest⟩)]
          rfl
        · rw [if_neg hrest, if_neg fun h => hrest (Nat.max_le.1 h).2]
          rfl
      · rw [if_neg hi, if_neg fun h => hi (Nat.max_le.1 h).1]
        rfl

/-- An envelope is opened as far as the levels reach. -/
theorem ofEnvelope_toEnvelope (i : Instruction) (levels : Nat)
    (hlength : i.encode.length < 2 ^ 63) :
    ofEnvelope levels i.toEnvelope = if i.depth ≤ levels then .ok i else .error .tooDeep := by
  induction i using induct generalizing levels with
  | order o =>
      have hoperand := (order o).toEnvelope.operand_length_le
      rw [depth, if_pos (Nat.zero_le levels), toEnvelope, ofEnvelope_order,
        decodeOrder_encode (Nat.lt_of_le_of_lt hoperand hlength)]
      rfl
  | batch items ih =>
      -- A batch takes one of the levels, whatever stands in it.
      cases levels with
      | zero =>
          rw [depth, if_neg (Nat.not_succ_le_zero _), toEnvelope, ofEnvelope_batch_zero]
      | succ levels =>
          have hoperand := (batch items).toEnvelope.operand_length_le
          have hitems : ∀ i ∈ items, ofEnvelope levels i.toEnvelope =
              if i.depth ≤ levels then .ok i else .error .tooDeep :=
            fun i hi => ih i hi levels (Nat.lt_of_le_of_lt (encode_length_le_batch hi) hlength)
          rw [toEnvelope, ofEnvelope_batch_succ,
            decodeBatch_encode (Nat.lt_of_le_of_lt hoperand hlength), map_envelopes]
          show ((items.map toEnvelope).mapM (ofEnvelope levels) >>= fun items =>
            pure (batch items)) = _
          rw [mapM_ofEnvelope hitems, depth]
          by_cases hdepth : depthOf items ≤ levels
          · rw [if_pos hdepth, if_pos (Nat.succ_le_succ hdepth)]
            rfl
          · rw [if_neg hdepth, if_neg fun h => hdepth (Nat.le_of_succ_le_succ h)]
            rfl

theorem depthOf_map_order (orders : List Order) : depthOf (orders.map order) = 0 := by
  induction orders with
  | nil => rfl
  | cons o orders ih => rw [List.map_cons, depthOf, depth, ih, Nat.max_self]

theorem decode_encode_of_depth_le {i : Instruction} (hdepth : i.depth ≤ maxDepth)
    (hlength : i.encode.length < 2 ^ 63) : decode i.encode = .ok i := by
  show (Envelope.decode i.toEnvelope.encode >>= ofEnvelope maxDepth) = _
  rw [decodeEnvelope_encode hlength]
  exact (ofEnvelope_toEnvelope i maxDepth hlength).trans (if_pos hdepth)

/-- What was written for a tree of instructions is read as that tree, if at most eight batches stand
inside each other, and is refused as too deep if there are more. -/
theorem decode_encode_of_depth (i : Instruction) (hlength : i.encode.length < 2 ^ 60) :
    decode i.encode = if i.depth ≤ 8 then .ok i else .error .tooDeep := by
  have hlength' : i.encode.length < 2 ^ 63 := Nat.lt_trans hlength (by decide)
  show (Envelope.decode i.toEnvelope.encode >>= ofEnvelope maxDepth) = _
  rw [decodeEnvelope_encode hlength']
  exact ofEnvelope_toEnvelope i maxDepth hlength'

/-- A batch of an order and an empty batch. -/
def sampleTree : Instruction :=
  batch [order ⟨[1], [2, 3], [4], 5, "T", "Täst", 6, 7, [], 8⟩, batch []]

theorem length_sampleTree : sampleTree.encode.length < 2 ^ 60 := by
  decide +kernel

theorem decode_encode_sampleTree : decode sampleTree.encode = .ok sampleTree := by
  have hdepth : sampleTree.depth ≤ 8 := by decide
  rw [decode_encode_of_depth sampleTree length_sampleTree, if_pos hdepth]

end Instruction

end TokenBridge
