import TokenBridge.Proofs.Instruction.RoundTrip

set_option autoImplicit false

/-! # The layout of instructions

A batch is written as the envelopes in it, one behind the other, between bytes that depend only on
their lengths (`encode_batch`). So the places at which the orders of a tree stand can be told from
the lengths of its parts (`standsAt_orders`).
-/

namespace TokenBridge

open Abi

/-! ## The layout of envelopes -/

/-- Offsets of tails of these lengths, the first of which starts at `offset`. -/
def offsets (offset : Nat) : List Nat → Bytes
  | [] => []
  | length :: lengths => bigEndian 32 offset ++ offsets (offset + length) lengths

theorem offsets_length (offset : Nat) (lengths : List Nat) :
    (offsets offset lengths).length = 32 * lengths.length := by
  induction lengths generalizing offset with
  | nil => rfl
  | cons length lengths ih =>
      rw [offsets, List.length_append, bigEndian_length, ih, List.length_cons]
      omega

theorem assemble_inTail (body : Bytes) :
    Part.assemble [.inTail body] = bigEndian 32 32 ++ body := by
  simp only [Part.assemble, Part.heads, Part.tails, Part.headsLength, Part.headLength,
    Nat.add_zero, List.append_nil]

theorem assemble_map_inTail (bodies : List Bytes) :
    Part.assemble (bodies.map .inTail) =
      offsets (32 * bodies.length) (bodies.map List.length) ++ bodies.flatten := by
  have hheads : ∀ offset, Part.heads offset (bodies.map .inTail) =
      offsets offset (bodies.map List.length) := by
    induction bodies with
    | nil => exact fun _ => rfl
    | cons body bodies ih => exact fun offset => congrArg (bigEndian 32 offset ++ ·) (ih _)
  have htails : Part.tails (bodies.map .inTail) = bodies.flatten := by
    clear hheads
    induction bodies with
    | nil => rfl
    | cons body bodies ih => exact congrArg (body ++ ·) ih
  rw [Part.assemble, hheads, htails, ← Part.heads_length 0, hheads, offsets_length, List.length_map]

namespace Envelope

/-- An envelope is its version and what does not depend on it. -/
theorem encode_eq (e : Envelope) :
    e.encode = wordBytes (BitVec.ofNat 256 e.version.toNat) ++
      (wordBytes (BitVec.ofNat 256 e.opcode.toNat) ++ bigEndian 32 96 ++
        encodePacked e.operand) := by
  have hparts : fields.parts (fields.raw e.toFields) =
      [.inHead (wordBytes (BitVec.ofNat 256 e.version.toNat)),
        .inHead (wordBytes (BitVec.ofNat 256 e.opcode.toNat)), .inTail (encodePacked e.operand)] :=
    rfl
  rw [encode, Abi.encode, Fields.encodeRaw, hparts]
  simp only [Part.assemble, Part.heads, Part.tails, Part.headsLength, Part.headLength,
    wordBytes_length, List.append_assoc, List.append_nil]

theorem map_toFields_ofFields (vs : List fields.Value) : (vs.map ofFields).map toFields = vs := by
  rw [List.map_map]
  exact List.map_id vs

/-- The length of the content of a batch of envelopes of these lengths. -/
def contentLength (lengths : List Nat) : Nat := 64 + 32 * lengths.length + lengths.sum

/-- What stands before the envelopes of a batch. -/
def batchHead (lengths : List Nat) : Bytes :=
  wordBytes 0 ++ (wordBytes 2 ++ (bigEndian 32 96 ++ (bigEndian 32 (contentLength lengths) ++
    (bigEndian 32 32 ++ (bigEndian 32 lengths.length ++
      offsets (32 * lengths.length) lengths)))))

theorem batchHead_length (lengths : List Nat) :
    (batchHead lengths).length = 192 + 32 * lengths.length := by
  simp only [batchHead, List.length_append, wordBytes_length, bigEndian_length, offsets_length]
  omega

/-- The content of a batch. -/
def batchOperand (es : List Envelope) : Bytes := Abi.encode batchFields (es.map toFields, ())

theorem batchOperand_eq (es : List Envelope) :
    batchOperand es = bigEndian 32 32 ++ (bigEndian 32 es.length ++
      (offsets (32 * es.length) (es.map fun e => e.encode.length) ++ es.flatMap encode)) := by
  let envelope : Ty := .tuple fields
  have hbodies : ((es.map toFields).map envelope.raw).map envelope.part =
      (es.map encode).map .inTail := by
    induction es with
    | nil => rfl
    | cons e es ih => exact congrArg (_ :: ·) ih
  have hoperand : batchOperand es = Part.assemble [.inTail (bigEndian 32 es.length ++
      Part.assemble ((es.map encode).map .inTail))] := by
    have hcount : ((es.map toFields).map envelope.raw).length = es.length :=
      (List.length_map _).trans (List.length_map _)
    rw [← hbodies, ← hcount]
    rfl
  rw [hoperand, assemble_inTail, assemble_map_inTail, List.length_map, List.map_map,
    List.flatMap_def, Function.comp_def]

theorem batchOperand_length (es : List Envelope) :
    (batchOperand es).length = contentLength (es.map fun e => e.encode.length) := by
  rw [batchOperand_eq]
  simp only [contentLength, List.length_append, bigEndian_length, offsets_length, List.length_map,
    List.length_flatMap]
  omega

/-- A batch is written as the envelopes in it, between bytes that depend only on their lengths. -/
theorem encode_batch (es : List Envelope) :
    (Envelope.mk 0 Instruction.batchOpcode (batchOperand es)).encode =
      batchHead (es.map fun e => e.encode.length) ++ es.flatMap encode ++
        padding (contentLength (es.map fun e => e.encode.length)) := by
  rw [encode_eq, encodePacked, batchOperand_length, batchOperand_eq]
  simp only [batchHead, List.append_assoc, List.length_map]
  rfl

end Envelope

/-! ## Where the orders stand -/

theorem Abi.StandsAt.surround {frame bs : Bytes} {offset : Nat} (h : StandsAt frame offset bs)
    (before behind : Bytes) :
    StandsAt (before ++ frame ++ behind) (before.length + offset) bs := by
  obtain ⟨hle, rest, hrest⟩ := h
  refine ⟨?_, rest ++ behind, ?_⟩
  · simp only [List.length_append]
    omega
  · rw [← List.append_assoc, hrest, List.append_assoc, ← List.drop_drop, List.drop_left,
      List.drop_append_of_le_length hle]

namespace Instruction

mutual

/-- Where the envelopes of the orders of a tree start in its bytes. -/
def orderPlaces : Instruction → List Nat
  | order _ => [0]
  | batch items => orderPlacesFrom (192 + 32 * items.length) items

def orderPlacesFrom (start : Nat) : List Instruction → List Nat
  | [] => []
  | i :: rest => (orderPlaces i).map (start + ·) ++ orderPlacesFrom (start + i.encode.length) rest

end

/-- The places of the versions of the orders: each is the last byte of the first word. -/
def versionPlaces (i : Instruction) : List Nat := i.orderPlaces.map (· + 31)

theorem orderPlacesFrom_add (m n : Nat) (items : List Instruction) :
    orderPlacesFrom (m + n) items = (orderPlacesFrom n items).map (m + ·) := by
  induction items generalizing n with
  | nil => rfl
  | cons i rest ih =>
      rw [orderPlacesFrom, orderPlacesFrom, List.map_append, List.map_map, Nat.add_assoc, ih]
      simp only [Function.comp_def, Nat.add_assoc]

theorem toEnvelope_batch (items : List Instruction) :
    (batch items).toEnvelope = ⟨0, batchOpcode, Envelope.batchOperand (items.map toEnvelope)⟩ := by
  have henvelopes : envelopes items = (items.map toEnvelope).map Envelope.toFields := by
    induction items with
    | nil => rfl
    | cons i rest ih => exact congrArg (_ :: ·) ih
  rw [toEnvelope, henvelopes]
  rfl

theorem encode_batch (items : List Instruction) :
    (batch items).encode =
      Envelope.batchHead (items.map fun i => i.encode.length) ++ items.flatMap encode ++
        padding (Envelope.contentLength (items.map fun i => i.encode.length)) := by
  rw [encode, toEnvelope_batch, Envelope.encode_batch, List.map_map, List.flatMap_map,
    Function.comp_def]
  rfl

theorem standsAt_ordersOf {items : List Instruction}
    (hitems : ∀ i ∈ items, List.Forall₂ (fun o p => StandsAt i.encode p (order o).encode)
      i.orders i.orderPlaces) (before behind : Bytes) :
    List.Forall₂
      (fun o p => StandsAt (before ++ items.flatMap encode ++ behind) p (order o).encode)
      (ordersOf items) (orderPlacesFrom before.length items) := by
  induction items generalizing before with
  | nil => exact .nil
  | cons i rest ih =>
      rw [ordersOf, orderPlacesFrom, List.flatMap_cons]
      refine List.rel_append ?_ ?_
      · rw [List.forall₂_map_right_iff]
        refine (hitems i List.mem_cons_self).imp fun o p h => ?_
        simpa only [List.append_assoc] using h.surround before (rest.flatMap encode ++ behind)
      · have hrest := ih (fun i hi => hitems i (List.mem_cons_of_mem _ hi)) (before ++ i.encode)
        rwa [List.length_append, List.append_assoc before] at hrest

/-- At each of the places stands the envelope of the order. -/
theorem standsAt_orders (i : Instruction) :
    List.Forall₂ (fun o p => StandsAt i.encode p (order o).encode) i.orders i.orderPlaces := by
  induction i using induct with
  | order o => exact .cons ⟨Nat.zero_le _, List.prefix_rfl⟩ .nil
  | batch items ih =>
      have hitems := standsAt_ordersOf ih
        (Envelope.batchHead (items.map fun i => i.encode.length))
        (padding (Envelope.contentLength (items.map fun i => i.encode.length)))
      rw [Envelope.batchHead_length, List.length_map] at hitems
      rw [encode_batch, orders, orderPlaces]
      exact hitems

end Instruction

end TokenBridge
