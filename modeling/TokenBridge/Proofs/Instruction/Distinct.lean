import TokenBridge.Proofs.Abi.Extension
import TokenBridge.Proofs.Instruction.Layout

set_option autoImplicit false

/-! # Different trees, different bytes

No two trees of instructions are written alike, also where they are too deep to be read
(`encode_inj`): each level tells its kind by its tag, and its content by what can be read of it. Nor
do the bytes of an envelope go on as those of another one, so that what is cut off or continued is
refused (`refused_of_cut_or_continued`).
-/

namespace TokenBridge

open Abi

namespace Instruction

/-! ## Trees -/

theorem operand_order (o : Order) :
    (order o).toEnvelope.operand = Abi.encode Order.fields o.toFields := by
  rw [toEnvelope]

theorem operand_batch (items : List Instruction) :
    (batch items).toEnvelope.operand = Abi.encode batchFields (envelopes items, ()) := by
  rw [toEnvelope]

/-- Orders can be told apart by the contents of their envelopes. -/
theorem eq_of_operand_order_eq {o o' : Order}
    (hlength : (order o).toEnvelope.operand.length < 2 ^ 63)
    (h : (order o).toEnvelope.operand = (order o').toEnvelope.operand) : o = o' := by
  rw [operand_order] at hlength
  rw [operand_order, operand_order] at h
  exact congrArg Order.ofFields (Abi.eq_of_encode_eq Order.fields rfl hlength h)

/-- So can batches, as far as the envelopes in them go. -/
theorem map_toEnvelope_eq_of_operand_eq {items items' : List Instruction}
    (hlength : (batch items).toEnvelope.operand.length < 2 ^ 63)
    (h : (batch items).toEnvelope.operand = (batch items').toEnvelope.operand) :
    items.map toEnvelope = items'.map toEnvelope := by
  rw [operand_batch] at hlength
  rw [operand_batch, operand_batch] at h
  have hfields := Abi.eq_of_encode_eq batchFields rfl hlength h
  rw [← map_envelopes, ← map_envelopes, (Prod.mk.inj hfields).1]

/-- Lists of instructions can be told apart by their envelopes if their items can. -/
theorem eq_of_map_toEnvelope_eq {items items' : List Instruction}
    (hitems : ∀ i ∈ items, ∀ j, i.toEnvelope = j.toEnvelope → i = j)
    (h : items.map toEnvelope = items'.map toEnvelope) : items = items' := by
  induction items generalizing items' with
  | nil => exact (List.map_eq_nil_iff.1 h.symm).symm
  | cons i rest ih =>
      obtain ⟨j, rest', rfl, hj, hrest⟩ := List.map_eq_cons_iff.1 h.symm
      have hfirst : i = j := hitems i List.mem_cons_self j hj.symm
      have hothers : rest = rest' :=
        ih (fun i hi => hitems i (List.mem_cons_of_mem _ hi)) hrest.symm
      rw [hfirst, hothers]

/-- An instruction can be told from its envelope: the tag says whether it is an order or a batch,
and the content is that of no other one. -/
theorem eq_of_toEnvelope_eq {i j : Instruction} (hlength : i.encode.length < 2 ^ 63)
    (h : i.toEnvelope = j.toEnvelope) : i = j := by
  induction i using induct generalizing j with
  | order o =>
      cases j with
      | order o' =>
          have hoperand := Nat.lt_of_le_of_lt (order o).toEnvelope.operand_length_le hlength
          exact congrArg order (eq_of_operand_order_eq hoperand (congrArg Envelope.operand h))
      | batch items' =>
          exact absurd (congrArg Envelope.opcode h).symm batchOpcode_ne_orderOpcode
  | batch items ih =>
      cases j with
      | order o' => exact absurd (congrArg Envelope.opcode h) batchOpcode_ne_orderOpcode
      | batch items' =>
          have hoperand := Nat.lt_of_le_of_lt (batch items).toEnvelope.operand_length_le hlength
          have henvelopes := map_toEnvelope_eq_of_operand_eq hoperand (congrArg Envelope.operand h)
          refine congrArg batch (eq_of_map_toEnvelope_eq ?_ henvelopes)
          intro i hi j hij
          -- The items are shorter than the batch, so that the bound holds of them as well.
          exact ih i hi (Nat.lt_of_le_of_lt (encode_length_le_batch hi) hlength) hij

theorem eq_of_envelope_encode_eq {e e' : Envelope} (hlength : e.encode.length < 2 ^ 63)
    (h : e.encode = e'.encode) : e = e' :=
  congrArg Envelope.ofFields (Abi.eq_of_encode_eq Envelope.fields rfl hlength h)

/-- No two trees are written alike, however many batches stand inside each other. -/
theorem encode_inj {i j : Instruction} (hlength : i.encode.length < 2 ^ 60) :
    i.encode = j.encode ↔ i = j := by
  have hshort : i.encode.length < 2 ^ 63 := Nat.lt_trans hlength (by decide)
  constructor
  · intro h
    exact eq_of_toEnvelope_eq hshort (eq_of_envelope_encode_eq hshort h)
  · rintro rfl
    rfl

/-- The instruction inside so many batches. -/
def nest : Nat → Instruction → Instruction
  | 0, i => i
  | n + 1, i => batch [nest n i]

theorem length_nest_le (n : Nat) (i : Instruction) :
    (nest n i).encode.length ≤ 256 * n + i.encode.length := by
  induction n with
  | zero => exact Nat.le_add_left _ _
  | succ n ih =>
      -- A batch of one adds seven words to its item, and fills up the last one.
      have hbatch : (nest (n + 1) i).encode.length = 224 + (nest n i).encode.length +
          (padding (Envelope.contentLength [(nest n i).encode.length])).length := by
        rw [nest, encode_batch]
        simp only [List.length_append, Envelope.batchHead_length, List.map_cons, List.map_nil,
          List.flatMap_cons, List.flatMap_nil, List.length_cons, List.length_nil]
        omega
      have hpadding : ∀ length, (padding length).length < 32 := by
        intro length
        rw [padding, List.length_replicate]
        exact Nat.mod_lt _ (by decide)
      have hfill := hpadding (Envelope.contentLength [(nest n i).encode.length])
      omega

/-- Ten batches inside each other are too many to be read, and yet they differ in their bytes. -/
theorem encode_nest_ne :
    8 < (nest 9 (batch [])).depth ∧ (nest 9 (batch [])).encode ≠ (nest 9 sampleTree).encode := by
  have hinner : (batch []).encode.length < 2 ^ 59 := by decide +kernel
  have hlength : (nest 9 (batch [])).encode.length < 2 ^ 60 := by
    have hle := length_nest_le 9 (batch [])
    omega
  have hne : nest 9 (batch []) ≠ nest 9 sampleTree := by simp [nest, sampleTree]
  exact ⟨by decide, fun h => hne ((encode_inj hlength).1 h)⟩

/-! ## Bytes that are cut off or continued -/

theorem decodeEnvelope_eq_error {bs : Bytes} {f : Abi.Fault}
    (h : Abi.decode "Instruction" Envelope.fields bs = .error f) :
    Envelope.decode bs = .error (.abi f) ∧ decode bs = .error (.abi f) := by
  have henvelope : Envelope.decode bs = .error (.abi f) :=
    Outcome.mapError_eq_error.2 ⟨f, Outcome.map_eq_error.2 h, rfl⟩
  exact ⟨henvelope, Outcome.bind_eq_error.2 (.inl henvelope)⟩

/-- What is read as an envelope, as all is that is written for a tree, is refused as contract data
when any part of its end is cut off, and when anything stands behind it. -/
theorem refused_of_cut_or_continued {data : Bytes}
    (h : (∃ e, Envelope.decode data = .ok e) ∨
      ∃ i : Instruction, i.encode.length < 2 ^ 60 ∧ i.encode = data) :
    (∀ cut, cut <+: data → cut ≠ data →
      ∃ f, Envelope.decode cut = .error (.abi f) ∧ decode cut = .error (.abi f)) ∧
    ∀ more, more ≠ [] → Envelope.decode (data ++ more) = .error (.abi .notCanonical) ∧
      decode (data ++ more) = .error (.abi .notCanonical) := by
  have hread : ∃ e, Envelope.decode data = .ok e := by
    rcases h with h | ⟨i, hlength, rfl⟩
    · exact h
    · exact ⟨_, decodeEnvelope_encode (Nat.lt_trans hlength (by decide))⟩
  obtain ⟨e, he⟩ := hread
  obtain ⟨vs, hvs, -⟩ := Outcome.map_eq_ok.1 (Outcome.mapError_eq_ok.1 he)
  constructor
  · intro cut hcut hne
    obtain ⟨f, hf⟩ := exists_decode_eq_error hvs hcut hne
    exact ⟨f, decodeEnvelope_eq_error hf⟩
  · intro more hmore
    exact decodeEnvelope_eq_error (decode_append hvs hmore)

/-- An envelope of no known kind, the last byte of which fills up its last word. -/
def strayEnvelope : Envelope := ⟨0, 9, [1]⟩

theorem refused_strayEnvelope_dropLast :
    (∃ f, decode strayEnvelope.encode.dropLast = .error (.abi f)) ∧
      decode (strayEnvelope.encode ++ [0]) = .error (.abi .notCanonical) := by
  have hread : Envelope.decode strayEnvelope.encode = .ok strayEnvelope :=
    decodeEnvelope_encode (by decide +kernel)
  obtain ⟨hcut, hmore⟩ := refused_of_cut_or_continued (.inl ⟨_, hread⟩)
  have hne : strayEnvelope.encode.dropLast ≠ strayEnvelope.encode := by decide +kernel
  obtain ⟨f, -, hf⟩ := hcut _ (List.dropLast_prefix _) hne
  exact ⟨⟨f, hf⟩, (hmore [0] (List.cons_ne_nil _ _)).2⟩

end Instruction

end TokenBridge
