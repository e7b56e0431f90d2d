import TokenBridge.Proofs.Abi.Canonical
import TokenBridge.Proofs.Instruction.Layout

set_option autoImplicit false

/-! # Only canonical instructions are read

Bytes that are read as a tree of instructions are the bytes of this tree, but for the versions of
its orders, which may be zero where one is written (`canonical_of_decode`). Each content that is
read is the only one that is written for its value, level by level down to the orders.
-/

namespace TokenBridge

open Abi

/-! ## Bytes that are the same but for some zeros -/

/-- `bs` is `cs` with zeros in place of ones at some of the places. -/
structure Lowered (places : List Nat) (bs cs : Bytes) : Prop where
  length_eq : bs.length = cs.length
  same_or_zero : ∀ n, bs[n]? = cs[n]? ∨ n ∈ places ∧ bs[n]? = some 0 ∧ cs[n]? = some 1

namespace Lowered

variable {places places' : List Nat} {bs bs' cs cs' : Bytes}

theorem refl (places : List Nat) (bs : Bytes) : Lowered places bs bs := ⟨rfl, fun _ => .inl rfl⟩

theorem zero_one : Lowered [0] [0] [1] where
  length_eq := rfl
  same_or_zero
    | 0 => .inr ⟨List.mem_singleton_self 0, rfl, rfl⟩
    | _ + 1 => .inl rfl

theorem append (h : Lowered places bs cs) (h' : Lowered places' bs' cs') :
    Lowered (places ++ places'.map (bs.length + ·)) (bs ++ bs') (cs ++ cs') where
  length_eq := by rw [List.length_append, List.length_append, h.length_eq, h'.length_eq]
  same_or_zero n := by
    by_cases hn : n < bs.length
    · rw [List.getElem?_append_left hn, List.getElem?_append_left (h.length_eq ▸ hn)]
      exact (h.same_or_zero n).imp_right fun hz => ⟨List.mem_append_left _ hz.1, hz.2⟩
    · have hle : bs.length ≤ n := Nat.not_lt.1 hn
      rw [List.getElem?_append_right hle, List.getElem?_append_right (h.length_eq ▸ hle),
        ← h.length_eq]
      refine (h'.same_or_zero (n - bs.length)).imp_right fun hz => ⟨?_, hz.2⟩
      exact List.mem_append_right _ (List.mem_map.2 ⟨_, hz.1, Nat.add_sub_cancel' hle⟩)

theorem append_right (h : Lowered places bs cs) (behind : Bytes) :
    Lowered places (bs ++ behind) (cs ++ behind) := by
  have hall := h.append (refl [] behind)
  rwa [List.map_nil, List.append_nil] at hall

theorem append_left (h : Lowered places bs cs) (before : Bytes) :
    Lowered (places.map (before.length + ·)) (before ++ bs) (before ++ cs) :=
  (refl [] before).append h

theorem getElem?_eq_of_notMem (h : Lowered places bs cs) {n : Nat} (hn : n ∉ places) :
    bs[n]? = cs[n]? :=
  (h.same_or_zero n).resolve_right fun hz => hn hz.1

/-- Two byte strings that are lowered from the same one differ at most at the places. -/
theorem mem_of_ne (h : Lowered places bs cs) (h' : Lowered places bs' cs) {n : Nat}
    (hne : bs[n]? ≠ bs'[n]?) : n ∈ places := by
  by_contra hn
  exact hne ((h.getElem?_eq_of_notMem hn).trans (h'.getElem?_eq_of_notMem hn).symm)

end Lowered

namespace Instruction

/-! ## Contents that are read -/

theorem encode_of_decodeEnvelope {bs : Bytes} {e : Envelope} (h : Envelope.decode bs = .ok e) :
    e.encode = bs := by
  obtain ⟨vs, hvs, rfl⟩ := Outcome.map_eq_ok.1 (Outcome.mapError_eq_ok.1 h)
  exact Abi.encode_of_decode hvs

theorem encode_of_decodeOrder {bs : Bytes} {o : Order} (h : decodeOrder bs = .ok o) :
    Abi.encode Order.fields o.toFields = bs := by
  obtain ⟨vs, hvs, rfl⟩ := Outcome.map_eq_ok.1 (Outcome.mapError_eq_ok.1 h)
  exact Abi.encode_of_decode hvs

theorem batchOperand_of_decodeBatch {bs : Bytes} {es : List Envelope}
    (h : decodeBatch bs = .ok es) : Envelope.batchOperand es = bs := by
  obtain ⟨⟨vs, _⟩, hvs, rfl⟩ := Outcome.map_eq_ok.1 (Outcome.mapError_eq_ok.1 h)
  have hfields := Envelope.map_toFields_ofFields vs
  exact (congrArg (fun vs => Abi.encode batchFields (vs, ())) hfields).trans
    (Abi.encode_of_decode hvs)

theorem decodeBatch_batchOperand {es : List Envelope}
    (hlength : (Envelope.batchOperand es).length < 2 ^ 63) :
    decodeBatch (Envelope.batchOperand es) = .ok es := by
  have hfields : (es.map Envelope.toFields).map Envelope.ofFields = es := by
    rw [List.map_map]
    exact List.map_id es
  exact (decodeBatch_encode hlength).trans (congrArg Except.ok hfields)

/-- What an envelope is in which an instruction is read. -/
theorem ofEnvelope_eq_ok {levels : Nat} {e : Envelope} {i : Instruction}
    (h : ofEnvelope levels e = .ok i) :
    (∃ o, i = order o ∧ e.opcode = orderOpcode ∧ e.version ≤ 1 ∧ decodeOrder e.operand = .ok o) ∨
      ∃ levels' es items, levels = levels' + 1 ∧ i = batch items ∧ e.opcode = batchOpcode ∧
        e.version = 0 ∧ decodeBatch e.operand = .ok es ∧
        List.Forall₂ (fun e i => ofEnvelope levels' e = .ok i) es items := by
  rw [ofEnvelope.eq_def] at h
  split at h
  · next horder =>
      split at h
      · cases h
      · next hversion =>
          obtain ⟨o, ho, rfl⟩ := Outcome.map_eq_ok.1 h
          exact .inl ⟨o, rfl, horder, UInt8.not_lt.1 hversion, ho⟩
  · split at h
    · next hbatch =>
        split at h
        · cases h
        · next hversion =>
            split at h
            · cases h
            · next levels' =>
                obtain ⟨es, hes, h⟩ := Outcome.bind_eq_ok.1 h
                obtain ⟨items, hitems, h⟩ := Outcome.bind_eq_ok.1 h
                cases h
                exact .inr ⟨levels', es, items, rfl, rfl, hbatch, not_not.1 hversion, hes,
                  Outcome.mapM_eq_ok.1 hitems⟩
    · cases h

/-! ## Trees that are read -/

/-- A version is the last byte of its word. -/
theorem lowered_word {v : UInt8} (hv : v ≤ 1) :
    Lowered [31] (wordBytes (BitVec.ofNat 256 v.toNat))
      (wordBytes (BitVec.ofNat 256 (1 : UInt8).toNat)) := by
  have hle : v.toNat ≤ 1 := UInt8.le_iff_toNat_le.1 hv
  rcases Nat.le_one_iff_eq_zero_or_eq_one.1 hle with h | h
  · rw [h]
    exact Lowered.zero_one.append_left (List.replicate 31 0)
  · rw [h]
    exact .refl _ _

/-- The envelope of an order is read under both versions. -/
theorem lowered_order {e : Envelope} {o : Order} (hopcode : e.opcode = orderOpcode)
    (hversion : e.version ≤ 1) (hoperand : decodeOrder e.operand = .ok o) :
    Lowered (order o).versionPlaces e.encode (order o).encode := by
  have hencode : (order o).encode = (Envelope.mk 1 e.opcode e.operand).encode := by
    rw [encode, toEnvelope, encode_of_decodeOrder hoperand, hopcode]
  rw [hencode, Envelope.encode_eq, Envelope.encode_eq]
  exact (lowered_word hversion).append_right _

/-- Envelopes whose instructions are written in as many bytes each. -/
theorem lowered_flatMap {es : List Envelope} {items : List Instruction}
    (h : List.Forall₂ (fun e i => Lowered i.versionPlaces e.encode i.encode) es items) :
    (es.map fun e => e.encode.length) = (items.map fun i => i.encode.length) ∧
      Lowered ((orderPlacesFrom 0 items).map (· + 31)) (es.flatMap Envelope.encode)
        (items.flatMap encode) := by
  induction h with
  | nil => exact ⟨rfl, .refl _ _⟩
  | @cons e i es items hei _ ih =>
      obtain ⟨hlengths, hlowered⟩ := ih
      refine ⟨?_, ?_⟩
      · rw [List.map_cons, List.map_cons, hei.length_eq, hlengths]
      · have hplaces : (orderPlacesFrom 0 (i :: items)).map (· + 31) = i.versionPlaces ++
            ((orderPlacesFrom 0 items).map (· + 31)).map (e.encode.length + ·) := by
          rw [orderPlacesFrom, versionPlaces, hei.length_eq, Nat.add_comm 0, orderPlacesFrom_add]
          simp only [List.map_append, List.map_map, Function.comp_def, Nat.zero_add, Nat.add_assoc]
        rw [hplaces]
        exact hei.append hlowered

theorem lowered_batch {e : Envelope} {es : List Envelope} {items : List Instruction}
    (hopcode : e.opcode = batchOpcode) (hversion : e.version = 0)
    (hoperand : decodeBatch e.operand = .ok es)
    (h : List.Forall₂ (fun e i => Lowered i.versionPlaces e.encode i.encode) es items) :
    Lowered (batch items).versionPlaces e.encode (batch items).encode := by
  obtain ⟨hlengths, hlowered⟩ := lowered_flatMap h
  have hencode : e.encode = (Envelope.mk 0 batchOpcode (Envelope.batchOperand es)).encode := by
    rw [batchOperand_of_decodeBatch hoperand, ← hopcode, ← hversion]
  have hplaces : (batch items).versionPlaces = ((orderPlacesFrom 0 items).map (· + 31)).map
      ((Envelope.batchHead (items.map fun i => i.encode.length)).length + ·) := by
    rw [versionPlaces, orderPlaces, Envelope.batchHead_length, List.length_map,
      ← Nat.add_zero (192 + _), orderPlacesFrom_add]
    simp only [List.map_map, Function.comp_def, Nat.add_assoc, Nat.add_zero]
  rw [hencode, Envelope.encode_batch, encode_batch, hlengths, hplaces]
  exact (hlowered.append_left _).append_right _

theorem depthOf_le {levels : Nat} {items : List Instruction} (h : ∀ i ∈ items, i.depth ≤ levels) :
    depthOf items ≤ levels := by
  induction items with
  | nil => exact Nat.zero_le _
  | cons i rest ih =>
      rw [depthOf]
      exact Nat.max_le.2 ⟨h i List.mem_cons_self, ih fun i hi => h i (List.mem_cons_of_mem _ hi)⟩

theorem lowered_of_ofEnvelope {levels : Nat} {e : Envelope} {i : Instruction}
    (h : ofEnvelope levels e = .ok i) :
    i.depth ≤ levels ∧ Lowered i.versionPlaces e.encode i.encode := by
  induction levels generalizing e i with
  | zero =>
      rcases ofEnvelope_eq_ok h with ⟨o, rfl, hopcode, hversion, ho⟩ | ⟨_, _, _, h0, -⟩
      · exact ⟨Nat.le_refl 0, lowered_order hopcode hversion ho⟩
      · cases h0
  | succ levels ih =>
      rcases ofEnvelope_eq_ok h with
        ⟨o, rfl, hopcode, hversion, ho⟩ | ⟨_, es, items, hsucc, rfl, hopcode, hversion, hes, hitems⟩
      · exact ⟨Nat.zero_le _, lowered_order hopcode hversion ho⟩
      · cases hsucc
        refine ⟨?_, lowered_batch hopcode hversion hes (hitems.imp fun _ _ h => (ih h).2)⟩
        rw [depth]
        refine Nat.succ_le_succ (depthOf_le fun i hi => ?_)
        obtain ⟨e', -, he'⟩ := Outcome.exists_of_mem_right hitems hi
        exact (ih he').1

theorem lowered_of_decode {data : Bytes} {i : Instruction} (h : decode data = .ok i) :
    i.depth ≤ 8 ∧ Lowered i.versionPlaces data i.encode := by
  obtain ⟨e, he, h⟩ := Outcome.bind_eq_ok.1 h
  rw [← encode_of_decodeEnvelope he]
  exact lowered_of_ofEnvelope h

/-- Bytes that are read as a tree of instructions have at most eight batches inside each other, and
they are the bytes of this tree but for zeros in place of the versions of some orders. So two byte
strings that are read as the same tree differ at most in these versions, the last bytes of the first
words of the envelopes of its orders. -/
theorem canonical_of_decode {data : Bytes} {i : Instruction} (h : decode data = .ok i) :
    i.depth ≤ 8 ∧ Lowered i.versionPlaces data i.encode ∧
      (∀ data', decode data' = .ok i → ∀ n, data[n]? ≠ data'[n]? → n ∈ i.versionPlaces) ∧
      i.versionPlaces = i.orderPlaces.map (· + 31) ∧
      List.Forall₂ (fun o p => StandsAt i.encode p (order o).encode) i.orders i.orderPlaces := by
  obtain ⟨hdepth, hlowered⟩ := lowered_of_decode h
  refine ⟨hdepth, hlowered, ?_, rfl, standsAt_orders i⟩
  intro data' h' n hne
  exact hlowered.mem_of_ne (lowered_of_decode h').2 hne

/-! ## A sample

A batch of one order, the envelope of which has the older version.
-/

def sampleOrder : Order := ⟨[1], [2, 3], [4], 5, "T", "Täst", 6, 7, [], 8⟩

def sampleBatch : Instruction := batch [order sampleOrder]

def olderEnvelope : Envelope := ⟨0, orderOpcode, Abi.encode Order.fields sampleOrder.toFields⟩

def olderBytes : Bytes :=
  (Envelope.mk 0 batchOpcode (Envelope.batchOperand [olderEnvelope])).encode

theorem decode_olderBytes : decode olderBytes = .ok sampleBatch := by
  have hbytes : olderBytes.length < 2 ^ 63 := by decide +kernel
  have hbatch : (Envelope.batchOperand [olderEnvelope]).length < 2 ^ 63 := by decide +kernel
  have horder : (Abi.encode Order.fields sampleOrder.toFields).length < 2 ^ 63 := by decide +kernel
  have holder : ∀ levels, ofEnvelope levels olderEnvelope = .ok (order sampleOrder) := by
    intro levels
    rw [olderEnvelope, ofEnvelope.eq_def, if_pos rfl, if_neg (by decide),
      decodeOrder_encode horder]
    rfl
  have hopen : ofEnvelope (7 + 1)
      ⟨0, batchOpcode, Envelope.batchOperand [olderEnvelope]⟩ = .ok sampleBatch := by
    rw [ofEnvelope_batch_succ]
    exact Outcome.bind_eq_ok.2 ⟨_, decodeBatch_batchOperand hbatch,
      Outcome.bind_eq_ok.2 ⟨_, Outcome.mapM_eq_ok.2 (.cons (holder 7) .nil), rfl⟩⟩
  exact Outcome.bind_eq_ok.2 ⟨_, decodeEnvelope_encode hbytes, hopen⟩

theorem canonical_olderBytes :
    olderBytes ≠ sampleBatch.encode ∧ sampleBatch.versionPlaces = [255] ∧
      Lowered sampleBatch.versionPlaces olderBytes sampleBatch.encode :=
  ⟨by decide +kernel, rfl, (canonical_of_decode decode_olderBytes).2.1⟩

end Instruction

end TokenBridge
