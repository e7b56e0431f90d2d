import Mathlib
import TokenBridge.Proofs.Abi.Words

set_option autoImplicit false

/-! # The layout of records

Where the parts of a record stand. The tails follow the heads, so that the offset in a head leads to
its tail; and what a value takes in memory is no more than what is written for it, which is why a
list that was written is never refused for its size.
-/

namespace TokenBridge.Abi

/-! ## Rows of parts -/

namespace Part

/-- The bytes that a part takes in a record, its head and its tail together. -/
def size (p : Part) : Nat := p.headLength + (tails [p]).length

theorem le_size_word (w : Word) : 32 ≤ (inHead (wordBytes w)).size := by
  rw [size, headLength, wordBytes_length]
  exact Nat.le_add_right _ _

theorem heads_cons (offset : Nat) (p : Part) (ps : List Part) :
    heads offset (p :: ps) = heads offset [p] ++ heads (offset + (tails [p]).length) ps := by
  cases p <;> simp [heads, tails]

theorem tails_cons (p : Part) (ps : List Part) : tails (p :: ps) = tails [p] ++ tails ps := by
  cases p <;> simp [tails]

theorem heads_length (offset : Nat) (ps : List Part) :
    (heads offset ps).length = headsLength ps := by
  induction ps generalizing offset with
  | nil => rfl
  | cons p ps ih => cases p <;> simp [heads, headsLength, headLength, ih]

theorem assemble_length (ps : List Part) : (assemble ps).length = (ps.map size).sum := by
  -- The offsets that the heads hold do not change their length.
  rw [assemble, List.length_append, heads_length]
  induction ps with
  | nil => rfl
  | cons p ps ih =>
      rw [headsLength, tails_cons, List.length_append, List.map_cons, List.sum_cons, ← ih, size]
      omega

theorem size_le_assemble {p : Part} {ps : List Part} (hp : p ∈ ps) :
    p.size ≤ (assemble ps).length := by
  rw [assemble_length]
  exact List.le_sum_of_mem (List.mem_map_of_mem hp)

/-- Where all parts stand in their heads, there are no offsets. -/
theorem assemble_of_inHead {ps : List Part} (hps : ∀ p ∈ ps, ∃ bs, p = .inHead bs) (offset : Nat) :
    tails ps = [] ∧ assemble ps = heads offset ps := by
  have key : tails ps = [] ∧ ∀ o, heads o ps = heads offset ps := by
    induction ps with
    | nil => exact ⟨rfl, fun _ => rfl⟩
    | cons p ps ih =>
        obtain ⟨bs, rfl⟩ := hps p List.mem_cons_self
        obtain ⟨htails, hheads⟩ := ih fun p hp => hps p (List.mem_cons_of_mem _ hp)
        exact ⟨htails, fun o => congrArg (bs ++ ·) (hheads o)⟩
  obtain ⟨htails, hheads⟩ := key
  refine ⟨htails, ?_⟩
  rw [assemble, htails, List.append_nil, hheads]

end Part

/-! ## Places in a frame -/

/-- In the frame, `bs` stands at that offset. -/
def StandsAt (frame : Bytes) (offset : Nat) (bs : Bytes) : Prop :=
  offset ≤ frame.length ∧ bs <+: frame.drop offset

theorem StandsAt.split {frame bs cs : Bytes} {offset : Nat} (h : StandsAt frame offset (bs ++ cs)) :
    StandsAt frame offset bs ∧ StandsAt frame (offset + bs.length) cs := by
  obtain ⟨hle, s, hs⟩ := h
  refine ⟨⟨hle, cs ++ s, by rw [← hs, List.append_assoc]⟩, ?_, s, ?_⟩
  · have hlength := congrArg List.length hs
    simp only [List.length_append, List.length_drop] at hlength
    omega
  · rw [← List.drop_drop, ← hs, List.append_assoc, List.drop_left]

/-- The tails of a record stand behind its heads. -/
theorem standsAt_tails (ps : List Part) (rest : Bytes) :
    StandsAt (Part.assemble ps ++ rest) (Part.headsLength ps) (Part.tails ps) := by
  refine ⟨?_, rest, ?_⟩
  · rw [List.length_append, Part.assemble, List.length_append, Part.heads_length]
    omega
  · rw [Part.assemble, List.append_assoc,
      List.drop_left' (Part.heads_length (Part.headsLength ps) ps)]

theorem standsAt_end (frame : Bytes) : StandsAt frame frame.length [] :=
  ⟨Nat.le_refl _, List.nil_prefix⟩

/-! ## The parts of values -/

/-- A value as a part of a record. -/
def Ty.part (t : Ty) (r : t.Raw) : Part :=
  if t.isDynamic then .inTail (t.encode r) else .inHead (t.encode r)

theorem Fields.parts_cons (t : Ty) (fs : Fields) (r : t.Raw) (rs : fs.Raw) :
    (Fields.cons t fs).parts (r, rs) = t.part r :: fs.parts rs := rfl

theorem Ty.part_of_isDynamic {t : Ty} (ht : t.isDynamic = true) (r : t.Raw) :
    t.part r = .inTail (t.encode r) := if_pos ht

theorem Ty.part_of_not_isDynamic {t : Ty} (ht : t.isDynamic = false) (r : t.Raw) :
    t.part r = .inHead (t.encode r) := if_neg (by rw [ht]; exact Bool.false_ne_true)

/-- A value takes its bytes, and its offset if it has one. -/
theorem Ty.encode_length_le_size (t : Ty) (r : t.Raw) :
    (t.encode r).length ≤ (t.part r).size := by
  cases ht : t.isDynamic with
  | true =>
      rw [part_of_isDynamic ht]
      simp [Part.size, Part.tails]
  | false =>
      rw [part_of_not_isDynamic ht]
      simp [Part.size, Part.headLength]

theorem Fields.parts_inHead : (fs : Fields) → fs.isDynamic = false → (rs : fs.Raw) →
    ∀ p ∈ fs.parts rs, ∃ bs, p = .inHead bs
  | .nil, _, _ => by simp [parts]
  | .cons t fs, hfs, (r, rs) => by
      obtain ⟨ht, hfs⟩ : t.isDynamic = false ∧ fs.isDynamic = false := by
        simpa [isDynamic] using hfs
      intro p hp
      rw [parts_cons, List.mem_cons] at hp
      rcases hp with rfl | hp
      · exact ⟨_, t.part_of_not_isDynamic ht r⟩
      · exact fs.parts_inHead hfs rs p hp

/-! ## Room -/

mutual

/-- The room that a value takes in memory is no more than the bytes that are written for it. -/
theorem Ty.room_le_size : (t : Ty) → (r : t.Raw) → t.room ≤ (t.part r).size
  | .uint _, w | .address, w | .bytes32, w => Part.le_size_word w
  | .bytes, _ | .string, _ | .array _, _ => by
      rw [Ty.part_of_isDynamic rfl]
      simp only [Ty.room, Part.size, Part.headLength]
      omega
  | .tuple fs, rs => by
      have hfields := fs.room_le_size rs
      rw [← Part.assemble_length] at hfields
      exact Nat.le_trans hfields (Ty.encode_length_le_size (.tuple fs) rs)

theorem Fields.room_le_size : (fs : Fields) → (rs : fs.Raw) →
    fs.room ≤ ((fs.parts rs).map Part.size).sum
  | .nil, _ => Nat.zero_le _
  | .cons t fs, (r, rs) => by
      rw [Fields.parts_cons, List.map_cons, List.sum_cons]
      exact Nat.add_le_add (t.room_le_size r) (fs.room_le_size rs)

end

theorem length_mul_room_le (t : Ty) (rs : List t.Raw) :
    rs.length * t.room ≤ (Part.assemble (rs.map t.part)).length := by
  rw [Part.assemble_length]
  induction rs with
  | nil => simp
  | cons r rs ih =>
      have hroom := t.room_le_size r
      simp only [List.length_cons, List.map_cons, List.sum_cons, Nat.add_mul, Nat.one_mul]
      omega

end TokenBridge.Abi
