import TokenBridge.Proofs.Abi.Layout
import TokenBridge.Proofs.Text.Utf8

set_option autoImplicit false

/-! # Contract data is read as it was written

A record is read back from its bytes, if its type is sound (`decode_encode`). A part is read from
its head, with its tail at the offset in the frame to which the head leads (`Ty.read_part`); the
proof follows the recursion of types and fields.
-/

namespace TokenBridge.Abi

/-! ## Sound types -/

mutual

/-- Numbers fit their words, and the items of lists are not empty. -/
def Ty.isSound : Ty → Bool
  | .uint width => width ≤ 256
  | .array t => 0 < t.room && t.isSound
  | .tuple fs => fs.isSound
  | _ => true

def Fields.isSound : Fields → Bool
  | .nil => true
  | .cons t fs => t.isSound && fs.isSound

end

/-! ## What readers do -/

section Readers

variable {t : Ty} {fs : Fields} {frame bs body rest left : Bytes}

theorem read_bytes {packed : Bytes} (hfollow : follow frame bs = .ok (body, rest))
    (hpacked : readPacked body = .ok packed) : Ty.bytes.read frame bs = .ok (packed, rest) := by
  rw [Ty.read, hfollow]
  show (readPacked body >>= _) = _
  rw [hpacked]
  rfl

/-- There is room for a list that takes no more than what is left to read. -/
theorem reserve_of_le {room available : Nat} (hle : room ≤ available)
    (havailable : available < 2 ^ 63) : reserve room available = .ok () := by
  have hfew : ¬Nat.pow 2 63 ≤ room := Nat.not_le.2 (Nat.lt_of_le_of_lt hle havailable)
  have hfits : ¬memory + available < room :=
    Nat.not_lt.2 (Nat.le_trans hle (Nat.le_add_left _ _))
  rw [reserve, if_neg hfew, if_neg hfits]

theorem read_array {n : Nat} {items : Bytes} {rs : List t.Raw}
    (hfollow : follow frame bs = .ok (body, rest)) (hcount : readSize body = .ok (n, items))
    (hroom : reserve (n * t.room) items.length = .ok ())
    (hitems : readMany (t.read items) n items = .ok (rs, left)) :
    (Ty.array t).read frame bs = .ok (rs, rest) := by
  rw [Ty.read, hfollow]
  show (readSize body >>= _) = _
  rw [hcount]
  show (reserve (n * t.room) items.length >>= _) = _
  rw [hroom]
  show (readMany (t.read items) n items >>= _) = _
  rw [hitems]
  rfl

theorem read_tuple (frame bs : Bytes) :
    (Ty.tuple fs).read frame bs =
      if fs.isDynamic then
        follow frame bs >>= fun x => fs.read x.1 x.1 >>= fun y => pure (y.1, x.2)
      else fs.read frame bs := rfl

theorem read_tuple_of_isDynamic {rs : fs.Raw} (hfs : fs.isDynamic = true)
    (hfollow : follow frame bs = .ok (body, rest)) (hitems : fs.read body body = .ok (rs, left)) :
    (Ty.tuple fs).read frame bs = .ok (rs, rest) := by
  refine (read_tuple frame bs).trans ((if_pos hfs).trans ?_)
  rw [hfollow]
  show (fs.read body body >>= _) = _
  rw [hitems]
  rfl

theorem read_tuple_of_not_isDynamic (hfs : fs.isDynamic = false) :
    (Ty.tuple fs).read frame bs = fs.read frame bs :=
  (read_tuple frame bs).trans (if_neg (by rw [hfs]; exact Bool.false_ne_true))

end Readers

/-! ## Raw forms -/

/-- A value is read from its part, whatever follows. -/
def Ty.ReadsParts (t : Ty) : Prop :=
  ∀ (r : t.Raw) (frame : Bytes) (offset : Nat) (rest : Bytes), frame.length < 2 ^ 63 →
    StandsAt frame offset (Part.tails [t.part r]) →
    t.read frame (Part.heads offset [t.part r] ++ rest) = .ok (r, rest)

def Fields.ReadsParts (fs : Fields) : Prop :=
  ∀ (rs : fs.Raw) (frame : Bytes) (offset : Nat) (rest : Bytes), frame.length < 2 ^ 63 →
    StandsAt frame offset (Part.tails (fs.parts rs)) →
    fs.read frame (Part.heads offset (fs.parts rs) ++ rest) = .ok (rs, rest)

theorem readMany_parts {t : Ty} (ht : t.ReadsParts) (rs : List t.Raw) {frame : Bytes}
    (hframe : frame.length < 2 ^ 63) (offset : Nat) (rest : Bytes)
    (h : StandsAt frame offset (Part.tails (rs.map t.part))) :
    readMany (t.read frame) rs.length (Part.heads offset (rs.map t.part) ++ rest) =
      .ok (rs, rest) := by
  induction rs generalizing offset with
  | nil => rfl
  | cons r rs ih =>
      rw [List.map_cons, Part.tails_cons] at h
      obtain ⟨hfirst, hrest⟩ := h.split
      rw [List.map_cons, Part.heads_cons, List.append_assoc, List.length_cons, readMany,
        ht r frame offset _ hframe hfirst]
      show (readMany (t.read frame) rs.length _ >>= _) = _
      rw [ih _ hrest]
      rfl

/-- Where the tail of a part stands, its value can be found. -/
theorem follow_part {t : Ty} (ht : t.isDynamic = true) {r : t.Raw} {frame : Bytes} {offset : Nat}
    (hframe : frame.length < 2 ^ 63) (h : StandsAt frame offset (Part.tails [t.part r]))
    (rest : Bytes) :
    ∃ behind, follow frame (Part.heads offset [t.part r] ++ rest) =
      .ok (t.encode r ++ behind, rest) ∧ (t.encode r ++ behind).length < 2 ^ 63 := by
  rw [Ty.part_of_isDynamic ht] at h ⊢
  obtain ⟨hle, behind, hbehind⟩ := h
  have htail : frame.drop offset = t.encode r ++ behind := by
    rw [← hbehind, Part.tails, Part.tails, List.append_nil]
  refine ⟨behind, ?_, ?_⟩
  · rw [Part.heads, Part.heads, List.append_nil, follow_append hle hframe, htail]
  · rw [← htail, List.length_drop]
    omega

/-- A record is read from its bytes, whatever follows. -/
theorem Fields.read_assemble {fs : Fields} (hfs : fs.ReadsParts) (rs : fs.Raw) (rest : Bytes)
    (hlength : (Part.assemble (fs.parts rs) ++ rest).length < 2 ^ 63) :
    ∃ left, fs.read (Part.assemble (fs.parts rs) ++ rest)
      (Part.assemble (fs.parts rs) ++ rest) = .ok (rs, left) := by
  have h := hfs rs _ _ (Part.tails (fs.parts rs) ++ rest) hlength (standsAt_tails _ rest)
  rw [← List.append_assoc, ← Part.assemble] at h
  exact ⟨_, h⟩

theorem readsParts_word {t : Ty} (ht : t.isDynamic = false) (word : t.Raw → Word)
    (encode : ∀ r, t.encode r = wordBytes (word r))
    (read : ∀ r frame rest, t.read frame (wordBytes (word r) ++ rest) = .ok (r, rest)) :
    t.ReadsParts := by
  intro r frame offset rest _ _
  rw [Ty.part_of_not_isDynamic ht, Part.heads, Part.heads, List.append_nil, encode, read]

theorem readsParts_bytes : Ty.bytes.ReadsParts := by
  intro (bs : Bytes) frame offset rest hframe h
  obtain ⟨behind, hfollow, hlength⟩ := follow_part rfl hframe h rest
  have hbs : bs.length < 2 ^ 64 := by
    have hpacked := encodePacked_length bs
    have hall : (encodePacked bs ++ behind).length < 2 ^ 63 := hlength
    rw [List.length_append] at hall
    omega
  exact read_bytes hfollow (readPacked_append hbs behind)

theorem readsParts_array {t : Ty} (hroom : 0 < t.room) (ht : t.ReadsParts) :
    (Ty.array t).ReadsParts := by
  intro (rs : List t.Raw) frame offset rest hframe h
  obtain ⟨behind, hfollow, hlength⟩ := follow_part rfl hframe h rest
  have hencode : (Ty.array t).encode rs ++ behind =
      bigEndian 32 rs.length ++ (Part.assemble (rs.map t.part) ++ behind) :=
    List.append_assoc _ _ _
  rw [hencode] at hfollow hlength
  -- The number of items is small, since none of them is empty.
  have hroomy := length_mul_room_le t rs
  have hcount : rs.length ≤ rs.length * t.room := Nat.le_mul_of_pos_right _ hroom
  have hbehind : (Part.assemble (rs.map t.part) ++ behind).length < 2 ^ 63 := by
    rw [List.length_append] at hlength
    omega
  have hreserve : reserve (rs.length * t.room)
      (Part.assemble (rs.map t.part) ++ behind).length = .ok () :=
    reserve_of_le (by rw [List.length_append]; omega) hbehind
  have hsmall : rs.length < 2 ^ 64 := by
    rw [List.length_append] at hbehind
    omega
  have hitems := readMany_parts ht rs hbehind _ (Part.tails (rs.map t.part) ++ behind)
    (standsAt_tails _ behind)
  rw [← List.append_assoc, ← Part.assemble] at hitems
  exact read_array hfollow (readSize_append hsmall _) hreserve hitems

theorem readsParts_tuple {fs : Fields} (hfs : fs.ReadsParts) : (Ty.tuple fs).ReadsParts := by
  intro rs frame offset rest hframe h
  cases hdynamic : fs.isDynamic with
  | true =>
      obtain ⟨behind, hfollow, hlength⟩ := follow_part (t := .tuple fs) hdynamic hframe h rest
      obtain ⟨left, hread⟩ := fs.read_assemble hfs rs behind hlength
      exact read_tuple_of_isDynamic hdynamic hfollow hread
  | false =>
      -- Everything stands in the head, so that the offset does not matter.
      obtain ⟨htails, hheads⟩ :=
        Part.assemble_of_inHead (fs.parts_inHead hdynamic rs) frame.length
      have hhead : Part.heads offset [(Ty.tuple fs).part rs] =
          Part.heads frame.length (fs.parts rs) := by
        rw [Ty.part_of_not_isDynamic (t := .tuple fs) hdynamic, ← hheads]
        exact List.append_nil _
      rw [read_tuple_of_not_isDynamic hdynamic, hhead]
      exact hfs rs frame _ rest hframe (htails ▸ standsAt_end frame)

theorem readsParts_nil : Fields.nil.ReadsParts := fun _ _ _ _ _ _ => rfl

theorem readsParts_cons {t : Ty} {fs : Fields} (ht : t.ReadsParts) (hfs : fs.ReadsParts) :
    (Fields.cons t fs).ReadsParts := by
  rintro ⟨r, rs⟩ frame offset rest hframe h
  rw [Fields.parts_cons, Part.tails_cons] at h
  obtain ⟨hfirst, hrest⟩ := h.split
  rw [Fields.parts_cons, Part.heads_cons, List.append_assoc, Fields.read,
    ht r frame offset _ hframe hfirst]
  show (fs.read frame _ >>= _) = _
  rw [hfs rs frame _ _ hframe hrest]
  rfl

mutual

theorem Ty.readsParts : (t : Ty) → t.isSound = true → t.ReadsParts
  | .uint _, _ | .address, _ | .bytes32, _ =>
      readsParts_word rfl (fun r => r) (fun _ => rfl) fun r _ rest => readWord_append r rest
  | .bytes, _ => readsParts_bytes
  | .string, _ => readsParts_bytes
  | .array t, h => by
      obtain ⟨hroom, ht⟩ : 0 < t.room ∧ t.isSound = true := by simpa [Ty.isSound] using h
      exact readsParts_array hroom (t.readsParts ht)
  | .tuple fs, h => readsParts_tuple (fs.readsParts h)

theorem Fields.readsParts : (fs : Fields) → fs.isSound = true → fs.ReadsParts
  | .nil, _ => readsParts_nil
  | .cons t fs, h => by
      obtain ⟨ht, hfs⟩ : t.isSound = true ∧ fs.isSound = true := by
        simpa [Fields.isSound] using h
      exact readsParts_cons (t.readsParts ht) (fs.readsParts hfs)

end

/-! ## Values -/

theorem narrow?_ofNat {width : Nat} (hwidth : width ≤ 256) (n : BitVec width) :
    narrow? width (BitVec.ofNat 256 n.toNat) = some n := by
  have hpow : 2 ^ width ≤ 2 ^ 256 := Nat.pow_le_pow_right (by decide) hwidth
  have hfits : (BitVec.ofNat 256 n.toNat).toNat = n.toNat :=
    Nat.mod_eq_of_lt (Nat.lt_of_lt_of_le n.isLt hpow)
  have hlt : n.toNat < Nat.pow 2 width := n.isLt
  rw [narrow?, hfits, if_pos hlt, BitVec.ofNat_toNat, BitVec.setWidth_eq]

theorem mapM_value? {t : Ty} (ht : ∀ v, t.value? (t.raw v) = some v) (vs : List t.Value) :
    (vs.map t.raw).mapM t.value? = some vs := by
  induction vs with
  | nil => rfl
  | cons v vs ih =>
      rw [List.map_cons, List.mapM_cons, ht, ih]
      rfl

mutual

/-- A value can be told from its raw form. -/
theorem Ty.value?_raw : (t : Ty) → t.isSound = true → (v : t.Value) → t.value? (t.raw v) = some v
  | .uint width, h, n => narrow?_ofNat (by simpa [Ty.isSound] using h) n
  | .address, _, a => narrow?_ofNat (by decide) a
  | .bytes32, _, _ => rfl
  | .bytes, _, _ => rfl
  | .string, _, s => congrArg Except.toOption (Utf8.decode_encode s)
  | .array t, h, vs => by
      have ht : t.isSound = true := (Bool.and_eq_true_iff.1 h).2
      exact mapM_value? (t.value?_raw ht) vs
  | .tuple fs, h, vs => fs.value?_raw h vs

theorem Fields.value?_raw : (fs : Fields) → fs.isSound = true → (vs : fs.Value) →
    fs.value? (fs.raw vs) = some vs
  | .nil, _, () => rfl
  | .cons t fs, h, (v, vs) => by
      obtain ⟨ht, hfs⟩ : t.isSound = true ∧ fs.isSound = true := by
        simpa [Fields.isSound] using h
      show (t.value? (t.raw v) >>= fun v => fs.value? (fs.raw vs) >>= fun vs => some (v, vs)) = _
      rw [t.value?_raw ht v, fs.value?_raw hfs vs]
      rfl

end

/-! ## Records -/

/-- A record of a sound type is read back from its bytes, and none of them is left out. -/
theorem decode_encode {fs : Fields} (hfs : fs.isSound = true) (name : String) (vs : fs.Value)
    (hlength : (encode fs vs).length < 2 ^ 63) : decode name fs (encode fs vs) = .ok vs := by
  have hencode : Part.assemble (fs.parts (fs.raw vs)) ++ [] = encode fs vs := List.append_nil _
  -- Nothing follows the record, and it is written again as it was.
  obtain ⟨left, hread⟩ :=
    fs.read_assemble (fs.readsParts hfs) (fs.raw vs) [] (by rwa [hencode])
  rw [hencode] at hread
  have hagain : ¬fs.encodeRaw (fs.raw vs) ≠ encode fs vs := fun h => h rfl
  rw [decode, hread]
  show (if fs.encodeRaw (fs.raw vs) ≠ encode fs vs then _ else _) = _
  simp only [if_neg hagain, fs.value?_raw hfs vs]
  rfl

/-- Two records of a sound type are not written alike. -/
theorem eq_of_encode_eq (fs : Fields) (hfs : fs.isSound = true) {vs vs' : fs.Value}
    (hlength : (encode fs vs).length < 2 ^ 63) (h : encode fs vs = encode fs vs') : vs = vs' := by
  have hread := decode_encode hfs "" vs hlength
  have hread' := decode_encode hfs "" vs' (h ▸ hlength)
  rw [h, hread'] at hread
  exact (Except.ok.inj hread).symm

end TokenBridge.Abi
