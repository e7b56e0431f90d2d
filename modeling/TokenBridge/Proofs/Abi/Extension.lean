import TokenBridge.Proofs.Abi.RoundTrip

set_option autoImplicit false

/-! # Bytes behind a record

What is read from some bytes is read from them whatever stands behind (`Fields.readsOn`). So a
record with more bytes behind it is read to its end, and is then refused since it would not be
written so (`decode_append`); and no part from the start of a record is a record
(`exists_decode_eq_error`).
-/

namespace TokenBridge.Abi

/-! ## Readers -/

section Readers

variable {frame bs word body rest : Bytes} {n : Nat} {w : Word}

theorem eq_append_of_takeWord (h : takeWord bs = .ok (word, rest)) :
    word.length = 32 ∧ bs = word ++ rest := by
  by_cases hshort : (bs.take 32).length < 32
  · rw [takeWord, if_pos hshort] at h
    cases h
  · rw [takeWord, if_neg hshort] at h
    obtain ⟨rfl, rfl⟩ := Prod.mk.inj (Except.ok.inj h)
    have hlength : (bs.take 32).length ≤ 32 := List.length_take_le 32 bs
    exact ⟨by omega, (List.take_append_drop 32 bs).symm⟩

theorem takeWord_more (h : takeWord bs = .ok (word, rest)) (more : Bytes) :
    takeWord (bs ++ more) = .ok (word, rest ++ more) := by
  obtain ⟨hword, rfl⟩ := eq_append_of_takeWord h
  rw [List.append_assoc, takeWord_append hword]

theorem readWord_more (h : readWord bs = .ok (w, rest)) (more : Bytes) :
    readWord (bs ++ more) = .ok (w, rest ++ more) := by
  obtain ⟨⟨word, rest'⟩, hword, h⟩ := Outcome.bind_eq_ok.1 h
  obtain ⟨rfl, rfl⟩ := Prod.mk.inj (Except.ok.inj h)
  exact Outcome.bind_eq_ok.2 ⟨_, takeWord_more hword more, rfl⟩

theorem readSize_more (h : readSize bs = .ok (n, rest)) (more : Bytes) :
    readSize (bs ++ more) = .ok (n, rest ++ more) := by
  obtain ⟨⟨word, rest'⟩, hword, h⟩ := Outcome.bind_eq_ok.1 h
  refine Outcome.bind_eq_ok.2 ⟨_, takeWord_more hword more, ?_⟩
  dsimp only at h ⊢
  by_cases hzeros : (word.take 24).all (· = 0) = true
  · rw [if_pos hzeros] at h ⊢
    obtain ⟨rfl, rfl⟩ := Prod.mk.inj (Except.ok.inj h)
    rfl
  · rw [if_neg hzeros] at h
    cases h

/-- An offset leads to the same place, since it is counted from the start of the frame. -/
theorem follow_more (h : follow frame bs = .ok (body, rest)) (more : Bytes) :
    follow (frame ++ more) (bs ++ more) = .ok (body ++ more, rest ++ more) := by
  obtain ⟨⟨offset, rest'⟩, hoffset, h⟩ := Outcome.bind_eq_ok.1 h
  refine Outcome.bind_eq_ok.2 ⟨_, readSize_more hoffset more, ?_⟩
  dsimp only at h ⊢
  by_cases hout : frame.length < offset
  · rw [if_pos hout] at h
    cases h
  · rw [if_neg hout] at h
    obtain ⟨rfl, rfl⟩ := Prod.mk.inj (Except.ok.inj h)
    have hle : offset ≤ frame.length := Nat.not_lt.1 hout
    have hin : ¬(frame ++ more).length < offset := by
      rw [List.length_append]
      omega
    rw [if_neg hin, List.drop_append_of_le_length hle]
    rfl

theorem readPacked_more {packed : Bytes} (h : readPacked bs = .ok packed) (more : Bytes) :
    readPacked (bs ++ more) = .ok packed := by
  obtain ⟨⟨length, rest'⟩, hlength, h⟩ := Outcome.bind_eq_ok.1 h
  refine Outcome.bind_eq_ok.2 ⟨_, readSize_more hlength more, ?_⟩
  dsimp only at h ⊢
  by_cases hout : rest'.length < length
  · rw [if_pos hout] at h
    cases h
  · rw [if_neg hout] at h
    obtain rfl := Except.ok.inj h
    have hle : length ≤ rest'.length := Nat.not_lt.1 hout
    have hin : ¬(rest' ++ more).length < length := by
      rw [List.length_append]
      omega
    rw [if_neg hin, List.take_append_of_le_length hle]
    rfl

/-- More bytes leave no less room. -/
theorem reserve_more {room available available' : Nat} (h : reserve room available = .ok ())
    (hle : available ≤ available') : reserve room available' = .ok () := by
  unfold reserve at h ⊢
  by_cases hmany : Nat.pow 2 63 ≤ room
  · rw [if_pos hmany] at h
    cases h
  · rw [if_neg hmany] at h ⊢
    by_cases hfull : memory + available < room
    · rw [if_pos hfull] at h
      cases h
    · exact if_neg (by omega)

theorem readMany_more {α : Type} {read read' : Bytes → Except Fault (α × Bytes)} {more : Bytes}
    (hread : ∀ bs a rest, read bs = .ok (a, rest) → read' (bs ++ more) = .ok (a, rest ++ more))
    {items : List α} (h : readMany read n bs = .ok (items, rest)) :
    readMany read' n (bs ++ more) = .ok (items, rest ++ more) := by
  induction n generalizing bs items with
  | zero =>
      obtain ⟨rfl, rfl⟩ := Prod.mk.inj (Except.ok.inj h)
      rfl
  | succ n ih =>
      obtain ⟨⟨item, bs'⟩, hitem, h⟩ := Outcome.bind_eq_ok.1 h
      obtain ⟨⟨others, bs''⟩, hothers, h⟩ := Outcome.bind_eq_ok.1 h
      obtain ⟨rfl, rfl⟩ := Prod.mk.inj (Except.ok.inj h)
      exact Outcome.bind_eq_ok.2
        ⟨_, hread _ _ _ hitem, Outcome.bind_eq_ok.2 ⟨_, ih hothers, rfl⟩⟩

end Readers

/-! ## Raw forms -/

/-- What is read of the type is read as well when more bytes stand behind. -/
def Ty.ReadsOn (t : Ty) : Prop :=
  ∀ (frame bs : Bytes) (r : t.Raw) (rest more : Bytes), t.read frame bs = .ok (r, rest) →
    t.read (frame ++ more) (bs ++ more) = .ok (r, rest ++ more)

def Fields.ReadsOn (fs : Fields) : Prop :=
  ∀ (frame bs : Bytes) (rs : fs.Raw) (rest more : Bytes), fs.read frame bs = .ok (rs, rest) →
    fs.read (frame ++ more) (bs ++ more) = .ok (rs, rest ++ more)

theorem readsOn_bytes : Ty.bytes.ReadsOn := by
  intro frame bs r rest more h
  obtain ⟨⟨body, rest'⟩, hfollow, h⟩ := Outcome.bind_eq_ok.1 h
  obtain ⟨packed, hpacked, h⟩ := Outcome.bind_eq_ok.1 h
  obtain ⟨rfl, rfl⟩ := Prod.mk.inj (Except.ok.inj h)
  exact read_bytes (follow_more hfollow more) (readPacked_more hpacked more)

theorem readsOn_array {t : Ty} (ht : t.ReadsOn) : (Ty.array t).ReadsOn := by
  intro frame bs r rest more h
  obtain ⟨⟨body, rest'⟩, hfollow, h⟩ := Outcome.bind_eq_ok.1 h
  obtain ⟨⟨count, items⟩, hcount, h⟩ := Outcome.bind_eq_ok.1 h
  obtain ⟨⟨⟩, hroom, h⟩ := Outcome.bind_eq_ok.1 h
  obtain ⟨⟨rs, left⟩, hitems, h⟩ := Outcome.bind_eq_ok.1 h
  obtain ⟨rfl, rfl⟩ := Prod.mk.inj (Except.ok.inj h)
  have hroomier : reserve (count * t.room) (items ++ more).length = .ok () :=
    reserve_more hroom (by rw [List.length_append]; omega)
  exact read_array (follow_more hfollow more) (readSize_more hcount more) hroomier
    (readMany_more (fun bs r rest => ht items bs r rest more) hitems)

theorem readsOn_tuple {fs : Fields} (hfs : fs.ReadsOn) : (Ty.tuple fs).ReadsOn := by
  intro frame bs rs rest more h
  cases hdynamic : fs.isDynamic with
  | true =>
      rw [read_tuple, if_pos hdynamic] at h
      obtain ⟨⟨body, rest'⟩, hfollow, h⟩ := Outcome.bind_eq_ok.1 h
      obtain ⟨⟨items, left⟩, hitems, h⟩ := Outcome.bind_eq_ok.1 h
      obtain ⟨rfl, rfl⟩ := Prod.mk.inj (Except.ok.inj h)
      exact read_tuple_of_isDynamic hdynamic (follow_more hfollow more)
        (hfs body body items left more hitems)
  | false =>
      rw [read_tuple_of_not_isDynamic hdynamic] at h ⊢
      exact hfs frame bs rs rest more h

theorem readsOn_cons {t : Ty} {fs : Fields} (ht : t.ReadsOn) (hfs : fs.ReadsOn) :
    (Fields.cons t fs).ReadsOn := by
  intro frame bs rs rest more h
  obtain ⟨⟨r, bs'⟩, hr, h⟩ := Outcome.bind_eq_ok.1 h
  obtain ⟨⟨others, bs''⟩, hothers, h⟩ := Outcome.bind_eq_ok.1 h
  obtain ⟨rfl, rfl⟩ := Prod.mk.inj (Except.ok.inj h)
  exact Outcome.bind_eq_ok.2 ⟨_, ht frame bs r bs' more hr,
    Outcome.bind_eq_ok.2 ⟨_, hfs frame bs' others bs'' more hothers, rfl⟩⟩

mutual

theorem Ty.readsOn : (t : Ty) → t.ReadsOn
  | .uint _ | .address | .bytes32 => fun _ _ _ _ more h => readWord_more h more
  | .bytes | .string => readsOn_bytes
  | .array t => readsOn_array t.readsOn
  | .tuple fs => readsOn_tuple fs.readsOn

theorem Fields.readsOn : (fs : Fields) → fs.ReadsOn
  | .nil => by
      intro frame bs rs rest more h
      obtain ⟨-, rfl⟩ := Prod.mk.inj (Except.ok.inj h)
      rfl
  | .cons t fs => readsOn_cons t.readsOn fs.readsOn

end

/-! ## Records -/

variable {name : String} {fs : Fields} {bs : Bytes} {vs : fs.Value}

/-- A record with more bytes behind it is read, but it is not what would be written. -/
theorem decode_append (h : decode name fs bs = .ok vs) {more : Bytes} (hmore : more ≠ []) :
    decode name fs (bs ++ more) = .error .notCanonical := by
  obtain ⟨⟨raw, rest⟩, hread, h⟩ := Outcome.bind_eq_ok.1 h
  dsimp only at h
  have hagain : fs.encodeRaw raw = bs := by
    by_contra hne
    rw [if_pos hne] at h
    cases h
  have hdiffers : fs.encodeRaw raw ≠ bs ++ more := by
    intro heq
    exact hmore (List.append_right_eq_self.1 (heq.symm.trans hagain))
  rw [decode, fs.readsOn bs bs raw rest more hread]
  exact if_pos hdiffers

/-- A record is no longer one when some bytes are missing at its end. -/
theorem exists_decode_eq_error (h : decode name fs bs = .ok vs) {cut : Bytes} (hcut : cut <+: bs)
    (hne : cut ≠ bs) : ∃ f, decode name fs cut = .error f := by
  obtain ⟨missing, rfl⟩ := hcut
  have hmissing : missing ≠ [] := by
    rintro rfl
    exact hne (List.append_nil cut).symm
  cases hdecode : decode name fs cut with
  | error f => exact ⟨f, rfl⟩
  | ok vs' =>
      -- What is missing would stand behind a record.
      have hwhole := decode_append hdecode hmissing
      rw [h] at hwhole
      cases hwhole

end TokenBridge.Abi
