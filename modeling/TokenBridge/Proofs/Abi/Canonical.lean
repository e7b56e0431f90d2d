import TokenBridge.Proofs.Abi.RoundTrip

set_option autoImplicit false

/-! # Only what is written is read

The record that comes out of some bytes is written as just these bytes (`encode_of_decode`). Reading
itself follows offsets wherever they lead, but the raw form is written again and compared, and it is
the only raw form of the value.
-/

namespace TokenBridge.Abi

theorem ofNat_of_narrow? {width : Nat} {w : Word} {n : BitVec width}
    (h : narrow? width w = some n) : BitVec.ofNat 256 n.toNat = w := by
  rw [narrow?] at h
  split at h
  · next hfits =>
      cases h
      have hmod : w.toNat % 2 ^ width = w.toNat := Nat.mod_eq_of_lt hfits
      rw [BitVec.toNat_ofNat, hmod, BitVec.ofNat_toNat, BitVec.setWidth_eq]
  · cases h

theorem map_raw_of_mapM {t : Ty} (ht : ∀ r v, t.value? r = some v → t.raw v = r) {rs : List t.Raw}
    {vs : List t.Value} (h : rs.mapM t.value? = some vs) : vs.map t.raw = rs := by
  induction rs generalizing vs with
  | nil =>
      cases h
      rfl
  | cons r rs ih =>
      rw [List.mapM_cons] at h
      obtain ⟨v, hv, h⟩ := Option.bind_eq_some_iff.1 h
      obtain ⟨others, hothers, h⟩ := Option.bind_eq_some_iff.1 h
      cases h
      rw [List.map_cons, ht r v hv, ih hothers]

mutual

/-- A value has one raw form. -/
theorem Ty.raw_of_value? : (t : Ty) → (r : t.Raw) → (v : t.Value) → t.value? r = some v →
    t.raw v = r
  | .uint _, _, _, h => ofNat_of_narrow? h
  | .address, _, _, h => ofNat_of_narrow? h
  | .bytes32, _, _, h => (Option.some.inj h).symm
  | .bytes, _, _, h => (Option.some.inj h).symm
  | .string, bs, s, h => by
      have hdecode : Utf8.decode bs = .ok s := by
        simp only [Ty.value?] at h
        cases hbs : Utf8.decode bs with
        | error e =>
            rw [hbs] at h
            cases h
        | ok s' =>
            rw [hbs] at h
            exact congrArg Except.ok (Option.some.inj h)
      exact Utf8.encode_of_decode hdecode
  | .array t, _, _, h => map_raw_of_mapM t.raw_of_value? h
  | .tuple fs, rs, vs, h => fs.raw_of_value? rs vs h

theorem Fields.raw_of_value? : (fs : Fields) → (rs : fs.Raw) → (vs : fs.Value) →
    fs.value? rs = some vs → fs.raw vs = rs
  | .nil, (), (), _ => rfl
  | .cons t fs, (r, rs), (v, vs), h => by
      obtain ⟨v', hv, h⟩ := Option.bind_eq_some_iff.1 h
      obtain ⟨vs', hvs, h⟩ := Option.bind_eq_some_iff.1 h
      cases h
      show (t.raw v, fs.raw vs) = (r, rs)
      rw [t.raw_of_value? r v hv, fs.raw_of_value? rs vs hvs]

end

/-- The bytes of a record are those that are written for it. -/
theorem encode_of_decode {name : String} {fs : Fields} {bs : Bytes} {vs : fs.Value}
    (h : decode name fs bs = .ok vs) : encode fs vs = bs := by
  obtain ⟨⟨raw, rest⟩, -, h⟩ := Outcome.bind_eq_ok.1 h
  dsimp only at h
  split at h
  · cases h
  · next hagain =>
      split at h
      · next vs' hvs =>
          cases h
          rw [encode, fs.raw_of_value? raw vs hvs]
          exact not_not.1 hagain
      · cases h

end TokenBridge.Abi
