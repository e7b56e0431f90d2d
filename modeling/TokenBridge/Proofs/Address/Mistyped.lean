import TokenBridge.Proofs.Address.Cosmos

set_option autoImplicit false

/-! # A mistyped address is caught

What one wrong symbol leaves in the register is decided by the difference to the right one and by
the number of symbols that follow (`residue_xor_of_replaced`). In an address, however long, it is
never nothing, and never what tells the two checksum constants apart. So no address turns into
another one by one wrong character behind its readable part (`decode_of_mistyped`).
-/

namespace TokenBridge

namespace Bech32

/-! ## One wrong symbol -/

/-- What a difference between two registers has become after `n` more symbols, which are the same
for both. -/
def drift : Nat → BitVec 30 → BitVec 30
  | 0, x => x
  | n + 1, x => drift n (step x 0)

theorem foldl_step_xor (x y : BitVec 30) (symbols : List Symbol) :
    symbols.foldl step x ^^^ symbols.foldl step y = drift symbols.length (x ^^^ y) := by
  induction symbols generalizing x y with
  | nil => rfl
  | cons s symbols ih =>
      have hstep : step x s ^^^ step y s = step (x ^^^ y) 0 := by
        rw [← step_xor, BitVec.xor_self]
        rfl
      rw [List.foldl_cons, List.foldl_cons, ih, hstep]
      rfl

/-- One symbol in place of another one changes the residue by what has become of their
difference. -/
theorem residue_xor_of_replaced (before after : List Symbol) (x y : Symbol) :
    residue (before ++ x :: after) ^^^ residue (before ++ y :: after) =
      drift after.length (step 0 (x ^^^ y)) := by
  have hstep (r : BitVec 30) : step r x ^^^ step r y = step 0 (x ^^^ y) := by
    rw [← step_xor, BitVec.xor_self]
    rfl
  rw [residue, residue, List.foldl_append, List.foldl_append, List.foldl_cons, List.foldl_cons,
    foldl_step_xor, hstep]

/-! ## Differences that would not be noticed -/

/-- By what two residues differ if both are those of a text without errors. -/
def confusions : List (BitVec 30) := residues.flatMap fun x => residues.map fun y => x ^^^ y

/-- None of the next `n` symbols turns the difference into one that would not be noticed. -/
def avoids : Nat → BitVec 30 → Bool
  | 0, _ => true
  | n + 1, x => !confusions.contains x && avoids n (step x 0)

theorem drift_notMem_confusions {n m : Nat} {x : BitVec 30} (h : avoids n x = true) (hm : m < n) :
    drift m x ∉ confusions := by
  induction n generalizing m x with
  | zero => exact absurd hm (Nat.not_lt_zero m)
  | succ n ih =>
      obtain ⟨hfirst, hrest⟩ := Bool.and_eq_true_iff.1 h
      cases m with
      | zero =>
          intro hmem
          rw [show confusions.contains x = true from List.contains_iff_mem.2 hmem] at hfirst
          cases hfirst
      | succ m =>
          show drift m (step x 0) ∉ confusions
          exact ih hrest (Nat.lt_of_succ_lt_succ hm)

/-- The number of symbols of the longest address, its checksum among them. -/
def longest : Nat := 58

/-- The 31 differences of two symbols, followed over the longest address. -/
theorem avoids_step : ∀ n < 32, n ≠ 0 → avoids longest (step 0 (BitVec.ofNat 5 n)) = true := by
  decide +kernel

theorem drift_step_notMem_confusions {z : Symbol} (hz : z ≠ 0) {n : Nat} (hn : n < longest) :
    drift n (step 0 z) ∉ confusions := by
  have hne : z.toNat ≠ 0 := fun h => hz (BitVec.eq_of_toNat_eq h)
  have havoids := avoids_step z.toNat z.isLt hne
  rw [BitVec.ofNat_toNat, BitVec.setWidth_eq] at havoids
  exact drift_notMem_confusions havoids hn

/-- No checksum, of either kind, is right for a text and for another one with one wrong symbol. -/
theorem checks_of_replaced {hrp : List Char} {before after : List Symbol} {x y : Symbol}
    (hne : x ≠ y) (hfew : after.length < longest)
    (h : checks hrp (before ++ x :: after) = true) : checks hrp (before ++ y :: after) = false := by
  rw [Bool.eq_false_iff]
  intro hy
  -- If both were right, their residues would differ by what tells two constants apart.
  have hdrift : drift after.length (step 0 (x ^^^ y)) ∈ confusions := by
    rw [← residue_xor_of_replaced (expand hrp ++ before) after x y, List.append_assoc,
      List.append_assoc]
    exact List.mem_flatMap.2 ⟨_, List.contains_iff_mem.1 h,
      List.mem_map.2 ⟨_, List.contains_iff_mem.1 hy, rfl⟩⟩
  refine drift_step_notMem_confusions ?_ hfew hdrift
  exact fun hzero => hne (BitVec.xor_eq_zero_iff.1 hzero)

/-! ## Texts -/

theorem splitLast_append {readable data : List Char} (h : '1' ∉ data) :
    splitLast (readable ++ '1' :: data) = some (readable, data) := by
  have hdata : ∀ c ∈ data.reverse, decide (c ≠ '1') = true := by
    intro c hc
    refine decide_eq_true fun heq => h ?_
    rw [← heq]
    exact List.mem_reverse.1 hc
  have hreverse : (readable ++ '1' :: data).reverse = data.reverse ++ '1' :: readable.reverse := by
    simp
  rw [splitLast, hreverse, List.span_eq_takeWhile_dropWhile,
    List.takeWhile_append_of_pos hdata, List.dropWhile_append_of_pos hdata]
  simp

theorem ascii_of_symbol? {c : Char} {x : Symbol} (h : symbol? c = some x) : c.toNat < 128 := by
  obtain ⟨i, hi, -⟩ := Option.map_eq_some_iff.1 h
  obtain ⟨hilt, hci, -⟩ := List.findIdx?_eq_some_iff_getElem.1 hi
  have halphabet : (alphabet.all fun a => a.toNat < 128) = true := by decide
  refine Hex.toNat_lt_of_toLower ?_
  rw [← of_decide_eq_true hci]
  exact of_decide_eq_true (List.all_eq_true.1 halphabet _ (List.getElem_mem hilt))

theorem joinCase_cases (seen : Option LetterCase) (c : Char) :
    (∃ k, joinCase seen c = .ok k) ∨ joinCase seen c = .error .mixedCase := by
  unfold joinCase
  split
  · exact .inl ⟨_, rfl⟩
  · exact .inl ⟨_, rfl⟩
  · split
    · exact .inl ⟨_, rfl⟩
    · exact .inr rfl

/-- Characters that all stand for symbols are read as these, unless their cases differ. -/
theorem readSymbols_of_symbols {cs : List Char} {symbols : List Symbol}
    (h : List.Forall₂ (fun c x => symbol? c = some x) cs symbols) (seen : Option LetterCase) :
    readSymbols seen cs = .ok symbols ∨ readSymbols seen cs = .error .mixedCase := by
  induction h generalizing seen with
  | nil => exact .inl rfl
  | @cons c x cs symbols hc _ ih =>
      rw [readSymbols, if_pos (ascii_of_symbol? hc)]
      rcases joinCase_cases seen c with ⟨k, hk⟩ | hmixed
      · rw [hk, hc]
        rcases ih k with hrest | hrest
        · left
          show (readSymbols k cs >>= _) = _
          rw [hrest]
          rfl
        · right
          show (readSymbols k cs >>= _) = _
          rw [hrest]
          rfl
      · right
        rw [hmixed]
        rfl

/-- A wrong checksum is found if the letters are of one case. -/
theorem decode_of_not_checks {s : String} {readable data : List Char} {seen : Option LetterCase}
    {symbols : List Symbol} (hsplit : splitLast s.toList = some (readable, data))
    (hsize : HasSize readable)
    (hseen : checkReadable none (Utf8.encode (String.ofList readable)) = .ok seen)
    (hsymbols : List.Forall₂ (fun c x => symbol? c = some x) data symbols)
    (hsix : 6 ≤ symbols.length) (hchecks : checks (readable.map Char.toLower) symbols = false) :
    decode s = .error .mixedCase ∨ decode s = .error .invalidChecksum := by
  rcases readSymbols_of_symbols hsymbols seen with hread | hmixed
  · right
    rw [decode_of_parts hsplit hsize hseen hread hsix, hchecks]
    rfl
  · left
    rw [decode, hsplit]
    dsimp only
    rw [if_neg hsize, hseen]
    show (readSymbols seen data >>= _) = _
    rw [hmixed]
    rfl

/-- In `t` one character behind the last separator of `s` has given way to one that stands for
another symbol. -/
def Mistyped (s t : String) : Prop :=
  ∃ readable before after c c' x, s.toList = readable ++ '1' :: (before ++ c :: after) ∧
    '1' ∉ before ++ c :: after ∧ t.toList = readable ++ '1' :: (before ++ c' :: after) ∧
    symbol? c' = some x ∧ symbol? c ≠ some x

theorem symbol?_one : symbol? '1' = none := by decide

theorem Mistyped.decode {s t : String} {d : Decoded} (h : Mistyped s t)
    (hs : decode s = .ok d) (hfew : d.symbols.length + 6 ≤ longest) :
    Bech32.decode t = .error .mixedCase ∨ Bech32.decode t = .error .invalidChecksum := by
  obtain ⟨readable, before, after, c, c', x', hstext, hone, httext, hc', hne⟩ := h
  obtain ⟨readable', data, seen, symbols, hsplit, hsize, hseen, hsymbols, hsix, hchecks, rfl⟩ :=
    decode_eq_ok_iff.1 hs
  rw [hstext, splitLast_append hone] at hsplit
  obtain ⟨rfl, rfl⟩ := Prod.mk.inj (Option.some.inj hsplit)
  obtain ⟨-, -, -, -, hall⟩ := readSymbols_eq_ok hsymbols
  -- The symbols in front of the wrong one, the one in its place, and those behind it.
  obtain ⟨front, rest, rfl, hfront, hrest⟩ := Outcome.exists_append_of_forall₂ hall
  obtain ⟨x, back, hx, hback, rfl⟩ := List.forall₂_cons_left_iff.1 hrest
  have hxx' : x ≠ x' := fun heq => hne (heq ▸ hx)
  have hone' : '1' ∉ before ++ c' :: after := by
    have hc'one : '1' ≠ c' := by
      rintro rfl
      cases symbol?_one.symm.trans hc'
    simp only [List.mem_append, List.mem_cons, not_or] at hone ⊢
    exact ⟨hone.1, hc'one, hone.2.2⟩
  have hlength : (front ++ x' :: back).length = (front ++ x :: back).length := by
    rw [List.length_append, List.length_append, List.length_cons, List.length_cons]
  have hafter : back.length < longest := by
    rw [List.length_take, List.length_append, List.length_cons] at hfew
    rw [List.length_append, List.length_cons] at hsix
    omega
  refine decode_of_not_checks (httext ▸ splitLast_append hone') hsize hseen
    (List.rel_append hfront (.cons hc' hback)) (hlength ▸ hsix) ?_
  exact checks_of_replaced hxx' hafter hchecks

end Bech32

namespace CosmosAddress

open Bech32 (Mistyped longest)

theorem decode_of_error {t : String} {f : Bech32.Fault} (h : Bech32.decode t = .error f) :
    decode t = .error (.badText f) := by
  rw [decode, h]

/-- With its checksum an address has at most so many symbols. -/
theorem length_symbols_le {s : String} {d : Decoded} (h : decode s = .ok d) {b : Bech32.Decoded}
    (hb : Bech32.decode s = .ok b) : b.symbols.length + 6 ≤ longest := by
  rw [decode, hb] at h
  dsimp only at h
  split at h
  · cases h
  · next payload hpayload =>
      have hlength := Bech32.length_regroup (by decide) hpayload
      split at h
      · next hsize =>
          have hlongest : longest = 58 := rfl
          omega
      · cases h

/-- An address with one wrong character behind its readable part is refused: letters of both cases
stand in it now, or its checksum is wrong, whichever of the two constants it was made with. -/
theorem decode_of_mistyped {s t : String} {d : Decoded} (hs : decode s = .ok d)
    (ht : Mistyped s t) :
    decode t = .error (.badText .mixedCase) ∨ decode t = .error (.badText .invalidChecksum) := by
  obtain ⟨b, hb, -, -⟩ := decode_eq_ok hs
  rcases ht.decode hb (length_symbols_le hs hb) with hmixed | hchecksum
  · exact .inl (decode_of_error hmixed)
  · exact .inr (decode_of_error hchecksum)

/-! ## A sample

The last character of an account is another one.
-/

def sampleMistyped : String := "union1qypqxpq9qcrsszg2pvxq6rs0zqg3yyc544dkgq"

theorem mistyped_sample : Mistyped sampleLower sampleMistyped :=
  ⟨"union".toList, "qypqxpq9qcrsszg2pvxq6rs0zqg3yyc544dkg".toList, [], 'd', 'q', 0, by decide,
    by decide, by decide, by decide, by decide⟩

theorem decode_sampleMistyped :
    decode sampleLower = .ok sampleAccount ∧ Mistyped sampleLower sampleMistyped ∧
      (decode sampleMistyped = .error (.badText .mixedCase) ∨
        decode sampleMistyped = .error (.badText .invalidChecksum)) :=
  ⟨decode_sampleLower, mistyped_sample, decode_of_mistyped decode_sampleLower mistyped_sample⟩

end CosmosAddress
end TokenBridge
