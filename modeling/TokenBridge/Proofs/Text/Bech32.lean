import Mathlib.Algebra.Order.Group.Nat
import Mathlib.Data.List.Forall2
import Mathlib.Data.List.TakeDrop
import TokenBridge.Proofs.Outcome
import TokenBridge.Proofs.Text.Hex
import TokenBridge.Text.Bech32

set_option autoImplicit false

/-! # Texts that hold the same

A text that is read is told by what it holds, the case of its letters and the checksum constant with
which it was written (`Spelled.eq_of_spelled`). The register is linear, so that the six symbols of a
checksum can be read off it, and bytes are held by one list of symbols only.
-/

namespace TokenBridge

namespace Bech32

/-! ## The register -/

/-- What is mixed into the register by the generators in the chosen places. -/
def mixed (chosen : Nat → Bool) : List (BitVec 30 × Nat) → BitVec 30
  | [] => 0
  | (g, i) :: rest => (if chosen i then g else 0) ^^^ mixed chosen rest

theorem foldl_filter_eq (chosen : Nat → Bool) (places : List (BitVec 30 × Nat))
    (start : BitVec 30) :
    (places.filter fun (_, i) => chosen i).foldl (fun acc g => acc ^^^ g.1) start =
      start ^^^ mixed chosen places := by
  induction places generalizing start with
  | nil =>
      show start = start ^^^ 0#30
      rw [BitVec.xor_zero]
  | cons p rest ih =>
      obtain ⟨g, i⟩ := p
      rw [List.filter_cons, mixed]
      by_cases hi : chosen i
      · rw [if_pos hi, if_pos hi, List.foldl_cons, ih, BitVec.xor_assoc]
      · rw [if_neg hi, if_neg hi, ih]
        show _ = start ^^^ (0#30 ^^^ _)
        rw [BitVec.zero_xor]

theorem mixed_xor (p q : Nat → Bool) (places : List (BitVec 30 × Nat)) :
    mixed (fun i => p i ^^ q i) places = mixed p places ^^^ mixed q places := by
  induction places with
  | nil => exact BitVec.xor_self.symm
  | cons place rest ih =>
      obtain ⟨g, i⟩ := place
      have hplace : (if (p i ^^ q i) then g else 0) =
          (if p i then g else 0) ^^^ (if q i then g else 0) := by
        cases p i <;> cases q i <;> simp
      simp only [mixed]
      rw [hplace, ih]
      ac_rfl

theorem mixed_of_none {chosen : Nat → Bool} {places : List (BitVec 30 × Nat)}
    (h : ∀ p ∈ places, chosen p.2 = false) : mixed chosen places = 0 := by
  induction places with
  | nil => rfl
  | cons p rest ih =>
      obtain ⟨hp, hrest⟩ := List.forall_mem_cons.1 h
      rw [mixed, hp, ih hrest, if_neg Bool.false_ne_true]
      exact BitVec.xor_self

theorem step_eq (x : BitVec 30) (s : Symbol) :
    step x s = x <<< 5 ^^^ s.setWidth 30 ^^^
      mixed (fun i => x.getLsbD (25 + i)) generators.zipIdx :=
  foldl_filter_eq (fun i => x.getLsbD (25 + i)) _ _

/-- Registers and symbols can be laid over each other before a step as well as after it. -/
theorem step_xor (x y : BitVec 30) (s t : Symbol) :
    step (x ^^^ y) (s ^^^ t) = step x s ^^^ step y t := by
  have hmixed : mixed (fun i => (x ^^^ y).getLsbD (25 + i)) generators.zipIdx =
      mixed (fun i => x.getLsbD (25 + i)) generators.zipIdx ^^^
        mixed (fun i => y.getLsbD (25 + i)) generators.zipIdx := by
    simp only [BitVec.getLsbD_xor]
    exact mixed_xor _ _ _
  rw [step_eq, step_eq, step_eq, hmixed, BitVec.shiftLeft_xor_distrib, BitVec.setWidth_xor]
  ac_rfl

theorem mul_xor_of_lt (a : Nat) {b : Nat} (hb : b < 32) : a * 32 ^^^ b = a * 32 + b := by
  have hdiv : (a * 32 ^^^ b) / 2 ^ 5 = a := by
    rw [Nat.xor_div_two_pow, Nat.mul_div_cancel a (by decide), Nat.div_eq_of_lt hb, Nat.xor_zero]
  have hmod : (a * 32 ^^^ b) % 2 ^ 5 = b := by
    rw [Nat.xor_mod_two_pow, Nat.mul_mod_left, Nat.mod_eq_of_lt hb, Nat.zero_xor]
  omega

/-- As long as no bit leaves the register, a symbol is put behind what it holds. -/
theorem step_toNat {x : BitVec 30} (hx : x.toNat < 2 ^ 25) (s : Symbol) :
    (step x s).toNat = x.toNat * 32 + s.toNat := by
  have hnone : mixed (fun i => x.getLsbD (25 + i)) generators.zipIdx = 0#30 := by
    apply mixed_of_none
    intro p _
    have hpow : 2 ^ 25 ≤ 2 ^ (25 + p.2) := Nat.pow_le_pow_right (by decide) (by omega)
    exact Nat.testBit_lt_two_pow (Nat.lt_of_lt_of_le hx hpow)
  have hs : s.toNat < 32 := s.isLt
  have hshift : (x <<< 5).toNat = x.toNat * 32 := by
    rw [BitVec.toNat_shiftLeft, Nat.shiftLeft_eq, Nat.mod_eq_of_lt (by omega)]
  have hwide : (s.setWidth 30).toNat = s.toNat := by
    rw [BitVec.toNat_setWidth, Nat.mod_eq_of_lt (by omega)]
  calc (step x s).toNat
      = (x <<< 5 ^^^ s.setWidth 30).toNat := by rw [step_eq, hnone, BitVec.xor_zero]
    _ = x.toNat * 32 ^^^ s.toNat := by rw [BitVec.toNat_xor, hshift, hwide]
    _ = x.toNat * 32 + s.toNat := mul_xor_of_lt _ hs

/-- Up to six symbols can be read off the difference of two registers. -/
theorem eq_of_foldl_step {x y : BitVec 30} {cs ds : List Symbol} (hlength : cs.length = ds.length)
    (hfew : cs.length ≤ 6) (hxy : (x ^^^ y).toNat < 2 ^ (30 - 5 * cs.length))
    (h : cs.foldl step x = ds.foldl step y) : x = y ∧ cs = ds := by
  -- The bound on the difference leaves room for the symbols that are still to come, so that no bit
  -- of it leaves the register.
  induction cs generalizing x y ds with
  | nil =>
      cases ds with
      | nil => exact ⟨h, rfl⟩
      | cons d ds => cases hlength
  | cons c cs ih =>
      cases ds with
      | nil => cases hlength
      | cons d ds =>
          rw [List.length_cons, List.length_cons] at hlength
          rw [List.length_cons] at hfew hxy
          have hsmall : (x ^^^ y).toNat < 2 ^ 25 :=
            Nat.lt_of_lt_of_le hxy (Nat.pow_le_pow_right (by decide) (by omega))
          have hstep : (step x c ^^^ step y d).toNat = (x ^^^ y).toNat * 32 + (c ^^^ d).toNat := by
            rw [← step_xor, step_toNat hsmall]
          have hcd : (c ^^^ d).toNat < 32 := (c ^^^ d).isLt
          have hnext : (step x c ^^^ step y d).toNat < 2 ^ (30 - 5 * cs.length) := by
            have hpow : 2 ^ (30 - 5 * cs.length) = 2 ^ (30 - 5 * (cs.length + 1)) * 32 := by
              rw [show (32 : Nat) = 2 ^ 5 from rfl, ← Nat.pow_add]
              congr 1
              omega
            rw [hstep, hpow]
            omega
          obtain ⟨heq, rfl⟩ := ih (Nat.succ.inj hlength) (by omega) hnext h
          rw [heq, BitVec.xor_self] at hstep
          have hzero : (x ^^^ y).toNat = 0 ∧ (c ^^^ d).toNat = 0 := by
            have : (0#30).toNat = 0 := rfl
            omega
          have hx := BitVec.xor_eq_zero_iff.1 (BitVec.eq_of_toNat_eq hzero.1 : x ^^^ y = 0#30)
          have hc := BitVec.xor_eq_zero_iff.1 (BitVec.eq_of_toNat_eq hzero.2 : c ^^^ d = 0#5)
          rw [hx, hc]
          exact ⟨rfl, rfl⟩

/-- The six symbols of a checksum are told by what the register holds behind them. -/
theorem eq_of_residue {symbols cs ds : List Symbol} (hcs : cs.length = 6) (hds : ds.length = 6)
    (h : residue (symbols ++ cs) = residue (symbols ++ ds)) : cs = ds := by
  rw [residue, residue, List.foldl_append, List.foldl_append] at h
  refine (eq_of_foldl_step (hcs.trans hds.symm) (Nat.le_of_eq hcs) ?_ h).2
  rw [BitVec.xor_self, hcs]
  decide

/-! ## Bytes in symbols -/

/-- Fewer than five bits are left over, so that the number of bytes tells that of the symbols. -/
theorem length_regroup {bits acc : Nat} {xs : List Symbol} {bs : Bytes} (hbits : bits < 8)
    (h : regroup bits acc xs = some bs) :
    8 * bs.length ≤ bits + 5 * xs.length ∧ bits + 5 * xs.length < 8 * bs.length + 5 := by
  induction xs generalizing bits acc bs with
  | nil =>
      rw [regroup] at h
      split at h
      · next hend =>
          cases h
          simp only [List.length_nil]
          omega
      · cases h
  | cons x xs ih =>
      rw [regroup] at h
      dsimp only at h
      rw [List.length_cons]
      split at h
      · next hless =>
          have hrest := ih hless h
          omega
      · next hmore =>
          obtain ⟨rest, hrest, rfl⟩ := Option.map_eq_some_iff.1 h
          have hlength := ih (by omega) hrest
          rw [List.length_cons]
          omega

/-- A number is told by the byte in front of its last bits, and these bits. -/
theorem eq_of_byte {left m n : Nat} (hm : m < left * 256) (hn : n < left * 256)
    (hbyte : UInt8.ofNat (m / left) = UInt8.ofNat (n / left)) (hrest : m % left = n % left) :
    m = n := by
  have hdiv : m / left = n / left := by
    have hbytes := congrArg UInt8.toNat hbyte
    rwa [UInt8.toNat_ofNat', UInt8.toNat_ofNat', Nat.mod_eq_of_lt (Nat.div_lt_of_lt_mul hm),
      Nat.mod_eq_of_lt (Nat.div_lt_of_lt_mul hn)] at hbytes
  rw [← Nat.div_add_mod m left, hdiv, hrest, Nat.div_add_mod]

theorem regroup_inj {bits a b : Nat} {xs ys : List Symbol} {bs : Bytes} (hbits : bits < 8)
    (ha : a < 2 ^ bits) (hb : b < 2 ^ bits) (hlength : xs.length = ys.length)
    (hxs : regroup bits a xs = some bs) (hys : regroup bits b ys = some bs) : a = b ∧ xs = ys := by
  induction xs generalizing bits a b ys bs with
  | nil =>
      obtain rfl := List.length_eq_zero_iff.1 hlength.symm
      rw [regroup] at hxs hys
      split at hxs
      · next hx =>
          split at hys
          · next hy => exact ⟨hx.2.trans hy.2.symm, rfl⟩
          · cases hys
      · cases hxs
  | cons x xs ih =>
      cases ys with
      | nil => cases hlength
      | cons y ys =>
          have hlength : xs.length = ys.length := Nat.succ.inj hlength
          have hx : x.toNat < 32 := x.isLt
          have hy : y.toNat < 32 := y.isLt
          have hpow : 2 ^ (bits + 5) = 2 ^ bits * 32 := Nat.pow_add 2 bits 5
          -- What was left over and the symbol behind it can be told from what they make together.
          have hapart : a * 32 + x.toNat = b * 32 + y.toNat → a = b ∧ x = y :=
            fun heq => ⟨by omega, BitVec.eq_of_toNat_eq (by omega)⟩
          rw [regroup] at hxs hys
          dsimp only at hxs hys
          by_cases hless : bits + 5 < 8
          · rw [if_pos hless] at hxs hys
            obtain ⟨heq, rfl⟩ := ih hless (by omega) (by omega) hlength hxs hys
            obtain ⟨rfl, rfl⟩ := hapart heq
            exact ⟨rfl, rfl⟩
          · rw [if_neg hless] at hxs hys
            obtain ⟨rest, hrest, rfl⟩ := Option.map_eq_some_iff.1 hxs
            obtain ⟨rest', hrest', hsame⟩ := Option.map_eq_some_iff.1 hys
            obtain ⟨hbyte, rfl⟩ := List.cons.inj hsame
            have hpos : 0 < Nat.pow 2 (bits + 5 - 8) := Nat.two_pow_pos _
            have hleft : Nat.pow 2 (bits + 5 - 8) * 256 = 2 ^ (bits + 5) := by
              calc 2 ^ (bits + 5 - 8) * 2 ^ 8 = 2 ^ (bits + 5 - 8 + 8) := (Nat.pow_add _ _ _).symm
                _ = 2 ^ (bits + 5) := by rw [Nat.sub_add_cancel (Nat.not_lt.1 hless)]
            obtain ⟨hmod, rfl⟩ := ih (by omega) (Nat.mod_lt _ hpos) (Nat.mod_lt _ hpos) hlength
              hrest hrest'
            obtain ⟨rfl, rfl⟩ := hapart (eq_of_byte (by omega) (by omega) hbyte.symm hmod)
            exact ⟨rfl, rfl⟩

/-- Bytes are held by one list of symbols only. -/
theorem eq_of_payload? {xs ys : List Symbol} {bs : Bytes} (hxs : payload? xs = some bs)
    (hys : payload? ys = some bs) : xs = ys := by
  have hx := length_regroup (by decide) hxs
  have hy := length_regroup (by decide) hys
  exact (regroup_inj (by decide) (by decide) (by decide) (by omega) hxs hys).2

/-! ## Symbols and letters -/

theorem toLower_eq_of_symbol? {c d : Char} {s : Symbol} (hc : symbol? c = some s)
    (hd : symbol? d = some s) : c.toLower = d.toLower := by
  obtain ⟨i, hi, hs⟩ := Option.map_eq_some_iff.1 hc
  obtain ⟨j, hj, ht⟩ := Option.map_eq_some_iff.1 hd
  obtain ⟨hilt, hci, -⟩ := List.findIdx?_eq_some_iff_getElem.1 hi
  obtain ⟨hjlt, hdj, -⟩ := List.findIdx?_eq_some_iff_getElem.1 hj
  have hlength : alphabet.length = 32 := rfl
  have hsame : i = j := by
    have hnat := congrArg BitVec.toNat (hs.trans ht.symm)
    rw [BitVec.toNat_ofNat, BitVec.toNat_ofNat] at hnat
    omega
  subst hsame
  exact (of_decide_eq_true hci).symm.trans (of_decide_eq_true hdj)

/-- All letters are of that case. -/
def InCase (k : Option LetterCase) (cs : List Char) : Prop :=
  ∀ c ∈ cs, ∀ j, caseOf? c = some j → k = some j

theorem joinCase_eq_ok {seen k : Option LetterCase} {c : Char} (h : joinCase seen c = .ok k) :
    (∀ j, seen = some j → k = some j) ∧ ∀ j, caseOf? c = some j → k = some j := by
  unfold joinCase at h
  cases hc : caseOf? c with
  | none =>
      rw [hc] at h
      cases h
      exact ⟨fun _ hj => hj, fun _ hj => nomatch hj⟩
  | some j =>
      rw [hc] at h
      cases seen with
      | none =>
          cases h
          exact ⟨fun _ hj => (nomatch hj), fun _ hj => hj⟩
      | some i =>
          dsimp only at h
          split at h
          · next heq =>
              cases h
              exact ⟨fun _ hj => hj, fun _ hj => (congrArg some heq).trans hj⟩
          · cases h

theorem checkReadable_eq_ok {seen k : Option LetterCase} {bs : Bytes}
    (h : checkReadable seen bs = .ok k) :
    (∀ j, seen = some j → k = some j) ∧ (∀ b ∈ bs, b.toNat < 128) ∧
      InCase k (bs.map fun b => Char.ofNat b.toNat) := by
  induction bs generalizing seen with
  | nil =>
      cases h
      exact ⟨fun _ hj => hj, fun _ hb => (nomatch hb), fun _ hc => nomatch hc⟩
  | cons b bs ih =>
      rw [checkReadable] at h
      split at h
      · next hrange =>
          obtain ⟨next, hnext, hrest⟩ := Outcome.bind_eq_ok.1 h
          obtain ⟨hseen, hb⟩ := joinCase_eq_ok hnext
          obtain ⟨hkept, hascii, hcase⟩ := ih hrest
          have hle : b.toNat ≤ 126 := UInt8.le_iff_toNat_le.1 hrange.2
          refine ⟨fun j hj => hkept j (hseen j hj), ?_, ?_⟩
          · exact List.forall_mem_cons.2 ⟨by omega, hascii⟩
          · exact List.forall_mem_cons.2 ⟨fun j hj => hkept j (hb j hj), hcase⟩
      · cases h

theorem readSymbols_eq_ok {seen : Option LetterCase} {cs : List Char} {symbols : List Symbol}
    (h : readSymbols seen cs = .ok symbols) :
    ∃ k, (∀ j, seen = some j → k = some j) ∧ (∀ c ∈ cs, c.toNat < 128) ∧ InCase k cs ∧
      List.Forall₂ (fun c x => symbol? c = some x) cs symbols := by
  induction cs generalizing seen symbols with
  | nil =>
      cases h
      exact ⟨seen, fun _ hj => hj, fun _ hc => (nomatch hc), fun _ hc => (nomatch hc), .nil⟩
  | cons c cs ih =>
      rw [readSymbols] at h
      split at h
      · next hascii =>
          obtain ⟨next, hnext, h⟩ := Outcome.bind_eq_ok.1 h
          obtain ⟨hseen, hc⟩ := joinCase_eq_ok hnext
          split at h
          · cases h
          · next x hx =>
              obtain ⟨rest, hrest, h⟩ := Outcome.bind_eq_ok.1 h
              cases h
              obtain ⟨k, hkept, hall, hcase, hsymbols⟩ := ih hrest
              refine ⟨k, fun j hj => hkept j (hseen j hj), ?_, ?_, .cons hx hsymbols⟩
              · exact List.forall_mem_cons.2 ⟨hascii, hall⟩
              · exact List.forall_mem_cons.2 ⟨fun j hj => hkept j (hc j hj), hcase⟩
      · cases h

/-! ## Texts -/

theorem eq_append_of_splitLast {cs readable data : List Char}
    (h : splitLast cs = some (readable, data)) : cs = readable ++ '1' :: data := by
  rw [splitLast, List.span_eq_takeWhile_dropWhile] at h
  dsimp only at h
  split at h
  · cases h
  · next c rest hdrop =>
      obtain ⟨rfl, rfl⟩ := Prod.mk.inj (Option.some.inj h)
      have hc : c = '1' := by
        have hhead := List.head?_dropWhile_not (fun c : Char => decide (c ≠ '1')) cs.reverse
        rw [hdrop] at hhead
        simpa using hhead
      have hcs := List.takeWhile_append_dropWhile (p := fun c : Char => decide (c ≠ '1'))
        (l := cs.reverse)
      rw [hdrop, hc] at hcs
      have hreverse := congrArg List.reverse hcs
      rw [List.reverse_append, List.reverse_cons, List.reverse_reverse, List.append_assoc,
        List.singleton_append] at hreverse
      exact hreverse.symm

/-- The readable part is there, and not too long. -/
def HasSize (readable : List Char) : Prop :=
  ¬((Utf8.encode (String.ofList readable)).isEmpty ∨
    83 < (Utf8.encode (String.ofList readable)).length)

/-- Once the parts of a text are read, only its checksum decides. -/
theorem decode_of_parts {s : String} {readable data : List Char} {seen : Option LetterCase}
    {symbols : List Symbol} (hsplit : splitLast s.toList = some (readable, data))
    (hsize : HasSize readable)
    (hseen : checkReadable none (Utf8.encode (String.ofList readable)) = .ok seen)
    (hsymbols : readSymbols seen data = .ok symbols) (hsix : 6 ≤ symbols.length) :
    decode s =
      if checks (readable.map Char.toLower) symbols then
        .ok ⟨String.ofList (readable.map Char.toLower), symbols.take (symbols.length - 6)⟩
      else .error .invalidChecksum := by
  rw [decode, hsplit]
  dsimp only
  rw [if_neg hsize, hseen]
  show (readSymbols seen data >>= _) = _
  rw [hsymbols]
  show (if symbols.length < 6 then _ else _) = _
  rw [if_neg (Nat.not_lt.2 hsix)]
  rfl

/-- How a text is made up that is read: its readable part, the separator, and characters of one
case for the symbols, the last six of which make the checksum right. -/
structure Spelled (s : String) (d : Decoded) (readable data : List Char)
    (checksum : List Symbol) : Prop where
  split : splitLast s.toList = some (readable, data)
  ascii : ∀ c ∈ s.toList, c.toNat < 128
  oneCase : ∃ k, InCase k s.toList
  hrp : d.hrp = String.ofList (readable.map Char.toLower)
  symbols : List.Forall₂ (fun c x => symbol? c = some x) data (d.symbols ++ checksum)
  length : checksum.length = 6
  residue : residue (expand (readable.map Char.toLower) ++ (d.symbols ++ checksum)) ∈ residues

/-- A text is read if each of its parts can be, and its checksum is right. -/
theorem decode_eq_ok_iff {s : String} {d : Decoded} :
    decode s = .ok d ↔
      ∃ readable data seen symbols, splitLast s.toList = some (readable, data) ∧
        HasSize readable ∧ checkReadable none (Utf8.encode (String.ofList readable)) = .ok seen ∧
        readSymbols seen data = .ok symbols ∧ 6 ≤ symbols.length ∧
        checks (readable.map Char.toLower) symbols = true ∧
        d = ⟨String.ofList (readable.map Char.toLower), symbols.take (symbols.length - 6)⟩ := by
  constructor
  · intro h
    rw [decode] at h
    split at h
    · cases h
    · next readable data hsplit =>
        dsimp only at h
        split at h
        · cases h
        · next hsize =>
            obtain ⟨seen, hseen, h⟩ := Outcome.bind_eq_ok.1 h
            obtain ⟨symbols, hsymbols, h⟩ := Outcome.bind_eq_ok.1 h
            split at h
            · cases h
            · next hsix =>
                split at h
                · next hchecks =>
                    cases h
                    exact ⟨readable, data, seen, symbols, hsplit, hsize, hseen, hsymbols,
                      Nat.not_lt.1 hsix, hchecks, rfl⟩
                · cases h
  · rintro ⟨readable, data, seen, symbols, hsplit, hsize, hseen, hsymbols, hsix, hchecks, rfl⟩
    rw [decode_of_parts hsplit hsize hseen hsymbols hsix, if_pos hchecks]

theorem exists_spelled {s : String} {d : Decoded} (h : decode s = .ok d) :
    ∃ readable data checksum, Spelled s d readable data checksum := by
  obtain ⟨readable, data, seen, symbols, hsplit, -, hseen, hsymbols, hsix, hchecks, rfl⟩ :=
    decode_eq_ok_iff.1 h
  obtain ⟨-, hbytes, hcase⟩ := checkReadable_eq_ok hseen
  obtain ⟨k, hkept, hascii, hcase', hall⟩ := readSymbols_eq_ok hsymbols
  have hreadable := Utf8.ascii_of_encode hbytes
  rw [Utf8.map_ofNat_encode hreadable] at hcase
  have htext := eq_append_of_splitLast hsplit
  have hparts : symbols.take (symbols.length - 6) ++ symbols.drop (symbols.length - 6) = symbols :=
    List.take_append_drop _ _
  refine ⟨readable, data, symbols.drop (symbols.length - 6), {
    split := hsplit
    ascii := ?_
    oneCase := ⟨k, ?_⟩
    hrp := rfl
    symbols := hparts.symm ▸ hall
    length := ?_
    residue := ?_ }⟩
  · rw [htext]
    exact List.forall_mem_append.2 ⟨hreadable, List.forall_mem_cons.2 ⟨by decide, hascii⟩⟩
  · rw [htext]
    refine List.forall_mem_append.2 ⟨fun c hc j hj => hkept j (hcase c hc j hj), ?_⟩
    exact List.forall_mem_cons.2 ⟨fun _ hj => (nomatch hj), hcase'⟩
  · rw [List.length_drop]
    omega
  · rw [hparts]
    exact List.contains_iff_mem.1 hchecks

/-! ## Spellings -/

/-- The case of the first letter. -/
def letterCase (s : String) : Option LetterCase := s.toList.findSome? caseOf?

/-- What the register holds behind a text: the checksum constant with which it was written. -/
def constantOf (s : String) : Option (BitVec 30) :=
  (splitLast s.toList).map fun (readable, data) =>
    residue (expand (readable.map Char.toLower) ++ data.filterMap symbol?)

theorem inCase_findSome? {k : Option LetterCase} {cs : List Char} (h : InCase k cs) :
    InCase (cs.findSome? caseOf?) cs := by
  intro c hc j hj
  cases hfirst : cs.findSome? caseOf? with
  | none => exact nomatch (List.findSome?_eq_none_iff.1 hfirst c hc).symm.trans hj
  | some i =>
      obtain ⟨d, hd, hi⟩ := List.exists_of_findSome?_eq_some hfirst
      exact (h d hd i hi).symm.trans (h c hc j hj)

/-- The character in that case. -/
def recase (k : Option LetterCase) (c : Char) : Char :=
  match k with
  | some .upper => c.toUpper
  | some .lower | none => c

theorem recase_toLower {k : Option LetterCase} {c : Char} (hc : c.toNat < 128)
    (hcase : ∀ j, caseOf? c = some j → k = some j) : recase k c.toLower = c := by
  have hletter : ∀ n < 128, ∀ j ∈ [LetterCase.lower, .upper],
      caseOf? (Char.ofNat n) = some j → recase (some j) (Char.ofNat n).toLower = Char.ofNat n := by
    decide
  have hother : ∀ n < 128, caseOf? (Char.ofNat n) = none → ∀ k ∈ [none, some .lower, some .upper],
      recase k (Char.ofNat n).toLower = Char.ofNat n := by
    decide
  rw [← Char.ofNat_toNat c] at hcase ⊢
  cases hj : caseOf? (Char.ofNat c.toNat) with
  | none => exact hother _ hc hj k (by rcases k with _ | _ | _ <;> decide)
  | some j =>
      rw [hcase j hj]
      exact hletter _ hc j (by cases j <;> decide) hj

/-- Characters of one case are known from their lower case. -/
theorem map_recase_toLower {k : Option LetterCase} {cs : List Char}
    (hascii : ∀ c ∈ cs, c.toNat < 128) (hcase : InCase k cs) :
    (cs.map Char.toLower).map (recase k) = cs := by
  rw [List.map_map]
  refine (List.map_congr_left fun c hc => ?_).trans (List.map_id cs)
  exact recase_toLower (hascii c hc) (hcase c hc)

theorem map_toLower_of_symbols {cs ds : List Char} {xs : List Symbol}
    (hcs : List.Forall₂ (fun c x => symbol? c = some x) cs xs)
    (hds : List.Forall₂ (fun c x => symbol? c = some x) ds xs) :
    cs.map Char.toLower = ds.map Char.toLower := by
  induction hcs generalizing ds with
  | nil =>
      cases hds
      rfl
  | cons hc _ ih =>
      cases hds with
      | cons hd hds => rw [List.map_cons, List.map_cons, toLower_eq_of_symbol? hc hd, ih hds]

theorem filterMap_symbol? {cs : List Char} {xs : List Symbol}
    (h : List.Forall₂ (fun c x => symbol? c = some x) cs xs) : cs.filterMap symbol? = xs := by
  induction h with
  | nil => rfl
  | cons hc _ ih => rw [List.filterMap_cons_some hc, ih]

namespace Spelled

variable {s t : String} {d : Decoded} {readable readable' data data' : List Char}
  {checksum checksum' : List Symbol}

theorem constantOf_eq (hs : Spelled s d readable data checksum) :
    constantOf s =
      some (Bech32.residue (expand (readable.map Char.toLower) ++ (d.symbols ++ checksum))) := by
  rw [← filterMap_symbol? hs.symbols, constantOf, hs.split]
  rfl

theorem map_toLower_readable (hs : Spelled s d readable data checksum)
    (ht : Spelled t d readable' data' checksum') :
    readable.map Char.toLower = readable'.map Char.toLower :=
  String.ofList_injective (hs.hrp.symm.trans ht.hrp)

/-- In lower case the text ends with the six characters of its checksum. -/
theorem exists_checksum (hs : Spelled s d readable data checksum) :
    ∃ cs : List Char, cs.length = 6 ∧ s.toList.map Char.toLower =
      readable.map Char.toLower ++ '1' :: (data.take d.symbols.length).map Char.toLower ++ cs := by
  have hlength := (List.forall₂_drop_append _ _ _ hs.symbols).length_eq
  refine ⟨(data.drop d.symbols.length).map Char.toLower, ?_, ?_⟩
  · rw [List.length_map, hlength, hs.length]
  · rw [eq_append_of_splitLast hs.split, List.map_append, List.map_cons, List.append_assoc,
      List.cons_append, ← List.map_append, List.take_append_drop]
    rfl

/-- What stands in front of the checksum is told by what the text holds. -/
theorem exists_common (hs : Spelled s d readable data checksum)
    (ht : Spelled t d readable' data' checksum') :
    ∃ common cs ds : List Char, cs.length = 6 ∧ ds.length = 6 ∧
      s.toList.map Char.toLower = common ++ cs ∧ t.toList.map Char.toLower = common ++ ds := by
  have hfront := map_toLower_of_symbols (List.forall₂_take_append _ _ _ hs.symbols)
    (List.forall₂_take_append _ _ _ ht.symbols)
  obtain ⟨cs, hcs, hs'⟩ := hs.exists_checksum
  obtain ⟨ds, hds, ht'⟩ := ht.exists_checksum
  rw [← hfront, ← hs.map_toLower_readable ht] at ht'
  exact ⟨_, cs, ds, hcs, hds, hs', ht'⟩

/-- A text is told by what it holds, the case of its letters and its checksum constant. -/
theorem eq_of_spelled (hs : Spelled s d readable data checksum)
    (ht : Spelled t d readable' data' checksum') (hcase : letterCase s = letterCase t)
    (hconstant : constantOf s = constantOf t) : s = t := by
  have hchecksum : checksum = checksum' := by
    rw [hs.constantOf_eq, ht.constantOf_eq, hs.map_toLower_readable ht, ← List.append_assoc,
      ← List.append_assoc] at hconstant
    exact eq_of_residue hs.length ht.length (Option.some.inj hconstant)
  subst hchecksum
  have hlower : s.toList.map Char.toLower = t.toList.map Char.toLower := by
    rw [eq_append_of_splitLast hs.split, eq_append_of_splitLast ht.split, List.map_append,
      List.map_append, List.map_cons, List.map_cons, hs.map_toLower_readable ht,
      map_toLower_of_symbols hs.symbols ht.symbols]
  obtain ⟨_, hs'⟩ := hs.oneCase
  obtain ⟨_, ht'⟩ := ht.oneCase
  have hs' := inCase_findSome? hs'
  have ht' := inCase_findSome? ht'
  -- In lower case the texts agree, and each is known from its lower case.
  rw [← String.toList_inj]
  calc s.toList
      = (s.toList.map Char.toLower).map (recase (letterCase s)) :=
        (map_recase_toLower hs.ascii hs').symm
    _ = (t.toList.map Char.toLower).map (recase (letterCase t)) := by rw [hlower, hcase]
    _ = t.toList := map_recase_toLower ht.ascii ht'

end Spelled

end Bech32
end TokenBridge
