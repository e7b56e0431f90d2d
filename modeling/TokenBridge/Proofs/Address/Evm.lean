import Mathlib
import TokenBridge.Address.Evm
import TokenBridge.Proofs.Text.Hex

set_option autoImplicit false

/-! # EVM addresses can be told apart

An address is given by its bytes, and by the text in which it is shown (`checksum_injective`): the
upper case of some letters hides nothing of the digits, which are read in any case
(`parse_checksum`).
-/

namespace TokenBridge

/-! ## Numbers in bytes -/

/-- Reading bytes as a number and writing it back gives the bytes. -/
theorem bigEndian_ofBigEndian (bs : Bytes) : bigEndian bs.length (ofBigEndian bs) = bs := by
  induction bs using List.reverseRecOn with
  | nil => rfl
  | append_singleton bs b ih =>
      have hb := b.toNat_lt
      have hdiv : (ofBigEndian bs * 256 + b.toNat) / 256 = ofBigEndian bs := by omega
      have hlast : UInt8.ofNat (ofBigEndian bs * 256 + b.toNat) = b := by
        rw [← UInt8.toNat_inj, UInt8.toNat_ofNat']
        omega
      rw [List.length_append, List.length_singleton, bigEndian, ofBigEndian_append_singleton, hdiv,
        hlast, ih]

theorem ofBigEndian_lt (bs : Bytes) : ofBigEndian bs < 256 ^ bs.length := by
  induction bs using List.reverseRecOn with
  | nil => exact Nat.one_pos
  | append_singleton bs b ih =>
      have hb := b.toNat_lt
      rw [ofBigEndian_append_singleton, List.length_append, List.length_singleton, Nat.pow_succ]
      omega

namespace EvmAddress

/-! ## Bytes -/

theorem toBytes_ofBytes {bs : Bytes} (h : bs.length = 20) : toBytes (ofBytes bs) = bs := by
  have hlt : ofBigEndian bs < 2 ^ 160 := by
    have hlt := ofBigEndian_lt bs
    rw [h] at hlt
    exact hlt
  rw [toBytes, ofBytes, BitVec.toNat_ofNat, Nat.mod_eq_of_lt hlt, ← h, bigEndian_ofBigEndian]

theorem ofBytes_inj {bs cs : Bytes} (hbs : bs.length = 20) (hcs : cs.length = 20) :
    ofBytes bs = ofBytes cs ↔ bs = cs := by
  constructor
  · intro h
    rw [← toBytes_ofBytes hbs, h, toBytes_ofBytes hcs]
  · exact congrArg ofBytes

/-! ## Texts -/

theorem map_toLower_mixCase {cs : List Char}
    (hcs : ∀ c ∈ cs, c.toLower = c ∧ c.toUpper.toLower = c) (hash : List Char) :
    (mixCase cs hash).map Char.toLower = cs := by
  induction cs generalizing hash with
  | nil => rfl
  | cons c cs ih =>
      obtain ⟨hc, hrest⟩ := List.forall_mem_cons.1 hcs
      cases hash with
      | nil =>
          show (c :: cs).map Char.toLower = c :: cs
          exact (List.map_congr_left fun c hc => (hcs c hc).1).trans (List.map_id _)
      | cons h hash =>
          rw [mixCase, List.map_cons, ih hrest]
          split
          · rw [hc.2]
          · rw [hc.1]

/-- In lower case the digits of an address are those of its bytes. -/
theorem map_toLower_mixCase_toBytes (a : EvmAddress) (hash : List Char) :
    (mixCase (Hex.encodeChars (toBytes a)) hash).map Char.toLower =
      Hex.encodeChars (toBytes a) := by
  refine map_toLower_mixCase (fun c hc => ?_) hash
  obtain ⟨n, hn, rfl⟩ := Hex.exists_digit_of_mem hc
  exact Hex.toLower_digit hn

/-- The text without its mark, in lower case, is that of the digits. -/
theorem checksum_injective : Function.Injective checksum := by
  intro a b h
  have hchars := List.cons.inj (List.cons.inj (String.ofList_injective h)).2
  have hdigits := congrArg (List.map Char.toLower) hchars.2
  rw [map_toLower_mixCase_toBytes, map_toLower_mixCase_toBytes] at hdigits
  rw [← ofBytes_toBytes a, Hex.encodeChars_injective hdigits, ofBytes_toBytes]

/-- Forty digits in any case are read as the address of the bytes they spell. -/
theorem parse_of_map_toLower {a : EvmAddress} {cs : List Char}
    (h : cs.map Char.toLower = Hex.encodeChars (toBytes a)) :
    parse (String.ofList ('0' :: 'x' :: cs)) = .ok a := by
  have hsize : (String.ofList cs).utf8ByteSize = 40 := by
    rw [Hex.utf8ByteSize_of_map_toLower h, toBytes_length]
  rw [parse, Hex.stripMark_marked]
  rw [if_neg (not_not.2 hsize), Hex.decodeText_of_map_toLower h]
  show Except.ok (ofBytes (toBytes a)) = _
  rw [ofBytes_toBytes]

/-- An address is read back from the text in which it is shown. -/
theorem parse_checksum (a : EvmAddress) : parse a.checksum = .ok a :=
  parse_of_map_toLower (map_toLower_mixCase_toBytes a _)

end EvmAddress
end TokenBridge
