import TokenBridge.Json.Parser

set_option autoImplicit false

/-! # Strings survive their escapes

Whatever characters a string holds, it is read back from what is printed for it
(`readString_body`): each character is written in such a way that one step of the reader takes it,
and only the closing quote looks like one.
-/

namespace TokenBridge.Json

theorem hexFour_hexDigit {n : Nat} (hn : n < 32) (rest : List Char) :
    hexFour ('0' :: '0' :: hexDigit (n / 16) :: hexDigit (n % 16) :: rest) = .ok (n, rest) := by
  have hvalue : ∀ d < 16, hexValue? (hexDigit d) = some d := by decide
  have hzero : hexValue? '0' = some 0 := rfl
  have hn' : ((0 * 16 + 0) * 16 + n / 16) * 16 + n % 16 = n := by omega
  rw [hexFour, hzero, hvalue (n / 16) (by omega), hvalue (n % 16) (by omega)]
  dsimp only
  rw [hn']

theorem stringRest_backslash (fuel : Nat) (s : List Char) :
    stringRest (fuel + 1) ('\\' :: s) =
      escaped s >>= fun (c, rest) =>
        stringRest fuel rest >>= fun (cs, rest) => .ok (c :: cs, rest) := rfl

/-- Each character is read back from what is written for it, in one step. -/
theorem stringRest_escape (c : Char) (fuel : Nat) (s : List Char) :
    stringRest (fuel + 1) (escape c ++ s) =
      stringRest fuel s >>= fun (cs, rest) => .ok (c :: cs, rest) := by
  by_cases hquote : c = '"'
  · subst hquote
    rfl
  by_cases hslash : c = '\\'
  · subst hslash
    rfl
  rw [escape, if_neg hquote, if_neg hslash]
  by_cases hcontrol : c.toNat < 32
  · -- Five control characters have escapes of their own.
    have hc : Char.ofNat c.toNat = c := Char.ofNat_toNat c
    by_cases h8 : c.toNat = 8
    · rw [if_pos h8, ← hc, h8]
      rfl
    by_cases h9 : c.toNat = 9
    · rw [if_neg h8, if_pos h9, ← hc, h9]
      rfl
    by_cases h10 : c.toNat = 10
    · rw [if_neg h8, if_neg h9, if_pos h10, ← hc, h10]
      rfl
    by_cases h12 : c.toNat = 12
    · rw [if_neg h8, if_neg h9, if_neg h10, if_pos h12, ← hc, h12]
      rfl
    by_cases h13 : c.toNat = 13
    · rw [if_neg h8, if_neg h9, if_neg h10, if_neg h12, if_pos h13, ← hc, h13]
      rfl
    rw [if_neg h8, if_neg h9, if_neg h10, if_neg h12, if_neg h13, if_pos hcontrol]
    have hescaped : ∀ s, escaped ('u' :: '0' :: '0' :: hexDigit (c.toNat / 16) ::
        hexDigit (c.toNat % 16) :: s) = .ok (c, s) := by
      intro s
      rw [escaped, hexFour_hexDigit hcontrol]
      show (if 0xDC00 ≤ c.toNat ∧ c.toNat ≤ 0xDFFF then _ else _) = _
      rw [if_neg (by omega), if_neg (by omega), hc]
      rfl
    show stringRest (fuel + 1) ('\\' :: 'u' :: '0' :: '0' :: _ :: _ :: s) = _
    rw [stringRest_backslash, hescaped]
    rfl
  · rw [if_neg (by omega), if_neg (by omega), if_neg (by omega), if_neg (by omega),
      if_neg (by omega), if_neg hcontrol, List.singleton_append, stringRest, if_neg hquote,
      if_neg hslash, if_neg hcontrol]
    rfl

theorem escape_ne_nil (c : Char) : escape c ≠ [] := by
  rw [escape]
  repeat' split
  all_goals exact List.cons_ne_nil _ _

theorem length_le_flatMap_escape (cs : List Char) : cs.length ≤ (cs.flatMap escape).length := by
  induction cs with
  | nil => exact Nat.le_refl _
  | cons c cs ih =>
      have hc := List.length_pos_iff.2 (escape_ne_nil c)
      rw [List.flatMap_cons, List.length_append, List.length_cons]
      omega

theorem stringRest_flatMap (cs : List Char) {fuel : Nat} (hfuel : cs.length < fuel)
    (rest : List Char) :
    stringRest fuel (cs.flatMap escape ++ '"' :: rest) = .ok (cs, rest) := by
  induction cs generalizing fuel with
  | nil =>
      obtain ⟨fuel, rfl⟩ := Nat.exists_eq_add_one_of_ne_zero (Nat.ne_zero_of_lt hfuel)
      rfl
  | cons c cs ih =>
      obtain ⟨fuel, rfl⟩ := Nat.exists_eq_add_one_of_ne_zero (Nat.ne_zero_of_lt hfuel)
      rw [List.flatMap_cons, List.append_assoc, stringRest_escape,
        ih (Nat.lt_of_succ_lt_succ hfuel)]
      rfl

/-- The characters of a string behind its opening quote. -/
def body (s : String) : List Char := s.toList.flatMap escape ++ ['"']

/-- A string is read back, whatever its characters are. -/
theorem readString_body (s : String) (rest : List Char) :
    readString (body s ++ rest) = .ok (s, rest) := by
  have hbody : body s ++ rest = s.toList.flatMap escape ++ '"' :: rest := by
    rw [body, List.append_assoc]
    rfl
  have hfuel : s.toList.length < (s.toList.flatMap escape ++ '"' :: rest).length := by
    have hle := length_le_flatMap_escape s.toList
    rw [List.length_append, List.length_cons]
    omega
  rw [hbody, readString, stringRest_flatMap _ hfuel]
  show Except.ok (String.ofList s.toList, rest) = _
  rw [String.ofList_toList]

end TokenBridge.Json
