import Mathlib.Algebra.Order.Group.Nat
import TokenBridge.Json.Parser

set_option autoImplicit false

/-! # Whole numbers survive their digits

A whole number of 128 bits is read back from its decimal digits, when they end where a value may end
(`readNumber_toDigits`). The reader also asks for the number in double precision, only to see that
it is not too large; so it is shown that rounding keeps such a number far from the largest exponent,
even where the last of its digits are left out and made up for by a power of ten.
-/

namespace TokenBridge

/-! ## Rounding -/

namespace Binary64

variable {n d k : Nat}

theorem exponentOf_le (hn : n ≠ 0) (h : n < 2 ^ k * d) :
    exponentOf n d ≤ max leastExponent ((k : Int) - 53) + 1 := by
  -- The fraction is below `2 ^ k`, and so the logarithms are no further apart.
  have hlog : n.log2 ≤ k + d.log2 := by
    have hpow : n < 2 ^ (k + d.log2 + 1) := by
      calc n < 2 ^ k * d := h
        _ ≤ 2 ^ k * 2 ^ (d.log2 + 1) := Nat.mul_le_mul_left _ (Nat.le_of_lt Nat.lt_log2_self)
        _ = 2 ^ (k + d.log2 + 1) := by rw [Nat.add_assoc, ← Nat.pow_add]
    exact Nat.le_of_lt_succ ((Nat.log2_lt hn).2 hpow)
  have hguess : max leastExponent (Int.ofNat n.log2 - Int.ofNat d.log2 - 53) ≤
      max leastExponent ((k : Int) - 53) := by
    simp only [Int.ofNat_eq_natCast]
    omega
  rw [exponentOf]
  dsimp only
  split <;> omega

/-- The mantissa that belongs to the exponent of `n / d`, rounded. -/
def mantissaOf (n d : Nat) : Nat :=
  roundDiv (scale n d (exponentOf n d)).1 (scale n d (exponentOf n d)).2

/-- The mantissa and the exponent of `n / d`. Rounding may make the mantissa a bit too long; the
exponent grows then. -/
def rounded (n d : Nat) : Nat × Int :=
  if mantissaOf n d = Nat.pow 2 53 then (Nat.pow 2 52, exponentOf n d + 1)
  else (mantissaOf n d, exponentOf n d)

theorem rounded_snd_le (n d : Nat) : (rounded n d).2 ≤ exponentOf n d + 1 := by
  rw [rounded]
  split
  · exact Int.le_refl _
  · exact Int.le_of_lt (Int.lt_add_one_of_le (Int.le_refl _))

theorem nearest_eq (negative : Bool) (hn : n ≠ 0) (he : exponentOf n d < greatestExponent) :
    nearest negative n d = .finite negative (rounded n d).1 (rounded n d).2 := by
  have hnearest : nearest negative n d =
      if greatestExponent < (rounded n d).2 then .infinity negative
      else .finite negative (rounded n d).1 (rounded n d).2 := by
    rw [nearest, if_neg hn]
    rfl
  have hle := rounded_snd_le n d
  rw [hnearest, if_neg (by omega)]

/-- What is far below `2 ^ 1024` is not too large. -/
theorem isFinite_nearest (negative : Bool) (h : n < 2 ^ k * d) (hk : k ≤ 1000) :
    (nearest negative n d).isFinite = true := by
  by_cases hn : n = 0
  · rw [nearest, if_pos hn]
    rfl
  · have he := exponentOf_le hn h
    have hleast : leastExponent = -1074 := rfl
    have hgreatest : greatestExponent = 971 := rfl
    rw [nearest_eq negative hn (by omega)]
    rfl

theorem roundDiv_le (a b : Nat) : roundDiv a b ≤ a + 1 := by
  have hdiv := Nat.div_le_self a b
  rw [roundDiv]
  split <;> omega

theorem scale_one_le (n : Nat) (e : Int) : (scale n 1 e).1 ≤ n * 2 ^ (-e).toNat := by
  rw [scale]
  split
  · exact Nat.le_mul_of_pos_right n (Nat.two_pow_pos _)
  · exact Nat.le_refl _

/-- What a whole number of `k` bits is rounded to; the mantissa is no longer than need be. -/
theorem exists_ofNat_eq (h : n < 2 ^ k) (hk : k ≤ 1000) :
    ∃ m e, ofNat n = .finite false m e ∧ e ≤ (k : Int) - 51 ∧ m < 2 ^ (k + 1 + (-e).toNat) := by
  have hleast : leastExponent = -1074 := rfl
  by_cases hn : n = 0
  · refine ⟨0, leastExponent, ?_, by omega, Nat.two_pow_pos _⟩
    rw [ofNat, nearest, if_pos hn]
    rfl
  · have hgreatest : greatestExponent = 971 := rfl
    have he : exponentOf n 1 ≤ (k : Int) - 52 := by
      have he := exponentOf_le hn (by omega : n < 2 ^ k * 1)
      omega
    have hm : mantissaOf n 1 < 2 ^ (k + 1 + (-exponentOf n 1).toNat) := by
      have hround : mantissaOf n 1 ≤ (scale n 1 (exponentOf n 1)).1 + 1 := roundDiv_le _ _
      have hscale := scale_one_le n (exponentOf n 1)
      have hpow := Nat.two_pow_pos (-exponentOf n 1).toNat
      have hmul : (n + 1) * 2 ^ (-exponentOf n 1).toNat ≤ 2 ^ k * 2 ^ (-exponentOf n 1).toNat :=
        Nat.mul_le_mul_right _ h
      rw [Nat.add_mul, Nat.one_mul] at hmul
      rw [Nat.add_right_comm, Nat.pow_succ, Nat.pow_add]
      omega
    have hle := rounded_snd_le n 1
    refine ⟨_, _, nearest_eq false hn (by omega), by omega, ?_⟩
    rw [rounded]
    split
    · next hlong =>
        -- Rounding has made the mantissa one bit longer, and the next exponent takes that bit.
        rw [hlong] at hm
        have hbits := (Nat.pow_lt_pow_iff_right (by decide)).1 hm
        exact Nat.pow_lt_pow_right (by decide) (by omega)
    · exact hm

theorem fraction_lt {m p : Nat} {e : Int} (hm : m < 2 ^ p) (he : p + e ≤ k) :
    (fraction m e).1 < 2 ^ k * (fraction m e).2 := by
  rw [fraction]
  split
  · calc m * 2 ^ e.toNat < 2 ^ p * 2 ^ e.toNat :=
          Nat.mul_lt_mul_of_pos_right hm (Nat.two_pow_pos _)
      _ = 2 ^ (p + e.toNat) := (Nat.pow_add _ _ _).symm
      _ ≤ 2 ^ k := Nat.pow_le_pow_right (by decide) (by omega)
      _ = 2 ^ k * 1 := (Nat.mul_one _).symm
  · calc m < 2 ^ p := hm
      _ ≤ 2 ^ (k + (-e).toNat) := Nat.pow_le_pow_right (by decide) (by omega)
      _ = 2 ^ k * 2 ^ (-e).toNat := Nat.pow_add _ _ _

/-- The product of two whole numbers is not too large if they have few bits. -/
theorem isFinite_mul_ofNat {a b i j : Nat} (ha : a < 2 ^ i) (hb : b < 2 ^ j) (hfew : i + j ≤ 400) :
    ((ofNat a).mul (ofNat b)).isFinite = true := by
  obtain ⟨m, e, heq, he, hm⟩ := exists_ofNat_eq ha (by omega)
  obtain ⟨m', e', heq', he', hm'⟩ := exists_ofNat_eq hb (by omega)
  have hmul : m * m' < 2 ^ (i + 1 + (-e).toNat + (j + 1 + (-e').toNat)) := by
    rw [Nat.pow_add]
    exact Nat.mul_lt_mul'' hm hm'
  rw [heq, heq', Binary64.mul]
  exact isFinite_nearest (k := 1000) _ (fraction_lt hmul (by omega)) (by decide)

end Binary64

namespace Json

open Binary64

theorem ten_eq {k : Nat} (hk : k ≤ 308) : scaleDouble.ten k = Binary64.ofNat (10 ^ k) := by
  have hsize : Int.ofNat (Nat.toDigits 10 1).length + (k : Int) = 1 + k := rfl
  rw [scaleDouble.ten, ofDecimal, if_neg (by decide), hsize]
  dsimp only
  rw [if_neg (by omega), if_neg (by omega), if_pos (by omega), Int.toNat_natCast, Nat.one_mul]
  rfl

/-- A number of 64 bits may be followed by forty zeros. -/
theorem scaleDouble_isSome {n k : Nat} (h : n < 2 ^ 64) (hk : k ≤ 40) :
    (scaleDouble false n k).isSome = true := by
  have hten : 10 ^ k < 2 ^ 133 := by
    calc 10 ^ k ≤ 10 ^ 40 := Nat.pow_le_pow_right (by decide) hk
      _ < 2 ^ 133 := by decide
  have hfinite := isFinite_mul_ofNat h hten (by decide)
  rw [scaleDouble, if_neg (by omega), if_pos (by omega), Int.toNat_natCast]
  dsimp only
  rw [ten_eq (by omega), if_pos hfinite]
  rfl

/-! ## Digits -/

/-- The number that digits spell onto `acc`. -/
def spelled (acc : Nat) (digits : List Nat) : Nat := digits.foldl (fun acc d => acc * 10 + d) acc

theorem leadingDigits_fst_lt {acc : Nat} (h : acc < 2 ^ 64) (digits : List Nat) :
    (leadingDigits acc digits).1 < 2 ^ 64 := by
  induction digits generalizing acc with
  | nil => exact h
  | cons d digits ih =>
      rw [leadingDigits]
      split
      · next hfits => exact ih hfits
      · exact h

theorem leadingDigits_snd_le (acc : Nat) (digits : List Nat) :
    (leadingDigits acc digits).2 ≤ digits.length := by
  induction digits generalizing acc with
  | nil => exact Nat.le_refl _
  | cons d digits ih =>
      rw [leadingDigits, List.length_cons]
      split
      · exact Nat.le_succ_of_le (ih _)
      · exact Nat.le_refl _

theorem spelled_toDigits (n : Nat) : spelled 0 (digitValues (Nat.toDigits 10 n)) = n := by
  have hfold : ∀ acc cs, spelled acc (digitValues cs) = Nat.ofDigitChars 10 cs acc := by
    intro acc cs
    induction cs generalizing acc with
    | nil => rfl
    | cons c cs ih =>
        have hstep : Nat.ofDigitChars 10 (c :: cs) acc =
            Nat.ofDigitChars 10 cs (10 * acc + (c.toNat - 48)) := rfl
        rw [hstep, Nat.mul_comm]
        exact ih _
  rw [hfold]
  exact Nat.ofDigitChars_toDigits (by decide) (by decide)

theorem doubleOfInteger_isSome {n : Nat} (h : n < 2 ^ 128) :
    (doubleOfInteger false n).isSome = true := by
  have hlength : (Nat.toDigits 10 n).length ≤ 40 :=
    (Nat.length_toDigits_le_iff (by decide) (by decide)).2 (Nat.lt_trans h (by decide))
  have hleft := leadingDigits_snd_le 0 ((Nat.toDigits 10 n).map fun c => c.toNat - 48)
  rw [List.length_map] at hleft
  exact scaleDouble_isSome (leadingDigits_fst_lt (by decide) _) (Nat.le_trans hleft hlength)

theorem isDigit_toDigits {n : Nat} {c : Char} (hc : c ∈ Nat.toDigits 10 n) : c.isDigit = true :=
  Nat.isDigit_of_mem_toDigits (by decide) (by decide) hc

theorem not_isDigit_of_all {cs : List Char} (h : cs.all (fun c => !c.isDigit) = true) :
    ∀ c ∈ cs, c.isDigit = false := by
  simpa using h

theorem ne_of_isDigit {c d : Char} (hc : c.isDigit = true) (hd : d.isDigit = false) : c ≠ d := by
  rintro rfl
  rw [hc] at hd
  cases hd

theorem notMem_of_isDigit {c : Char} {cs : List Char} (hc : c.isDigit = true)
    (h : cs.all (fun c => !c.isDigit) = true) : c ∉ cs :=
  fun hmem => ne_of_isDigit hc (not_isDigit_of_all h c hmem) rfl

/-- Only zero is written with a zero in front. -/
theorem head_toDigits_ne {base n : Nat} (hbase : 1 < base) (hn : n ≠ 0) {c : Char} {cs : List Char}
    (h : Nat.toDigits base n = c :: cs) : c ≠ '0' := by
  induction n using Nat.strongRecOn generalizing c cs with
  | ind n ih =>
      rw [Nat.toDigits_eq_if hbase] at h
      by_cases hsmall : n < base
      · rw [if_pos hsmall] at h
        rw [← (List.cons.inj h).1]
        exact mt Nat.digitChar_eq_zero.1 hn
      · -- The first digit is that of the number without its last one.
        rw [if_neg hsmall] at h
        cases hfront : Nat.toDigits base (n / base) with
        | nil => exact absurd hfront Nat.toDigits_ne_nil
        | cons c' cs' =>
            rw [hfront] at h
            rw [← (List.cons.inj h).1]
            have hpos : 0 < n / base := Nat.div_pos (Nat.not_lt.1 hsmall) (by omega)
            exact ih (n / base) (Nat.div_lt_self (by omega) hbase) (by omega) hfront

/-! ## Reading -/

/-- Nothing follows, or what ends a value inside a list or an object. -/
def Closed (rest : List Char) : Prop := ∀ c ∈ rest.head?, c ∈ [',', ']', '\x7d']

theorem closed_nil : Closed [] := fun _ hc => nomatch hc

theorem closed_cons {c : Char} (hc : c ∈ [',', ']', '\x7d']) (rest : List Char) :
    Closed (c :: rest) := by
  intro c' hc'
  rw [← Option.some.inj hc']
  exact hc

theorem makeWhole_toDigits {n : Nat} (h : n < 2 ^ 128) (rest : List Char) :
    makeWhole false (Nat.toDigits 10 n) rest = .ok (.integer false n, rest) := by
  have hspelled : (digitValues (Nat.toDigits 10 n)).foldl (fun acc d => acc * 10 + d) 0 = n :=
    spelled_toDigits n
  have hdouble := Option.isSome_iff_ne_none.1 (doubleOfInteger_isSome h)
  rw [makeWhole, hspelled, if_neg (by rw [Option.isNone_iff_eq_none]; exact hdouble)]

/-- The digits of a number are taken, and no more. -/
theorem take_toDigits (n : Nat) {rest : List Char} (hrest : Closed rest) {c : Char}
    {cs : List Char} (h : Nat.toDigits 10 n = c :: cs) :
    (if c = '0' then [c] else (Nat.toDigits 10 n ++ rest).takeWhile Char.isDigit) =
      Nat.toDigits 10 n := by
  by_cases hn : n = 0
  · rw [hn] at h ⊢
    cases h
    rfl
  · have hend : rest.takeWhile Char.isDigit = [] := by
      have hall : ∀ c ∈ [',', ']', '\x7d'], c.isDigit = false := not_isDigit_of_all rfl
      cases rest with
      | nil => rfl
      | cons d rest => rw [List.takeWhile_cons, hall d (hrest d rfl)]; rfl
    rw [if_neg (head_toDigits_ne (by decide) hn h),
      List.takeWhile_append_of_pos fun _ => isDigit_toDigits, hend, List.append_nil]

/-- A whole number of 128 bits is read back from its digits. -/
theorem readNumber_toDigits {n : Nat} (h : n < 2 ^ 128) {rest : List Char} (hrest : Closed rest) :
    readNumber false (Nat.toDigits 10 n ++ rest) = .ok (.integer false n, rest) := by
  cases hdigits : Nat.toDigits 10 n with
  | nil => exact absurd hdigits Nat.toDigits_ne_nil
  | cons c cs =>
      have hc : c.isDigit = true := isDigit_toDigits (hdigits ▸ List.mem_cons_self)
      have htake := take_toDigits n hrest hdigits
      have hdrop : ((c :: cs) ++ rest).drop (c :: cs).length = rest := List.drop_left
      rw [hdigits] at htake
      have hwhole := makeWhole_toDigits h rest
      rw [hdigits] at hwhole
      rw [List.cons_append] at htake hdrop ⊢
      rw [readNumber]
      dsimp only
      rw [htake, hdrop, hc, if_neg (by decide)]
      cases rest with
      | nil => exact hwhole
      | cons d rest =>
          -- Neither a point nor an exponent follows, nor another digit.
          have hd := hrest d rfl
          simp only [List.mem_cons, List.not_mem_nil, or_false] at hd
          rcases hd with rfl | rfl | rfl
          all_goals exact (if_neg fun h => absurd h.2 (by decide)).trans hwhole

end Json
end TokenBridge
