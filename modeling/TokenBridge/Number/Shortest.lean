import TokenBridge.Number.Binary64

set_option autoImplicit false

/-! # The shortest decimal

Of all decimals that read back as a given number, the one with the fewest digits, and of those the
nearest. For each count of digits the two neighbours of the number on that decimal grid are tried.
-/

namespace TokenBridge.Binary64

/-- A decimal `digits * 10 ^ exponent`. -/
structure Decimal where
  digits : Nat
  exponent : Int
  deriving DecidableEq, Repr

/-- Numerator and denominator of `n / d / 10 ^ e`. -/
def scaleTen (n d : Nat) (e : Int) : Nat × Nat :=
  if 0 ≤ e then (n, d * Nat.pow 10 e.toNat) else (n * Nat.pow 10 (-e).toNat, d)

/-- The least `s` with `n / d < 10 ^ s`, for a fraction above zero. -/
def magnitude (n d : Nat) : Int :=
  let guess := (Int.ofNat n.log2 - Int.ofNat d.log2) * 30103 / 100000 - 2
  let candidates := (List.range 6).map fun i => guess + Int.ofNat i
  (candidates.find? fun s => let (a, b) := scaleTen n d s; a < b).getD guess

/-- Whether `digits * 10 ^ exponent` is rounded to `m * 2 ^ e`: it lies between the two midpoints
to the neighbours, which themselves count for an even mantissa. -/
def readsBack (m : Nat) (e : Int) (x : Decimal) : Bool :=
  let below := if m = Nat.pow 2 52 ∧ leastExponent < e then 4 * m - 1 else 4 * m - 2
  let above := 4 * m + 2
  let (p, q) := fraction below (e - 2)
  let (r, s) := fraction above (e - 2)
  let (n, d) := scaleTen x.digits 1 (-x.exponent)
  let even := m % 2 = 0
  (p * d < n * q || (even && p * d = n * q)) && (n * s < r * d || (even && n * s = r * d))

/-- The neighbour on the grid of `count` digits that reads back, the nearer one if both do. -/
def onGrid? (m : Nat) (e : Int) (count : Nat) : Option Decimal :=
  let (n, d) := fraction m e
  let unit := magnitude n d - Int.ofNat count
  let (a, b) := scaleTen n d unit
  let lower : Decimal := ⟨a / b, unit⟩
  let upper : Decimal := ⟨a / b + 1, unit⟩
  match readsBack m e lower, readsBack m e upper with
  | false, false => none
  | true, false => some lower
  | false, true => some upper
  | true, true =>
      let twice := 2 * (a % b)
      if twice < b ∨ (twice = b ∧ (a / b) % 2 = 0) then some lower else some upper

/-- Moves zeros at the end of the digits into the exponent. -/
def stripZeros : Nat → Decimal → Decimal
  | 0, x => x
  | fuel + 1, x =>
      if x.digits ≠ 0 ∧ x.digits % 10 = 0 then stripZeros fuel ⟨x.digits / 10, x.exponent + 1⟩
      else x

/-- The shortest decimal that reads back as `m * 2 ^ e`. -/
def shortest (m : Nat) (e : Int) : Decimal :=
  if m = 0 then ⟨0, 0⟩
  else
    let found := ((List.range 17).findSome? fun i => onGrid? m e (i + 1)).getD ⟨0, 0⟩
    stripZeros 20 found

end TokenBridge.Binary64
