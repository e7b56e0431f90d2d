set_option autoImplicit false

/-! # Double-precision numbers

The numbers of the 64-bit binary format, written out as a sign, a mantissa below `2 ^ 53` and a
power of two, with the arithmetic that gas prices and data texts need. Every operation computes its
exact result as a fraction and rounds it once, to the nearest number and to the even one of two.
-/

namespace TokenBridge

/-- A number `± mantissa * 2 ^ exponent`, an infinity, or no number. The constructors of values go
through `Binary64.nearest`, which takes the least exponent for which the mantissa fits. -/
inductive Binary64
  | nan
  | infinity (negative : Bool)
  | finite (negative : Bool) (mantissa : Nat) (exponent : Int)
  deriving DecidableEq, Repr

namespace Binary64

/-- The exponent of the smallest numbers. -/
def leastExponent : Int := -1074

/-- The exponent of the largest numbers. -/
def greatestExponent : Int := 971

def zero (negative : Bool) : Binary64 := .finite negative 0 leastExponent

/-! ## Rounding -/

/-- `n / d`, rounded to the nearest whole number, and to the even one of two. -/
def roundDiv (n d : Nat) : Nat :=
  let q := n / d
  let r := n % d
  if d < 2 * r ∨ (2 * r = d ∧ q % 2 = 1) then q + 1 else q

/-- Numerator and denominator of `n / d / 2 ^ e`. -/
def scale (n d : Nat) (e : Int) : Nat × Nat :=
  if 0 ≤ e then (n, d * Nat.pow 2 e.toNat) else (n * Nat.pow 2 (-e).toNat, d)

/-- The exponent under which the mantissa of `n / d` has 53 bits, or the least one. -/
def exponentOf (n d : Nat) : Int :=
  let guess := max leastExponent (Int.ofNat n.log2 - Int.ofNat d.log2 - 53)
  let (a, b) := scale n d guess
  if Nat.pow 2 53 ≤ a / b then guess + 1 else guess

/-- The number nearest to `± n / d`. -/
def nearest (negative : Bool) (n d : Nat) : Binary64 :=
  if n = 0 then zero negative
  else
    let e := exponentOf n d
    let (a, b) := scale n d e
    let m := roundDiv a b
    let (m, e) := if m = Nat.pow 2 53 then (Nat.pow 2 52, e + 1) else (m, e)
    if greatestExponent < e then .infinity negative else .finite negative m e

def ofNat (n : Nat) : Binary64 := nearest false n 1

/-- The number nearest to `± digits * 10 ^ exponent`. Exponents far outside the range of the format
are answered without computing the power. -/
def ofDecimal (negative : Bool) (digits : Nat) (exponent : Int) : Binary64 :=
  if digits = 0 then zero negative
  else
    let size := Int.ofNat (Nat.toDigits 10 digits).length + exponent
    if 400 < size then .infinity negative
    else if size < -400 then zero negative
    else if 0 ≤ exponent then nearest negative (digits * Nat.pow 10 exponent.toNat) 1
    else nearest negative digits (Nat.pow 10 (-exponent).toNat)

/-! ## Arithmetic -/

/-- Numerator and denominator of `m * 2 ^ e`. -/
def fraction (m : Nat) (e : Int) : Nat × Nat :=
  if 0 ≤ e then (m * Nat.pow 2 e.toNat, 1) else (m, Nat.pow 2 (-e).toNat)

def neg : Binary64 → Binary64
  | nan => nan
  | infinity s => infinity (!s)
  | finite s m e => finite (!s) m e

def mul : Binary64 → Binary64 → Binary64
  | nan, _ | _, nan => nan
  | infinity s, infinity t => infinity (s != t)
  | infinity s, finite t m _ | finite t m _, infinity s => if m = 0 then nan else infinity (s != t)
  | finite s m e, finite t k f =>
      let (n, d) := fraction (m * k) (e + f)
      nearest (s != t) n d

def div : Binary64 → Binary64 → Binary64
  | nan, _ | _, nan => nan
  | infinity _, infinity _ => nan
  | infinity s, finite t _ _ => infinity (s != t)
  | finite s _ _, infinity t => zero (s != t)
  | finite s m e, finite t k f =>
      if k = 0 then (if m = 0 then nan else infinity (s != t))
      else
        let (n, d) := fraction m e
        let (n', d') := fraction k f
        nearest (s != t) (n * d') (d * n')

def isFinite : Binary64 → Bool
  | finite .. => true
  | _ => false

/-- Above zero; nothing is said of what is no number. -/
def isPositive : Binary64 → Bool
  | nan => false
  | infinity s => !s
  | finite s m _ => !s && m != 0

def isZero : Binary64 → Bool
  | finite _ 0 _ => true
  | _ => false

/-- The least whole number that is not below, kept between zero and `limit`. What is no number
counts as zero. -/
def ceilClamped (limit : Nat) : Binary64 → Nat
  | nan => 0
  | infinity s => if s then 0 else limit
  | finite s m e =>
      let (n, d) := fraction m e
      if s then 0 else min limit ((n + d - 1) / d)

/-! ## The 64 bits -/

def bits : Binary64 → UInt64
  | nan => 0x7ff8000000000000
  | infinity s => UInt64.ofNat ((if s then Nat.pow 2 63 else 0) + 2047 * Nat.pow 2 52)
  | finite s m e =>
      let top := if s then Nat.pow 2 63 else 0
      if m < Nat.pow 2 52 then UInt64.ofNat (top + m)
      else UInt64.ofNat (top + (e + 1075).toNat * Nat.pow 2 52 + (m - Nat.pow 2 52))

end Binary64
end TokenBridge
