import TokenBridge.Crypto.Keccak

set_option autoImplicit false

/-! # The curve of account keys

The curve `y² = x³ + 7` over a prime field. A secret key is a number below the order of the base
point; the account it controls is named by the hash of the point that the key gives.
-/

namespace TokenBridge.Secp256k1

/-- The number of elements of the field. -/
def fieldSize : Nat := 0xfffffffffffffffffffffffffffffffffffffffffffffffffffffffefffffc2f

/-- The order of the base point. -/
def order : Nat := 0xfffffffffffffffffffffffffffffffebaaedce6af48a03bbfd25e8cd0364141

/-! ## The field -/

def add (a b : Nat) : Nat := (a + b) % fieldSize

def sub (a b : Nat) : Nat := (a + (fieldSize - b % fieldSize)) % fieldSize

def mul (a b : Nat) : Nat := a * b % fieldSize

/-- `a ^ n`, by squaring; `bits` bits of the exponent are used. -/
def power : Nat → Nat → Nat → Nat
  | 0, _, _ => 1
  | bits + 1, a, n =>
      let r := power bits (mul a a) (n / 2)
      if n % 2 = 1 then mul a r else r

/-- The inverse of an element that is not zero. -/
def inverse (a : Nat) : Nat := power 256 a (fieldSize - 2)

/-! ## Points -/

/-- A point given by three coordinates, which stand for `(x / z², y / z³)`; `z = 0` is the point at
infinity. -/
structure Point where
  x : Nat
  y : Nat
  z : Nat

def infinity : Point := ⟨1, 1, 0⟩

def base : Point where
  x := 0x79be667ef9dcbbac55a06295ce870b07029bfcdb2dce28d959f2815b16f81798
  y := 0x483ada7726a3c4655da4fbfc0e1108a8fd17b448a68554199c47d08ffb10d4b8
  z := 1

def double (p : Point) : Point :=
  let yy := mul p.y p.y
  let s := mul 4 (mul p.x yy)
  let m := mul 3 (mul p.x p.x)
  let x := sub (mul m m) (mul 2 s)
  ⟨x, sub (mul m (sub s x)) (mul 8 (mul yy yy)), mul 2 (mul p.y p.z)⟩

def addPoints (p q : Point) : Point :=
  if p.z = 0 then q
  else if q.z = 0 then p
  else
    let pz := mul p.z p.z
    let qz := mul q.z q.z
    let u := mul p.x qz
    let s := mul p.y (mul qz q.z)
    let h := sub (mul q.x pz) u
    let r := sub (mul q.y (mul pz p.z)) s
    if h = 0 then (if r = 0 then double p else infinity)
    else
      let hh := mul h h
      let hhh := mul h hh
      let v := mul u hh
      let x := sub (sub (mul r r) hhh) (mul 2 v)
      ⟨x, sub (mul r (sub v x)) (mul s hhh), mul h (mul p.z q.z)⟩

/-- `n` times the point; `bits` bits of `n` are used. -/
def multiple : Nat → Nat → Point → Point
  | 0, _, _ => infinity
  | bits + 1, n, p =>
      let rest := multiple bits (n / 2) (double p)
      if n % 2 = 1 then addPoints p rest else rest

/-! ## Keys -/

/-- Whether a number is a secret key. -/
def isSecret (n : Nat) : Bool := 0 < n && n < order

/-- The two coordinates of the point of a secret key. -/
def publicKey (secret : Nat) : Nat × Nat :=
  let p := multiple 256 secret base
  let inv := inverse p.z
  let inv2 := mul inv inv
  (mul p.x inv2, mul p.y (mul inv2 inv))

/-- The last twenty bytes of the hash of the point. -/
def account (secret : Nat) : BitVec 160 :=
  let (x, y) := publicKey secret
  BitVec.ofNat 160 (ofBigEndian (Keccak.hash (bigEndian 32 x ++ bigEndian 32 y)))

end TokenBridge.Secp256k1
