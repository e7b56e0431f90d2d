import TokenBridge.Bytes

set_option autoImplicit false

/-! # Keccak-256

The hash that EVM chains use: the Keccak sponge with a rate of 136 bytes, the padding that starts
with a byte 1, and 32 bytes of output. The state is 25 lanes of 64 bits; lane `x + 5 * y` stands
in column `x` and row `y`.
-/

namespace TokenBridge.Keccak

abbrev Lanes := Array UInt64

/-! ## The permutation -/

def rotate (w : UInt64) (n : Nat) : UInt64 :=
  if n = 0 then w else (w <<< UInt64.ofNat n) ||| (w >>> UInt64.ofNat (64 - n))

/-- How far each lane is rotated. -/
def rotations : Array Nat :=
  #[0, 1, 62, 28, 27, 36, 44, 6, 55, 20, 3, 10, 43, 25, 39, 41, 45, 15, 21, 8, 18, 2, 61, 56, 14]

def roundConstants : List UInt64 :=
  [0x0000000000000001, 0x0000000000008082, 0x800000000000808a, 0x8000000080008000,
    0x000000000000808b, 0x0000000080000001, 0x8000000080008081, 0x8000000000008009,
    0x000000000000008a, 0x0000000000000088, 0x0000000080008009, 0x000000008000000a,
    0x000000008000808b, 0x800000000000008b, 0x8000000000008089, 0x8000000000008003,
    0x8000000000008002, 0x8000000000000080, 0x000000000000800a, 0x800000008000000a,
    0x8000000080008081, 0x8000000000008080, 0x0000000080000001, 0x8000000080008008]

def lane (a : Lanes) (i : Nat) : UInt64 := a.getD i 0

/-- Adds to every lane the parities of the two columns beside it. -/
def mixColumns (a : Lanes) : Lanes :=
  let parity : Lanes := (Array.range 5).map fun x =>
    lane a x ^^^ lane a (x + 5) ^^^ lane a (x + 10) ^^^ lane a (x + 15) ^^^ lane a (x + 20)
  let effect : Lanes := (Array.range 5).map fun x =>
    lane parity ((x + 4) % 5) ^^^ rotate (lane parity ((x + 1) % 5)) 1
  (Array.range 25).map fun i => lane a i ^^^ lane effect (i % 5)

/-- Rotates the lanes and moves each to its new place. -/
def disperse (a : Lanes) : Lanes :=
  (Array.range 25).map fun i =>
    let source := (i % 5 + 3 * (i / 5)) % 5 + 5 * (i % 5)
    rotate (lane a source) (rotations.getD source 0)

/-- Combines every lane with the two after it in its row. -/
def mixRows (a : Lanes) : Lanes :=
  (Array.range 25).map fun i =>
    let row := 5 * (i / 5)
    lane a i ^^^ (~~~ lane a (row + (i + 1) % 5) &&& lane a (row + (i + 2) % 5))

def round (a : Lanes) (constant : UInt64) : Lanes :=
  (mixRows (disperse (mixColumns a))).modify 0 (· ^^^ constant)

def permute (a : Lanes) : Lanes := roundConstants.foldl round a

/-! ## The sponge -/

/-- Bytes taken in at once. -/
def rate : Nat := 136

/-- The message with its padding, a whole number of blocks long. -/
def pad (message : Bytes) : Bytes :=
  let missing := rate - message.length % rate
  if missing = 1 then message ++ [0x81]
  else message ++ [0x01] ++ List.replicate (missing - 2) 0 ++ [0x80]

/-- A number of at most eight bytes, least significant byte first. -/
def littleEndian (bs : Bytes) : UInt64 := UInt64.ofNat (ofBigEndian bs.reverse)

/-- Mixes one block into the state and permutes. -/
def absorb (a : Lanes) (block : Bytes) : Lanes :=
  permute ((Array.range 25).map fun i =>
    lane a i ^^^ if i < rate / 8 then littleEndian ((block.drop (8 * i)).take 8) else 0)

/-- Takes in `blocks` blocks. -/
def absorbAll : Nat → Lanes → Bytes → Lanes
  | 0, a, _ => a
  | blocks + 1, a, bs => absorbAll blocks (absorb a (bs.take rate)) (bs.drop rate)

/-- The hash of a message, 32 bytes. -/
def hash (message : Bytes) : Bytes :=
  let padded := pad message
  let a := absorbAll (padded.length / rate) (Array.replicate 25 0) padded
  (List.range 4).flatMap fun i => (bigEndian 8 (lane a i).toNat).reverse

@[simp] theorem hash_length (message : Bytes) : (hash message).length = 32 := by
  simp [hash, List.range_succ]

end TokenBridge.Keccak
