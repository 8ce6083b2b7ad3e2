import EvmClient.Bytes

/-
Keccak-256, the digest of transactions, addresses and checksums.

   The state is 25 lanes of 64 bits, lane `x + 5 * y` at column `x` and row `y`. A message is padded
   by `01 00 … 80` to a multiple of the rate (136 bytes), absorbed block by block, and the first four
   lanes of the final state, least significant byte first, are the digest. -/
namespace EvmClient.Keccak

abbrev State := Array UInt64

/-- The bytes absorbed between two permutations. -/
def rate : Nat := 136

def roundConstants : List UInt64 :=
  [0x0000000000000001, 0x0000000000008082, 0x800000000000808a, 0x8000000080008000, 0x000000000000808b,
   0x0000000080000001, 0x8000000080008081, 0x8000000000008009, 0x000000000000008a, 0x0000000000000088,
   0x0000000080008009, 0x000000008000000a, 0x000000008000808b, 0x800000000000008b, 0x8000000000008089,
   0x8000000000008003, 0x8000000000008002, 0x8000000000000080, 0x000000000000800a, 0x800000008000000a,
   0x8000000080008081, 0x8000000000008080, 0x0000000080000001, 0x8000000080008008]

/-- The rotation of each lane. -/
def rotations : Array UInt64 :=
  #[0, 1, 62, 28, 27, 36, 44, 6, 55, 20, 3, 10, 43, 25, 39, 41, 45, 15, 21, 8, 18, 2, 61, 56, 14]

def rotl (x r : UInt64) : UInt64 := if r = 0 then x else (x <<< r) ||| (x >>> (64 - r))

def lane (a : State) (i : Nat) : UInt64 := a.getD i 0

/-- Every lane takes in the parities of two neighbouring columns. -/
def theta (a : State) : State :=
  let c := (Array.range 5).map fun x =>
    lane a x ^^^ lane a (x + 5) ^^^ lane a (x + 10) ^^^ lane a (x + 15) ^^^ lane a (x + 20)
  let d := (Array.range 5).map fun x => lane c ((x + 4) % 5) ^^^ rotl (lane c ((x + 1) % 5)) 1
  (Array.range 25).map fun i => lane a i ^^^ lane d (i % 5)

/-- Every lane is rotated by its own amount and moved: the lane that arrives at column `x` and row
`y` comes from column `x + 3 * y` of row `x`. -/
def rhoPi (a : State) : State :=
  (Array.range 25).map fun i =>
    let x := i % 5
    let y := i / 5
    let source := (x + 3 * y) % 5 + 5 * x
    rotl (lane a source) (rotations.getD source 0)

/-- Every lane takes in the two lanes to its right in the row. -/
def chi (a : State) : State :=
  (Array.range 25).map fun i =>
    let row := 5 * (i / 5)
    lane a i ^^^ ((lane a (row + (i + 1) % 5) ^^^ 0xffffffffffffffff) &&& lane a (row + (i + 2) % 5))

def iota (rc : UInt64) (a : State) : State := a.modify 0 (· ^^^ rc)

def permute (a : State) : State :=
  roundConstants.foldl (fun s rc => iota rc (chi (rhoPi (theta s)))) a

/-- The message followed by `01`, zeros, and the top bit of the block's last byte. -/
def pad (m : Bytes) : Bytes :=
  let room := rate - m.length % rate
  if room = 1 then m ++ [0x81] else m ++ 0x01 :: List.replicate (room - 2) 0 ++ [0x80]

/-- The number of a byte string, least significant byte first. -/
def word (b : Bytes) : UInt64 := b.foldr (fun x acc => (acc <<< 8) ||| x.toUInt64) 0

/-- The first `n` groups of `k` bytes. -/
def groups (k : Nat) : Nat → Bytes → List Bytes
  | 0, _ => []
  | n + 1, b => b.take k :: groups k n (b.drop k)

def absorb (a : State) (block : Bytes) : State :=
  let words := ((groups 8 (rate / 8) block).map word).toArray
  permute ((Array.range 25).map fun i => lane a i ^^^ lane words i)

/-- The eight bytes of a lane, least significant first. -/
def laneBytes (w : UInt64) : Bytes :=
  (List.range 8).map fun i => (w >>> (8 * i).toUInt64).toUInt8

def sponge (m : Bytes) : State :=
  let padded := pad m
  (groups rate (padded.length / rate) padded).foldl absorb (Array.replicate 25 0)

def digest (m : Bytes) : Hash :=
  FixedBytes.lastOf 32 (((sponge m).toList.take 4).flatMap laneBytes)

end EvmClient.Keccak

namespace EvmClient

abbrev keccak256 (m : Bytes) : Hash := Keccak.digest m

end EvmClient
