import ChainRelay.Text.Utf8

/-!
# Keccak-256

The hash that Ethereum addresses are made of: a sponge over twenty-five lanes of
sixty-four bits that takes in 136 bytes at a time. Its padding starts with the
byte `0x01`.
-/

namespace ChainRelay.Keccak256

/-- The lanes, the one of column `x` and row `y` at `x + 5 * y`. -/
abbrev State := Array UInt64

/-- The constants that break the symmetry of the rounds. -/
def constants : List UInt64 := [
  0x0000000000000001, 0x0000000000008082, 0x800000000000808a, 0x8000000080008000,
  0x000000000000808b, 0x0000000080000001, 0x8000000080008081, 0x8000000000008009,
  0x000000000000008a, 0x0000000000000088, 0x0000000080008009, 0x000000008000000a,
  0x000000008000808b, 0x800000000000008b, 0x8000000000008089, 0x8000000000008003,
  0x8000000000008002, 0x8000000000000080, 0x000000000000800a, 0x800000008000000a,
  0x8000000080008081, 0x8000000000008080, 0x0000000080000001, 0x8000000080008008]

/-- How far each lane is turned. -/
def offsets : Array UInt64 := #[
  0, 1, 62, 28, 27,
  36, 44, 6, 55, 20,
  3, 10, 43, 25, 39,
  41, 45, 15, 21, 8,
  18, 2, 61, 56, 14]

/-- Turns a lane left by `n` bits, `n < 64`. -/
def rotate (x n : UInt64) : UInt64 :=
  if n = 0 then x else (x <<< n) ||| (x >>> (64 - n))

/-- A state from its lanes by column and row. -/
def State.ofLanes (lane : Nat → Nat → UInt64) : State :=
  ((List.range 25).map fun i => lane (i % 5) (i / 5)).toArray

/-- The lane of a column and a row, both counted modulo five. -/
def State.lane (s : State) (x y : Nat) : UInt64 := s.getD (x % 5 + 5 * (y % 5)) 0

/-- One round of the permutation. -/
def State.round (s : State) (constant : UInt64) : State :=
  let column := ((List.range 5).map fun x =>
    s.lane x 0 ^^^ s.lane x 1 ^^^ s.lane x 2 ^^^ s.lane x 3 ^^^ s.lane x 4).toArray
  let parity (x : Nat) : UInt64 := column.getD (x % 5) 0
  let mixed := State.ofLanes fun x y => s.lane x y ^^^ parity (x + 4) ^^^ rotate (parity (x + 1)) 1
  let moved := State.ofLanes fun x y =>
    rotate (mixed.lane (x + 3 * y) x) (offsets.getD ((x + 3 * y) % 5 + 5 * x) 0)
  let nonlinear := State.ofLanes fun x y =>
    moved.lane x y ^^^ ((~~~ moved.lane (x + 1) y) &&& moved.lane (x + 2) y)
  nonlinear.modify 0 (· ^^^ constant)

/-- The permutation: twenty-four rounds. -/
def State.permute (s : State) : State := constants.foldl State.round s

/-- How many bytes a block has. -/
def rate : Nat := 136

/-- A message with its padding. -/
def pad (message : Bytes) : Bytes :=
  match rate - message.length % rate with
  | 1 => message ++ [0x81]
  | n => message ++ 0x01 :: List.replicate (n - 2) 0 ++ [0x80]

/-- The lanes of a byte string, least significant byte first. -/
def lanes : Bytes → List UInt64
  | a :: b :: c :: d :: e :: f :: g :: h :: rest =>
    ([h, g, f, e, d, c, b, a].foldl (fun acc x => (acc <<< 8) ||| x.toUInt64) 0) :: lanes rest
  | _ => []

/-- Takes in `count` blocks of seventeen lanes. -/
def absorb : Nat → List UInt64 → State → State
  | 0, _, s => s
  | count + 1, ls, s =>
    let block := (ls.take 17).toArray
    absorb count (ls.drop 17)
      (State.permute (((List.range 25).map fun i => s.getD i 0 ^^^ block.getD i 0).toArray))

/-- The thirty-two bytes of the hash. -/
def hash (message : Bytes) : Bytes :=
  let ls := lanes (pad message)
  let s := absorb (ls.length / 17) ls (List.replicate 25 (0 : UInt64)).toArray
  (List.range 32).map fun i => ((s.getD (i / 8) 0) >>> (UInt64.ofNat (8 * (i % 8)))).toUInt8

end ChainRelay.Keccak256
