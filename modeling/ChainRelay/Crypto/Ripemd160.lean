import ChainRelay.Text.Utf8

/-!
# RIPEMD-160

The hash of twenty bytes that account addresses are made of. Two lines of eighty
steps run over each block and are added crosswise to the five words.
-/

namespace ChainRelay.Ripemd160

/-- The five words that are carried from block to block. -/
structure State where
  (a b c d e : UInt32)

/-- The words before the first block. -/
def State.initial : State :=
  ⟨0x67452301, 0xefcdab89, 0x98badcfe, 0x10325476, 0xc3d2e1f0⟩

/-- The word that each step of the left line takes. -/
def leftOrder : Array Nat := #[
  0, 1, 2, 3, 4, 5, 6, 7, 8, 9, 10, 11, 12, 13, 14, 15,
  7, 4, 13, 1, 10, 6, 15, 3, 12, 0, 9, 5, 2, 14, 11, 8,
  3, 10, 14, 4, 9, 15, 8, 1, 2, 7, 0, 6, 13, 11, 5, 12,
  1, 9, 11, 10, 0, 8, 12, 4, 13, 3, 7, 15, 14, 5, 6, 2,
  4, 0, 5, 9, 7, 12, 2, 10, 14, 1, 3, 8, 11, 6, 15, 13]

/-- The word that each step of the right line takes. -/
def rightOrder : Array Nat := #[
  5, 14, 7, 0, 9, 2, 11, 4, 13, 6, 15, 8, 1, 10, 3, 12,
  6, 11, 3, 7, 0, 13, 5, 10, 14, 15, 8, 12, 4, 9, 1, 2,
  15, 5, 1, 3, 7, 14, 6, 9, 11, 8, 12, 2, 10, 0, 4, 13,
  8, 6, 4, 1, 3, 11, 15, 0, 5, 12, 2, 13, 9, 7, 10, 14,
  12, 15, 10, 4, 1, 5, 8, 7, 6, 2, 13, 14, 0, 3, 9, 11]

/-- How far each step of the left line turns its word. -/
def leftShift : Array UInt32 := #[
  11, 14, 15, 12, 5, 8, 7, 9, 11, 13, 14, 15, 6, 7, 9, 8,
  7, 6, 8, 13, 11, 9, 7, 15, 7, 12, 15, 9, 11, 7, 13, 12,
  11, 13, 6, 7, 14, 9, 13, 15, 14, 8, 13, 6, 5, 12, 7, 5,
  11, 12, 14, 15, 14, 15, 9, 8, 9, 14, 5, 6, 8, 6, 5, 12,
  9, 15, 5, 11, 6, 8, 13, 12, 5, 12, 13, 14, 11, 8, 5, 6]

/-- How far each step of the right line turns its word. -/
def rightShift : Array UInt32 := #[
  8, 9, 9, 11, 13, 15, 15, 5, 7, 7, 8, 11, 14, 14, 12, 6,
  9, 13, 15, 7, 12, 8, 9, 11, 7, 7, 12, 7, 6, 15, 13, 11,
  9, 7, 15, 11, 8, 6, 6, 14, 12, 13, 5, 14, 13, 13, 7, 5,
  15, 5, 8, 11, 14, 14, 6, 14, 6, 9, 12, 9, 12, 5, 15, 8,
  8, 5, 12, 9, 12, 5, 14, 6, 8, 13, 6, 5, 15, 13, 11, 11]

/-- The constants of the five rounds of the left line. -/
def leftConstant : Array UInt32 := #[0, 0x5a827999, 0x6ed9eba1, 0x8f1bbcdc, 0xa953fd4e]

/-- The constants of the five rounds of the right line. -/
def rightConstant : Array UInt32 := #[0x50a28be6, 0x5c4dd124, 0x6d703ef3, 0x7a6d76e9, 0]

/-- Turns a word left by `n` bits, `0 < n < 32`. -/
def rotate (x n : UInt32) : UInt32 := (x <<< n) ||| (x >>> (32 - n))

/-- The function of a round, counted from the left. -/
def mix (round : Nat) (x y z : UInt32) : UInt32 :=
  match round with
  | 0 => x ^^^ y ^^^ z
  | 1 => (x &&& y) ||| ((~~~ x) &&& z)
  | 2 => (x ||| (~~~ y)) ^^^ z
  | 3 => (x &&& z) ||| (y &&& (~~~ z))
  | _ => x ^^^ (y ||| (~~~ z))

/-- One step of either line. -/
def State.step (s : State) (round : Nat) (word constant shift : UInt32) : State :=
  let t := rotate (s.a + mix round s.b s.c s.d + word + constant) shift + s.e
  ⟨s.e, t, s.b, rotate s.c 10, s.d⟩

/-- Folds one block of sixteen words into the state. -/
def State.compress (s : State) (block : Array UInt32) : State :=
  let left := (List.range 80).foldl (fun t i =>
    t.step (i / 16) (block.getD (leftOrder.getD i 0) 0) (leftConstant.getD (i / 16) 0)
      (leftShift.getD i 0)) s
  let right := (List.range 80).foldl (fun t i =>
    t.step (4 - i / 16) (block.getD (rightOrder.getD i 0) 0) (rightConstant.getD (i / 16) 0)
      (rightShift.getD i 0)) s
  ⟨s.b + left.c + right.d, s.c + left.d + right.e, s.d + left.e + right.a,
    s.e + left.a + right.b, s.a + left.b + right.c⟩

/-- The words of a byte string, least significant byte first. -/
def words : Bytes → List UInt32
  | a :: b :: c :: d :: rest =>
    (a.toUInt32 ||| (b.toUInt32 <<< 8) ||| (c.toUInt32 <<< 16) ||| (d.toUInt32 <<< 24))
      :: words rest
  | _ => []

/-- The `count` bytes of a number, least significant first. -/
def littleEndian (count n : Nat) : Bytes :=
  (List.range count).map fun i => UInt8.ofNat (n / Nat.pow 256 i)

/-- A message with its padding: a set bit, zeros, and its length in bits. -/
def pad (message : Bytes) : Bytes :=
  let zeros := (119 - message.length % 64) % 64
  message ++ 0x80 :: List.replicate zeros 0 ++ littleEndian 8 (message.length * 8)

/-- Folds `count` blocks into the state. -/
def blocks : Nat → List UInt32 → State → State
  | 0, _, s => s
  | count + 1, ws, s => blocks count (ws.drop 16) (s.compress (ws.take 16).toArray)

/-- The twenty bytes of the hash. -/
def hash (message : Bytes) : Bytes :=
  let ws := words (pad message)
  let s := blocks (ws.length / 16) ws State.initial
  [s.a, s.b, s.c, s.d, s.e].flatMap fun w => littleEndian 4 w.toNat

end ChainRelay.Ripemd160
