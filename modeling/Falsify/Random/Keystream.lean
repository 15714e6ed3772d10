/-! # Keystream of random words

The random words come from the ChaCha stream cipher with twelve rounds, used as a generator: block `n`
of a key is a function of the key and of `n` alone, so a stream is a key and a position, and a copy of
it replays the same words.

The sixteen words of a block are kept as four rows.  A quarter round then works on whole rows: the
column step mixes the four columns side by side, and the diagonal step is the column step between two
rotations of the rows. -/

namespace Falsify.Random

/-- Four 32-bit words that are worked on side by side. -/
structure Row where
  w0 : UInt32
  w1 : UInt32
  w2 : UInt32
  w3 : UInt32
  deriving DecidableEq, Inhabited

namespace Row

/-- Combines two rows word by word. -/
@[inline] def zipWith (f : UInt32 → UInt32 → UInt32) (a b : Row) : Row :=
  ⟨f a.w0 b.w0, f a.w1 b.w1, f a.w2 b.w2, f a.w3 b.w3⟩

/-- The words moved one place to the left, the first one coming last. -/
@[inline] def shift (r : Row) : Row := ⟨r.w1, r.w2, r.w3, r.w0⟩

end Row

/-- A 32-bit word with its bits rotated to the left by `n < 32` places. -/
@[inline] def rotateLeft (w n : UInt32) : UInt32 := (w <<< n) ||| (w >>> (32 - n))

/-- A 32-bit word with its bits rotated to the right by `n < 32` places. -/
@[inline] def rotateRight (w n : UInt32) : UInt32 := (w >>> n) ||| (w <<< (32 - n))

/-- The 256-bit key of a stream. -/
structure Key where
  upper : Row
  lower : Row
  deriving DecidableEq, Inhabited

/-- The sixteen words of a block, as four rows. -/
structure Block where
  a : Row
  b : Row
  c : Row
  d : Row
  deriving DecidableEq, Inhabited

namespace Block

/-- Adds `x` to `y` and rotates the exclusive or of the sum with `z`: one of the four steps of a
    quarter round, in all four columns at once. -/
@[inline] private def mix (x y z : Row) (n : UInt32) : Row × Row :=
  let x := x.zipWith (· + ·) y
  (x, z.zipWith (fun u v => rotateLeft (u ^^^ v) n) x)

/-- The quarter rounds of the four columns. -/
def columns (s : Block) : Block :=
  let (a, d) := mix s.a s.b s.d 16
  let (c, b) := mix s.c d s.b 12
  let (a, d) := mix a b d 8
  let (c, b) := mix c d b 7
  ⟨a, b, c, d⟩

/-- The quarter rounds of the four diagonals. -/
def diagonals (s : Block) : Block :=
  -- With row `i` shifted by `i` places, each diagonal stands in a column.
  let s := columns ⟨s.a, s.b.shift, s.c.shift.shift, s.d.shift.shift.shift⟩
  ⟨s.a, s.b.shift.shift.shift, s.c.shift.shift, s.d.shift⟩

/-- `n` double rounds: columns, then diagonals. -/
def scramble : Nat → Block → Block
  | 0, s => s
  | n + 1, s => scramble n s.columns.diagonals

/-- The sum of two blocks, word by word. -/
def add (s t : Block) : Block :=
  ⟨s.a.zipWith (· + ·) t.a, s.b.zipWith (· + ·) t.b,
    s.c.zipWith (· + ·) t.c, s.d.zipWith (· + ·) t.d⟩

/-- What block `n` of a key is scrambled from: four constants, the key, the block number and zeros. -/
def seedOf (key : Key) (n : UInt64) : Block where
  -- The ASCII bytes of "expand 32-byte k", four to a word.
  a := ⟨0x61707865, 0x3320646e, 0x79622d32, 0x6b206574⟩
  b := key.upper
  c := key.lower
  d := ⟨n.toUInt32, (n >>> 32).toUInt32, 0, 0⟩

/-- Block `n` of the keystream of `key`: six double rounds, added to what they started from. -/
def ofKey (key : Key) (n : UInt64) : Block :=
  let s := seedOf key n
  (scramble 6 s).add s

/-- A 64-bit word from its low and high halves. -/
@[inline] def join (low high : UInt32) : UInt64 := low.toUInt64 ||| (high.toUInt64 <<< 32)

/-- The first 64-bit word of a block. -/
def first (s : Block) : UInt64 := join s.a.w0 s.a.w1

/-- The seven 64-bit words after the first one, in the order of the stream. -/
def rest (s : Block) : List UInt64 :=
  [join s.a.w2 s.a.w3, join s.b.w0 s.b.w1, join s.b.w2 s.b.w3, join s.c.w0 s.c.w1,
    join s.c.w2 s.c.w3, join s.d.w0 s.d.w1, join s.d.w2 s.d.w3]

end Block

namespace Key

/-- One step of the sequence that a seed is stretched with. -/
@[inline] private def advance (state : UInt64) : UInt64 :=
  state * 6364136223846793005 + 11634580027462260723

/-- The key word that a state of the stretching sequence stands for: its upper bits folded onto
    themselves and rotated by its five highest bits. -/
@[inline] private def wordOf (state : UInt64) : UInt32 :=
  rotateRight ((((state >>> 18) ^^^ state) >>> 27).toUInt32) (state >>> 59).toUInt32

/-- The key that a 64-bit seed is stretched into. -/
def ofSeed (seed : UInt64) : Key :=
  let s0 := advance seed
  let s1 := advance s0
  let s2 := advance s1
  let s3 := advance s2
  let s4 := advance s3
  let s5 := advance s4
  let s6 := advance s5
  let s7 := advance s6
  ⟨⟨wordOf s0, wordOf s1, wordOf s2, wordOf s3⟩, ⟨wordOf s4, wordOf s5, wordOf s6, wordOf s7⟩⟩

end Key

end Falsify.Random
