import Falsify.Random.Keystream

/-! # Random generator

A `Gen` is a position in a keystream together with the *size*, the bound that samplers draw their values
under.  It is a plain value: drawing returns the draw and the generator after it, and a copy replays the
same draws.

* `size_choose`, `size_chooseNat`, `size_chooseInt`, `size_chooseBool`: drawing leaves the size alone. -/

namespace Falsify

open Falsify.Random

/-- A position in a stream of random words, and the size that values are drawn under. -/
structure Gen where
  /-- The key of the stream. -/
  key : Key
  /-- The number of the block that is read when no word is pending. -/
  nextBlock : UInt64
  /-- The words of the current block that are still to be drawn. -/
  pending : List UInt64
  /-- The size that values are drawn under. -/
  size : UInt64
  deriving DecidableEq, Inhabited

namespace Gen

/-- The generator of a seed, at the start of its stream and with size 0. -/
def ofSeed (seed : UInt64) : Gen := ⟨Key.ofSeed seed, 0, [], 0⟩

/-- The same position in the stream with another size. -/
def withSize (g : Gen) (size : UInt64) : Gen := { g with size }

/-- The next 64-bit word of the stream. -/
def next (g : Gen) : UInt64 × Gen :=
  match g.pending with
  | w :: ws => (w, { g with pending := ws })
  | [] =>
    let block := Block.ofKey g.key g.nextBlock
    (block.first, { g with nextBlock := g.nextBlock + 1, pending := block.rest })

@[simp] theorem size_next (g : Gen) : g.next.2.size = g.size := by
  unfold next
  split <;> rfl

/-- How many words are tried before a draw from a range settles for a slightly uneven one.  Each try
    succeeds more often than not, so a stream of random words never gets here. -/
def maxTries : Nat := 4096

/-- Draws words until one, multiplied by `range`, leaves a low half of at most `zone`; the answer is the
    high half of that product, which is below `range`. -/
def scaled (range zone : UInt64) : Nat → Gen → UInt64 × Gen
  | 0, g => (UInt64.ofNat (g.next.1.toNat * range.toNat / UInt64.size), g.next.2)
  | tries + 1, g =>
    let drawn := g.next
    let product := drawn.1.toNat * range.toNat
    -- The draws that would favour some results over others are thrown away.
    if product % UInt64.size ≤ zone.toNat then (UInt64.ofNat (product / UInt64.size), drawn.2)
    else scaled range zone tries drawn.2

@[simp] theorem size_scaled (range zone : UInt64) (tries : Nat) (g : Gen) :
    (scaled range zone tries g).2.size = g.size := by
  induction tries generalizing g with
  | zero => simp [scaled]
  | succ tries ih =>
    simp only [scaled]
    split
    · simp
    · rw [ih, size_next]

/-- The largest low half that a draw from `range` accepts: one less than the multiple of `range` by the
    greatest power of two that keeps it within 64 bits. -/
def acceptZone (range : UInt64) : UInt64 := (range <<< UInt64.ofNat (63 - range.toNat.log2)) - 1

/-- A uniform word between `lo` and `hi`, both included, counting upwards from `lo` and around the end of
    the 64-bit words.  When the range is all words, it is the next word of the stream itself. -/
def choose (lo hi : UInt64) (g : Gen) : UInt64 × Gen :=
  -- The number of words in the range, which is zero when it is all words.
  if hi - lo + 1 = 0 then g.next
  else
    let drawn := scaled (hi - lo + 1) (acceptZone (hi - lo + 1)) maxTries g
    (lo + drawn.1, drawn.2)

@[simp] theorem size_choose (lo hi : UInt64) (g : Gen) : (choose lo hi g).2.size = g.size := by
  unfold choose
  split <;> simp

/-- A uniform natural between two bounds, both included, whichever of them is the smaller. -/
def chooseNat (lo hi : UInt64) (g : Gen) : UInt64 × Gen :=
  if lo ≤ hi then choose lo hi g else choose hi lo g

@[simp] theorem size_chooseNat (lo hi : UInt64) (g : Gen) :
    (chooseNat lo hi g).2.size = g.size := by
  unfold chooseNat
  split <;> simp

/-- A uniform integer between two bounds, both included, whichever of them is the smaller. -/
def chooseInt (lo hi : Int64) (g : Gen) : Int64 × Gen :=
  let drawn :=
    if lo ≤ hi then choose lo.toUInt64 hi.toUInt64 g else choose hi.toUInt64 lo.toUInt64 g
  (drawn.1.toInt64, drawn.2)

@[simp] theorem size_chooseInt (lo hi : Int64) (g : Gen) :
    (chooseInt lo hi g).2.size = g.size := by
  simp only [chooseInt]
  split <;> simp

/-- A fair coin: whether the next word has its highest bit clear. -/
def chooseBool (g : Gen) : Bool × Gen :=
  (g.next.1 < 0x8000000000000000, g.next.2)

@[simp] theorem size_chooseBool (g : Gen) : (chooseBool g).2.size = g.size := by
  simp [chooseBool]

end Gen

end Falsify
