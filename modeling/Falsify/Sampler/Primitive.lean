import Falsify.Candidate.List
import Falsify.Sampler.Basic

/-! # Samplers of numbers, truth values and characters

Naturals lie between zero and the size, integers within the size on both sides of zero.  A character is
drawn by its place in an alphabet that begins with the lower-case letters, so a small size stays within
them, and a failing character gives way to an earlier one. -/

namespace Falsify

namespace Sampler

variable {σ : Type}

/-- Naturals up to the size. -/
def natural : Sampler σ UInt64 UInt64 where
  draw := do
    let size ← Source.size
    Source.random (Gen.chooseNat 0 size)
  shrinks := Candidate.natural
  interpret n := n
  wf := Subrelation.wf Candidate.lt_of_mem_natural (InvImage.wf UInt64.toNat Nat.lt_wfRel.wf)

/-- The greatest integer that an integer sampler draws at a size. -/
def integerBound (size : UInt64) : Int64 :=
  if size ≤ Int64.maxValue.toUInt64 then size.toInt64 else Int64.maxValue

/-- Integers whose magnitude is at most the size. -/
def integer : Sampler σ Int64 Int64 where
  draw := do
    let bound := integerBound (← Source.size)
    Source.random (Gen.chooseInt (-bound) bound)
  shrinks := Candidate.integer
  interpret x := x
  wf := Subrelation.wf Candidate.integerRank_lt_of_mem_integer
    (InvImage.wf Candidate.integerRank Nat.lt_wfRel.wf)

/-- The candidates for a truth value: `false` for `true`. -/
def boolShrinks (b : Bool) : List Bool := if b then [false] else []

theorem lt_of_mem_boolShrinks {b c : Bool} (h : c ∈ boolShrinks b) : c.toNat < b.toNat := by
  cases b <;> simp_all [boolShrinks]

/-- Truth values, each as likely as the other. -/
def bool : Sampler σ Bool Bool where
  draw := Source.random Gen.chooseBool
  shrinks := boolShrinks
  interpret b := b
  wf := Subrelation.wf lt_of_mem_boolShrinks (InvImage.wf Bool.toNat Nat.lt_wfRel.wf)

/-- The characters that can be drawn, from the one that is liked best in a report. -/
def alphabet : Array Char :=
  ("abcdefghijklmnopqrstuvwxyzABCDEFGHIJKLMNOPQRSTUVWXYZ0123456789 !\"#$%&'()*+,-./:;<=>?@[\\]^_".toList
    ++ ['\x60', '\x7b', '|', '\x7d', '~']).toArray

/-- The place of the last character of the alphabet. -/
def lastPlace : UInt64 := 94

/-- The character at a place of the alphabet; every place past the end stands for the last one. -/
def characterAt (place : UInt64) : Char := alphabet.getD (min place lastPlace).toNat '~'

/-- Characters of the alphabet, as far into it as the size allows. -/
def char : Sampler σ UInt64 Char where
  draw := do
    let size ← Source.size
    Source.random (Gen.chooseNat 0 (min size lastPlace))
  shrinks := Candidate.natural
  interpret := characterAt
  wf := natural (σ := σ).wf

end Sampler

end Falsify
