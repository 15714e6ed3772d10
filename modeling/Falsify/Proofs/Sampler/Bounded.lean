import Falsify.Proofs.Candidate.Order
import Falsify.Proofs.Random.Range
import Falsify.Proofs.Sampler.Size
import Falsify.Proofs.Search.Descent
import Falsify.Ty

/-!
# Bounds on proxies

A proxy of a type is bounded by a number if every natural in it is at most that number, every integer is at
most as far from zero, every character is at most that far into the alphabet, and every list and string is
at most that long.  At any size, the default sampler of a type draws proxies bounded by the size, and
shrinking never leads out of a bound.

## Key results

- `Sampler.toInt_integerBound`, `Sampler.toInt_neg_integerBound`: the ends of the range of integers, at every
  size.
- `Sampler.Within`: a sampler stays within a bound; lists, optional values and pairs stay within theirs.
- `Ty.Bounded`, `Ty.within_sampler`: the default samplers stay within the bounds of their types.
- `Sampler.Within.of_steps`: so does whatever following candidates leads to.
-/

namespace Falsify

variable {σ π ρ α β : Type}

/-! ## Lists of candidates -/

namespace Candidate

/-- A list with one element replaced has only elements that the list had, and the one put in place. -/
theorem Replaced.forall_mem {r : α → α → Prop} {P : α → Prop} (hr : ∀ {a b}, r b a → P a → P b)
    {c l : List α} (h : Replaced r c l) (hl : ∀ a ∈ l, P a) : ∀ b ∈ c, P b := by
  induction h with
  | head h =>
    rw [List.forall_mem_cons] at hl ⊢
    exact ⟨hr h hl.1, hl.2⟩
  | tail _ ih =>
    rw [List.forall_mem_cons] at hl ⊢
    exact ⟨hl.1, ih hl.2⟩

/-- A candidate for a list is no longer than the list. -/
theorem length_le_of_mem_list {candidates : α → List α} {c l : List α} (hc : c ∈ list candidates l) :
    c.length ≤ l.length := by
  rcases List.mem_append.1 hc with hc | hc
  · obtain ⟨b, -, hc⟩ := List.mem_flatMap.1 hc
    exact (sublist_of_mem_removals hc).length_le
  · exact Nat.le_of_eq (mem_replacements.1 hc).length_eq

/-- What holds of the elements of a list, and of candidates of what it holds of, holds of the elements of a
    candidate for the list. -/
theorem forall_mem_of_mem_list {candidates : α → List α} {P : α → Prop}
    (hP : ∀ {a b}, b ∈ candidates a → P a → P b) {c l : List α} (hc : c ∈ list candidates l)
    (hl : ∀ a ∈ l, P a) : ∀ b ∈ c, P b := by
  rcases List.mem_append.1 hc with hc | hc
  · obtain ⟨b, -, hc⟩ := List.mem_flatMap.1 hc
    exact fun b hb => hl b ((sublist_of_mem_removals hc).subset hb)
  · exact (mem_replacements.1 hc).forall_mem (fun hb => hP hb) hl

end Candidate

/-! ## Samplers within bounds -/

namespace Sampler

/-- The greatest integer that is drawn at a size is the size, or the greatest integer there is. -/
theorem toInt_integerBound (size : UInt64) :
    (integerBound size).toInt = min (size.toNat : Int) Int64.maxValue.toInt := by
  -- The size is cast to an integer only after it has been compared with the greatest one, so the cast keeps it.
  have hmax : Int64.maxValue.toUInt64.toNat = 2 ^ 63 - 1 := by decide
  have hgreatest := Int64.toInt_maxValue
  unfold integerBound
  split
  · rename_i hle
    rw [UInt64.le_iff_toNat_le, hmax] at hle
    have hint := Gen.toInt_eq_toNat size.toInt64
    rw [show size.toInt64.toUInt64 = size from rfl, show UInt64.size = 2 ^ 64 from rfl] at hint
    omega
  · rename_i hlt
    rw [UInt64.le_iff_toNat_le, hmax] at hlt
    omega

/-- Its negation, the least integer that is drawn, does not overflow. -/
theorem toInt_neg_integerBound (size : UInt64) : (-integerBound size).toInt = -(integerBound size).toInt := by
  refine Candidate.toInt_neg_of_ne_minValue fun hmin => ?_
  have hbound := toInt_integerBound size
  rw [hmin, Int64.toInt_minValue, Int64.toInt_maxValue] at hbound
  omega

/-- The sampler stays within a bound that depends on the size: what it draws at a size is within, and so is
    whatever what is within is replaced with.  Draws leave the size alone. -/
structure Within (s : Sampler σ π α) (bound : Nat → π → Prop) : Prop where
  keepsSize : s.KeepsSize
  draw : ∀ src, bound src.gen.size.toNat (s.draw src).1
  shrinks : ∀ {n p c}, c ∈ s.shrinks p → bound n p → bound n c

/-- Natural numbers are drawn up to the size, and their candidates are smaller. -/
theorem within_natural : (natural (σ := σ)).Within fun n p => p.toNat ≤ n where
  keepsSize := keepsSize_natural
  draw src := UInt64.le_iff_toNat_le.1 (Gen.chooseNat_mem UInt64.zero_le src.gen).2
  shrinks hc hp := Nat.le_trans (Nat.le_of_lt (Candidate.lt_of_mem_natural hc)) hp

/-- Integers are drawn up to the size on both sides of zero, as far as integers go, and their candidates have
    smaller magnitudes or the same. -/
theorem within_integer :
    (integer (σ := σ)).Within fun n p => p.toInt.natAbs ≤ min n Int64.maxValue.toInt.natAbs where
  keepsSize := keepsSize_integer
  draw src := by
    have hmax := Int64.toInt_maxValue
    have hbound := toInt_integerBound src.gen.size
    have hneg := toInt_neg_integerBound src.gen.size
    -- The ends of the range are equally far from zero, so both bound the distance of what is between them.
    have hle : -integerBound src.gen.size ≤ integerBound src.gen.size := by
      rw [Int64.le_iff_toInt_le]
      omega
    have hdrawn := Gen.chooseInt_mem hle src.gen
    rw [Int64.le_iff_toInt_le, Int64.le_iff_toInt_le] at hdrawn
    show (Gen.chooseInt (-integerBound src.gen.size) (integerBound src.gen.size) src.gen).1.toInt.natAbs ≤ _
    omega
  shrinks hc hp := Nat.le_trans (Candidate.Gapless.integer.le_of_mem hc).1 hp

theorem within_bool : (bool (σ := σ)).Within fun _ _ => True where
  keepsSize := keepsSize_bool
  draw _ := trivial
  shrinks _ _ := trivial

/-- Characters are drawn by places up to the size, as far as the alphabet goes. -/
theorem within_char : (char (σ := σ)).Within fun n p => p.toNat ≤ min n 94 where
  keepsSize := keepsSize_char
  draw src := Gen.chooseNat_le_min src.gen.size lastPlace src.gen
  shrinks hc hp := Nat.le_trans (Nat.le_of_lt (Candidate.lt_of_mem_natural hc)) hp

/-- A list is at most as long as a number, and never longer than 4096, and its elements are bounded. -/
def ListBounded (bound : Nat → π → Prop) (n : Nat) (ps : List π) : Prop :=
  ps.length ≤ min n 4096 ∧ ∀ p ∈ ps, bound n p

namespace Within

variable {s : Sampler σ π α} {bound : Nat → π → Prop}

/-- Repeated draws give so many proxies, each within the bound. -/
theorem repeated (h : s.Within bound) (k : Nat) (src : Source σ) :
    (Sampler.repeated s.draw k src).1.length = k ∧
      ∀ p ∈ (Sampler.repeated s.draw k src).1, bound src.gen.size.toNat p := by
  induction k generalizing src with
  | zero => exact ⟨rfl, nofun⟩
  | succ k ih =>
    have hrun : (Sampler.repeated s.draw (k + 1) src).1 =
        (s.draw src).1 :: (Sampler.repeated s.draw k (s.draw src).2).1 := rfl
    obtain ⟨hlength, hmem⟩ := ih (s.draw src).2
    -- The draw before has left the size alone.
    rw [h.keepsSize] at hmem
    rw [hrun, List.length_cons, hlength, List.forall_mem_cons]
    exact ⟨rfl, h.draw src, hmem⟩

/-- Lists are drawn with at most as many elements as the size says, each within its bound. -/
theorem list (h : s.Within bound) : s.list.Within (ListBounded bound) where
  keepsSize := h.keepsSize.list
  draw src := by
    have hle := Gen.chooseNat_le_min src.gen.size maxLength src.gen
    obtain ⟨hlength, hmem⟩ := h.repeated (Gen.chooseNat 0 (min src.gen.size maxLength) src.gen).1.toNat
      { src with gen := (Gen.chooseNat 0 (min src.gen.size maxLength) src.gen).2 }
    -- The elements are drawn at the size that their number was drawn at.
    rw [Gen.size_chooseNat] at hmem
    exact ⟨hlength ▸ hle, hmem⟩
  shrinks hc hp := ⟨Nat.le_trans (Candidate.length_le_of_mem_list hc) hp.1,
    Candidate.forall_mem_of_mem_list h.shrinks hc hp.2⟩

/-- Optional values are within the bound of the value, if there is one. -/
theorem option (h : s.Within bound) : s.option.Within fun n o => ∀ p ∈ o, bound n p where
  keepsSize := h.keepsSize.option
  draw src := by
    -- The draw that decides between nothing and a value leaves the size to the draw of the value.
    have hsome := h.draw { src with gen := (Gen.chooseNat 0 3 src.gen).2 }
    rw [Gen.size_chooseNat] at hsome
    show ∀ p ∈ ((if (Gen.chooseNat 0 3 src.gen).1 = 0 then pure none else some <$> s.draw :
      StateM (Source σ) _) { src with gen := (Gen.chooseNat 0 3 src.gen).2 }).1, bound _ p
    split
    · exact nofun
    · rintro _ ⟨⟩
      exact hsome
  shrinks := by
    intro n o c hc ho
    cases o with
    | none => cases hc
    | some p =>
      rcases List.mem_cons.1 hc with rfl | hc
      · exact nofun
      · obtain ⟨q, hq, rfl⟩ := List.mem_map.1 hc
        rintro _ ⟨⟩
        exact h.shrinks hq (ho p rfl)

theorem pair {t : Sampler σ ρ β} {bound' : Nat → ρ → Prop} (h : s.Within bound) (h' : t.Within bound') :
    (s.pair t).Within fun n p => bound n p.1 ∧ bound' n p.2 where
  keepsSize := h.keepsSize.pair h'.keepsSize
  draw src := by
    -- The second part is drawn after the first, at the same size.
    have hsecond := h'.draw (s.draw src).2
    rw [h.keepsSize] at hsecond
    exact ⟨h.draw src, hsecond⟩
  shrinks := by
    intro n p c hc hp
    rcases List.mem_append.1 hc with hc | hc
    · obtain ⟨a, ha, rfl⟩ := List.mem_map.1 hc
      exact ⟨h.shrinks ha hp.1, hp.2⟩
    · obtain ⟨b, hb, rfl⟩ := List.mem_map.1 hc
      exact ⟨hp.1, h'.shrinks hb hp.2⟩

theorem map (h : s.Within bound) (f : α → β) : (s.map f).Within bound := ⟨h.keepsSize, h.draw, h.shrinks⟩

/-- Following candidates from a proxy within a bound leads to proxies within it. -/
theorem of_steps (h : s.Within bound) {k n : Nat} {p q : π} (hsteps : s.Steps k p q) (hp : bound n p) :
    bound n q := by
  induction hsteps with
  | refl => exact hp
  | head hc _ ih => exact ih (h.shrinks hc hp)

end Within

end Sampler

/-! ## Types -/

namespace Ty

/-- The proxy is bounded by a number: every natural in it is at most the number; every integer is at most as
    far from zero, and not the least integer; every place of a character is at most the number and in the
    alphabet; and every list and every string is at most as long as the number, and never longer than 4096. -/
def Bounded (n : Nat) : (t : Ty) → t.Proxy → Prop
  | natural, p => p.toNat ≤ n
  | integer, p => p.toInt.natAbs ≤ min n Int64.maxValue.toInt.natAbs
  | bool, _ => True
  | char, p => p.toNat ≤ min n 94
  | string, ps => ps.length ≤ min n 4096 ∧ ∀ p ∈ ps, p.toNat ≤ min n 94
  | list t, ps => ps.length ≤ min n 4096 ∧ ∀ p ∈ ps, t.Bounded n p
  | option t, o => ∀ p ∈ o, t.Bounded n p
  | pair s t, p => s.Bounded n p.1 ∧ t.Bounded n p.2

/-- The default sampler of a type draws proxies that are bounded by the size, and their candidates are
    bounded as they are. -/
theorem within_sampler : (t : Ty) → (t.sampler (σ := σ)).Within fun n p => t.Bounded n p
  | natural => Sampler.within_natural
  | integer => Sampler.within_integer
  | bool => Sampler.within_bool
  | char => Sampler.within_char
  | string => Sampler.within_char.list.map String.ofList
  | list t => t.within_sampler.list
  | option t => t.within_sampler.option
  | pair s t => s.within_sampler.pair t.within_sampler

end Ty

end Falsify
