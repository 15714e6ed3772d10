import Falsify.Proofs.Search.Minimal
import Mathlib.Algebra.Group.Nat.Defs

/-!
# Searches that halve

The candidates of a natural lie below it by its halvings, the greatest first.  If the numbers that fail are those
from some threshold on, a round moves down by the first halving that does not lead past the threshold.  The one
before it has led past, and is hardly more than twice as much, so the round leaves at most half of the distance.  A
search takes as many steps as the distance has binary digits, at the most.  Were halvings missing from the list,
the threshold would still be found, but in more steps.

## Key results

- `Candidate.le_two_mul_of_find?_halvings`: the first halving within a distance is at least half of it.
- `FailsFirst.two_mul_sub_le`: a round at least halves the distance to the threshold.
- `Descent.length_le`: a search from a distance below `2 ^ k` takes at most `k` steps.
- `minimizeValue_natural_logarithmic`: the value that is found, and bounds on the number of steps.
-/

namespace Falsify

/-- The first halving of a number that is within a distance is at least half of the distance, provided that the
    number itself is. -/
theorem Candidate.le_two_mul_of_find?_halvings {n d h : Nat} {within : Nat → Bool}
    (hwithin : ∀ x ∈ halvings n, within x = true ↔ x ≤ d) (hd : d ≤ 2 * n)
    (hfind : (halvings n).find? within = some h) : h ≤ d ∧ d ≤ 2 * h := by
  induction n using Nat.strongRecOn with
  | ind n ih =>
    rcases Nat.eq_zero_or_pos n with rfl | hn
    · rw [halvings_zero] at hfind
      cases hfind
    · rw [halvings_eq hn] at hwithin hfind
      obtain ⟨hfirst, hrest⟩ := List.forall_mem_cons.1 hwithin
      cases hn' : within n with
      | true =>
        rw [List.find?_cons_of_pos hn'] at hfind
        cases hfind
        exact ⟨hfirst.1 hn', hd⟩
      | false =>
        -- As `n` is beyond the distance, its half is still at least half of it.
        have hbeyond : ¬n ≤ d := fun hle => Bool.false_ne_true (hn'.symm.trans (hfirst.2 hle))
        rw [List.find?_cons_of_neg (Bool.eq_false_iff.1 hn')] at hfind
        exact ih (n / 2) (Nat.div_lt_self hn (by decide)) hrest (by omega) hfind

namespace Search

variable {σ : Type} {trace : TraceToggles} {var : String} {s u : Session σ}

/-! ## Rounds -/

section Threshold

variable {fails : UInt64 → Bool} {t p : UInt64} (hfails : ∀ m, fails m = true ↔ t ≤ m)

include hfails

/-- A round moves on to a smaller number that is at most half as far from the threshold. -/
theorem FailsFirst.two_mul_sub_le {c : UInt64} (hp : t ≤ p)
    (h : FailsFirst trace var (Sampler.natural (σ := σ)).interpret (predicateBody fails)
      ((Sampler.natural (σ := σ)).shrinks p) s c u) :
    t ≤ c ∧ c < p ∧ 2 * (c.toNat - t.toNat) ≤ p.toNat - t.toNat := by
  have hbound := p.toNat_lt
  rw [UInt64.le_iff_toNat_le] at hp
  have hsmaller := Candidate.lt_of_mem_natural h.mem
  -- The round looks for a halving, and the first one that it finds has led to `c`.
  have hround : ((Candidate.halvings p.toNat).map fun d => UInt64.ofNat (p.toNat - d)).find? fails = some c :=
    h.find?_eq fun _ _ => isFailure_predicateBody ..
  rw [List.find?_map, Option.map_eq_some_iff] at hround
  obtain ⟨d, hfind, rfl⟩ := hround
  have hlands (x : Nat) : (UInt64.ofNat (p.toNat - x)).toNat = p.toNat - x :=
    UInt64.toNat_ofNat_of_lt' (by show _ < 2 ^ 64; omega)
  have hwithin : ∀ x ∈ Candidate.halvings p.toNat,
      (fails ∘ fun d => UInt64.ofNat (p.toNat - d)) x = true ↔ x ≤ p.toNat - t.toNat := by
    intro x hx
    have hle := (Candidate.pos_le_of_mem_halvings hx).2
    rw [Function.comp_apply, hfails, UInt64.le_iff_toNat_le, hlands]
    omega
  obtain ⟨hle, hhalf⟩ := Candidate.le_two_mul_of_find?_halvings hwithin (by omega) hfind
  rw [hlands] at hsmaller
  rw [UInt64.le_iff_toNat_le, UInt64.lt_iff_toNat_lt, hlands]
  omega

/-! ## Descents -/

/-- A search takes at most `k` steps if the threshold is less than `2 ^ k` away. -/
theorem Descent.length_le {path : List (UInt64 × Session σ)} {k : Nat}
    (h : Descent trace var .natural (predicateBody fails) p s path u) (hp : t ≤ p)
    (hk : p.toNat - t.toNat < 2 ^ k) : path.length ≤ k := by
  induction h generalizing k with
  | minimal => exact Nat.zero_le k
  | step hc _ ih =>
    obtain ⟨hle, hlt, hhalf⟩ := hc.two_mul_sub_le hfails hp
    have hle' := UInt64.le_iff_toNat_le.1 hle
    rw [UInt64.lt_iff_toNat_lt] at hlt
    cases k with
    | zero =>
      -- There is no step from the threshold itself.
      rw [Nat.pow_zero] at hk
      omega
    | succ k =>
      rw [Nat.pow_succ] at hk
      rw [List.length_cons]
      exact Nat.succ_le_succ (ih hle (by omega))

/-- A search from the threshold stays there. -/
theorem Descent.length_eq_zero {path : List (UInt64 × Session σ)}
    (h : Descent trace var .natural (predicateBody fails) t s path u) : path.length = 0 := by
  have hle := h.length_le hfails (UInt64.le_refl t) (k := 0) (by rw [Nat.sub_self]; decide)
  exact Nat.le_zero.1 hle

end Threshold

/-! ## Searches -/

/-- **Logarithmic convergence.**  If a number fails as soon as a smaller one does, the search from a number that
    fails finds the least one, `t`.  It takes no step from there and at least one from elsewhere, and not more than
    one step for each binary digit of the distance; so 64 steps are always enough. -/
theorem minimizeValue_natural_logarithmic {σ : Type} (world : σ) {fails : UInt64 → Bool} {start t : UInt64}
    (hup : ∀ m n, m ≤ n → fails m = true → fails n = true) (hstart : fails start = true)
    (ht : fails t = true) (hleast : ∀ m, fails m = true → t ≤ m) :
    let found := minimizeValue .natural fails start world
    found.1 = t ∧ (start = t → found.2 = 0) ∧
      (start ≠ t → 1 ≤ found.2.toNat ∧ found.2.toNat ≤ Nat.log2 (start.toNat - t.toNat) + 1) ∧
        found.2.toNat ≤ 64 := by
  intro found
  have hfails (m : UInt64) : fails m = true ↔ t ≤ m := ⟨hleast m, fun hm => hup t m hm ht⟩
  have hle := hleast start hstart
  have hfound : found.1 = t := by
    obtain ⟨hend, hmin⟩ := minimizeValue_natural world hup hstart
    exact UInt64.le_antisymm (hmin t ht) (hleast _ hend)
  obtain ⟨s, r, path, u, hpath, hrun⟩ := exists_descent_minimizeValue .natural world hstart
  have hsteps : found.2 = .ofNat path.length := congrArg Prod.snd hrun
  have hbound : path.length ≤ 64 := by
    have hstart := start.toNat_lt
    exact hpath.length_le hfails hle (by show _ < 2 ^ 64; omega)
  -- So few steps fit into a word, and are counted as they are.
  have hcount : found.2.toNat = path.length := by
    rw [hsteps]
    exact UInt64.toNat_ofNat_of_lt' (Nat.lt_of_le_of_lt hbound (by decide))
  refine ⟨hfound, fun heq => ?_, fun hne => ⟨?_, ?_⟩, ?_⟩
  · subst heq
    rw [hsteps, hpath.length_eq_zero hfails]
    rfl
  · -- Without a step the search would have ended at its start.
    rw [hcount]
    cases path with
    | nil => exact absurd ((congrArg Prod.fst hrun).symm.trans hfound) hne
    | cons step path => exact Nat.succ_pos path.length
  · rw [hcount]
    exact hpath.length_le hfails hle Nat.lt_log2_self
  · rw [hcount]
    exact hbound

/-- A search for `2 ^ 63` from the greatest number, at a distance of 63 binary digits. -/
theorem minimizeValue_natural_logarithmic_half :
    let fails (m : UInt64) : Bool := 9223372036854775808 ≤ m
    let found := minimizeValue .natural fails 18446744073709551615 ()
    found.1 = 9223372036854775808 ∧ 1 ≤ found.2.toNat ∧ found.2.toNat ≤ 63 := by
  intro fails found
  have hup (m n : UInt64) (hmn : m ≤ n) (hm : fails m = true) : fails n = true :=
    decide_eq_true (UInt64.le_trans (of_decide_eq_true hm) hmn)
  have hstart : fails 18446744073709551615 = true := by decide
  have ht : fails 9223372036854775808 = true := by decide
  obtain ⟨hfound, -, hsteps, -⟩ :=
    minimizeValue_natural_logarithmic () hup hstart ht fun m hm => of_decide_eq_true hm
  obtain ⟨hlower, hupper⟩ := hsteps (by decide)
  exact ⟨hfound, hlower, hupper⟩

end Search

end Falsify
