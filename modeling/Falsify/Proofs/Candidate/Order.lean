import Falsify.Sampler.Container
import Mathlib.Data.List.Forall2

/-!
# Orders without gaps

The candidates of a proxy are only some of the smaller proxies.  They are enough for a search if the order
has no gap between them and the proxy: whatever is smaller than the proxy is at most one of its candidates.

## Key results

- `Gapless.natural`, `Gapless.integer`, `Gapless.bool`: the candidates of simple values leave no gap.
- `Gapless.option`, `Gapless.pair`, `Gapless.list`: neither do those of a container, if those of its parts do
  not.
-/

namespace Falsify.Candidate

variable {α β : Type}

/-- The candidates lead down a preorder without a gap: they are smaller, and a value below another one is
    below a candidate of that other one. -/
structure Gapless (candidates : α → List α) (le : α → α → Prop) : Prop where
  refl : ∀ a, le a a
  trans : ∀ {a b c}, le a b → le b c → le a c
  le_of_mem : ∀ {a c}, c ∈ candidates a → le c a
  exists_between : ∀ {a b}, le b a → b ≠ a → ∃ c ∈ candidates a, le b c

/-! ## Numbers and truth values -/

theorem one_mem_halvings {n : Nat} (h : 0 < n) : 1 ∈ halvings n := by
  induction n using Nat.strongRecOn with
  | ind n ih =>
    rw [halvings_eq h, List.mem_cons]
    -- One is the number itself or among the halvings of its half.
    rcases Nat.lt_or_ge 1 n with hn | hn
    · exact .inr (ih (n / 2) (by omega) (by omega))
    · exact .inl (by omega)

/-- The last candidate of a positive natural is the one before it. -/
theorem exists_pred_mem_natural {n : UInt64} (h : 0 < n.toNat) :
    ∃ m ∈ natural n, m.toNat + 1 = n.toNat := by
  refine ⟨UInt64.ofNat (n.toNat - 1), List.mem_map.2 ⟨1, one_mem_halvings h, rfl⟩, ?_⟩
  have hlt := n.toNat_lt
  rw [UInt64.toNat_ofNat_of_lt' (by show _ < 2 ^ 64; omega)]
  omega

/-- The candidates of a natural number leave no gap below it: its predecessor is one of them. -/
theorem Gapless.natural : Gapless natural (· ≤ ·) where
  refl := UInt64.le_refl
  trans := UInt64.le_trans
  le_of_mem h := UInt64.le_iff_toNat_le.2 (Nat.le_of_lt (lt_of_mem_natural h))
  exists_between := by
    intro n m hle hne
    have hle := UInt64.le_iff_toNat_le.1 hle
    have hne : m.toNat ≠ n.toNat := fun h => hne (UInt64.toNat_inj.1 h)
    -- The number before is a candidate, and everything else below is at most that.
    obtain ⟨c, hc, hpred⟩ := exists_pred_mem_natural (n := n) (by omega)
    exact ⟨c, hc, UInt64.le_iff_toNat_le.2 (by omega)⟩

/-- The order in which the search prefers integers: a smaller magnitude, and no new negative sign. -/
def IntegerLe (y x : Int64) : Prop := y.toInt.natAbs ≤ x.toInt.natAbs ∧ (y < 0 → x < 0)

/-- Negation overflows at the least integer only. -/
theorem toInt_neg_of_ne_minValue {x : Int64} (h : x ≠ Int64.minValue) : (-x).toInt = -x.toInt := by
  have hlo := Int64.le_toInt x
  have hhi := Int64.toInt_lt x
  have hmin : x.toInt ≠ -2 ^ 63 := fun e => h (Int64.toInt_inj.1 (by simpa using e))
  rw [Int64.toInt_neg, Int.bmod_eq_of_le] <;> omega

/-- The candidates of an integer: the number without its sign, and those of its magnitude with the sign put back.
    -/
theorem mem_integer {x y : Int64} :
    y ∈ integer x ↔
      (x < 0 ∧ x ≠ Int64.minValue) ∧ y = -x ∨ ∃ m ∈ natural (magnitude x), withSign x m = y := by
  unfold integer
  split
  · rename_i h
    simp [h]
  · rename_i h
    simp [h]

/-- Those of an integer leave no gap below it, in the order of magnitudes. -/
theorem Gapless.integer : Gapless integer IntegerLe where
  refl x := ⟨Nat.le_refl _, id⟩
  trans h h' := ⟨Nat.le_trans h.1 h'.1, fun hneg => h'.2 (h.2 hneg)⟩
  le_of_mem := by
    intro x y h
    rcases mem_integer.1 h with ⟨⟨hneg, hmin⟩, rfl⟩ | ⟨m, hm, rfl⟩
    · rw [IntegerLe, toInt_neg_of_ne_minValue hmin, Int.natAbs_neg]
      exact ⟨Nat.le_refl _, fun _ => hneg⟩
    · have hm := lt_of_mem_natural hm
      rw [toNat_magnitude] at hm
      have hsign := toInt_withSign hm
      rw [IntegerLe, Int64.lt_iff_toInt_lt, hsign]
      split
      · rename_i hneg
        exact ⟨by omega, fun _ => hneg⟩
      · exact ⟨by omega, fun h => absurd h (by simp)⟩
  exists_between := by
    intro x y ⟨hle, hsign⟩ hne
    rw [Int64.lt_iff_toInt_lt, Int64.lt_iff_toInt_lt, Int64.toInt_zero] at hsign
    have hne : y.toInt ≠ x.toInt := fun h => hne (Int64.toInt_inj.1 h)
    rcases Nat.lt_or_ge y.toInt.natAbs x.toInt.natAbs with hlt | hge
    · -- The magnitude just below that of `x` will do.
      obtain ⟨m, hm, hpred⟩ := exists_pred_mem_natural (n := magnitude x) (by rw [toNat_magnitude]; omega)
      rw [toNat_magnitude] at hpred
      have hc := toInt_withSign (x := x) (m := m) (by omega)
      refine ⟨withSign x m, mem_integer.2 (.inr ⟨m, hm, rfl⟩), ?_⟩
      rw [IntegerLe, Int64.lt_iff_toInt_lt, Int64.lt_iff_toInt_lt, hc, Int64.toInt_zero]
      split
      · omega
      · rename_i hpos
        rw [Int64.lt_iff_toInt_lt, Int64.toInt_zero] at hpos
        omega
    · -- Only the mirror image of a negative `x` has the same magnitude.
      have hhi := Int64.toInt_lt y
      have hneg : x < 0 := by
        rw [Int64.lt_iff_toInt_lt, Int64.toInt_zero]
        omega
      have hmin : x ≠ Int64.minValue := fun h => by
        have hval : x.toInt = -2 ^ 63 := by rw [h]; rfl
        omega
      have hmirror : y = -x := by
        rw [← Int64.toInt_inj, toInt_neg_of_ne_minValue hmin]
        omega
      exact ⟨-x, mem_integer.2 (.inl ⟨⟨hneg, hmin⟩, rfl⟩), hmirror ▸ ⟨Nat.le_refl _, id⟩⟩

/-- Those of a truth value leave no gap either. -/
theorem Gapless.bool : Gapless Sampler.boolShrinks (· ≤ ·) where
  refl b := by simp
  trans h h' hb := h' (h hb)
  le_of_mem := by
    intro b c h
    cases b <;> simp_all [Sampler.boolShrinks]
  exists_between := by
    intro b c hle hne
    cases b with
    | true => exact ⟨false, List.mem_singleton_self _, by cases c <;> simp_all⟩
    | false =>
      cases c with
      | false => exact absurd rfl hne
      | true => exact absurd (hle rfl) Bool.false_ne_true

/-! ## Containers -/

/-- Nothing is below everything, and values are compared. -/
def OptionLe (le : α → α → Prop) : Option α → Option α → Prop
  | none, _ => True
  | some _, none => False
  | some b, some a => le b a

/-- Both parts are compared. -/
def PairLe (le : α → α → Prop) (le' : β → β → Prop) (q p : α × β) : Prop := le q.1 p.1 ∧ le' q.2 p.2

variable {candidates : α → List α} {le : α → α → Prop}

/-- An optional value has no gap below it if the value has none. -/
theorem Gapless.option (h : Gapless candidates le) : Gapless (option candidates) (OptionLe le) where
  refl
    | none => trivial
    | some a => h.refl a
  trans := by
    intro a b c hab hbc
    cases a with
    | none => trivial
    | some a =>
      cases b with
      | none => exact hab.elim
      | some b =>
        cases c with
        | none => exact hbc.elim
        | some c => exact h.trans hab hbc
  le_of_mem := by
    intro a c hc
    cases a with
    | none => cases hc
    | some a =>
      rcases List.mem_cons.1 hc with rfl | hc
      · trivial
      · obtain ⟨b, hb, rfl⟩ := List.mem_map.1 hc
        exact h.le_of_mem hb
  exists_between := by
    intro a b hle hne
    cases a with
    | none =>
      cases b with
      | none => exact absurd rfl hne
      | some b => exact hle.elim
    | some a =>
      cases b with
      -- The first candidate is nothing at all, which is everything that is below.
      | none => exact ⟨none, List.mem_cons_self, trivial⟩
      | some b =>
        obtain ⟨c, hc, hbc⟩ := h.exists_between hle fun heq => hne (congrArg some heq)
        exact ⟨some c, List.mem_cons_of_mem _ (List.mem_map_of_mem hc), hbc⟩

/-- A pair has no gap below it if neither of its parts has one, as either of them can be made smaller alone. -/
theorem Gapless.pair {candidates' : β → List β} {le' : β → β → Prop} (h : Gapless candidates le)
    (h' : Gapless candidates' le') : Gapless (pair candidates candidates') (PairLe le le') where
  refl p := ⟨h.refl p.1, h'.refl p.2⟩
  trans hab hbc := ⟨h.trans hab.1 hbc.1, h'.trans hab.2 hbc.2⟩
  le_of_mem := by
    intro p c hc
    -- A candidate changes one part and keeps the other.
    rcases List.mem_append.1 hc with hc | hc
    · obtain ⟨a, ha, rfl⟩ := List.mem_map.1 hc
      exact ⟨h.le_of_mem ha, h'.refl p.2⟩
    · obtain ⟨b, hb, rfl⟩ := List.mem_map.1 hc
      exact ⟨h.refl p.1, h'.le_of_mem hb⟩
  exists_between := by
    rintro ⟨a, b⟩ ⟨c, d⟩ ⟨hca, hdb⟩ hne
    -- The first part that differs gives way.
    by_cases hc : c = a
    · subst hc
      obtain ⟨e, he, hde⟩ := h'.exists_between hdb fun heq => hne (congrArg (c, ·) heq)
      exact ⟨(c, e), List.mem_append_right _ (List.mem_map_of_mem he), hca, hde⟩
    · obtain ⟨e, he, hce⟩ := h.exists_between hca hc
      exact ⟨(e, b), List.mem_append_left _ (List.mem_map_of_mem he), hce, hdb⟩

/-! ## Lists -/

/-- Each list without one of its elements is a candidate. -/
theorem append_mem_removals_one (xs ys : List α) (x : α) :
    xs ++ ys ∈ removals 1 (xs ++ x :: ys) := by
  refine mem_removals.2 ⟨xs.length, ?_, ?_⟩
  · simp
  · simp

/-- Removing a block leaves a sublist. -/
theorem sublist_of_mem_removals {b : Nat} {l c : List α} (h : c ∈ removals b l) : c.Sublist l := by
  obtain ⟨j, -, rfl⟩ := mem_removals.1 h
  have hdrop := List.drop_sublist_drop_left l (Nat.le_add_right (j * b) b)
  have happend := (List.Sublist.refl (l.take (j * b))).append hdrop
  rwa [List.take_append_drop] at happend

/-- A list below another one is that list, or below it without one of its elements, or below it with one of
    its elements replaced by a candidate. -/
theorem Gapless.cases_of_sublistForall₂ (h : Gapless candidates le) {q p : List α}
    (hqp : List.SublistForall₂ le q p) :
    q = p ∨ (∃ xs x ys, p = xs ++ x :: ys ∧ List.SublistForall₂ le q (xs ++ ys)) ∨
      ∃ c, Replaced (fun y x => y ∈ candidates x) c p ∧ List.SublistForall₂ le q c := by
  have : Std.Refl le := ⟨h.refl⟩
  -- The first place where `q` and `p` differ is where `p` gives way, and everything before it stays.
  induction hqp with
  | @nil p =>
    cases p with
    | nil => exact .inl rfl
    | cons x ys => exact .inr (.inl ⟨[], x, ys, rfl, .nil⟩)
  | @cons b a q p hba hqp ih =>
    rcases ih with rfl | ⟨xs, x, ys, rfl, hq⟩ | ⟨c, hc, hq⟩
    · by_cases heq : b = a
      · exact .inl (heq ▸ rfl)
      · obtain ⟨c, hc, hbc⟩ := h.exists_between hba heq
        exact .inr (.inr ⟨c :: q, .head hc, .cons hbc hqp⟩)
    · exact .inr (.inl ⟨a :: xs, x, ys, rfl, .cons hba hq⟩)
    · exact .inr (.inr ⟨a :: c, .tail hc, .cons hba hq⟩)
  | @cons_right a q p hqp ih => exact .inr (.inl ⟨[], a, p, rfl, hqp⟩)

/-- A list in which one element was made smaller is below the list. -/
theorem Replaced.sublistForall₂ {r : α → α → Prop} (hrefl : ∀ a, le a a)
    (hle : ∀ {a b}, r b a → le b a) {c l : List α} (h : Replaced r c l) :
    List.SublistForall₂ le c l := by
  have : Std.Refl le := ⟨hrefl⟩
  induction h with
  | head h => exact .cons (hle h) (List.Sublist.refl _).sublistForall₂
  | tail _ ih => exact .cons (hrefl _) ih

/-- A list has no gap below it if its elements have none: blocks of a single element can be removed, and each
    element can be made smaller alone. -/
theorem Gapless.list (h : Gapless candidates le) :
    Gapless (list candidates) (List.SublistForall₂ le) := by
  have : Std.Refl le := ⟨h.refl⟩
  have : IsTrans α le := ⟨fun _ _ _ => h.trans⟩
  -- Reflexivity and transitivity come from the library; candidates and gaps are what is left.
  refine ⟨fun l => (List.Sublist.refl l).sublistForall₂, IsTrans.trans _ _ _, ?_, ?_⟩
  · intro l c hc
    rcases List.mem_append.1 hc with hc | hc
    · obtain ⟨b, -, hc⟩ := List.mem_flatMap.1 hc
      exact (sublist_of_mem_removals hc).sublistForall₂
    · exact (mem_replacements.1 hc).sublistForall₂ h.refl h.le_of_mem
  · intro p q hqp hne
    rcases h.cases_of_sublistForall₂ hqp with heq | ⟨xs, x, ys, rfl, hq⟩ | ⟨c, hc, hq⟩
    · exact absurd heq hne
    · -- The last blocks that are tried have one element, so each element is a block by then.
      have hone : 1 ∈ halvings (xs ++ x :: ys).length := one_mem_halvings (List.length_pos_of_ne_nil (by simp))
      exact ⟨xs ++ ys, List.mem_append_left _
        (List.mem_flatMap.2 ⟨1, hone, append_mem_removals_one xs ys x⟩), hq⟩
    · exact ⟨c, List.mem_append_right _ (mem_replacements.2 hc), hq⟩

end Falsify.Candidate
