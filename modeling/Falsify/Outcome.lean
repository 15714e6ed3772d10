import Falsify.Certificate

/-! # Outcomes of a test

Testing a statement once ends in one of three ways: it held, it failed, or it gave up because no sample met
the guards.  A success carries evidence only when it was decided and not merely observed at a sample; a
failure always carries a refutation.  Labels name what the quantifiers bound, the outermost first.  The steps of
a search are counted in machine words, so a count that outgrows a word wraps around.

Outcomes combine as the statements that they are outcomes of.  A `Transport` moves an outcome from a
statement to another one that implies it: a refutation always moves, evidence only across an equivalence.

* `and_assoc`, `or_assoc`: bracketing of conjunctions and disjunctions does not matter.
* `isFailure_across`: moving an outcome keeps a failure a failure. -/

namespace Falsify

/-- The kind of an outcome, as reports count it. -/
inductive Status where
  | passed
  | failed
  | gaveUp
  deriving DecidableEq, Inhabited

/-- The word for a status in reports and logs. -/
def Status.name : Status → String
  | passed => "passed"
  | failed => "failed"
  | gaveUp => "gave_up"

/-- The outcome of testing a statement once. -/
inductive Outcome where
  /-- The statement held at the bindings in the labels. -/
  | success (evidence : Option Certificate) (labels : List String)
  /-- No sample met the guards. -/
  | gaveUp
  /-- The statement failed at the bindings in the labels, which took `shrinks` steps to find. -/
  | failure (refutation : Certificate) (labels : List String) (shrinks : UInt64)
  deriving DecidableEq, Inhabited

/-- How an outcome moves from a statement to one that implies it. -/
inductive Transport where
  /-- The two statements are the same. -/
  | identity
  /-- The two statements are equivalent by a rule. -/
  | equivalence (rule : String)
  /-- The second statement implies the first by a rule, and no more is known. -/
  | weakening (rule : String)
  deriving DecidableEq, Inhabited

/-- Applies a transformer of evidence to evidence; with either one missing there is no evidence. -/
def combine {α β : Type} (f : Option (α → β)) (x : Option α) : Option β :=
  match f, x with
  | some f, some x => some (f x)
  | _, _ => none

/-- There is evidence just where neither the transformer nor its argument is missing. -/
theorem isSome_combine {α β : Type} (f : Option (α → β)) (x : Option α) :
    (combine f x).isSome = (f.isSome && x.isSome) := by
  cases f <;> cases x <;> rfl

namespace Transport

/-- Carries evidence across, where that is possible. -/
def forward : Transport → Option (Certificate → Certificate)
  | identity => some id
  | equivalence rule => some (·.via rule)
  | weakening _ => none

/-- Carries a refutation across. -/
def backward : Transport → Certificate → Certificate
  | identity, c => c
  | equivalence rule, c => c.via ("contrapositive of " ++ rule)
  | weakening rule, c => c.via ("contrapositive of " ++ rule)

end Transport

namespace Outcome

/-- The outcome of a statement that was proved. -/
def proved (evidence : Certificate) : Outcome := success (some evidence) []

/-- The outcome of a statement that was seen to hold at a sample. -/
def passed : Outcome := success none []

/-- The outcome of a statement that was refuted, with a label that says why. -/
def refuted (refutation : Certificate) (label : String) : Outcome := failure refutation [label] 0

/-- Whether the statement held. -/
def isSuccess : Outcome → Bool
  | success .. => true
  | _ => false

/-- Whether the statement failed. -/
def isFailure : Outcome → Bool
  | failure .. => true
  | _ => false

/-- Whether no sample met the guards. -/
def isGaveUp : Outcome → Bool
  | gaveUp => true
  | _ => false

/-- The kind of an outcome. -/
def status : Outcome → Status
  | success .. => .passed
  | gaveUp => .gaveUp
  | failure .. => .failed

/-- The evidence that an outcome carries for its statement. -/
def evidence? : Outcome → Option Certificate
  | success evidence _ => evidence
  | _ => none

/-- The bindings of an outcome, the outermost first. -/
def labels : Outcome → List String
  | success _ labels => labels
  | gaveUp => []
  | failure _ labels _ => labels

/-- The number of steps that the search for a smaller counterexample took. -/
def shrinks : Outcome → UInt64
  | failure _ _ shrinks => shrinks
  | _ => 0

/-- The bindings of an outcome in one line. -/
def representation (r : Outcome) : String :=
  if r.labels.isEmpty then "(no bindings)" else ", ".intercalate r.labels

/-- The outcome of `P ∧ Q`: the first failure, else giving up, else both successes together. -/
def and : Outcome → Outcome → Outcome
  | failure c l n, _ => failure c l n
  | _, failure c l n => failure c l n
  | success e l, success e' l' => success (combine (e.map Certificate.conjoin) e') (l ++ l')
  | _, _ => gaveUp

/-- The outcome of `P ∨ Q`: the first success, else giving up, else both failures together. -/
def or : Outcome → Outcome → Outcome
  | success e l, _ => success e l
  | _, success e l => success e l
  | failure c l n, failure c' l' n' => failure (c.conjoin c') (l ++ l') (n + n')
  | _, _ => gaveUp

/-- The outcome of `¬P`, where `text` is the text of `P`.  A success that was merely observed at a sample
    does not refute `¬P`. -/
def negate (text : String) : Outcome → Outcome
  | failure c l _ => success (some (c.via "negation introduction")) l
  | success (some c) l => failure (c.via "negation elimination") (l ++ ["issue: " ++ text ++ " holds"]) 0
  | success none _ => gaveUp
  | gaveUp => gaveUp

/-- Moves an outcome across a transport. -/
def across (t : Transport) : Outcome → Outcome
  | success e l => success (combine t.forward e) l
  | gaveUp => gaveUp
  | failure c l n => failure (t.backward c) l n

/-- Puts a label in front of the labels of an outcome. -/
def labelled (label : String) : Outcome → Outcome
  | success e l => success e (label :: l)
  | gaveUp => gaveUp
  | failure c l n => failure c (label :: l) n

/-- Moves an outcome across a transport and puts a label in front of its labels. -/
def annotate (label : String) (t : Transport) (r : Outcome) : Outcome := (r.across t).labelled label

/-- Adds to the search steps of a failure. -/
def addShrinks (n : UInt64) : Outcome → Outcome
  | failure c l m => failure c l (m + n)
  | r => r

/-- Conjunctions can be rebracketed. -/
theorem and_assoc (r s t : Outcome) : (r.and s).and t = r.and (s.and t) := by
  cases r <;> cases s <;> cases t <;> simp [and]
  rename_i e _ e' _ e'' _
  cases e <;> cases e' <;> cases e'' <;> simp [combine, Certificate.conjoin_assoc]

/-- Disjunctions can be rebracketed. -/
theorem or_assoc (r s t : Outcome) : (r.or s).or t = r.or (s.or t) := by
  cases r <;> cases s <;> cases t <;> simp [or, Certificate.conjoin_assoc, UInt64.add_assoc]

@[simp] theorem isFailure_across (t : Transport) (r : Outcome) :
    (r.across t).isFailure = r.isFailure := by
  cases r <;> rfl

@[simp] theorem isFailure_labelled (label : String) (r : Outcome) :
    (r.labelled label).isFailure = r.isFailure := by
  cases r <;> rfl

@[simp] theorem isFailure_addShrinks (n : UInt64) (r : Outcome) :
    (r.addShrinks n).isFailure = r.isFailure := by
  cases r <;> rfl

@[simp] theorem addShrinks_zero (r : Outcome) : r.addShrinks 0 = r := by
  cases r <;> simp [addShrinks]

/-- The steps of a failure after some more were added, which is their sum as long as it fits into a word. -/
theorem toNat_shrinks_addShrinks {r : Outcome} (h : r.isFailure = true) {n : Nat}
    (hfits : r.shrinks.toNat + n < UInt64.size) :
    (r.addShrinks (.ofNat n)).shrinks.toNat = r.shrinks.toNat + n := by
  cases r with
  | success | gaveUp => cases h
  | failure c l m =>
    have hn : (UInt64.ofNat n).toNat = n :=
      UInt64.toNat_ofNat_of_lt' (Nat.lt_of_le_of_lt (Nat.le_add_left n _) hfits)
    show (m + UInt64.ofNat n).toNat = m.toNat + n
    rw [UInt64.toNat_add, hn]
    exact Nat.mod_eq_of_lt hfits

/-- Nothing is added for a search that took no steps. -/
@[simp] theorem addShrinks_ofNat_zero (r : Outcome) : r.addShrinks (.ofNat 0) = r := addShrinks_zero r

end Outcome

end Falsify
