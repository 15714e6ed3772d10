import Falsify.Proofs.Search.Greedy
import Falsify.Proofs.Testing.Unsearched

/-!
# What a search tells

A search writes about itself on its way down, before it is known where it will end.  What it has written in the end
is the story of its tests: a line before each test, two lines after a test that fails, about the move and about the
candidates that come next, and one line after the last test.  Two toggles say which of these lines appear.  The
tests add no such lines of their own, as they are made without a search.

## Key results

- `Follows.searchLines_eq`: the lines that are written while tests are made.
- `Greedy.filter_told`: the lines about moves, from the path of the search.
- `minimize_transcript`: all lines of a search and what they say of its result.
-/

namespace Falsify

open Tester

/-- Whether a line of a search is written under the toggles. -/
def TraceToggles.shows (trace : TraceToggles) : TraceLine → Bool
  | .search | .searchFrom .. | .shrunk .. | .minimal .. => trace.shrinks
  | .offers .. | .trying .. => trace.candidates
  | _ => false

namespace TraceToggles

variable {trace : TraceToggles} {line : TraceLine}

/-- What the toggle for steps turns on alone, it turns on whatever the others are. -/
theorem shows_steps_and (hshrinks : trace.shrinks = true) (line : TraceLine) :
    (shows { shrinks := true } line && trace.shows line) = shows { shrinks := true } line := by
  cases line with
  | search | searchFrom | shrunk | minimal => exact (Bool.true_and _).trans hshrinks
  | newSample | bound | failing | discarded | unused | retrying | offers | trying => rfl

/-- Both toggles together turn on all lines of a search. -/
theorem shows_of_isOfSearch (hshrinks : trace.shrinks = true) (hcandidates : trace.candidates = true)
    (hline : line.isOfSearch = true) : trace.shows line = true := by
  cases line with
  | search | searchFrom | shrunk | minimal => exact hshrinks
  | offers | trying => exact hcandidates
  | newSample | bound | failing | discarded | unused | retrying => cases hline

end TraceToggles

namespace Search

variable {σ π α : Type} [Literal π]

/-! ## Lines -/

section

variable (var : String) (sampler : Sampler σ π α)

/-- What is told from when a search has offered the candidates of the proxy `p`, if it makes the listed tests. -/
def told (p : π) : List (π × Outcome) → List TraceLine
  | [] => [.minimal var (literal p)]
  | (c, r) :: tests =>
    .trying var (literal c) ::
      if r.isFailure then
        .shrunk var (literal c) (literal p) :: .offers var (literal c) (literal (sampler.shrinks c)) :: told c tests
      else told p tests

/-- What is told of a whole search from `start`. -/
def transcript (start : π) (tests : List (π × Outcome)) : List TraceLine :=
  .search :: .searchFrom var (literal start) :: .offers var (literal start) (literal (sampler.shrinks start)) ::
    told var sampler start tests

omit sampler in
/-- The lines about the moves of a search from `p` to one proxy after the other. -/
def moves (p : π) (path : List π) : List TraceLine :=
  List.zipWith (fun c q => .shrunk var (literal c) (literal q)) path (p :: path)

end

variable {trace : TraceToggles} {var : String} {sampler : Sampler σ π α} {body : Body σ α}

/-- A line of a search that may be written comes first in what is told from there on. -/
theorem searchLines_emit_append (trace : TraceToggles) (line : TraceLine) (hsearch : line.isOfSearch = true)
    (s : Session σ) (rest : List TraceLine) :
    (emit (trace.shows line) (fun _ => line) s).2.searchLines.toList ++ rest.filter trace.shows =
      s.searchLines.toList ++ (line :: rest).filter trace.shows := by
  rw [List.filter_cons]
  cases trace.shows line with
  | false => rfl
  | true =>
    -- A line that is shown is written at the end of the trace, and it is one of the search.
    show ((s.trace.push line).filter TraceLine.isOfSearch).toList ++ _ = _
    rw [Array.filter_push, hsearch, if_pos rfl, if_pos rfl, Array.toList_push, List.append_assoc]
    rfl

/-- A search that follows the tests has written what is told of them, if they write of no search themselves. -/
theorem Follows.searchLines_eq (hbody : ∀ a, Keeps Session.searchLines (body a false)) {p : π} {s t : Session σ}
    {tests : List (π × Outcome)} (h : Follows trace var sampler body p s tests t) :
    t.searchLines.toList = s.searchLines.toList ++ (told var sampler p tests).filter trace.shows := by
  have htested (c : π) (s : Session σ) (rest : List TraceLine) :
      (tested trace var sampler.interpret body c s).2.searchLines.toList ++ rest.filter trace.shows =
        s.searchLines.toList ++ (.trying var (literal c) :: rest).filter trace.shows := by
    rw [tested, hbody]
    exact searchLines_emit_append trace (.trying var (literal c)) rfl s rest
  induction h with
  | @stop p s =>
    have hstopped := searchLines_emit_append trace (.minimal var (literal p)) rfl s []
    rw [List.filter_nil, List.append_nil] at hstopped
    exact hstopped
  | @pass p c s t tests hpass _ ih => rw [ih, htested, told, hpass, if_neg Bool.false_ne_true]
  | @move p c s t tests hfail _ ih =>
    -- Three lines come before the rest: about the test, the move and the candidates that are next.
    rw [ih, told, hfail, if_pos rfl, ← htested]
    have hoffered := searchLines_emit_append trace (.offers var (literal c) (literal (sampler.shrinks c))) rfl
      (moved trace var p c (tested trace var sampler.interpret body c s).2)
    have hmoved := searchLines_emit_append trace (.shrunk var (literal c) (literal p)) rfl
      (tested trace var sampler.interpret body c s).2
    exact (hoffered _).trans (hmoved _)

/-- All that is told of tests are lines of a search. -/
theorem forall_mem_told (p : π) (tests : List (π × Outcome)) :
    ∀ line ∈ told var sampler p tests, line.isOfSearch = true := by
  induction tests generalizing p with
  | nil => exact List.forall_mem_singleton.2 rfl
  | cons test tests ih =>
    rw [told, List.forall_mem_cons]
    refine ⟨rfl, ?_⟩
    split
    · exact List.forall_mem_cons.2 ⟨rfl, List.forall_mem_cons.2 ⟨rfl, ih _⟩⟩
    · exact ih _

/-- All of the transcript is written if both toggles are on. -/
theorem filter_transcript (hshrinks : trace.shrinks = true) (hcandidates : trace.candidates = true) (start : π)
    (tests : List (π × Outcome)) :
    (transcript var sampler start tests).filter trace.shows = transcript var sampler start tests := by
  -- With both toggles on, every line of a search is shown.
  refine List.filter_eq_self.2 fun line hline => TraceToggles.shows_of_isOfSearch hshrinks hcandidates ?_
  simp only [transcript, List.mem_cons] at hline
  rcases hline with rfl | rfl | rfl | hline
  · rfl
  · rfl
  · rfl
  · exact forall_mem_told start tests line hline

/-! ## Moves -/

/-- Tests that pass are told of by one line each. -/
theorem told_append {passed : List (π × Outcome)} (hpassed : ∀ test ∈ passed, test.2.isFailure = false) (p : π)
    (tests : List (π × Outcome)) :
    told var sampler p (passed ++ tests) =
      passed.map (fun test => .trying var (literal test.1)) ++ told var sampler p tests := by
  induction passed with
  | nil => rfl
  | cons test passed ih =>
    obtain ⟨hpass, hpassed⟩ := List.forall_mem_cons.1 hpassed
    -- A candidate that passes adds the line that tries it, and no other.
    rw [List.cons_append, told, hpass, if_neg Bool.false_ne_true, ih hpassed]
    rfl

/-- The lines about steps tell of the moves along the path, and of where it ends. -/
theorem Greedy.filter_told {p : π} {tests path : List (π × Outcome)} (h : Greedy sampler p tests path) :
    (told var sampler p tests).filter (TraceToggles.shows { shrinks := true }) =
      moves var p (path.map Prod.fst) ++ [.minimal var (literal ((path.map Prod.fst).getLast?.getD p))] := by
  -- What is tried is not among the lines that are shown; what is moved to is.
  have htrying (passed : List (π × Outcome)) :
      (passed.map fun test => TraceLine.trying var (literal test.1)).filter
        (TraceToggles.shows { shrinks := true }) = [] := by
    rw [List.filter_eq_nil_iff, List.forall_mem_map]
    exact fun _ _ => Bool.false_ne_true
  induction h with
  | @minimal p passed _ hpassed =>
    rw [← List.append_nil passed, told_append hpassed, List.filter_append, htrying]
    rfl
  | @step p c r passed tests path _ hpassed hfails _ ih =>
    rw [told_append hpassed, List.filter_append, htrying, List.nil_append, told, hfails, if_pos rfl]
    rw [List.map_cons, List.getLast?_cons, Option.getD_some]
    exact congrArg (TraceLine.shrunk var (literal c) (literal p) :: ·) ih

/-- With the lines about candidates left out, what remains are the moves along the path. -/
theorem Greedy.filter_transcript {start : π} {tests path : List (π × Outcome)}
    (h : Greedy sampler start tests path) :
    (transcript var sampler start tests).filter (TraceToggles.shows { shrinks := true }) =
      [.search, .searchFrom var (literal start)] ++ moves var start (path.map Prod.fst) ++
        [.minimal var (literal ((path.map Prod.fst).getLast?.getD start))] := by
  show .search :: .searchFrom var (literal start) :: (told var sampler start tests).filter _ = _
  rw [h.filter_told]
  rfl

/-! ## Searches -/

/-- A search makes the tests of a greedy search and tells of them, if they write of no search themselves. -/
theorem exists_transcript_minimize (trace : TraceToggles) (var : String) (sampler : Sampler σ π α)
    (hbody : ∀ a, Keeps Session.searchLines (body a false)) (start : π) (r : Outcome) (s : Session σ) :
    let found := minimize trace var sampler body start r s
    ∃ tests path, Greedy sampler start tests path ∧ Makes sampler.interpret body s tests found.2 ∧
      found.1 = (path.getLast?.getD (start, r)).map id (Outcome.addShrinks (.ofNat path.length)) ∧
      found.2.searchLines.toList =
        s.searchLines.toList ++ (transcript var sampler start tests).filter trace.shows := by
  intro found
  obtain ⟨path, t, hpath, hrun⟩ := exists_descent_minimize trace var sampler body start r s
  obtain ⟨tests, hgreedy, hfollows⟩ := hpath.exists_follows
  have hfound : found = (((ending sampler body start r path).1,
      (ending sampler body start r path).2.addShrinks (.ofNat path.length)), t) := hrun
  have hsource : s.toSource = (offered trace var sampler start (begun trace var start s)).toSource := by
    rw [offered, toSource_emit, begun, toSource_emit, toSource_emit]
  refine ⟨tests, observed sampler body path, hgreedy, ?_, ?_, ?_⟩
  · rw [hfound]
    exact hfollows.makes.of_toSource_eq hsource
  · have hlength : (observed sampler body path).length = path.length := List.length_map _
    rw [hfound, ending_eq, hlength]
    rfl
  · -- Three lines come before the first test.
    rw [hfound, hfollows.searchLines_eq hbody]
    have hsearch := searchLines_emit_append trace .search rfl s
    have hfrom := searchLines_emit_append trace (.searchFrom var (literal start)) rfl
      (emit trace.shrinks (fun _ => .search) s).2
    have hoffered := searchLines_emit_append trace (.offers var (literal start) (literal (sampler.shrinks start))) rfl
      (begun trace var start s)
    exact ((hoffered _).trans (hfrom _)).trans (hsearch _)

/-- **The lines of a search tell its story.**  Whatever statement is tested at the candidates, and whatever is made
    of its outcomes, the tests write no lines of a search, and the search writes of the tests that it makes.  Its
    lines about steps are one about its start, one for each move from a proxy of the path to the next, as many as
    are added to the steps of the outcome, and one about the proxy that it ends at.  With the other toggle on as
    well, it lists the candidates of each proxy that it comes to, and names those that it tests. -/
theorem minimize_transcript (trace : TraceToggles) (var : String) (sampler : Sampler σ π α)
    (statement : α → Statement σ) (report : α → Outcome → Outcome) (start : π) (r : Outcome) (s : Session σ) :
    let body : Body σ α := fun a m => report a <$> (statement a).run trace m
    let found := minimize trace var sampler body start r s
    let aboutSteps (s : Session σ) := s.searchLines.toList.filter (TraceToggles.shows { shrinks := true })
    ∃ tests path, Greedy sampler start tests path ∧ Makes sampler.interpret body s tests found.2 ∧
      found.1 = (path.getLast?.getD (start, r)).map id (Outcome.addShrinks (.ofNat path.length)) ∧
      (trace.shrinks = true →
        aboutSteps found.2 = aboutSteps s ++ [.search, .searchFrom var (literal start)] ++
          moves var start (path.map Prod.fst) ++ [.minimal var (literal found.1.1)]) ∧
      (moves var start (path.map Prod.fst)).length = path.length ∧
      (trace.shrinks = true → trace.candidates = true →
        found.2.searchLines.toList = s.searchLines.toList ++ transcript var sampler start tests) ∧
      (∀ a t, (body a false t).2.searchLines = t.searchLines) ∧
      ∀ p c cs : String, TraceLine.search.text = "Shrink" ∧
        (TraceLine.searchFrom var p).text = "Attempting to shrink " ++ (var ++ " := " ++ p) ∧
        (TraceLine.shrunk var c p).text = var ++ " shrunk to " ++ c ++ " from " ++ p ∧
        (TraceLine.minimal var p).text = "No shrinking possible for " ++ (var ++ " := " ++ p) ∧
        (TraceLine.offers var p cs).text = "Candidates for " ++ (var ++ " := " ++ p) ++ ":\n  " ++ cs ∧
        (TraceLine.trying var c).text = "Trying " ++ (var ++ " := " ++ c) := by
  intro body found aboutSteps
  have hbody (a : α) : Keeps Session.searchLines (body a false) :=
    .bind ((statement a).keeps_searchLines_run_false trace) fun _ => .pure _
  obtain ⟨tests, path, hgreedy, hmakes, hfound, hlines⟩ :=
    exists_transcript_minimize trace var sampler hbody start r s
  refine ⟨tests, path, hgreedy, hmakes, hfound, fun hshrinks => ?_, ?_, fun hshrinks hcandidates => ?_,
    fun a t => hbody a t, fun p c cs => ⟨rfl, rfl, rfl, rfl, rfl, rfl⟩⟩
  · have hend : (path.map Prod.fst).getLast?.getD start = found.1.1 := by
      rw [hfound, List.getLast?_map]
      exact Option.getD_map Prod.fst (start, r) path.getLast?
    have hsteps : aboutSteps found.2 = aboutSteps s ++
        (transcript var sampler start tests).filter (TraceToggles.shows { shrinks := true }) := by
      show List.filter _ _ = List.filter _ _ ++ _
      -- Of the lines that are written, those about steps are those of the whole transcript.
      rw [hlines, List.filter_append, List.filter_filter]
      simp only [TraceToggles.shows_steps_and hshrinks]
    rw [hsteps, ← hend, hgreedy.filter_transcript]
    simp only [List.append_assoc]
  · rw [moves, List.length_zipWith, List.length_cons, List.length_map]
    exact Nat.min_eq_left (Nat.le_succ _)
  · rw [hlines, filter_transcript hshrinks hcandidates]

/-- A search from `true` for a statement that fails at both truth values, and in which a quantifier fails with all
    lines on: it moves on to `false` and stops there. -/
theorem minimize_transcript_bool :
    let statement (_ : Bool) : Statement Unit :=
      .and (.decided "1 < 0" false) (.forAllOf .natural "y" fun y => .decided "y < 0" (y < 0))
    ∀ (r : Outcome) (s : Session Unit),
      let found := minimize .all "b" .bool (fun a m => id <$> (statement a).run .all m) true r s
      found.1.1 = false ∧
        found.2.searchLines.toList = s.searchLines.toList ++
          [.search, .searchFrom "b" "true", .offers "b" "true" "[false]", .trying "b" "false",
            .shrunk "b" "false" "true", .offers "b" "false" "[]", .minimal "b" "false"] := by
  intro statement r s found
  obtain ⟨tests, path, hgreedy, hmakes, hfound, -, -, hlines, -⟩ :=
    minimize_transcript .all "b" .bool statement (fun _ => id) true r s
  have hlines := hlines rfl rfl
  cases hgreedy with
  | minimal hall hpassed =>
    -- The only candidate fails, so it cannot have passed.
    obtain ⟨test, rfl, -⟩ := List.map_eq_singleton_iff.1 hall
    cases hmakes with
    | test => cases hpassed _ (List.mem_singleton_self _)
  | @step _ c seen passed tests path hfirst hpassed hfails rest =>
    -- There is one candidate, so it is the first, and it has none itself.
    have hnone : passed = [] := by
      have hle := hfirst.length_le
      rw [List.length_append, List.length_map] at hle
      exact List.eq_nil_of_length_eq_zero (Nat.le_zero.1 (Nat.le_of_succ_le_succ hle))
    subst hnone
    obtain ⟨later, hlater⟩ := hfirst
    obtain ⟨rfl, -⟩ := List.cons.inj (show c :: later = [false] from hlater)
    cases rest with
    | minimal hall =>
      obtain rfl := List.map_eq_nil_iff.1 hall
      refine ⟨congrArg Prod.fst hfound, ?_⟩
      simp only [transcript, told, List.nil_append, hfails, if_pos] at hlines
      exact hlines
    | step hfirst =>
      have hnil := List.prefix_nil.1 (show _ <+: [] from hfirst)
      exact absurd hnil (List.append_ne_nil_of_right_ne_nil _ (List.cons_ne_nil _ _))

end Search

end Falsify
