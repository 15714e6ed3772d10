import Falsify.FileTree
import Falsify.Observation.Log

/-!
# How a log is appended to

Appending goes in steps, each of which can fail on its own account, and the first fault ends it: the folders are
made, the file is opened, the records are written line by line, and what was held back is written out.  So an
append that fails before it has come to the records has written nothing, and all that it reports is about its
file or its records.

## Key results

- `Raises`: the errors that a step can end with; closed under what an append is made of.
- `Observation.raises_append`: all that an append reports is a fault of its file or of a record.
- `Observation.append_of_openLog_eq_error`: where the file cannot be opened, nothing is written.
- `Observation.append_fst_of_write_eq_error`: a fault in the middle of the first record is one of encoding it.
-/

namespace Falsify

variable {τ α β ε : Type}

/-- A step is followed by the next one unless it fails. -/
theorem exceptT_bind_apply (x : ExceptT ε (StateM τ) α) (f : α → ExceptT ε (StateM τ) β) (h : τ) :
    (x >>= f) h =
      match x h with
      | (.ok a, t) => f a t
      | (.error e, t) => (.error e, t) := by
  show ExceptT.bindCont f (x h).1 (x h).2 = _
  rcases x h with ⟨_ | _, _⟩ <;> rfl

/-- A step with a file ends as the step does, with its fault as an error of a check. -/
theorem orReport_apply (report : FileFault → CheckError) (step : StateM τ (Except FileFault Unit)) (h : τ) :
    orReport report step h = ((step h).1.mapError report, (step h).2) := rfl

/-! ## Errors -/

/-- All errors that a step can end with have the property `P`. -/
def Raises (P : ε → Prop) (x : ExceptT ε (StateM τ) α) : Prop := ∀ h e, (x h).1 = .error e → P e

namespace Raises

variable {P : ε → Prop} {x : ExceptT ε (StateM τ) α}

theorem pure (a : α) : Raises (τ := τ) P (Pure.pure a) := by
  intro h e he
  cases he

/-- What two steps raise, both of them together raise. -/
theorem bind {f : α → ExceptT ε (StateM τ) β} (hx : Raises P x) (hf : ∀ a, Raises P (f a)) :
    Raises P (x >>= f) := by
  intro h e he
  rw [exceptT_bind_apply] at he
  split at he
  · exact hf _ _ _ he
  · -- A fault of the first step is that of the whole, as nothing follows on it.
    rename_i d t hd
    obtain rfl : d = e := Except.error.inj he
    exact hx h d (congrArg Prod.fst hd)

/-- A step with a file ends with the report of a fault. -/
theorem orReport {P : CheckError → Prop} {report : FileFault → CheckError} (hreport : ∀ fault, P (report fault))
    (step : StateM τ (Except FileFault Unit)) : Raises P (Falsify.orReport report step) := by
  intro h e he
  rw [orReport_apply] at he
  -- The step itself raises nothing; its fault is what is reported.
  cases hstep : (step h).1 with
  | ok a =>
    rw [hstep] at he
    cases he
  | error fault =>
    rw [hstep] at he
    obtain rfl : report fault = e := Except.error.inj he
    exact hreport fault

end Raises

section

variable (host : Host (StateM τ)) (path : String)

/-- Opening a log fails for a fault of its file. -/
theorem raises_openLog : Raises (fun e => ∃ fault, e = .unwritable fault) (openLog host path) :=
  .bind (.orReport (fun fault => ⟨fault, rfl⟩) _) fun _ => .orReport (fun fault => ⟨fault, rfl⟩) _

/-- The error is that of a fault of a file, or of one that came up while a record was written. -/
inductive CheckError.IsOfLog : CheckError → Prop
  | file (fault : FileFault) : IsOfLog (.unwritable fault)
  | record (fault : FileFault) : IsOfLog (.unencodable fault.message)

/-- No such error is a counterexample. -/
theorem CheckError.IsOfLog.isCounterexample_eq_false {e : CheckError} (h : e.IsOfLog) :
    e.isCounterexample = false := by
  cases h <;> rfl

namespace Observation

/-- Writing a record fails for a fault in the record, and the end of its line for one of the file. -/
theorem raises_writeAll (os : List Observation) : Raises CheckError.IsOfLog (writeAll host path os) := by
  induction os with
  | nil => exact .pure ()
  | cons o os ih => exact .bind (.orReport .record _) fun _ => .bind (.orReport .file _) fun _ => ih

/-- Whatever an append fails for, it reports as a fault of its file or of a record. -/
theorem raises_append (runId : Uuid) (property : String) (report : Report) :
    Raises CheckError.IsOfLog (append host path runId property report) := by
  refine .bind ?_ fun _ => .bind (raises_writeAll host path _) fun _ => .bind (.orReport .file _) fun _ => .pure _
  rintro h e he
  obtain ⟨fault, rfl⟩ := raises_openLog host path h e he
  exact .file fault

variable {host path} {h : τ} {error : CheckError}

/-- Where the file cannot be opened, that is what an append reports, and it does nothing else. -/
theorem append_of_openLog_eq_error (hopen : (openLog host path h).1 = .error error) (runId : Uuid)
    (property : String) (report : Report) :
    append host path runId property report h = (.error error, (openLog host path h).2) := by
  unfold append
  rw [exceptT_bind_apply]
  -- Nothing is run after opening, so nothing else has happened either.
  rcases hopened : openLog host path h with ⟨_ | _, t⟩
  · rw [hopened] at hopen
    obtain rfl := Except.error.inj hopen
    rfl
  · rw [hopened] at hopen
    cases hopen

/-- Where the file can be opened but the first record cannot be written, an append reports an error of its
    encoding. -/
theorem append_fst_of_write_eq_error (hopen : (openLog host path h).1 = .ok ()) {runId : Uuid} {property : String}
    {report : Report} {o : Observation} {os : List Observation} (hreport : ofReport runId property report = o :: os)
    {fault : FileFault} (hwrite : (host.write path o.toJson.text (openLog host path h).2).1 = .error fault) :
    (append host path runId property report h).1 = .error (.unencodable fault.message) := by
  have hopened : openLog host path h = (.ok (), (openLog host path h).2) := Prod.ext hopen rfl
  unfold append
  rw [exceptT_bind_apply, hopened]
  dsimp only
  rw [exceptT_bind_apply, hreport, writeAll, exceptT_bind_apply, orReport_apply, hwrite]
  rfl

end Observation

end

end Falsify
