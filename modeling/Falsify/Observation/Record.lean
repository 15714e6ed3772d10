import Falsify.Suite.Report
import Falsify.Uuid

/-! # Observations

An observation is the record of one trial as it is kept in a file: which run it belongs to, which statement
was tested, how the trial ended and at which bindings.  In the file an observation is one line of JSON.

* `lines_append`: the lines of more observations come after those of the ones before. -/

namespace Falsify

/-- The record of one trial of a run. -/
structure Observation where
  /-- The kind of the record. -/
  kind : String
  runId : Uuid
  /-- The text of the statement. -/
  property : String
  status : Status
  /-- The bindings, in one line. -/
  representation : String
  timestamp : Timestamp
  trial : UInt64
  size : UInt64
  attempts : UInt64
  deriving DecidableEq, Inhabited

/-- The status with a name. -/
def Status.ofName? : String → Option Status
  | "passed" => some .passed
  | "failed" => some .failed
  | "gave_up" => some .gaveUp
  | _ => none

/-- A status is read from its name, or from an object whose only member has the name as its key and null as
    its value. -/
def Status.ofJson? : Json → Option Status
  | .string text => text >>= Status.ofName?
  | .object [(key, .null)] => key >>= Status.ofName?
  | _ => none

namespace Certificate

/-- A certificate as a JSON object. -/
def toJson (c : Certificate) : Json := .ofMembers [("steps", .array (c.steps.map .ofText))]

/-- Reads a certificate. -/
def ofJson? (json : Json) : Option Certificate := do
  let fields ← json.fields? ["steps"]
  let steps ← fields.get? "steps" Json.items?
  return ⟨← steps.mapM Json.text?⟩

end Certificate

namespace Observation

/-- The kind of the records that trials leave. -/
def testCase : String := "test_case"

/-- The observation of a trial. -/
def ofTrial (runId : Uuid) (property : String) (t : Trial) : Observation where
  kind := testCase
  runId := runId
  property := property
  status := t.status
  representation := t.outcome.representation
  timestamp := t.finishedAt
  trial := t.index
  size := t.size
  attempts := t.attempts

/-- The observations of the trials of a report, in order. -/
def ofReport (runId : Uuid) (property : String) (r : Report) : List Observation :=
  r.trials.toList.map (ofTrial runId property)

/-- The fields of an observation. -/
def fieldNames : List String :=
  ["type", "run_id", "property", "status", "representation", "timestamp", "trial", "size", "attempts"]

/-- An observation as a JSON object. -/
def toJson (o : Observation) : Json :=
  .ofMembers [("type", .ofText o.kind), ("run_id", .ofText o.runId.text),
    ("property", .ofText o.property), ("status", .ofText o.status.name),
    ("representation", .ofText o.representation), ("timestamp", .ofText o.timestamp.text),
    ("trial", .ofWord o.trial), ("size", .ofWord o.size), ("attempts", .ofWord o.attempts)]

/-- Reads an observation. -/
def ofJson? (json : Json) : Option Observation := do
  let fields ← json.fields? fieldNames
  return {
    kind := ← fields.get? "type" Json.text?
    runId := ← fields.get? "run_id" fun json => json.text? >>= Uuid.read?
    property := ← fields.get? "property" Json.text?
    status := ← fields.get? "status" Status.ofJson?
    representation := ← fields.get? "representation" Json.text?
    timestamp := ← fields.get? "timestamp" fun json => json.text? >>= Timestamp.read?
    trial := ← fields.get? "trial" Json.word?
    size := ← fields.get? "size" Json.word?
    attempts := ← fields.get? "attempts" Json.word? }

/-- The line of an observation in a file. -/
def line (o : Observation) : String := o.toJson.text ++ "\n"

/-- The lines of observations, one after the other. -/
def lines (os : List Observation) : String := String.join (os.map line)

theorem lines_append (os qs : List Observation) : lines (os ++ qs) = lines os ++ lines qs := by
  simp [lines]

end Observation

end Falsify
