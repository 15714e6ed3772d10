import Falsify.Config
import Falsify.Json.Record

/-! # Configuration as JSON

A configuration as an object with one member for each setting.  A setting that is absent keeps its default.

* `fieldNames`: the names of the settings, in the order in which they are written. -/

namespace Falsify.Config

/-- A number or null, as JSON. -/
private def optionalWord : Option UInt64 → Json
  | none => .null
  | some n => .ofWord n

/-- The settings of a configuration. -/
def fieldNames : List String :=
  ["num_inst", "max_size", "num_retries", "trace_discarded", "trace_successes", "trace_shrink",
    "trace_shrink_candidates", "random_seed", "quiet", "log_for_tyche", "export_path"]

/-- A configuration as a JSON object. -/
def toJson (cfg : Config) : Json :=
  .ofMembers [("num_inst", .ofWord cfg.trials), ("max_size", .ofWord cfg.maxSize),
    ("num_retries", .ofWord cfg.retries), ("trace_discarded", .bool cfg.trace.discarded),
    ("trace_successes", .bool cfg.trace.successes), ("trace_shrink", .bool cfg.trace.shrinks),
    ("trace_shrink_candidates", .bool cfg.trace.candidates),
    ("random_seed", optionalWord cfg.seed), ("quiet", .bool cfg.quiet),
    ("log_for_tyche", .bool cfg.record), ("export_path", .ofText cfg.recordPath)]

/-- Reads a configuration. -/
def ofJson? (json : Json) : Option Config := do
  let fields ← json.fields? fieldNames
  let standard : Config := {}
  let trace : TraceToggles := {
    discarded := ← fields.getD? "trace_discarded" Json.bool? standard.trace.discarded
    successes := ← fields.getD? "trace_successes" Json.bool? standard.trace.successes
    shrinks := ← fields.getD? "trace_shrink" Json.bool? standard.trace.shrinks
    candidates := ← fields.getD? "trace_shrink_candidates" Json.bool? standard.trace.candidates }
  return {
    trials := ← fields.getD? "num_inst" Json.word? standard.trials
    maxSize := ← fields.getD? "max_size" Json.word? standard.maxSize
    retries := ← fields.getD? "num_retries" Json.word? standard.retries
    trace := trace
    seed := ← fields.getD? "random_seed" (Json.nullable? Json.word?) standard.seed
    quiet := ← fields.getD? "quiet" Json.bool? standard.quiet
    record := ← fields.getD? "log_for_tyche" Json.bool? standard.record
    recordPath := ← fields.getD? "export_path" Json.text? standard.recordPath }

end Falsify.Config
