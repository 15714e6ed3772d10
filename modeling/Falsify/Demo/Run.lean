import Falsify.Check
import Falsify.Config.Environment
import Falsify.Demo.Catalogue

/-! # Checking the catalogue

The demonstration checks the statements of the catalogue that it is asked for, or all of them, and reports how
each check went.  It is configured by variables.  A counterexample is an answer like any other; every other
error ends the demonstration. -/

namespace Falsify.Demo

variable {m : Type → Type} [Monad m]

/-- Why the demonstration ended early. -/
inductive Failure where
  /-- The variables do not make a configuration. -/
  | configuration (fault : ConfigFault)
  /-- No statement has any of the names. -/
  | unknown (names : List String)
  /-- The check of a statement could not be carried out. -/
  | check (name : String) (error : CheckError)
  deriving DecidableEq, Inhabited

/-- A reason that stands below a headline: its lines are moved to the right. -/
private def causedBy (headline reason : String) : List String :=
  ["Error: " ++ headline, "", "Caused by:"] ++ (reason.splitOn "\n").map ("    " ++ ·)

/-- The lines that tell of a failure. -/
def Failure.lines : Failure → List String
  | configuration fault =>
    causedBy "Failed to load PROPCHECK_* configuration" (CheckError.configuration fault).message
  | unknown names =>
    let known := (catalogue (σ := Unit)).map Prod.fst
    ["Error: No property named " ++ literal names ++ "; known properties: " ++ ", ".intercalate known]
  | check name error => causedBy ("Checking " ++ name) error.message

/-- A line of the demonstration itself. -/
def line (level : LogLevel) (message : String) : LogLine := ⟨level, "propcheck_demo", message, []⟩

/-- The lines about the configuration. -/
def configurationLines (cfg : Config) : List LogLine :=
  [line .info "📋 Configuration loaded:", line .info ("  - Trials: " ++ toString cfg.trials.toNat),
    line .info ("  - Max size: " ++ toString cfg.maxSize.toNat),
    line .info ("  - Retries: " ++ toString cfg.retries.toNat)] ++
  if cfg.record then [line .info ("  - Export: " ++ cfg.recordPath)] else []

/-- The line about a check that passed. -/
def passedLine (name : String) (s : Summary) : LogLine :=
  line .info ("✅ " ++ name ++ ": " ++ toString s.trials.toNat ++ " trials, " ++
    toString s.passed.toNat ++ " passed, " ++ toString s.gaveUp.toNat ++ " gave up (seed " ++
    toString s.seed.toNat ++ ")")

/-- Checks statements one after the other; answers how many were refuted. -/
def checkAll (host : Host m) (cfg : Config) (refuted : Nat) :
    List (String × Statement Unit) → m (Except Failure Nat)
  | [] => pure (.ok refuted)
  | (name, p) :: rest => do
    host.log (line .info ("🔍 Checking " ++ name ++ ": " ++ p.text))
    let (result, _) ← check host cfg p ()
    match result with
    | .ok summary =>
      host.log (passedLine name summary)
      checkAll host cfg refuted rest
    | .error error =>
      if error.isCounterexample then
        host.log (line .warn ("❌ " ++ name ++ ": " ++ error.message))
        checkAll host cfg (refuted + 1) rest
      else
        host.log (line .error ("Failed to check " ++ name ++ ": " ++ error.message))
        return .error (.check name error)

/-- The statements of the catalogue with the given names, or all of them if no name is given. -/
def select (names : List String) : List (String × Statement Unit) :=
  catalogue.filter fun (name, _) => names.isEmpty || names.contains name

/-- Checks the statements with the given names under the configuration that variables make. -/
def run (host : Host m) (lookup : String → Option String) (names : List String) :
    m (Except Failure Unit) := do
  match Config.ofLookup lookup with
  | .error fault => return .error (.configuration fault)
  | .ok cfg =>
    (configurationLines cfg).forM host.log
    let selected := select names
    if selected.isEmpty then return .error (.unknown names)
    match ← checkAll host cfg 0 selected with
    | .error failure => return .error failure
    | .ok refuted =>
      host.log (line .info ("🏁 Checked " ++ toString selected.length ++ " properties, " ++
        toString refuted ++ " refuted"))
      return .ok ()

end Falsify.Demo
