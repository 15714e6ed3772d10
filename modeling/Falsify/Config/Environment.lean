import Falsify.Config
import Falsify.Text.Blank
import Falsify.Text.Numeral

/-! # Configuration from variables

Settings taken from named variables, such as those of the process environment.  An unset variable keeps the
default.  The value of a set one is read without the blanks around it; a value that cannot be read is
reported as it stands, and of several such values the first in the order of reading. -/

namespace Falsify.Config

open Text

/-- Reads a number: an optional plus sign, then digits, with blanks around them. -/
def number? (text : String) : Option UInt64 :=
  match trim text.toList with
  | '+' :: digits => word? digits
  | digits => word? digits

/-- Reads a yes or a no, in any case of the ASCII letters and with blanks around it; no text at all means
    no. -/
def flag? (text : String) : Option Bool :=
  let word := (String.ofList (trim text.toList)).map Char.toLower
  if word ∈ ["1", "true", "yes", "on"] then some true
  else if word ∈ ["0", "false", "no", "off", ""] then some false
  else none

/-- The number that a variable is set to, if it is set. -/
def numberOf (lookup : String → Option String) (name : String) :
    Except ConfigFault (Option UInt64) :=
  match lookup name with
  | none => .ok none
  | some text =>
    match number? text with
    | some n => .ok (some n)
    | none => .error (.notANumber name text)

/-- Whether a variable is set to a yes; an unset variable means no. -/
def flagOf (lookup : String → Option String) (name : String) : Except ConfigFault Bool :=
  match lookup name with
  | none => .ok false
  | some text =>
    match flag? text with
    | some b => .ok b
    | none => .error (.notAFlag name text)

/-- The settings of a set of variables. -/
def ofLookup (lookup : String → Option String) : Except ConfigFault Config := do
  -- The first variable that cannot be read decides which fault is reported.
  let trials ← numberOf lookup "PROPCHECK_NUM_INST"
  let maxSize ← numberOf lookup "PROPCHECK_MAX_SIZE"
  let retries ← numberOf lookup "PROPCHECK_NUM_RETRIES"
  let seed ← numberOf lookup "PROPCHECK_SEED"
  let quiet ← flagOf lookup "PROPCHECK_QUIET"
  let traced ← flagOf lookup "PROPCHECK_TRACE"
  let recorded := lookup "PROPCHECK_EXPORT"
  let standard : Config := {}
  let cfg : Config := {
    trials := trials.getD standard.trials
    maxSize := maxSize.getD standard.maxSize
    retries := retries.getD standard.retries
    trace := if traced then .all else standard.trace
    seed := seed
    quiet := quiet
    record := recorded.isSome
    recordPath := if recorded.getD "" = "" then standard.recordPath else recorded.getD "" }
  cfg.validate
  return cfg

end Falsify.Config
