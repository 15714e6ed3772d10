/-! # Trace lines

What a run says about itself while it goes on: which samples it draws and discards, and which way the
search for a smaller counterexample takes.  A line is kept as data, and its text is made at the end.

* `isOfSearch`: which lines only the search writes. -/

namespace Falsify

/-- One line of a trace.  Variables, proxies and guards are given by their texts. -/
inductive TraceLine where
  /-- A trial begins. -/
  | newSample
  /-- A proxy was drawn for a variable. -/
  | bound (var proxy : String)
  /-- The statement fails at the proxy that was drawn. -/
  | failing (var proxy : String)
  /-- A guard does not hold, and the sample is discarded. -/
  | discarded (guard : String)
  /-- A variable is bound but not used. -/
  | unused (var : String)
  /-- A trial gave up for the first time and may be retried so many times. -/
  | retrying (times : Nat)
  /-- A search begins. -/
  | search
  /-- A search begins at a proxy. -/
  | searchFrom (var proxy : String)
  /-- The candidates of a proxy. -/
  | offers (var proxy candidates : String)
  /-- A candidate is about to be tested. -/
  | trying (var candidate : String)
  /-- The search moves on from a proxy to a candidate that fails. -/
  | shrunk (var candidate proxy : String)
  /-- No candidate of a proxy fails. -/
  | minimal (var proxy : String)
  deriving DecidableEq, Inhabited

namespace TraceLine

/-- The text of a binding. -/
private def binding (var proxy : String) : String := var ++ " := " ++ proxy

/-- The text of a line. -/
def text : TraceLine → String
  | newSample => "New sample"
  | bound var proxy => binding var proxy
  | failing var proxy => binding var proxy ++ " is a failure"
  | discarded guard => "discard: Guard " ++ guard ++ " does not hold"
  | unused var => var ++ " is unused"
  | retrying times => "Retrying up to " ++ toString times ++ " times until guards hold"
  | search => "Shrink"
  | searchFrom var proxy => "Attempting to shrink " ++ binding var proxy
  | offers var proxy candidates =>
    "Candidates for " ++ binding var proxy ++ ":\n  " ++ candidates
  | trying var candidate => "Trying " ++ binding var candidate
  | shrunk var candidate proxy => var ++ " shrunk to " ++ candidate ++ " from " ++ proxy
  | minimal var proxy => "No shrinking possible for " ++ binding var proxy

/-- Whether a line tells of a search. -/
def isOfSearch : TraceLine → Bool
  | search | searchFrom .. | offers .. | trying .. | shrunk .. | minimal .. => true
  | _ => false

end TraceLine

end Falsify
