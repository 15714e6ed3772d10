import Falsify.Config.Codec
import Falsify.Formula.Basic
import Falsify.Main
import Falsify.Proofs.Observation.Log
import Falsify.Proofs.Search.Greedy
import Falsify.Proofs.Search.Halving
import Falsify.Proofs.Search.Minimal
import Falsify.Proofs.Search.Transcript
import Falsify.Proofs.Suite.Bounds
import Falsify.Proofs.Suite.Reporting
import Falsify.Proofs.Suite.Retries
import Falsify.Proofs.Testing.Counterexample
import Falsify.Proofs.Testing.Kleene
import Falsify.Proofs.Testing.Minimizing
import Falsify.Proofs.Testing.Negation
import Falsify.Proofs.Testing.Decisions
import Falsify.Proofs.Testing.Unsearched
import Falsify.Proofs.Check.Conclusive
import Falsify.Proofs.Testing.Bracketing
import Falsify.Proofs.Testing.Mapping
import Falsify.Proofs.Candidate.List
import Falsify.Proofs.Config.Environment
import Falsify.Proofs.Suite.Schedule
