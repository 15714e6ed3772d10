/-! # Errors

What can go wrong in a check.  A counterexample is reported as an error of its own kind, so that a check
whose statement is false cannot be taken for one that passed; the other kinds are operational: a setting
that cannot be used, a file that cannot be written, a record that cannot be encoded. -/

namespace Falsify

/-- Why a configuration cannot be used. -/
inductive ConfigFault where
  /-- The number of trials is zero, but it divides the size schedule. -/
  | noTrials
  /-- The value of a variable is not a number. -/
  | notANumber (name value : String)
  /-- The value of a variable is neither a yes nor a no. -/
  | notAFlag (name value : String)
  /-- Another reason, in words. -/
  | other (reason : String)
  deriving DecidableEq, Inhabited

/-- Why a file cannot be written. -/
inductive FileFault where
  /-- There is nothing at the path. -/
  | notFound
  /-- There is a file where a directory would have to be made. -/
  | alreadyExists
  /-- A directory on the way to the file is a file. -/
  | notADirectory
  /-- The file is a directory. -/
  | isADirectory
  /-- The path has a character that no name may have. -/
  | invalidPath
  /-- Another reason, in words, such as a missing permission or a full disk. -/
  | other (reason : String)
  deriving DecidableEq, Inhabited

/-- Why a check did not pass. -/
inductive CheckError where
  /-- The statement failed; the report shows where. -/
  | counterexample (report : String)
  /-- The configuration cannot be used. -/
  | configuration (fault : ConfigFault)
  /-- The observation log cannot be written. -/
  | unwritable (fault : FileFault)
  /-- A record cannot be encoded or decoded. -/
  | unencodable (reason : String)
  deriving DecidableEq, Inhabited

/-- The reason in words. -/
def ConfigFault.message : ConfigFault → String
  | noTrials => "num_inst must be at least 1"
  | notANumber name value => name ++ ": invalid value '" ++ value ++ "'"
  | notAFlag name value => name ++ ": expected a boolean, got '" ++ value ++ "'"
  | other reason => reason

/-- The reason in words. -/
def FileFault.message : FileFault → String
  | notFound => "No such file or directory (os error 2)"
  | alreadyExists => "File exists (os error 17)"
  | notADirectory => "Not a directory (os error 20)"
  | isADirectory => "Is a directory (os error 21)"
  | invalidPath => "file name contained an unexpected NUL byte"
  | other reason => reason

/-- The error in words. -/
def CheckError.message : CheckError → String
  | counterexample report => report
  | configuration fault => "Configuration error: " ++ fault.message
  | unwritable fault => "Export error: " ++ fault.message
  | unencodable reason => "Serialization error: " ++ reason

/-- Whether the error says that the statement is false. -/
def CheckError.isCounterexample : CheckError → Bool
  | counterexample _ => true
  | _ => false

end Falsify
