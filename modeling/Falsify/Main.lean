import Falsify.Demo.Run
import Falsify.FileTree
import Std.Time.DateTime.Timestamp

/-! # The demonstration as a program

The host of the real world, and the program that checks the catalogue in it: log lines go to standard output,
and a failure goes to standard error and to the exit code. -/

namespace Falsify.Demo

/-- The time of the clock. -/
def timeNow : IO Timestamp := do
  let time ← Std.Time.Timestamp.now
  return .ofNanoseconds time.toNanosecondsSinceUnixEpoch.val.toNat

/-- A random word. -/
def randomWord : IO UInt64 := do
  let bytes ← IO.getRandomBytes 8
  return bytes.foldl (fun w b => (w <<< 8) ||| b.toUInt64) 0

/-- What the operating system's error means. -/
def faultOf : IO.Error → FileFault
  | .alreadyExists _ 17 _ => .alreadyExists
  | .inappropriateType _ 20 _ => .notADirectory
  | .inappropriateType _ 21 _ => .isADirectory
  | .noFileOrDirectory _ _ _ => .notFound
  | .permissionDenied _ code _ => .other ("Permission denied (os error " ++ toString code ++ ")")
  | error => .other (toString error)

/-- Whether there is a folder at a path. -/
def isFolder (path : String) : IO Bool := do
  try
    discard (IO.FS.realPath (path ++ "/."))
    return true
  catch _ => return false

/-- Makes folders, each inside the one before. -/
def makeFolders (here : String) : List String → IO Unit
  | [] => pure ()
  | name :: names => do
    let path := here ++ name
    unless ← isFolder path do
      try IO.FS.createDir path
      catch error =>
        match faultOf error, names with
        | .alreadyExists, _ :: _ => throw (.inappropriateType (some path) 20 "Not a directory")
        | _, _ => throw error
    makeFolders (path ++ "/") names

/-- A step with a file, which answers the fault if it fails. -/
def attemptFile (step : IO Unit) : IO (Except FileFault Unit) := do
  try
    step
    return .ok ()
  catch error => return .error (faultOf error)

/-- The host of the real world, which keeps the opened file in a cell.  Debugging lines are not shown. -/
def realHost (opened : IO.Ref (Option IO.FS.Handle)) : Host IO where
  entropy := randomWord
  now := timeNow
  runId := do
    let time ← Std.Time.Timestamp.now
    let milliseconds := time.toNanosecondsSinceUnixEpoch.val.toNat / 1000000
    return .ofTime (.ofNat milliseconds) (← randomWord) (← randomWord)
  makeParents path := do
    let folders := (FileTree.splitPath path).1
    if folders.any FileTree.hasNul then return .error .invalidPath
    attemptFile (makeFolders (if path.startsWith "/" then "/" else "") folders)
  openFile path := do
    if FileTree.hasNul path then return .error .invalidPath
    attemptFile do opened.set (some (← IO.FS.Handle.mk path .append))
  write _ text := attemptFile do
    if let some file ← opened.get then file.putStr text
  flush _ := attemptFile do
    if let some file ← opened.get then file.flush
    opened.set none
  log line := do
    if line.isShown then IO.println ((← timeNow).microText ++ " " ++ line.text)

/-- The variables that the program is configured by. -/
def variableNames : List String :=
  ["PROPCHECK_NUM_INST", "PROPCHECK_MAX_SIZE", "PROPCHECK_NUM_RETRIES", "PROPCHECK_SEED",
    "PROPCHECK_QUIET", "PROPCHECK_TRACE", "PROPCHECK_EXPORT"]

end Falsify.Demo

open Falsify.Demo in
/-- Checks the statements that are named on the command line, or all of the catalogue. -/
def main (args : List String) : IO UInt32 := do
  let values ← variableNames.mapM fun name => return (name, ← IO.getEnv name)
  let opened ← IO.mkRef none
  match ← run (realHost opened) (fun name => (values.lookup name).join) args with
  | .ok () => return 0
  | .error failure =>
    failure.lines.forM fun line => IO.eprintln line
    return 1
