import Confine.CommandLine.Basic

/-!
The command `sandboxctl`. It reads its surroundings, runs and reports.
-/

namespace Confine.CommandLine

/-- The variables in a table of bytes, each of whose entries ends in a zero. -/
def variablesOf (table : Bytes) : Variables :=
  (table.splitOn 0).filterMap fun entry =>
    match Bytes.toText? (entry.takeWhile (· ≠ 61)), Bytes.toText? (entry.dropWhile (· ≠ 61)) with
    | some name, some value => if value = "" then none else some (name, (value.drop 1).toString)
    | _, _ => none

/-- The names of files that a run may ask for: they lie in the working directory. -/
def fileNames (args : List String) (vars : Variables) : List String :=
  (envFileName :: (vars.lookup "SANDBOX_CONFIG").toList ++ args).eraseDups.filter fun name =>
    name ≠ "" && !name.contains '/'

/-- Reads a stream to its end. -/
partial def readAll (stream : IO.FS.Stream) (sofar : ByteArray) : IO ByteArray := do
  let piece ← stream.read 8192
  if piece.isEmpty then return sofar else readAll stream (sofar ++ piece)

/-- Reads the files that are there. -/
def readFiles (names : List String) : IO (List (String × Bytes)) :=
  names.filterMapM fun (name : String) => do
    match ← (IO.FS.readBinFile name).toBaseIO with
    | .ok content => return some (name, content.toList)
    | .error _ => return none

end Confine.CommandLine

open Confine Confine.CommandLine in
/-- Runs a program in a sandbox and exits as it does. -/
def main (args : List String) : IO UInt32 := do
  let vars := variablesOf (← IO.FS.readBinFile "/proc/self/environ").toList
  let settings ← readFiles [envFileName]
  let known := match settings.lookup envFileName with
    | some content => EnvFile.apply vars content
    | none => vars
  let files ← readFiles (fileNames args known)
  let input ← readAll (← IO.getStdin) ByteArray.empty
  let outcome := run { args, vars, files, stdin := input.toList }
  (← IO.getStdout).write ⟨outcome.stdout.toArray⟩
  (← IO.getStderr).write ⟨outcome.stderr.toArray⟩
  for e in outcome.errors do
    IO.eprintln ("ERROR sandboxctl: " ++ e)
  return outcome.code.toUInt32
