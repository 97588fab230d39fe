/-!
The errors of system calls, with their numbers and descriptions.
-/

namespace Confine.Host

inductive OsError where
  | notPermitted
  | noEntry
  | noProcess
  | badDescriptor
  | noChild
  | accessDenied
  | alreadyThere
  | notDirectory
  | isDirectory
  | invalid
  | fileTooLarge
  | noSpace
  | brokenPipe
  | nameTooLong
  | notEmpty
deriving DecidableEq

namespace OsError

def number : OsError → Nat
  | notPermitted => 1
  | noEntry => 2
  | noProcess => 3
  | badDescriptor => 9
  | noChild => 10
  | accessDenied => 13
  | alreadyThere => 17
  | notDirectory => 20
  | isDirectory => 21
  | invalid => 22
  | fileTooLarge => 27
  | noSpace => 28
  | brokenPipe => 32
  | nameTooLong => 36
  | notEmpty => 39

def description : OsError → String
  | notPermitted => "Operation not permitted"
  | noEntry => "No such file or directory"
  | noProcess => "No such process"
  | badDescriptor => "Bad file descriptor"
  | noChild => "No child processes"
  | accessDenied => "Permission denied"
  | alreadyThere => "File exists"
  | notDirectory => "Not a directory"
  | isDirectory => "Is a directory"
  | invalid => "Invalid argument"
  | fileTooLarge => "File too large"
  | noSpace => "No space left on device"
  | brokenPipe => "Broken pipe"
  | nameTooLong => "File name too long"
  | notEmpty => "Directory not empty"

/-- The description with the number. -/
def message (e : OsError) : String :=
  e.description ++ " (os error " ++ toString e.number ++ ")"

end OsError

end Confine.Host
