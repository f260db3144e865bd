import BaseApi.Command.Run

/-!
# The program

Runs the arguments on the disk, prints the outcome and exits with its status.
-/

namespace BaseApi

/-- Whether an error code is the given one; some operations report the code negated. -/
def isCode (code reported : UInt32) : Bool := reported == code || reported == 0 - code

/-- What an error of the system means for a file. -/
def fileError (error : IO.Error) : FileError :=
  match error with
  | .noFileOrDirectory .. => .notFound
  | .alreadyExists .. => .alreadyExists
  | .inappropriateType _ code _ =>
      if isCode 20 code then .notDirectory
      else if isCode 21 code then .isDirectory
      else .other (toString error)
  | error => .other (toString error)

/-- An action on the disk, with its error. -/
def onDisk {α : Type} (action : IO α) : IO (Except FileError α) := do
  try pure (.ok (← action)) catch error => pure (.error (fileError error))

instance : Storage IO where
  readText path := do
    match ← onDisk (IO.FS.readBinFile path) with
    | .error error => pure (.error error)
    | .ok bytes =>
        match String.fromUTF8? bytes with
        | some text => pure (.ok text)
        | none => pure (.error .notText)
  makeDirectories paths :=
    match paths with
    | [] => pure (.ok ())
    | path :: _ => onDisk (IO.FS.createDirAll path)
  writeText path text := onDisk (IO.FS.writeFile path text)

end BaseApi

def main (arguments : List String) : IO UInt32 := do
  let outcome ← (BaseApi.runArguments arguments : IO BaseApi.Outcome)
  (← IO.getStderr).putStr outcome.stderr
  (← IO.getStdout).putStr outcome.stdout
  pure outcome.exit
