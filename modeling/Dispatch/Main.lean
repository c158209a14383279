import Dispatch.CommandLine

/-!
# The program

The command line on a real machine. No client of a broker is built in.
-/

set_option autoImplicit false

namespace Dispatch.CommandLine

/-- A failure of a file as people read it. -/
def fileReason : IO.Error → String
  | .noFileOrDirectory _ _ _ => "No such file or directory (os error 2)"
  | .permissionDenied _ code details | .inappropriateType _ code details =>
    s!"{details} (os error {code})"
  | error => toString error

def eventLine (e : Event) : String :=
  let fields := e.fields.map fun field => " " ++ field.1 ++ "=" ++ Text.quote field.2
  e.level.name ++ " " ++ e.message ++ String.join fields ++ "\n"

def machine : Host IO where
  readFile path := do
    try return .ok (← IO.FS.readBinFile path).toList
    catch error => return .error (fileReason error)
  createFile path := do
    try IO.FS.writeFile path ""; return .ok ()
    catch error => return .error (fileReason error)
  log file events := do
    let text := String.join (events.map eventLine)
    match file with
    | some path => try IO.FS.writeFile path text catch _ => pure ()
    | none => IO.print text

end Dispatch.CommandLine

open Dispatch.CommandLine in
def main (arguments : List String) : IO UInt32 := do
  let outcome ← run machine Clients.none arguments
  IO.print outcome.output
  IO.eprint outcome.errors
  return outcome.code.toUInt32
