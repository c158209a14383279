import Dispatch.CommandLine.Words
import Dispatch.Journal

/-!
# Invocations

An invocation is what a command line asks the program to do. It is read off the words one after the
other; the first word that asks for help or for the version, or that cannot stand where it does, decides.
A switch may be given once before the command and once after it, and the later one counts.
-/

set_option autoImplicit false

namespace Dispatch.CommandLine

structure PublishRequest where
  backend : Backend
  topic : String
  message : String
  headers : List String
  metrics : Bool
  deriving DecidableEq, Repr, Inhabited

inductive Command where
  | publish (request : PublishRequest)
  | ping
  | checkConfig (print : Bool)
  deriving DecidableEq, Repr, Inhabited

structure Invocation where
  configuration : Option String
  logLevel : Option Level
  verbose : Bool
  command : Command
  deriving DecidableEq, Repr, Inhabited

inductive Stop where
  | help
  | version
  | refused (refusal : Refusal)
  deriving DecidableEq, Repr, Inhabited

structure Draft where
  scope : Scope
  given : List Switch
  configuration : Option String
  logLevel : Option Level
  verbose : Bool
  backend : Option Backend
  topic : String
  message : Option String
  headers : List String
  metrics : Bool
  print : Bool
  deriving DecidableEq, Repr, Inhabited

namespace Draft

def blank : Draft where
  scope := .root
  given := []
  configuration := none
  logLevel := none
  verbose := false
  backend := none
  topic := ""
  message := none
  headers := []
  metrics := false
  print := false

def mark (d : Draft) (switch : Switch) : Except Stop Draft :=
  if switch.isRepeatable then .ok d
  else if d.given.contains switch then .error (.refused (.repeated switch))
  else .ok { d with given := switch :: d.given }

def addFlag (d : Draft) : Switch → Except Stop Draft
  | .help => .error .help
  | .version => .error .version
  | .verbose => do return { ← d.mark .verbose with verbose := true }
  | .metrics => do return { ← d.mark .metrics with metrics := true }
  | .print => do return { ← d.mark .print with print := true }
  | switch => .error (.refused (.missingValue switch))

def addValue (d : Draft) (switch : Switch) (text : String) : Except Stop Draft := do
  let d ← d.mark switch
  let invalid : Except Stop Draft := .error (.refused (.invalidValue switch text))
  match switch with
  | .config => if text.isEmpty then invalid else return { d with configuration := some text }
  | .logLevel =>
    match Level.all.find? fun level => level.name = text with
    | some level => return { d with logLevel := some level }
    | none => invalid
  | .backend =>
    match Backend.parse text with
    | .ok backend => return { d with backend := some backend }
    | .error _ => invalid
  | .topic => return { d with topic := text }
  | .header => return { d with headers := d.headers ++ [text] }
  | switch => .error (.refused (.needlessValue switch))

/-- Only a message to publish is an operand. -/
def addOperand (d : Draft) (text : String) : Except Stop Draft :=
  if d.scope = .publish && d.message.isNone then .ok { d with message := some text }
  else .error (.refused (.unexpected text))

def add (d : Draft) : Word → Except Stop Draft
  | .command scope => .ok { d with scope, given := [] }
  | .flag switch => d.addFlag switch
  | .value switch text => d.addValue switch text
  | .operand text => d.addOperand text
  | .refused refusal => .error (.refused refusal)

def command (d : Draft) : Except Stop Command :=
  match d.scope with
  | .root => .error (.refused .missingCommand)
  | .ping => .ok .ping
  | .checkConfig => .ok (.checkConfig d.print)
  | .publish =>
    match d.backend, d.message with
    | none, _ => .error (.refused (.missingSwitch .backend))
    | _, none => .error (.refused .missingMessage)
    | some backend, some message =>
      .ok (.publish
        { backend, topic := d.topic, message, headers := d.headers, metrics := d.metrics })

def invocation (d : Draft) : Except Stop Invocation := do
  let command ← d.command
  return { configuration := d.configuration, logLevel := d.logLevel, verbose := d.verbose, command }

end Draft

def Invocation.ofArguments (arguments : List String) : Except Stop Invocation := do
  let draft ← (wordsOf .root arguments).foldlM Draft.add .blank
  draft.invocation

end Dispatch.CommandLine
