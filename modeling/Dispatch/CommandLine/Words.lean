import Dispatch.Backend

/-!
# The words of a command line

A command line is a list of arguments; what it says is a list of words: a command, a flag, a switch with
its value, or an operand. `wordsOf` reads the words off the arguments from left to right. An argument
that says nothing the program knows becomes a word that refuses, in its place, so that whatever is said
before it still counts.
-/

set_option autoImplicit false

namespace Dispatch.CommandLine

/-- Where a word stands: before any command, or after one. -/
inductive Scope where
  | root
  | publish
  | ping
  | checkConfig
  deriving DecidableEq, Repr, Inhabited

def commands : List (String × Scope) :=
  [("publish", .publish), ("ping", .ping), ("check-config", .checkConfig)]

def helpCommand : String := "help"

inductive Switch where
  | config
  | logLevel
  | verbose
  | help
  | version
  | backend
  | topic
  | header
  | metrics
  | print
  deriving DecidableEq, Repr, Inhabited

structure Spelling where
  long : String
  short : Option Char
  takesValue : Bool
  deriving DecidableEq, Repr, Inhabited

namespace Switch

def spelling : Switch → Spelling
  | .config => ⟨"config", some 'c', true⟩
  | .logLevel => ⟨"log-level", none, true⟩
  | .verbose => ⟨"verbose", some 'v', false⟩
  | .help => ⟨"help", some 'h', false⟩
  | .version => ⟨"version", some 'V', false⟩
  | .backend => ⟨"backend", some 'b', true⟩
  | .topic => ⟨"topic", some 't', true⟩
  | .header => ⟨"header", some 'H', true⟩
  | .metrics => ⟨"metrics", none, false⟩
  | .print => ⟨"print", none, false⟩

def takesValue (switch : Switch) : Bool := switch.spelling.takesValue

def isRepeatable : Switch → Bool
  | .header => true
  | _ => false

end Switch

inductive Refusal where
  | unknownSwitch (text : String)
  | missingValue (switch : Switch)
  | needlessValue (switch : Switch)
  | invalidValue (switch : Switch) (text : String)
  | repeated (switch : Switch)
  | unexpected (text : String)
  | missingSwitch (switch : Switch)
  | missingMessage
  | missingCommand
  deriving DecidableEq, Repr, Inhabited

def Refusal.message : Refusal → String
  | .unknownSwitch text => s!"unexpected argument '{text}'"
  | .missingValue switch => s!"a value is required for '--{switch.spelling.long}'"
  | .needlessValue switch => s!"'--{switch.spelling.long}' takes no value"
  | .invalidValue switch text => s!"invalid value '{text}' for '--{switch.spelling.long}'"
  | .repeated switch => s!"'--{switch.spelling.long}' cannot be used multiple times"
  | .unexpected text => s!"unexpected argument '{text}'"
  | .missingSwitch switch => s!"'--{switch.spelling.long}' is required"
  | .missingMessage => "a message is required"
  | .missingCommand => "a command is required"

inductive Word where
  | command (scope : Scope)
  | flag (switch : Switch)
  | value (switch : Switch) (text : String)
  | operand (text : String)
  | refused (refusal : Refusal)
  deriving DecidableEq, Repr, Inhabited

namespace Scope

def switches : Scope → List Switch
  | .root => [.config, .logLevel, .verbose, .help, .version]
  | .publish => [.config, .logLevel, .verbose, .help, .backend, .topic, .header, .metrics]
  | .ping => [.config, .logLevel, .verbose, .help]
  | .checkConfig => [.config, .logLevel, .verbose, .help, .print]

def long? (scope : Scope) (name : String) : Option Switch :=
  scope.switches.find? fun switch => switch.spelling.long = name

def short? (scope : Scope) (letter : Char) : Option Switch :=
  scope.switches.find? fun switch => switch.spelling.short = some letter

end Scope

/-! ## Single arguments -/

/-- What an argument says by itself. After `opened` the next argument is the value of a switch; after
`divider` all arguments are operands. -/
inductive Piece where
  | command (scope : Scope)
  | help
  | divider
  | said (words : List Word)
  | opened (words : List Word) (switch : Switch)
  deriving DecidableEq, Repr, Inhabited

namespace Piece

def after (word : Word) : Piece → Piece
  | .said words => .said (word :: words)
  | .opened words switch => .opened (word :: words) switch
  | piece => piece

/-- Switches by their letters: flags until the first switch that takes a value, whose value is the rest,
with or without an equals sign. -/
def ofLetters (scope : Scope) : List Char → Piece
  | [] => .said []
  | letter :: rest =>
    match scope.short? letter with
    | none => .said [.refused (.unknownSwitch (String.ofList ['-', letter]))]
    | some switch =>
      if switch.takesValue then
        match rest with
        | [] => .opened [] switch
        | '=' :: value | value => .said [.value switch (String.ofList value)]
      else (ofLetters scope rest).after (.flag switch)

/-- A switch by its name; a value follows an equals sign. -/
def ofName (scope : Scope) (text : List Char) : Piece :=
  let name := String.ofList (text.takeWhile (· != '='))
  match scope.long? name, text.dropWhile (· != '=') with
  | none, _ => .said [.refused (.unknownSwitch ("--" ++ name))]
  | some switch, [] => if switch.takesValue then .opened [] switch else .said [.flag switch]
  | some switch, _ :: value =>
    if switch.takesValue then .said [.value switch (String.ofList value)]
    else .said [.refused (.needlessValue switch)]

def ofArgument (scope : Scope) (argument : String) : Piece :=
  if scope = .root && argument = helpCommand then .help
  else
    match if scope = .root then commands.lookup argument else none with
    | some inner => .command inner
    | none =>
      match argument.toList with
      | ['-', '-'] => .divider
      | '-' :: '-' :: text => ofName scope text
      | '-' :: letter :: rest => ofLetters scope (letter :: rest)
      | _ => .said [.operand argument]

end Piece

/-! ## Command lines -/

/-- Whether an argument can be the value of the switch before it. -/
def isValue (argument : String) : Bool := argument = "-" || argument.toList.head? != some '-'

/-- What asking for help about other words comes to. -/
def helpOn : List String → List Word
  | [] => [.flag .help]
  | [name] =>
    if name = helpCommand || (commands.lookup name).isSome then [.flag .help]
    else [.refused (.unexpected name)]
  | _ :: name :: _ => [.refused (.unexpected name)]

def wordsOf (scope : Scope) : List String → List Word
  | [] => []
  | argument :: rest =>
    match Piece.ofArgument scope argument with
    | .command inner => .command inner :: wordsOf inner rest
    | .help => helpOn rest
    | .divider => rest.map .operand
    | .said words => words ++ wordsOf scope rest
    | .opened words switch =>
      match rest with
      | [] => words ++ [.refused (.missingValue switch)]
      | value :: rest =>
        if isValue value then words ++ .value switch value :: wordsOf scope rest
        else words ++ [.refused (.missingValue switch)]

end Dispatch.CommandLine
