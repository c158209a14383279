import Dispatch.CommandLine.Invocation
import Dispatch.Registry
import Dispatch.Settings.Data

/-!
# The command line

Publishes one message through a configured broker, pings every configured broker, or checks a
configuration. A command ends in a `Report`; `run` adds what comes before it: reading the arguments, the
configuration and where events are kept. All that a run needs of the machine it runs on is a `Host`, and
all it needs of brokers is in its `Clients`.
-/

set_option autoImplicit false

namespace Dispatch.CommandLine

def name : String := "courier"

def version : String := "0.1.0"

structure Host (m : Type → Type) where
  readFile : String → m (Except String Bytes)
  createFile : String → m (Except String Unit)
  /-- Keeps events in a file, or where output goes if there is none. -/
  log : Option String → List Event → m Unit

structure Clients (ε ρ σ κ : Type) where
  outside : ε
  process : String
  connector : Backend → Option (Connector ε ρ σ κ)

def Clients.none : Clients Unit Empty Empty Unit where
  outside := ()
  process := ""
  connector _ := Option.none

/-! ## Complaints and reports -/

/-- Why a run failed: what happened, and the reason below it. -/
structure Complaint where
  message : String
  cause : Option String
  deriving DecidableEq, Repr, Inhabited

namespace Complaint

def ofError (error : BrokerError) : Complaint := ⟨error.message, error.source?⟩

def indented (text : String) : String := "    " ++ "\n    ".intercalate (text.splitOn "\n")

def text (c : Complaint) : String :=
  let cause := (c.cause.map fun cause => "\n\nCaused by:\n" ++ indented cause).getD ""
  "Error: " ++ c.message ++ cause ++ "\n"

end Complaint

structure Report where
  output : String
  complaint : Option Complaint
  events : List Event
  deriving DecidableEq, Repr, Inhabited

def Report.ofComplaint (complaint : Complaint) : Report := ⟨"", some complaint, []⟩

structure Outcome where
  code : Nat
  output : String
  errors : String
  deriving DecidableEq, Repr, Inhabited

/-! ## Commands -/

def headerOf (raw : String) : Except Complaint (String × String) :=
  let (front, rest) := raw.toList.span (· != '=')
  let key := Text.trim (String.ofList front)
  if rest.isEmpty || key.isEmpty then .error ⟨s!"invalid header '{raw}', expected KEY=VALUE", none⟩
  else .ok (key, String.ofList rest.tail)

section Commands

variable {ε ρ σ κ : Type}

def connect (clients : Clients ε ρ σ κ) (c : Configuration) :
    Except Complaint (Registry ε ρ σ κ) :=
  (Registry.ofConfiguration clients.connector (.new clients.outside clients.process) c).mapError
    .ofError

def carryOut (r : Registry ε ρ σ κ) (call : Call ε ρ σ κ Unit) : Reply × Registry ε ρ σ κ :=
  let task : Task (Call ε ρ σ κ Unit) Reply :=
    { startAt := 0
      cancelAt := none
      dropAt := none
      deadline := none
      token := none
      phase := .running call }
  let (number, schedule) := (Schedule.new r).spawn task
  let (schedule, _) := schedule.await (Registry.machine ε ρ σ κ Unit) [number]
  (((schedule.ending? number).map Ending.result).getD .abandoned, schedule.state.shutdown)

def journal (r : Registry ε ρ σ κ) : List Event := r.shared.surroundings.journal

/-- The message with its headers, and the registry through which it goes. -/
def preparePublish (clients : Clients ε ρ σ κ) (c : Configuration) (request : PublishRequest) :
    Except Complaint (Registry ε ρ σ κ × Call ε ρ σ κ Unit) := do
  let payload ← (Json.ofString request.message).mapError fun fault =>
    ⟨"message is not valid JSON", some fault.message⟩
  let headers ← request.headers.mapM headerOf
  let metadata := headers.foldl (fun m header => m.withHeader header.1 header.2) (.new request.topic)
  let registry ← connect clients c
  let backend := request.backend.name
  let missing (error : BrokerError) : Complaint :=
    ⟨s!"no [{backend}] section in the configuration", some error.message⟩
  let place ← (registry.find backend).mapError missing
  match registry.adapters[place]? with
  | none => throw (missing (.unknownName backend))
  | some adapter =>
    let message := Outgoing.withMetadata adapter.options payload metadata
    return (registry, .publishing place message .fresh)

def givenUp : Complaint := ⟨"the call was given up", none⟩

def publish (clients : Clients ε ρ σ κ) (c : Configuration) (request : PublishRequest) : Report :=
  match preparePublish clients c request with
  | .error complaint => .ofComplaint complaint
  | .ok (registry, call) =>
    let (reply, registry) := carryOut registry call
    match reply with
    | .published (.ok receipt) =>
      let backend := receipt.backend.name
      let line := s!"published {receipt.size} bytes to {receipt.destination.text} via {backend}\n"
      { output := line ++ if request.metrics then registry.shared.metrics.render else ""
        complaint := none
        events := journal registry }
    | .published (.error error) =>
      { output := "", complaint := some (.ofError error), events := journal registry }
    | _ => { output := "", complaint := some givenUp, events := journal registry }

def column (name : String) : String := name ++ "".pushn ' ' (8 - name.length)

def pingLine : String × Except BrokerError Unit → String
  | (name, .ok ()) => column name ++ " ok\n"
  | (name, .error error) => column name ++ s!" FAILED: {error.message}\n"

def ping (clients : Clients ε ρ σ κ) (c : Configuration) : Report :=
  match connect clients c with
  | .error complaint => .ofComplaint complaint
  | .ok registry =>
    if registry.names.isEmpty then .ofComplaint ⟨"no backend is configured", none⟩
    else
      let (reply, registry) := carryOut registry (.checkAll registry)
      match reply with
      | .checkedAll results =>
        let failures := (results.filter fun result => !result.2.isOk).length
        { output := String.join (results.map pingLine)
          complaint :=
            if failures = 0 then none else some ⟨s!"{failures} backend(s) failed the ping", none⟩
          events := journal registry }
      | _ => { output := "", complaint := some givenUp, events := journal registry }

end Commands

def checkConfig (c : Configuration) (print : Bool) : Report :=
  match c.validate with
  | .error error => .ofComplaint (.ofError error)
  | .ok () =>
    let line :=
      if c.backends.isEmpty then "configuration is valid, no backend configured\n"
      else
        "configuration is valid, backends: " ++ ", ".intercalate (c.backends.map Backend.name) ++ "\n"
    { output := line ++ if print then c.toToml else "", complaint := none, events := [] }

/-! ## Runs -/

def usage : String :=
  "Publish messages through pooled, resilient broker adapters\n\n" ++
  "Usage: " ++ name ++ " [OPTIONS] <COMMAND>\n\n" ++
  "Commands:\n" ++
  "  publish       Publish one JSON message\n" ++
  "  ping          Lease a connection on every configured backend and ping it\n" ++
  "  check-config  Validate the configuration file and list the configured backends\n" ++
  "  help          Print this message\n\n" ++
  "Options:\n" ++
  "  -c, --config <FILE>      Configuration file (TOML)\n" ++
  "      --log-level <LEVEL>  Log level, overrides the configuration file\n" ++
  "  -v, --verbose            Debug logging\n" ++
  "  -h, --help               Print help\n" ++
  "  -V, --version            Print version\n\n" ++
  "Options of publish:\n" ++
  "  -b, --backend <BACKEND>   Backend section to publish through (amqp, socket, log, mqtt)\n" ++
  "  -t, --topic <TOPIC>       Topic; the configured default destination when omitted\n" ++
  "  -H, --header <KEY=VALUE>  Header, repeatable\n" ++
  "      --metrics             Print the metrics after publishing\n\n" ++
  "Options of check-config:\n" ++
  "      --print  Print the effective configuration, defaults filled in\n"

/-- Help and the version are what was asked for; a command line that cannot be understood is an error of
its own kind. -/
def Outcome.ofStop : Stop → Outcome
  | .help => { code := 0, output := usage, errors := "" }
  | .version => { code := 0, output := name ++ " " ++ version ++ "\n", errors := "" }
  | .refused refusal =>
    { code := 2, output := "", errors := s!"error: {refusal.message}\n\nFor more information, try '--help'.\n" }

def Outcome.ofReport (warning : String) (report : Report) : Outcome :=
  { code := if report.complaint.isSome then 1 else 0
    output := report.output
    errors := warning ++ (report.complaint.map Complaint.text).getD "" }

/-- The level of the events that are kept. The command line overrides the configuration, and `verbose`
both. -/
def keptLevel (invocation : Invocation) (logging : LoggingSettings) : Level :=
  if logging.verbose || invocation.verbose then .debug
  else invocation.logLevel.getD logging.level

def execute {ε ρ σ κ : Type} (clients : Clients ε ρ σ κ) (c : Configuration) : Command → Report
  | .publish request => publish clients c request
  | .ping => ping clients c
  | .checkConfig print => checkConfig c print

section Runs

variable {m : Type → Type} [Monad m]

def loadConfiguration (host : Host m) : Option String → m (Except Complaint Configuration)
  | none => return .ok .standard
  | some file => do
    let contents ← host.readFile file
    return (Configuration.ofFile file contents).mapError fun error =>
      ⟨s!"failed to load {file}", some error.message⟩

/-- Makes the log file where one is configured; a failure is only a warning. -/
def openLog (host : Host m) : Option String → m String
  | none => return ""
  | some file => do
    match ← host.createFile file with
    | .ok () => return ""
    | .error reason =>
      let error := BrokerError.config s!"Failed to create log file: {reason}"
      return s!"Warning: Failed to initialize logging: {error.message}\n"

def run {ε ρ σ κ : Type} (host : Host m) (clients : Clients ε ρ σ κ) (arguments : List String) :
    m Outcome := do
  match Invocation.ofArguments arguments with
  | .error stop => return .ofStop stop
  | .ok invocation =>
    match ← loadConfiguration host invocation.configuration with
    | .error complaint => return .ofReport "" (.ofComplaint complaint)
    | .ok configuration =>
      let logging := configuration.logging
      let warning ← openLog host logging.file
      let report := execute clients configuration invocation.command
      if warning.isEmpty then
        host.log logging.file (report.events.filter (·.reaches (keptLevel invocation logging)))
      return .ofReport warning report

end Runs

end Dispatch.CommandLine
