import InfobaseGateway.Config.Load
import InfobaseGateway.Rpc.Target

/-!
# Starting the gateway

Starting reads the configuration, prepares tracing and builds the service behind the gateway. Each
of the three can fail. What is logged meanwhile is subject to the filter in force.
-/

namespace InfobaseGateway

/-- An event with the module that it comes from. -/
structure LogLine where
  target : String
  event : Event
  deriving DecidableEq

namespace LogLine

/-- The text of a log line, without its time. -/
def render (line : LogLine) : String :=
  line.event.level.name ++ " " ++ line.target ++ ": "
    ++ " ".intercalate
      (line.event.message :: line.event.fields.map fun (name, value) => name ++ "=" ++ value)

/-- A text without the sequences that set colours. What may be such a sequence, in reverse, is held
back until it ends. -/
def withoutColours (held : List Char) : List Char → List Char
  | [] => held.reverse
  | c :: rest =>
    let goesOn := if held.length = 1 then c = '[' else c.isDigit || c = ';'
    if held.isEmpty then
      if c = '\x1b' then withoutColours [c] rest else c :: withoutColours [] rest
    else if goesOn then withoutColours (c :: held) rest
    else if c = 'm' && 2 ≤ held.length then withoutColours [] rest
    else if c = '\x1b' then held.reverse ++ withoutColours [c] rest
    else held.reverse ++ c :: withoutColours [] rest

/-- The lines of a text that stand in the log. -/
def linesOf (text : String) : List String :=
  (text.splitOn "\n").map fun line =>
    let chars := line.toList
    if chars.getLast? = some '\x0d' then String.ofList chars.dropLast else line

/-- What a terminal shows of a log line. Where a value goes on after a line end, the rest is no log
line. -/
def shown (line : LogLine) : String :=
  String.ofList (withoutColours [] ((linesOf line.render).headD "").toList)

end LogLine

/-- How starting ends. -/
inductive Startup
  | configRejected (fault : Config.Fault)
  /-- The address that traces should go to is none. -/
  | exporterRejected (tracing : TracingConfig)
  | serviceRejected (config : GatewayConfig) (error : SeedError)
  | ready (config : GatewayConfig) (service : Service)

namespace Startup

/-- Starts from the configuration that was read, with uuids for what has none. -/
def ofConfig (uuids : Nat → String) : Config.Decoded GatewayConfig → Startup
  | .error fault => .configRejected fault
  | .ok config =>
    match config.tracing.filter fun tracing => (Target.parse? tracing.endpoint).isNone with
    | some tracing => .exporterRejected tracing
    | none =>
      match config.endpoint with
      | .inMemory seed =>
        match Service.ofSeed uuids seed with
        | .ok service => .ready config service
        | .error error => .serviceRejected config error

/-- The tracing settings that starting has come to. -/
def tracing? : Startup → Option TracingConfig
  | configRejected _ => none
  | exporterRejected tracing => some tracing
  | serviceRejected config _ => config.tracing
  | ready config _ => config.tracing

/-- The directives in force: those of the environment, or the default ones. -/
def directives (startup : Startup) (fromEnvironment : Option String) : String :=
  fromEnvironment.getD
    (LogFilter.defaultDirectives ((startup.tracing?.map (·.filters)).getD []))

/-- The exit status of the process. -/
def exitStatus : Startup → Nat
  | configRejected _ => 1
  | exporterRejected _ => 101
  | serviceRejected _ _ => 0
  | ready _ _ => 0

/-- The line about a part of the directives that is passed over. -/
def passedOver (part : String) (fault : DirectiveFault) : String :=
  "ignoring \x60" ++ part ++ "\x60: " ++ fault.message

/-- The lines for the operator, before any log line and up to the first empty one. -/
def notices (startup : Startup) (fromEnvironment : Option String) : List String :=
  match startup with
  | configRejected _ => ["Error loading config"]
  | _ =>
    let rejected := (Filter.rejected (startup.directives fromEnvironment)).map
      fun (part, fault) => passedOver part fault
    let texts := (if startup.tracing?.isSome then ["enabling tracing export"] else []) ++ rejected
    (texts.flatMap LogLine.linesOf).takeWhile (· ≠ "")

/-- The line that says that logging has begun. -/
def tracingReady : LogLine :=
  ⟨"ras_tracing::init_tracer", ⟨.info, "Global tracing subscriber set", []⟩⟩

/-- The line that says why there is no service. -/
def serviceFailure (error : SeedError) : LogLine :=
  ⟨"ras_gateway",
    ⟨.error, "Failed to create gateway server",
      [("error", error.message), ("code", error.code.name)]⟩⟩

/-- The line that says that there is a service. -/
def serviceReady (service : Service) : LogLine :=
  ⟨"ras_gateway::in_memory", service.readyEvent⟩

/-- Everything that is logged before the filter. -/
def lines : Startup → List LogLine
  | configRejected _ => []
  | exporterRejected _ => []
  | serviceRejected _ error => [tracingReady, serviceFailure error]
  | ready _ service => [tracingReady, serviceReady service]

/-- The log lines that pass the filter. -/
def logged (startup : Startup) (fromEnvironment : Option String) : List LogLine :=
  let filter := Filter.parse (startup.directives fromEnvironment)
  startup.lines.filter fun line => filter.passes line.target line.event

end Startup

end InfobaseGateway
