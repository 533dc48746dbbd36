/-
This file embeds the probes of `dashboard/platform_health.py` and the checks that they make.
A probe is set by its mode and by a URL that may hold credentials.
-/

import OperationsConsole.Redaction.Scrub
import OperationsConsole.Targets.SharedTarget

namespace OperationsConsole.Platform

open Library Targets
open Redaction (Interpreter Text ServiceReading Unicode ValueError SplitResult decodeFrom isHexDigit
  isSpace reading)

inductive Kind where
  | http
  | valkeyPing
  | valkeyExporter
  deriving DecidableEq

structure Probe extends Redaction.Probe where
  kind : Kind
  skipped : Option String
  note : Option Text

/-- `repr` quotes a text. -/
structure Runtime extends Interpreter where
  repr : Text → Text

/-- A variable is set to a text, or it is not set. -/
abbrev Environment := String → Option Text

/-- A variable that is not set is read as the empty text, and blanks around a value are dropped. -/
def getenv (environment : Environment) (name : String) : Text :=
  strip ((environment name).getD [])

/-- The arguments of `_probe`. -/
structure ProbeSettings where
  name : String
  group : String
  urlEnv : String
  default : Text
  path : Text
  kind : Kind
  sharedFallback : String

section Settings

/-- These are the characters of a host between its first and its last one. -/
def isHostChar (symbol : Char) : Bool :=
  symbol.isAlphanum || symbol == '.' || symbol == '_' || symbol == '-'

def isHostName (host : Text) : Bool :=
  host.head?.any Char.isAlphanum && host.getLast?.any Char.isAlphanum && host.all isHostChar

def isBracketed (host : Text) : Bool :=
  let inner := host.tail.dropLast
  decide (host = '[' :: inner ++ [']']) && decide (inner ≠ []) &&
    inner.all fun symbol => isHexDigit symbol || symbol == ':' || symbol == '.'

/-- The port of a full match of `_HOST_PORT` follows its last colon. -/
def isHostPort (given : Text) : Bool :=
  let host := beforeLast (· == ':') given
  let port := afterLast (· == ':') given
  given.contains ':' && (isHostName host || isBracketed host) &&
    decide (port ≠ []) && decide (port.length ≤ 5) && port.all Char.isDigit

def portOf (given : Text) : ℕ := SplitResult.readNumber (afterLast (· == ':') given)

def isAddress (given : Text) : Bool :=
  isHostPort given && decide (0 < portOf given) && decide (portOf given < 65536)

/-- The prefix of a service's variables. -/
def variableName (name : String) : String :=
  String.ofList ((name.toList.map Char.toUpper).map fun symbol =>
    if symbol = '-' then '_' else symbol)

def modeEnv (name : String) : String := variableName name ++ "_MODE"

/-- This is `_mode`. There is no mode for a value that is not a mode. -/
def modeOf (unicode : Unicode) (environment : Environment) (name : String) : Option String :=
  let given := unicode.lower (getenv environment (modeEnv name))
  let value := if given = [] then "local" else String.ofList given
  if value ∈ ["local", "shared", "disabled"] then some value else none

def unprobed (settings : ProbeSettings) (mode status : String) (note : Text) : Probe where
  name := settings.name
  group := settings.group
  target := []
  mode := mode
  kind := settings.kind
  skipped := some status
  note := some note

def probed (settings : ProbeSettings) (mode : String) (target : Text) : Probe where
  name := settings.name
  group := settings.group
  target := target
  mode := mode
  kind := settings.kind
  skipped := none
  note := none

/-- A shared service has no default. -/
def givenAddress (environment : Environment) (mode : String) (settings : ProbeSettings) : Text :=
  let given := getenv environment settings.urlEnv
  if given ≠ [] then given
  else if mode = "shared" then
    if settings.sharedFallback = "" then [] else getenv environment settings.sharedFallback
  else settings.default

/-- The fixed notes of a service that is not probed. -/
def disabledNote (settings : ProbeSettings) : Text :=
  ("disabled by " ++ modeEnv settings.name).toList

def noEndpointNote (settings : ProbeSettings) : Text :=
  ("shared, but no endpoint: set " ++ settings.urlEnv).toList

def badAddressNote (settings : ProbeSettings) : Text :=
  (settings.urlEnv ++ " is not a valid host:port").toList

def badUrlNote (settings : ProbeSettings) : Text :=
  (settings.urlEnv ++ " is not an unambiguous http(s) URL (percent-encode credentials)").toList

def badModeNote (runtime : Runtime) (environment : Environment) (settings : ProbeSettings) : Text :=
  (modeEnv settings.name ++ "=").toList ++
    runtime.repr (getenv environment (modeEnv settings.name)) ++
    " is not local, shared or disabled".toList

/-- The part of `_probe` that takes an address. -/
def probeAt (unicode : Unicode) (settings : ProbeSettings) (mode : String) (given : Text) :
    Except ValueError Probe :=
  if settings.kind = .valkeyPing then
    if isAddress given then return probed settings mode given
    else return unprobed settings mode "unconfigured" (badAddressNote settings)
  else do
    match ← probeTarget unicode given settings.path with
    | some target => return probed settings mode target
    | none => return unprobed settings mode "unconfigured" (badUrlNote settings)

/-- This is `_probe`. -/
def probe (runtime : Runtime) (environment : Environment) (settings : ProbeSettings) :
    Except ValueError Probe :=
  match modeOf runtime.toUnicode environment settings.name with
  | none =>
      return unprobed settings "local" "unconfigured" (badModeNote runtime environment settings)
  | some mode =>
      let given := givenAddress environment mode settings
      if mode = "disabled" then
        return unprobed settings mode "disabled" (disabledNote settings)
      else if mode = "shared" ∧ given = [] then
        return unprobed settings mode "unconfigured" (noEndpointNote settings)
      else probeAt runtime.toUnicode settings mode given

def applicationProbes : List ProbeSettings :=
  [⟨"catalog-api", "applications", "CATALOG_API_HEALTH_URL", "http://api:8005".toList,
      "/health".toList, .http, ""⟩,
    ⟨"explore", "applications", "EXPLORE_HEALTH_URL", "http://explore:8007".toList,
      "/health".toList, .http, ""⟩,
    ⟨"insights", "applications", "INSIGHTS_HEALTH_URL", "http://insights:8009".toList,
      "/health".toList, .http, ""⟩]

def dataProbes (rabbitmqPrometheusUrl : Text) : List ProbeSettings :=
  [⟨"valkey", "data", "VALKEY_HEALTH_ADDRESS", "valkey:6379".toList, [], .valkeyPing, ""⟩,
    ⟨"rabbitmq", "data", "RABBITMQ_PROMETHEUS_URL", rabbitmqPrometheusUrl,
      "/metrics/detailed?family=node_coarse_metrics".toList, .http, ""⟩]

def observabilityProbes : List ProbeSettings :=
  [⟨"victoria-metrics", "observability", "VICTORIA_METRICS_URL",
      "http://victoria-metrics:8428".toList, "/health".toList, .http, ""⟩,
    ⟨"victoria-traces", "observability", "VICTORIA_TRACES_URL",
      "http://victoria-traces:10428".toList, "/health".toList, .http, ""⟩,
    ⟨"otel-collector", "observability", "OTEL_COLLECTOR_HEALTH_URL",
      "http://otel-collector:13133".toList, [], .http, ""⟩,
    ⟨"grafana", "observability", "GRAFANA_API_URL", "http://grafana:3000".toList,
      "/api/health".toList, .http, "GRAFANA_URL"⟩,
    ⟨"postgres-exporter", "observability", "POSTGRES_EXPORTER_URL",
      "http://postgres-exporter:9187".toList, "/".toList, .http, ""⟩,
    ⟨"valkey-exporter", "observability", "VALKEY_EXPORTER_URL",
      "http://valkey-exporter:9121".toList, "/metrics".toList, .valkeyExporter, ""⟩,
    ⟨"cadvisor", "observability", "CADVISOR_URL", "http://cadvisor:8080".toList,
      "/healthz".toList, .http, ""⟩,
    ⟨"node-exporter", "observability", "NODE_EXPORTER_URL", "http://node-exporter:9100".toList,
      "/".toList, .http, ""⟩]

def allSettings (rabbitmqPrometheusUrl : Text) : List ProbeSettings :=
  applicationProbes ++ dataProbes rabbitmqPrometheusUrl ++ observabilityProbes

/-- The part of `DashboardConfig.from_env` that reads this URL. -/
def configRabbitmqPrometheusUrl (environment : Environment) : Text :=
  rabbitmqPrometheusUrl
    ((environment "RABBITMQ_PROMETHEUS_URL").getD "http://rabbitmq:15692".toList)

/-- The probes are built in the order in which they are shown. -/
def buildProbes (runtime : Runtime) (environment : Environment) (rabbitmqPrometheusUrl : Text) :
    Except ValueError (List Probe) :=
  (allSettings rabbitmqPrometheusUrl).mapM (probe runtime environment)

end Settings

section Checks

/-- A check is answered in time, or it is not, or it raises an exception, whose class has a name. -/
inductive Attempt (α : Type) where
  | answered (value : α)
  | timedOut
  | raised (message exception : Text) (named : exception ≠ [])

structure Response where
  statusCode : ℕ
  text : Text

/-- The services answer for themselves, and a reading is taken at an instant of its own. -/
structure World where
  get : Text → Attempt Response
  ping : Text → ℕ → Attempt (List UInt8)
  clock : String → Seconds

variable (runtime : Runtime)

/-- The texts that begin after each newline, and the text itself. -/
def lineStarts : Text → List Text
  | [] => [[]]
  | symbol :: rest =>
      if symbol = '\n' then (symbol :: rest) :: lineStarts rest
      else (symbol :: rest) :: (lineStarts rest).tail

/-- `_REDIS_UP` matches at the start of a line. The whitespace after the value holds the end of its
line. -/
def redisUpAt (text : Text) : Option Text :=
  let name := "redis_up".toList
  let rest := text.drop name.length
  let value := before isSpace (fromFirst (fun symbol => !isSpace symbol) rest)
  let tail := fromFirst isSpace (fromFirst (fun symbol => !isSpace symbol) rest)
  let space := before (fun symbol => !isSpace symbol) tail
  if name <+: text ∧ rest.head?.any isSpace ∧ value ≠ [] ∧ ('\n' ∈ space ∨ space = tail) then
    some value
  else none

def redisUp (text : Text) : Option Text := (lineStarts text).findSome? redisUpAt

def httpCheck (now : Seconds) (probe : Probe) (response : Response) : ServiceReading :=
  let read := reading runtime.toInterpreter now probe.toProbe
  if response.statusCode ≠ 200 then
    read "unhealthy" (some ("HTTP ".toList ++ Nat.toDigits 10 response.statusCode))
  else if probe.kind = .valkeyExporter then
    match redisUp response.text with
    | none => read "unhealthy" (some "redis_up not reported".toList)
    | some value =>
        if value ≠ ['1'] then
          read "unhealthy" (some "exporter cannot reach Valkey (redis_up 0)".toList)
        else read "healthy" none
  else read "healthy" none

def isByteSpace (byte : UInt8) : Bool := byte == 32 || (9 ≤ byte && byte ≤ 13)

def stripBytes (line : List UInt8) : List UInt8 :=
  (line.dropWhile isByteSpace).rdropWhile isByteSpace

def stripBrackets (host : Text) : Text :=
  let bracket := fun symbol => symbol == '[' || symbol == ']'
  (host.dropWhile bracket).rdropWhile bracket

def bytesOf (text : String) : List UInt8 := text.toList.map fun symbol => symbol.toNat.toUInt8

/-- The part of `_valkey_ping` after the reply. -/
def pingCheck (now : Seconds) (probe : Probe) (line : List UInt8) : ServiceReading :=
  let read := reading runtime.toInterpreter now probe.toProbe
  let reply := stripBytes line
  if reply = bytesOf "+PONG" then read "healthy" none
  else if bytesOf "-NOAUTH" <+: reply then read "healthy" none
  else
    let shown := decodeFrom 0 (reply.take 40)
    read "unhealthy" (some ("unexpected reply to PING: ".toList ++
      if shown = [] then "none".toList else shown))

/-- A check that is not answered reads unreachable. -/
def concluded {α : Type} (timeout : Text) (now : Seconds) (probe : Probe)
    (check : α → ServiceReading) : Attempt α → ServiceReading
  | .answered value => check value
  | .timedOut => reading runtime.toInterpreter now probe.toProbe "unreachable"
      (some ("no answer within ".toList ++ timeout ++ ['s']))
  | .raised message exception _ => reading runtime.toInterpreter now probe.toProbe "unreachable"
      (some (if message = [] then exception else message))

/-- A probe that is skipped is not run. The timeout is written as in its texts. -/
def checkProbe (timeout : Text) (world : World) (probe : Probe) : ServiceReading :=
  let now := world.clock probe.name
  match probe.skipped with
  | some status => reading runtime.toInterpreter now probe.toProbe status probe.note
  | none =>
      if probe.kind = .valkeyPing then
        concluded runtime timeout now probe (pingCheck runtime now probe)
          (world.ping (stripBrackets (beforeLast (· == ':') probe.target)) (portOf probe.target))
      else concluded runtime timeout now probe (httpCheck runtime now probe)
        (world.get probe.target)

/-- The readings keep the order of the probes. -/
def pollPlatform (timeout : Text) (world : World) (probes : List Probe) : List ServiceReading :=
  probes.map (checkProbe runtime timeout world)

/-- Nothing is polled when a probe cannot be built. -/
def getPlatformHealth (environment : Environment) (world : World) :
    Except ValueError (List ServiceReading) := do
  let probes ← buildProbes runtime environment (configRabbitmqPrometheusUrl environment)
  return pollPlatform runtime ['3'] world probes

end Checks

end OperationsConsole.Platform
