/-
This file embeds how the console serves the firing alerts of Grafana, which is `grafana_alerts.py`.
The body of the answer is any JSON value, and the settings are the texts of the environment.
-/

import Mathlib.Data.List.DropRight
import OperationsConsole.Alerts.Origin

namespace OperationsConsole.Alerts

open Library
open Redaction (Unicode)

/-- The language writes a number with a fraction, a list or a dictionary unless it is nested too
deeply, and its parser accepts some texts as times. -/
structure Python where
  unicode : Unicode
  isSpace : Char → Bool
  repr : Json → Option PyText
  fromIsoformat : PyText → Bool
  repr_filled : ∀ value written, repr value = some written → written ≠ []

namespace Python

variable (python : Python)

def writtenOut (value : Json) : Except Raised PyText :=
  match python.repr value with
  | some written => .ok written
  | none => .error .recursionError

/-- This is `str`. -/
def str : Json → Except Raised PyText
  | .text value => .ok value
  | .null => .ok (literal "None")
  | .bool value => .ok (literal (if value then "True" else "False"))
  | .int value => .ok (literal (toString value))
  | value => python.writtenOut value

/-- A lone surrogate keeps its place in the lower case of a text. -/
def lowerIs (value : PyText) (expected : String) : Bool :=
  encodable value && python.unicode.lower (value.map shown) == expected.toList

def strip (value : PyText) : PyText :=
  let isSpace (symbol : Symbol) := symbol.isScalar && python.isSpace (shown symbol)
  (value.dropWhile isSpace).rdropWhile isSpace

end Python

def alertLimit : Nat := 50

def severityCritical : String := "critical"

def unavailableNote : String :=
  "Grafana alerts unavailable: showing the problems derived from the live feed only"

/-- Grafana does not answer usefully, or an exception of another class escapes. -/
inductive Failure where
  | grafanaUnavailable (reason : String)
  | raised (exception : Raised)
  deriving DecidableEq

structure Alert where
  name : PyText
  severity : String
  summary : PyText
  url : PyText
  since : Option PyText
  deriving DecidableEq

structure Answer where
  status : Nat
  body : JsonBody

structure AlertsRequest where
  url : PyText
  params : List (String × String)
  authorization : PyText

structure AlertsResponse where
  status : Nat := 200
  configured : Bool
  available : Bool
  alerts : List Alert
  note : Option String

/-- The environment and the token file are read for every request. A file that cannot be read has a
reason, and a missing or empty file has no token. -/
structure Settings where
  grafanaApiUrl : PyText
  grafanaUrl : PyText
  token : Except String (Option PyText)

section Shaping

variable (python : Python) (publicBase : PyText)

def replaceZ (value : PyText) : PyText :=
  value.flatMap fun symbol => if symbol = .scalar 'Z' then literal "+00:00" else [symbol]

def parsesAsTime : Json → Bool
  | .text value => python.fromIsoformat (replaceZ value)
  | _ => false

/-- Only a link into the configured Grafana is offered. -/
def offeredUrl (link : Json) : Except Raised PyText :=
  match link with
  | .text link => do
      let same ← sameOrigin python.unicode link publicBase
      return if same then link else listPage publicBase
  | _ => return listPage publicBase

def sinceOf (startsAt : Json) : Option PyText :=
  match startsAt with
  | .text value => if parsesAsTime python startsAt then some value else none
  | _ => none

/-- One item of the answer is shaped, or it raises an exception. -/
def shapeAlert (item : Json) : Except Raised Alert := do
  let labels := (← item.get "labels" .null).orElse (.dict [])
  let annotations := (← item.get "annotations" .null).orElse (.dict [])
  let link ← item.get "generatorURL" .null
  let name ← python.str ((← labels.get "alertname" .null).orElse (.text (literal "Grafana alert")))
  let severity ← python.str (← labels.get "severity" (.text []))
  let summary ← python.str ((← annotations.get "summary" .null).orElse (.text []))
  let url ← offeredUrl python publicBase link
  let startsAt ← item.get "startsAt" .null
  return {
    name := name
    severity := if python.lowerIs severity severityCritical then "crit" else "warn"
    summary := summary.take 200
    url := url
    since := sinceOf python startsAt }

/-- Every dictionary of the list is shaped before the list is cut. -/
def shapeAlerts (payload : Json) : Except Failure (List Alert) :=
  match payload with
  | .list items =>
      match (items.filter Json.isDict).mapM (shapeAlert python publicBase) with
      | .ok alerts => .ok (alerts.take alertLimit)
      | .error exception => .error (.raised exception)
  | _ => .error (.grafanaUnavailable "unexpected response shape")

end Shaping

section Serving

variable (python : Python) (grafana : AlertsRequest → Except RequestFailure Answer)

def alertsRequest (base token : PyText) : AlertsRequest where
  url := base ++ literal "/api/alertmanager/grafana/api/v2/alerts"
  params := [("active", "true"), ("silenced", "false"), ("inhibited", "false")]
  authorization := literal "Bearer " ++ token

/-- Only an error of the transport is caught, as the name of its class. -/
def fetchAlerts (base token publicBase : PyText) : Except Failure (List Alert) :=
  match grafana (alertsRequest base token) with
  | .error (.httpError name) => .error (.grafanaUnavailable name)
  | .error (.raised exception) => .error (.raised exception)
  | .ok answer =>
      if answer.status ≠ 200 then .error (.grafanaUnavailable s!"HTTP {answer.status}")
      else match answer.body.json with
        | .ok payload => shapeAlerts python publicBase payload
        | .error .valueError => .error (.grafanaUnavailable "response was not JSON")
        | .error exception => .error (.raised exception)

def envUrl (setting : PyText) : Option PyText :=
  let url := (python.strip setting).rdropWhile (· == slash)
  if url = [] then none else some url

def grafanaApiUrl (settings : Settings) : Option PyText :=
  envUrl python settings.grafanaApiUrl <|> envUrl python settings.grafanaUrl

def grafanaPublicUrl (settings : Settings) : Option PyText := envUrl python settings.grafanaUrl

def Alert.texts (alert : Alert) : List PyText :=
  [alert.name, alert.summary, alert.url] ++ alert.since.toList

/-- A response is encoded when it is made. -/
def jsonResponse (response : AlertsResponse) : Except Raised AlertsResponse :=
  if response.alerts.all fun alert => alert.texts.all encodable then .ok response
  else .error .unicodeEncodeError

def unconfigured : AlertsResponse where
  configured := false
  available := false
  alerts := []
  note := none

def unavailable : AlertsResponse where
  configured := true
  available := false
  alerts := []
  note := some unavailableNote

def alertsFound (alerts : List Alert) : AlertsResponse where
  configured := true
  available := true
  alerts := alerts
  note := none

def firingAlerts (settings : Settings) : Except Raised AlertsResponse :=
  match grafanaApiUrl python settings with
  | none => jsonResponse unconfigured
  | some base =>
      match settings.token with
      | .error _ => jsonResponse unavailable
      | .ok none => jsonResponse unconfigured
      | .ok (some token) =>
          match fetchAlerts python grafana base token
              ((grafanaPublicUrl python settings).getD base) with
          | .ok alerts => jsonResponse (alertsFound alerts)
          | .error (.grafanaUnavailable _) => jsonResponse unavailable
          | .error (.raised exception) => .error exception

end Serving

end OperationsConsole.Alerts
