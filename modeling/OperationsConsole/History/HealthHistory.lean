/-
This file embeds the health history of `history.py`: the service cards, the response times and the
table of endpoints. A response with a number out of range cannot be encoded.
-/

import OperationsConsole.History.QueueHistory

namespace OperationsConsole.History

open Library

def percentiles : List String := ["p50", "p95", "p99"]

/-- The queries of the services and of the endpoints have these names. -/
def healthFields : List String := ["availability", "response_time_ms"] ++ percentiles

def endpointFields : List String := ["request_count", "error_count"] ++ percentiles

structure ServiceCard where
  serviceName : Json
  status : String
  uptimePct : Option Double
  responseTimeMs : Option Double

structure Endpoint where
  serviceName : Json
  endpoint : Json
  requestCount : ℤ
  p50 : Option ℚ
  p95 : Option ℚ
  p99 : Option ℚ
  errorPct : Double

structure HealthHistory where
  range : String
  step : String
  services : List ServiceCard
  responseTimeSeries : List DataPoint
  endpoints : List Endpoint

/-- The rows of a query. -/
def rowsNamed (results : List (String × List Json)) (name : String) : List Json :=
  (results.lookup name).getD []

section Services

variable (python : Python)

/-- This is `_mean`. -/
def mean (values : List (Option ℚ)) : Except Raised (Option Double) :=
  let present := values.filterMap id
  if present.isEmpty then .ok none
  else (python.sum present).div python.nearest (.finite present.length) |>.map some

/-- This is `_status`. -/
def status (availability : Option ℚ) : String :=
  match availability with
  | none => "unknown"
  | some value =>
      if (python.nearest (99 / 100)).le (.finite value) then "healthy"
      else if 0 < value then "degraded" else "unhealthy"

def serviceSamples (points : Points) (field : String) : List (Option ℚ) :=
  (timesOf python points).map fun instant => (((points.get? instant).getD .empty).get? field).join

def shapeService (merged : Merged) (target : Label) : Except Raised ServiceCard := do
  let held := (merged.get? target).getD (.null, .empty)
  let availability := serviceSamples python held.2 "availability"
  let latest := availability.reverse.findSome? id
  let uptime ← mean python availability
  let responseTime ← mean python (serviceSamples python held.2 "response_time_ms")
  return ⟨held.1, status python latest, uptime.map fun uptime =>
    uptime.mul python.nearest (.finite 100), responseTime⟩

/-- The services are shaped from two of the queries. -/
def serviceResults (results : List (String × List Json)) : List (String × List Json) :=
  ["availability", "response_time_ms"].map fun name => (name, rowsNamed results name)

def shapeServices (results : List (String × List Json)) : Except Raised (List ServiceCard) := do
  let merged ← merge python "target" (serviceResults results)
  let targets ← sortLabels (merged.items.map Prod.fst)
  targets.mapM (shapeService python merged)

end Services

section Responses

variable (python : Python)

def addResponse (points : Points) (series : (String × Json) × ℕ) : Except Raised Points := do
  let samples ← samplesOf python series.2 series.1
  return samples.foldl addSample points

def percentileSeries (results : List (String × List Json)) : List (String × Json) :=
  percentiles.flatMap fun name => (rowsNamed results name).map fun series => (name, series)

def shapeResponseSeries (results : List (String × List Json)) :
    Except Raised (List DataPoint) := do
  let points ← (percentileSeries results).zipIdx.foldlM (addResponse python) .empty
  (timesOf python points).mapM (dataPoint python percentiles points)

end Responses

section Endpoints

variable (python : Python)

abbrev EndpointRows := Dict (Label × Label) ((Json × Json) × Dict String (Option ℚ))

/-- The sample of an instant query is the second item of its value. -/
def instantValue (series : Json) : Except Raised (Option ℚ) := do
  let value ← series.get "value" (.list [.int 0, .null])
  python.number (← value.item 1)

def addEndpoint (rows : EndpointRows) (entry : String × Json) : Except Raised EndpointRows := do
  let metric ← entry.2.get "metric" (.dict [])
  let service ← metric.get "service_name" (.text [])
  let route ← metric.get "http_route" (.text [])
  let value ← instantValue python entry.2
  let serviceHash ← service.hash
  let routeHash ← route.hash
  let held := (rows.get? (serviceHash, routeHash)).getD ((service, route), .empty)
  return rows.set (serviceHash, routeHash) (held.1, held.2.set entry.1 value)

/-- A row without requests is dropped. -/
def shapeEndpoint (row : (Label × Label) × ((Json × Json) × Dict String (Option ℚ))) :
    Except Raised (Option Endpoint) :=
  let fields := row.2.2
  let field (name : String) := (fields.get? name).join
  match field "request_count" with
  | none => .ok none
  | some count =>
      if count = 0 then .ok none
      else do
        let errors := (field "error_count").getD 0
        let requestCount ← roundDouble (.finite count)
        let errorPct ← (Double.mul python.nearest (.finite 100) (.finite errors)).div
          python.nearest (.finite count)
        return some ⟨row.2.1.1, row.2.1.2, requestCount, field "p50", field "p95", field "p99",
          errorPct⟩

/-- The busiest endpoint comes first. -/
def shapeEndpoints (results : List (String × List Json)) : Except Raised (List Endpoint) := do
  let rows ← (allSeries results).foldlM (addEndpoint python) .empty
  let endpoints ← rows.items.mapM (shapeEndpoint python)
  return (endpoints.filterMap id).insertionSort fun first second =>
    second.requestCount ≤ first.requestCount

end Endpoints

/-- A number out of range is not encoded, nor is a lone surrogate. A label is no list and no
dictionary. -/
def encodeLabel : Json → Except Raised Unit
  | .float value => if value.isFinite then .ok () else .error .valueError
  | .text value => if encodable value then .ok () else .error .unicodeEncodeError
  | _ => .ok ()

def encodeDouble (value : Double) : Except Raised Unit :=
  if value.isFinite then .ok () else .error .valueError

def encodeService (card : ServiceCard) : Except Raised Unit := do
  encodeLabel card.serviceName
  (card.uptimePct.toList ++ card.responseTimeMs.toList).forM encodeDouble

def encodeEndpoint (endpoint : Endpoint) : Except Raised Unit := do
  encodeLabel endpoint.serviceName
  encodeLabel endpoint.endpoint
  encodeDouble endpoint.errorPct

def healthResponse (body : HealthHistory) : Except Raised (HistoryAnswer HealthHistory) := do
  body.services.forM encodeService
  body.endpoints.forM encodeEndpoint
  return .shaped body

/-- The two groups of queries are gathered together. -/
def healthHistory (python : Python) (range : RangeSpec)
    (gathered : Except Failure (List (List Json))) :
    Except Raised (HistoryAnswer HealthHistory) :=
  match gathered with
  | .error (.historyUnavailable reason) => .ok (.unavailable reason)
  | .error (.raised exception) => .error exception
  | .ok values => do
      let results := healthFields.zip values
      let endpointResults := endpointFields.zip (values.drop healthFields.length)
      let services ← shapeServices python results
      let series ← shapeResponseSeries python results
      let endpoints ← shapeEndpoints python endpointResults
      healthResponse ⟨range.name, range.step, services, series, endpoints⟩

end OperationsConsole.History
