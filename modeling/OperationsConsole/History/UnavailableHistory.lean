/-
This file decides for which answers of VictoriaMetrics a route of the history or of the run progress
answers. For the other answers some exception escapes, and the route does not tell 503.
-/

import OperationsConsole.History.RunProgressShape

namespace OperationsConsole.History

open Library
open Progress (RunPipeline)

/-- A route has its range, or the run that it is asked for. -/
inductive Route where
  | queueHistory (range : RangeSpec)
  | healthHistory (range : RangeSpec)
  | runProgress (pipelines : List RunPipeline) (request : RunRequest) (now : ℚ)

inductive RouteAnswer where
  | queueHistory (answer : HistoryAnswer QueueHistory)
  | healthHistory (answer : HistoryAnswer HealthHistory)
  | runProgress (answer : RunAnswer)

def Route.serve (python : Python) (gathered : Except Failure (List (List Json))) :
    Route → Except Raised RouteAnswer
  | queueHistory range => .queueHistory <$> History.queueHistory python range gathered
  | healthHistory range => .healthHistory <$> History.healthHistory python range gathered
  | runProgress pipelines request now =>
      .runProgress <$> History.runProgress python pipelines request now gathered

/-- No exception escapes from a read of an answer but that the history is unavailable, and the route
answers with a shaped body or with 503, whichever query fails first. -/
structure NeverCrashes (python : Python) (route : Route) (answers : List (Except RequestFailure Answer)) :
    Prop where
  fetched : ∀ answer ∈ answers, Quiet (fetch answer)
  answered : ∀ gathered, Gathered (answers.map fetch) gathered →
    Returns (route.serve python gathered)

section Requests

variable (python : Python)

/-- The route asks VictoriaMetrics for the run of a known pipeline that started before it ends and
has at most 90 days. -/
structure Accepted (pipelines : List RunPipeline) (request : RunRequest) (now : ℚ)
    (pipeline : RunPipeline) : Prop where
  known : pipelines.find? (fun pipeline => pipeline.id = request.pipelineId) = some pipeline
  ordered : request.start < request.ending now
  bounded : request.ending now - request.start ≤ maxRun

/-- The results of the queries have the shapes that a route reads. -/
def Route.Shaped (values : List (List Json)) : Route → Prop
  | queueHistory _ => ∀ entry ∈ allSeries (queueFields.zip values),
      QueueShaped python entry.2 ∧ NameEncodable entry.2
  | healthHistory _ => HealthShaped python values
  | runProgress pipelines request now => ∀ pipeline, Accepted pipelines request now pipeline →
      RunShaped python (python.nearest request.start) (python.nearest (request.ending now)) pipeline
        (runFields.zip values)

theorem returns_runProgress_iff (pipelines : List RunPipeline) (request : RunRequest) (now : ℚ)
    (values : List (List Json)) :
    Returns (runProgress python pipelines request now (.ok values)) ↔
      ∀ pipeline, Accepted pipelines request now pipeline →
        RunShaped python (python.nearest request.start) (python.nearest (request.ending now))
          pipeline (runFields.zip values) := by
  unfold runProgress
  cases known : pipelines.find? fun pipeline => pipeline.id = request.pipelineId with
  | none =>
      refine iff_of_true (Returns.ok _) ?_
      intro pipeline accepted
      rw [accepted.known] at known
      cases known
  | some pipeline =>
      dsimp only
      split
      · rename_i late
        refine iff_of_true (Returns.ok _) ?_
        intro other accepted
        exact absurd accepted.ordered (not_lt.mpr late)
      · rename_i ordered
        split
        · rename_i long
          refine iff_of_true (Returns.ok _) ?_
          intro other accepted
          exact absurd accepted.bounded (not_le.mpr long)
        · rename_i bounded
          rw [Returns.bind_iff]
          have shaped := returns_shapeProgress_iff python (python.nearest request.start)
            (python.nearest (request.ending now)) pipeline (runFields.zip values)
          constructor
          · rintro ⟨body, done, _⟩ other accepted
            rw [← Option.some.inj (known.symm.trans accepted.known)]
            exact shaped.mp ⟨body, done⟩
          · intro all
            obtain ⟨body, done⟩ := shaped.mpr
              (all pipeline ⟨known, not_le.mp ordered, not_lt.mp bounded⟩)
            exact ⟨body, done, Returns.pure _⟩

/-- A route answers exactly if the results of its queries have its shapes. -/
theorem returns_serve_iff (route : Route) (values : List (List Json)) :
    Returns (route.serve python (.ok values)) ↔ route.Shaped python values := by
  cases route with
  | queueHistory range =>
      exact (Returns.map_iff _ _).trans (returns_queueHistory_iff python range values)
  | healthHistory range =>
      exact (Returns.map_iff _ _).trans (returns_healthHistory_iff python range values)
  | runProgress pipelines request now =>
      exact (Returns.map_iff _ _).trans
        (returns_runProgress_iff python pipelines request now values)

/-- A route answers when the history is unavailable. -/
theorem returns_serve_unavailable (route : Route) (reason : String) :
    Returns (route.serve python (.error (.historyUnavailable reason))) := by
  cases route with
  | queueHistory range => exact Returns.ok _
  | healthHistory range => exact Returns.ok _
  | runProgress pipelines request now =>
      refine (Returns.map_iff _ _).mpr ?_
      unfold runProgress
      split
      · exact Returns.ok _
      · dsimp only
        split
        · exact Returns.ok _
        · split
          · exact Returns.ok _
          · exact Returns.ok _

end Requests

/-- An answer tells the rows of its result. -/
structure TellsRows (answer : Except RequestFailure Answer) (rows : List Json) : Prop where
  body : ∃ status body, answer = .ok ⟨status, .read body⟩ ∧ 200 ≤ status ∧ status < 300 ∧
    body.isDict = true ∧ (body.field "status" .null).isTextOf "success" = true ∧
      (body.field "data" (.dict [])).isDict = true ∧
        ((body.field "data" (.dict [])).field "result" (.list [])).iterate = .ok rows

theorem rowsOf_eq_ok_iff (body : Json) (rows : List Json) :
    rowsOf body = .ok rows ↔ body.isDict = true ∧ (body.field "data" (.dict [])).isDict = true ∧
      ((body.field "data" (.dict [])).field "result" (.list [])).iterate = .ok rows := by
  unfold rowsOf
  constructor
  · intro done
    obtain ⟨data, one, done⟩ := (bind_eq_ok_iff _ _ _).mp done
    obtain ⟨result, two, done⟩ := (bind_eq_ok_iff _ _ _).mp done
    obtain ⟨fields, rfl⟩ := (Json.get_eq_ok_iff _ _ _ _).mp one
    obtain ⟨held, rfl⟩ := (Json.get_eq_ok_iff _ _ _ _).mp two
    exact ⟨fields, held, done⟩
  · rintro ⟨fields, held, done⟩
    exact (bind_eq_ok_iff _ _ _).mpr ⟨_, (Json.get_eq_ok_iff _ _ _ _).mpr ⟨fields, rfl⟩,
      (bind_eq_ok_iff _ _ _).mpr ⟨_, (Json.get_eq_ok_iff _ _ _ _).mpr ⟨held, rfl⟩, done⟩⟩

/-- A read gives the rows that the answer tells. -/
theorem fetch_eq_ok_iff (answer : Except RequestFailure Answer) (rows : List Json) :
    fetch answer = .ok rows ↔ TellsRows answer rows := by
  constructor
  · intro done
    unfold fetch at done
    split at done
    · cases done
    · split at done <;> cases done
    · rename_i found
      split at done
      · cases done
      · rename_i success
        obtain ⟨low, high⟩ := not_not.mp success
        obtain ⟨status, body⟩ := found
        split at done
        · cases done
        · cases done
        · rename_i body same
          dsimp only at same
          split at done
          · rename_i told
            obtain ⟨fields, reported⟩ := Bool.and_eq_true_iff.mp told
            split at done
            · rename_i read
              rw [Except.ok.inj done] at read
              obtain ⟨_, held, iterated⟩ := (rowsOf_eq_ok_iff body rows).mp read
              exact ⟨status, body, by rw [same], low, high, fields, reported, held, iterated⟩
            · cases done
          · cases done
  · rintro ⟨status, body, rfl, low, high, fields, reported, held, iterated⟩
    unfold fetch
    dsimp only
    rw [if_neg (not_not.mpr ⟨low, high⟩), if_pos (Bool.and_eq_true_iff.mpr ⟨fields, reported⟩),
      (rowsOf_eq_ok_iff body rows).mpr ⟨fields, held, iterated⟩]

/-- The answers of the queries can be read, and what they tell has the shapes of the route. -/
structure Readable (python : Python) (route : Route) (answers : List (Except RequestFailure Answer)) :
    Prop where
  fetched : ∀ answer ∈ answers, WellFetched answer
  shaped : ∀ values, List.Forall₂ TellsRows answers values → route.Shaped python values

theorem map_fetch_eq_iff (answers : List (Except RequestFailure Answer)) (values : List (List Json)) :
    answers.map fetch = values.map .ok ↔ List.Forall₂ TellsRows answers values := by
  rw [← List.forall₂_eq_eq_eq, List.forall₂_map_left_iff, List.forall₂_map_right_iff]
  constructor
  · exact List.Forall₂.imp fun answer rows same => (fetch_eq_ok_iff answer rows).mp same
  · exact List.Forall₂.imp fun answer rows told => (fetch_eq_ok_iff answer rows).mpr told

/-- A malformed answer is no crash exactly if it can be read and has the shapes of the route. -/
theorem neverCrashes_iff (python : Python) (route : Route) (answers : List (Except RequestFailure Answer)) :
    NeverCrashes python route answers ↔ Readable python route answers := by
  constructor
  · rintro ⟨fetched, answered⟩
    refine ⟨?_, ?_⟩
    · intro answer member
      exact (quiet_fetch_iff answer).mp (fetched answer member)
    · intro values told
      exact (returns_serve_iff python route values).mp
        (answered (.ok values) (.all values ((map_fetch_eq_iff answers values).mpr told)))
  · rintro ⟨wellFetched, shaped⟩
    have quiet (answer : Except RequestFailure Answer) (member : answer ∈ answers) :=
      (quiet_fetch_iff answer).mpr (wellFetched answer member)
    refine ⟨quiet, ?_⟩
    intro gathered ends
    cases ends with
    | all values same =>
        exact (returns_serve_iff python route values).mpr
          (shaped values ((map_fetch_eq_iff answers values).mp same))
    | first failure member =>
        obtain ⟨answer, inside, same⟩ := List.mem_map.mp member
        have held := quiet answer inside
        rw [same] at held
        cases failure with
        | historyUnavailable reason => exact returns_serve_unavailable python route reason
        | raised exception => exact absurd held id

section Crash

/-- This arithmetic is exact. -/
def exactPython : Python where
  float := fun _ => none
  nearest := .finite
  sum := fun values => .finite values.sum
  isoformat := fun _ => ""
  undated := fun _ => .valueError
  arrange := id
  arrangeValues := id
  arrange_perm := fun _ => .rfl
  arrangeValues_perm := fun _ => .rfl

/-- A body reports success and has no data. -/
def emptySuccess : Json := .dict
  [(literal "status", .text (literal "success")), (literal "data", .null)]

/-- A success without data is a crash of the queue history. -/
theorem neverCrashes_fails : ¬∀ (route : Route) (answers : List (Except RequestFailure Answer)),
    NeverCrashes exactPython route answers := by
  intro never
  have crashed := never (.queueHistory ⟨"24h", 86400, "5m", "5m"⟩)
    (List.replicate 6 (.ok ⟨200, .read emptySuccess⟩))
  exact Returns.error _ (crashed.answered (.error (.raised .attributeError))
    (.first _ (List.mem_map.mpr ⟨.ok ⟨200, .read emptySuccess⟩, by simp, rfl⟩)))

end Crash

end OperationsConsole.History
