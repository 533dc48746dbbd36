/-
This file decides for which answers of Grafana the console serves its alerts or degrades.
The other answers let an exception escape, or an alert leads to another origin.
-/

import OperationsConsole.Alerts.GrafanaAlerts

namespace OperationsConsole.Alerts

open Library

def labelsOf (item : Json) : Json := (item.field "labels" .null).orElse (.dict [])

def annotationsOf (item : Json) : Json := (item.field "annotations" .null).orElse (.dict [])

def linkOf (item : Json) : Json := item.field "generatorURL" .null

def nameOf (item : Json) : Json :=
  ((labelsOf item).field "alertname" .null).orElse (.text (literal "Grafana alert"))

def severityOf (item : Json) : Json := (labelsOf item).field "severity" (.text [])

def summaryOf (item : Json) : Json := ((annotationsOf item).field "summary" .null).orElse (.text [])

section Conditions

variable (python : Python) (publicBase : PyText)

/-- The splitter accepts a URL. -/
def Splits (url : PyText) : Prop := Returns (urlsplit python.unicode url)

/-- A link is offered if it has the origin of the base. -/
def served (link : Json) : PyText :=
  match link with
  | .text link =>
      if origin python.unicode link = origin python.unicode publicBase then link
      else listPage publicBase
  | _ => listPage publicBase

/-- The labels and annotations of an item are empty or dictionaries, the texts that it shows can be
written, and its link can be compared with the base. -/
structure Readable (item : Json) : Prop where
  labels : (labelsOf item).isDict = true
  annotations : (annotationsOf item).isDict = true
  name : Returns (python.str (nameOf item))
  severity : Returns (python.str (severityOf item))
  summary : Returns (python.str (summaryOf item))
  link : ∀ link, linkOf item = .text link → Splits python link ∧ Splits python publicBase

/-- The texts that an item shows have no lone surrogate. -/
structure Servable (item : Json) : Prop where
  name : ∀ written, python.str (nameOf item) = .ok written → encodable written = true
  summary : ∀ written, python.str (summaryOf item) = .ok written →
    encodable (written.take 200) = true
  url : encodable (served python publicBase (linkOf item)) = true
  since : ∀ since, sinceOf python (item.field "startsAt" .null) = some since →
    encodable since = true

/-- A base that lists the alerts does not have one slash after its scheme. -/
def Anchored (item : Json) : Prop :=
  served python publicBase (linkOf item) = listPage publicBase →
    restOf python.unicode publicBase ≠ [slash]

/-- The dictionaries of a list are its alerts, and the first of them are served. -/
structure Shapeable (items : List Json) : Prop where
  readable : ∀ item ∈ items.filter Json.isDict, Readable python publicBase item
  anchored : ∀ item ∈ (items.filter Json.isDict).take alertLimit, Anchored python publicBase item

/-- A body can be read, and the alerts of a list can be shaped and served. -/
structure Wholesome (body : JsonBody) : Prop where
  shallow : body ≠ .tooDeep
  shapeable : ∀ items, body = .read (.list items) → Shapeable python publicBase items
  servable : ∀ items, body = .read (.list items) →
    ∀ item ∈ (items.filter Json.isDict).take alertLimit, Servable python publicBase item

end Conditions

section Shaped

variable (python : Python) (publicBase : PyText)

/-- A URL that splits has its origin as the parts. -/
theorem urlsplit_eq_ok (url : PyText) (parts : PyText × PyText)
    (split : urlsplit python.unicode url = .ok parts) : parts = origin python.unicode url := by
  unfold urlsplit at split
  split at split
  · exact (Except.ok.inj split).symm
  · cases split

/-- A link is served if it and the base are accepted. -/
theorem offeredUrl_eq_ok_iff (link : Json) (url : PyText) :
    offeredUrl python publicBase link = .ok url ↔
      (∀ value, link = .text value → Splits python value ∧ Splits python publicBase) ∧
        served python publicBase link = url := by
  cases link with
  | text value =>
      simp only [offeredUrl, sameOrigin, served, Json.text.injEq, forall_eq', bind_eq_ok_iff]
      constructor
      · rintro ⟨same, ⟨left, one, right, two, agree⟩, chosen⟩
        rw [← Except.ok.inj chosen, ← Except.ok.inj agree,
          urlsplit_eq_ok python value left one, urlsplit_eq_ok python publicBase right two]
        exact ⟨⟨⟨left, one⟩, ⟨right, two⟩⟩, by simp⟩
      · rintro ⟨⟨⟨left, one⟩, ⟨right, two⟩⟩, rfl⟩
        refine ⟨_, ⟨left, one, right, two, rfl⟩, ?_⟩
        rw [urlsplit_eq_ok python value left one, urlsplit_eq_ok python publicBase right two]
        simp only [decide_eq_true_eq]
        rfl
  | _ => simp [offeredUrl, served, pure, Except.pure]

/-- An item that is shaped has these parts. -/
theorem shapeAlert_eq_ok_iff (item : Json) (alert : Alert) :
    shapeAlert python publicBase item = .ok alert ↔
      item.isDict = true ∧ (labelsOf item).isDict = true ∧ (annotationsOf item).isDict = true ∧
        ∃ name severity summary url, python.str (nameOf item) = .ok name ∧
          python.str (severityOf item) = .ok severity ∧
          python.str (summaryOf item) = .ok summary ∧
          offeredUrl python publicBase (linkOf item) = .ok url ∧
          alert = ⟨name, if python.lowerIs severity severityCritical then "crit" else "warn",
            summary.take 200, url, sinceOf python (item.field "startsAt" .null)⟩ := by
  unfold shapeAlert
  simp only [bind_eq_ok_iff, Json.get_eq_ok_iff]
  constructor
  · rintro ⟨_, ⟨fields, rfl⟩, _, ⟨_, rfl⟩, _, ⟨_, rfl⟩, _, ⟨labels, rfl⟩, name, one, _, ⟨_, rfl⟩,
      severity, two, _, ⟨annotations, rfl⟩, summary, three, url, four, _, ⟨_, rfl⟩, same⟩
    exact ⟨fields, labels, annotations, name, severity, summary, url, one, two, three, four,
      (Except.ok.inj same).symm⟩
  · rintro ⟨fields, labels, annotations, name, severity, summary, url, one, two, three, four, rfl⟩
    exact ⟨_, ⟨fields, rfl⟩, _, ⟨fields, rfl⟩, _, ⟨fields, rfl⟩, _, ⟨labels, rfl⟩, name, one, _,
      ⟨labels, rfl⟩, severity, two, _, ⟨annotations, rfl⟩, summary, three, url, four, _,
      ⟨fields, rfl⟩, rfl⟩

/-- An alert is shaped exactly if its fields can be read. -/
theorem returns_shapeAlert_iff (item : Json) (fields : item.isDict = true) :
    Returns (shapeAlert python publicBase item) ↔ Readable python publicBase item := by
  constructor
  · rintro ⟨alert, shaped⟩
    obtain ⟨_, labels, annotations, name, severity, summary, url, one, two, three, four, _⟩ :=
      (shapeAlert_eq_ok_iff python publicBase item alert).mp shaped
    exact ⟨labels, annotations, ⟨name, one⟩, ⟨severity, two⟩, ⟨summary, three⟩,
      ((offeredUrl_eq_ok_iff python publicBase _ url).mp four).1⟩
  · rintro ⟨labels, annotations, ⟨name, one⟩, ⟨severity, two⟩, ⟨summary, three⟩, link⟩
    exact ⟨_, (shapeAlert_eq_ok_iff python publicBase item _).mpr ⟨fields, labels, annotations,
      name, severity, summary, _, one, two, three,
      (offeredUrl_eq_ok_iff python publicBase _ _).mpr ⟨link, rfl⟩, rfl⟩⟩

/-- What is written out is some text. -/
theorem writtenOut_filled (value : Json) (written : PyText)
    (done : python.writtenOut value = .ok written) : written ≠ [] := by
  unfold Python.writtenOut at done
  split at done
  · rename_i other same
    rw [← Except.ok.inj done]
    exact python.repr_filled value other same
  · cases done

theorem literal_int_filled (value : ℤ) : literal (toString value) ≠ [] := by
  unfold literal
  cases value with
  | ofNat number => simp [toString, Int.repr]
  | negSucc number => simp [toString, Int.repr]

/-- A value other than the empty text is not written as nothing. -/
theorem str_filled (value : Json) (filled : value ≠ .text []) (written : PyText)
    (done : python.str value = .ok written) : written ≠ [] := by
  cases value with
  | text value =>
      rw [← Except.ok.inj done]
      exact fun empty => filled (by rw [empty])
  | null =>
      rw [← Except.ok.inj done]
      decide
  | bool value =>
      rw [← Except.ok.inj done]
      cases value <;> decide
  | int value =>
      rw [← Except.ok.inj done]
      exact literal_int_filled value
  | float value => exact writtenOut_filled python _ written done
  | list items => exact writtenOut_filled python _ written done
  | dict items => exact writtenOut_filled python _ written done

/-- No alert has an empty name. -/
theorem nameOf_filled (item : Json) : nameOf item ≠ .text [] := by
  unfold nameOf
  intro same
  rcases Json.orElse_cases ((labelsOf item).field "alertname" .null)
      (.text (literal "Grafana alert")) with ⟨one, holds⟩ | two
  · rw [one.symm.trans same] at holds
    exact absurd holds (by decide)
  · rw [two, Json.text.injEq] at same
    exact absurd same (by decide)

end Shaped

section Law

variable (python : Python) (grafana : AlertsRequest → Except RequestFailure Answer)
variable (publicBase : PyText)

/-- A served alert has a name, one of two severities, a short summary and a link of the base. -/
structure Fit (alert : Alert) : Prop where
  named : alert.name ≠ []
  severe : alert.severity = "crit" ∨ alert.severity = "warn"
  short : alert.summary.length ≤ 200
  linked : origin python.unicode alert.url = origin python.unicode publicBase

/-- A read of the alerts brings at most 50 fit alerts, or it says that Grafana is unavailable. -/
def Degrades : Except Failure (List Alert) → Prop
  | .ok alerts => alerts.length ≤ 50 ∧ ∀ alert ∈ alerts, Fit python publicBase alert
  | .error (.grafanaUnavailable _) => True
  | .error (.raised _) => False

/-- The alerts are configured with a base, a token and a public base. -/
def configuration (settings : Settings) : Option (PyText × PyText × PyText) :=
  match grafanaApiUrl python settings, settings.token with
  | some base, .ok (some token) => some (base, token, (grafanaPublicUrl python settings).getD base)
  | _, _ => none

/-- The read degrades, and the route answers. -/
structure NeverFails (settings : Settings) : Prop where
  fetched : ∀ base token publicBase,
    configuration python settings = some (base, token, publicBase) →
    Degrades python publicBase (fetchAlerts python grafana base token publicBase)
  answered : ∃ response, firingAlerts python grafana settings = .ok response ∧ response.status = 200

section Shape

variable (items : List Json)

/-- The alerts are shaped exactly if each of them can be read. -/
theorem returns_shaped_iff :
    Returns ((items.filter Json.isDict).mapM (shapeAlert python publicBase)) ↔
      ∀ item ∈ items.filter Json.isDict, Readable python publicBase item := by
  rw [returns_mapM_iff]
  exact forall₂_congr fun item member =>
    returns_shapeAlert_iff python publicBase item (List.mem_filter.mp member).2

/-- A shaped item is fit exactly if its link is anchored. -/
theorem fit_iff (item : Json) (alert : Alert)
    (shaped : shapeAlert python publicBase item = .ok alert) :
    Fit python publicBase alert ↔ Anchored python publicBase item := by
  obtain ⟨_, _, _, name, severity, summary, url, one, two, three, four, rfl⟩ :=
    (shapeAlert_eq_ok_iff python publicBase item alert).mp shaped
  have chosen := ((offeredUrl_eq_ok_iff python publicBase _ url).mp four).2
  have linked : origin python.unicode url = origin python.unicode publicBase ↔
      Anchored python publicBase item := by
    unfold Anchored
    rw [chosen]
    constructor
    · intro same listed
      rw [listed] at same
      exact (origin_listPage_iff python.unicode publicBase).mp same
    · intro anchored
      by_cases listed : url = listPage publicBase
      · rw [listed]
        exact (origin_listPage_iff python.unicode publicBase).mpr (anchored listed)
      · unfold served at chosen
        split at chosen
        · split at chosen
          · rename_i same
            rw [← chosen]
            exact same
          · exact absurd chosen.symm listed
        · exact absurd chosen.symm listed
  constructor
  · intro fit
    exact linked.mp fit.linked
  · intro anchored
    refine ⟨str_filled python _ (nameOf_filled item) name one, ite_eq_or_eq _ _ _, ?_,
      linked.mpr anchored⟩
    exact List.length_take_le 200 summary

/-- A list of alerts degrades to what it tells exactly if it can be shaped. -/
theorem shapeAlerts_degrades_iff :
    Degrades python publicBase (shapeAlerts python publicBase (.list items)) ↔
      Shapeable python publicBase items := by
  have returns := returns_shaped_iff python publicBase items
  unfold shapeAlerts
  dsimp only
  cases done : (items.filter Json.isDict).mapM (shapeAlert python publicBase) with
  | error exception =>
      rw [done] at returns
      refine iff_of_false id ?_
      intro shapeable
      exact Returns.error exception (returns.mpr shapeable.readable)
  | ok alerts =>
      rw [done] at returns
      have readable := returns.mp (Returns.ok alerts)
      have cut := mapM_take (shapeAlert python publicBase) alertLimit _ alerts done
      constructor
      · rintro ⟨_, fit⟩
        refine ⟨readable, ?_⟩
        intro item member
        obtain ⟨alert, found, shaped⟩ := mapM_mem _ _ _ cut item member
        exact (fit_iff python publicBase item alert shaped).mp (fit alert found)
      · intro shapeable
        refine ⟨List.length_take_le _ _, ?_⟩
        intro alert found
        obtain ⟨item, member, shaped⟩ := mem_of_mapM _ _ _ cut alert found
        exact (fit_iff python publicBase item alert shaped).mpr (shapeable.anchored item member)

/-- The served alerts are answered exactly if their texts can be encoded. -/
theorem jsonResponse_iff (alerts : List Alert) :
    (∃ response, jsonResponse (alertsFound alerts) = .ok response ∧ response.status = 200) ↔
      ∀ alert ∈ alerts, ∀ text ∈ alert.texts, encodable text = true := by
  unfold jsonResponse
  split
  · rename_i holds
    refine iff_of_true ⟨_, rfl, rfl⟩ ?_
    simpa [alertsFound, List.all_eq_true] using holds
  · rename_i fails
    refine iff_of_false (by simp) ?_
    simpa [alertsFound, List.all_eq_true] using fails

/-- The texts of a shaped item can be encoded exactly if it is servable. -/
theorem texts_iff (item : Json) (alert : Alert)
    (shaped : shapeAlert python publicBase item = .ok alert) :
    (∀ text ∈ alert.texts, encodable text = true) ↔ Servable python publicBase item := by
  obtain ⟨_, _, _, name, severity, summary, url, one, two, three, four, rfl⟩ :=
    (shapeAlert_eq_ok_iff python publicBase item alert).mp shaped
  have chosen := ((offeredUrl_eq_ok_iff python publicBase _ url).mp four).2
  constructor
  · intro texts
    refine ⟨?_, ?_, ?_, ?_⟩
    · intro written same
      rw [← Except.ok.inj (one.symm.trans same)]
      exact texts _ (by simp [Alert.texts])
    · intro written same
      rw [← Except.ok.inj (three.symm.trans same)]
      exact texts _ (by simp [Alert.texts])
    · rw [chosen]
      exact texts _ (by simp [Alert.texts])
    · intro since same
      exact texts _ (by simp [Alert.texts, same])
  · intro servable text member
    simp only [Alert.texts, List.mem_append, List.mem_cons, List.not_mem_nil, or_false,
      Option.mem_toList] at member
    rcases member with (rfl | rfl | rfl) | since
    · exact servable.name _ one
    · exact servable.summary _ three
    · rw [← chosen]
      exact servable.url
    · exact servable.since text since

/-- Shaped items are encoded exactly if the served ones are servable. -/
theorem encodable_alerts_iff (alerts : List Alert)
    (done : (items.filter Json.isDict).mapM (shapeAlert python publicBase) = .ok alerts) :
    (∃ response, jsonResponse (alertsFound (alerts.take alertLimit)) = .ok response ∧
        response.status = 200) ↔
      ∀ item ∈ (items.filter Json.isDict).take alertLimit, Servable python publicBase item := by
  have cut := mapM_take (shapeAlert python publicBase) alertLimit _ alerts done
  rw [jsonResponse_iff]
  constructor
  · intro texts item member
    obtain ⟨alert, found, shaped⟩ := mapM_mem _ _ _ cut item member
    exact (texts_iff python publicBase item alert shaped).mp (texts alert found)
  · intro servables alert found
    obtain ⟨item, member, shaped⟩ := mem_of_mapM _ _ _ cut alert found
    exact (texts_iff python publicBase item alert shaped).mpr (servables item member)

end Shape

/-- The route answers what a read brings. -/
def answered (fetched : Except Failure (List Alert)) : Except Raised AlertsResponse :=
  match fetched with
  | .ok alerts => jsonResponse (alertsFound alerts)
  | .error (.grafanaUnavailable _) => jsonResponse unavailable
  | .error (.raised exception) => .error exception

/-- A configured console answers what Grafana told it. -/
theorem firingAlerts_configured (settings : Settings) (base token publicBase : PyText)
    (configured : configuration python settings = some (base, token, publicBase)) :
    firingAlerts python grafana settings =
      answered (fetchAlerts python grafana base token publicBase) := by
  unfold configuration at configured
  unfold firingAlerts
  split at configured
  · rename_i own held found given
    rw [Option.some.injEq, Prod.mk.injEq, Prod.mk.injEq] at configured
    obtain ⟨rfl, rfl, rfl⟩ := configured
    rw [found, given]
    rfl
  · cases configured

/-- A console without a configuration answers that it has none. -/
theorem firingAlerts_unconfigured (settings : Settings)
    (unset : configuration python settings = none) :
    ∃ response, firingAlerts python grafana settings = .ok response ∧ response.status = 200 := by
  unfold configuration at unset
  unfold firingAlerts
  cases found : grafanaApiUrl python settings with
  | none => exact ⟨unconfigured, rfl, rfl⟩
  | some base =>
      rw [found] at unset
      rcases given : settings.token with reason | _ | token
      · exact ⟨unavailable, rfl, rfl⟩
      · exact ⟨unconfigured, rfl, rfl⟩
      · rw [given] at unset
        cases unset

/-- A list of items degrades and is answered exactly if it can be shaped and served. -/
theorem items_iff (items : List Json) :
    (Degrades python publicBase (shapeAlerts python publicBase (.list items)) ∧
        ∃ response, answered (shapeAlerts python publicBase (.list items)) = .ok response ∧
          response.status = 200) ↔
      Shapeable python publicBase items ∧
        ∀ item ∈ (items.filter Json.isDict).take alertLimit, Servable python publicBase item := by
  rw [shapeAlerts_degrades_iff]
  refine and_congr_right fun shapeable => ?_
  obtain ⟨alerts, done⟩ := (returns_shaped_iff python publicBase items).mpr shapeable.readable
  have shaped : shapeAlerts python publicBase (.list items) = .ok (alerts.take alertLimit) := by
    rw [shapeAlerts, done]
  rw [shaped]
  exact encodable_alerts_iff python publicBase items alerts done

/-- A body of an answer degrades and is answered exactly if it is wholesome. -/
theorem body_iff (body : JsonBody) (fetched : Except Failure (List Alert))
    (read : fetched = match body.json with
      | .ok payload => shapeAlerts python publicBase payload
      | .error .valueError => .error (.grafanaUnavailable "response was not JSON")
      | .error exception => .error (.raised exception)) :
    (Degrades python publicBase fetched ∧
        ∃ response, answered fetched = .ok response ∧ response.status = 200) ↔
      Wholesome python publicBase body := by
  cases body with
  | malformed name =>
      rw [read]
      refine iff_of_true ⟨trivial, unavailable, rfl, rfl⟩ ⟨by simp, ?_, ?_⟩
      · intro items same
        cases same
      · intro items same
        cases same
  | tooDeep =>
      rw [read]
      exact iff_of_false (fun both => both.1) fun wholesome => wholesome.shallow rfl
  | read payload =>
      cases payload with
      | list items =>
          change fetched = shapeAlerts python publicBase (.list items) at read
          rw [read]
          refine (items_iff python publicBase items).trans ?_
          constructor
          · rintro ⟨shapeable, servable⟩
            refine ⟨by simp, ?_, ?_⟩
            · rintro _ ⟨⟩
              exact shapeable
            · rintro _ ⟨⟩
              exact servable
          · intro wholesome
            exact ⟨wholesome.shapeable items rfl, wholesome.servable items rfl⟩
      | _ =>
          rw [read]
          refine iff_of_true ⟨trivial, unavailable, rfl, rfl⟩ ⟨by simp, ?_, ?_⟩
          · intro items same
            cases same
          · intro items same
            cases same

/-- The request is answered or fails in its transport, and a body with the status 200 is
wholesome. -/
structure WellAnswered (asked : Except RequestFailure Answer) : Prop where
  handled : ∀ exception, asked ≠ .error (.raised exception)
  wholesome : ∀ body, asked = .ok ⟨200, body⟩ → Wholesome python publicBase body

/-- A read degrades and is answered exactly if its request is answered well. -/
theorem asked_iff (base token : PyText) :
    (Degrades python publicBase (fetchAlerts python grafana base token publicBase) ∧
        ∃ response, answered (fetchAlerts python grafana base token publicBase) = .ok response ∧
          response.status = 200) ↔
      WellAnswered python publicBase (grafana (alertsRequest base token)) := by
  unfold fetchAlerts
  cases asked : grafana (alertsRequest base token) with
  | error failure =>
      cases failure with
      | httpError name =>
          refine iff_of_true ⟨trivial, unavailable, rfl, rfl⟩ ⟨?_, ?_⟩
          · intro exception same
            cases same
          · intro body same
            cases same
      | raised exception =>
          exact iff_of_false (fun both => both.1) fun answers => answers.handled exception rfl
  | ok answer =>
      obtain ⟨status, body⟩ := answer
      have handled : ∀ exception, (Except.ok ⟨status, body⟩ : Except RequestFailure Answer) ≠
          .error (.raised exception) := by
        intro exception same
        cases same
      by_cases success : status = 200
      · rw [success] at handled ⊢
        refine (body_iff python publicBase body _ rfl).trans ?_
        constructor
        · intro wholesome
          refine ⟨handled, ?_⟩
          rintro _ ⟨⟩
          exact wholesome
        · exact fun answers => answers.wholesome body rfl
      · dsimp only
        rw [if_pos success]
        refine iff_of_true ⟨trivial, unavailable, rfl, rfl⟩ ⟨handled, ?_⟩
        rintro _ ⟨⟩
        exact absurd rfl success

/-- The read degrades and the route answers exactly if the request of configured alerts is answered
well. -/
theorem neverFails_iff (settings : Settings) :
    NeverFails python grafana settings ↔
      ∀ base token publicBase, configuration python settings = some (base, token, publicBase) →
        WellAnswered python publicBase (grafana (alertsRequest base token)) := by
  cases configured : configuration python settings with
  | none =>
      refine iff_of_true ⟨?_, firingAlerts_unconfigured python grafana settings configured⟩ ?_
      · intro base token publicBase same
        rw [configured] at same
        cases same
      · intro base token publicBase same
        cases same
  | some found =>
      obtain ⟨base, token, publicBase⟩ := found
      have route := firingAlerts_configured python grafana settings base token publicBase configured
      have law := asked_iff python grafana publicBase base token
      rw [← route] at law
      constructor
      · rintro ⟨fetched, answers⟩ _ _ _ ⟨⟩
        exact law.mp ⟨fetched base token publicBase configured, answers⟩
      · intro answers
        obtain ⟨degrades, response⟩ := law.mpr (answers base token publicBase rfl)
        refine ⟨?_, response⟩
        intro _ _ _ same
        rw [configured, Option.some.injEq, Prod.mk.injEq, Prod.mk.injEq] at same
        obtain ⟨rfl, rfl, rfl⟩ := same
        exact degrades

end Law

/-- These parameters are those of the language on the texts of one alert without a time. -/
def plainPython : Python where
  unicode := ⟨id, id, fun _ => false, fun _ _ member _ => member⟩
  isSpace := Char.isWhitespace
  repr _ := some (literal "...")
  fromIsoformat _ := false
  repr_filled _ written same := by
    rw [← Option.some.inj same]
    decide

def listedSettings : Settings where
  grafanaApiUrl := []
  grafanaUrl := literal "https://grafana.test/"
  token := .ok (some (literal "token"))

/-- The labels of an alert are a list. -/
def listedLabels : Answer :=
  ⟨200, .read (.list [.dict [(literal "labels", .list [.text (literal "HighLag")])]])⟩

/-- The answer with a list in the place of the labels raises. -/
theorem neverFails_fails : ¬NeverFails plainPython (fun _ => .ok listedLabels) listedSettings := by
  rintro ⟨_, response, answered, _⟩
  have raised : firingAlerts plainPython (fun _ => .ok listedLabels) listedSettings =
      .error .attributeError := by
    rfl
  rw [raised] at answered
  cases answered

end OperationsConsole.Alerts
