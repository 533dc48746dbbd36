/-
This file embeds the filters of the identity ledger's list of works: the dates that the operator
picks, the instants that the page asks for, and the query that the console forwards to catalog-api.
-/

import OperationsConsole.Browser.QueryText
import OperationsConsole.Library.CalendarDays
import OperationsConsole.Library.IsoText
import OperationsConsole.Library.Replacing
import OperationsConsole.Proxy.QueryRules

namespace OperationsConsole.Browser

open Library
open Redaction (Text parseQsl)
open Proxy (rfc3339 ledgerEvents ledgerWorksParameters proxyParams lastValue given)

section Instants

/-- A date input holds a year of four or more digits, a month and a day. -/
def dateValue (date : Date) : Text :=
  padded 4 date.year ++ '-' :: (padded 2 date.month ++ '-' :: padded 2 date.day)

/-- This is `Number` of a run of digits. An input holds no other texts between its hyphens. -/
def number (text : Text) : Option ℕ :=
  if text ≠ [] ∧ text.all Char.isDigit then some (Nat.ofDigitChars 10 text 0) else none

/-- `Date.UTC` takes a year of one or two digits for one of the 20th century. -/
def fullYear (year : ℕ) : ℕ := if year ≤ 99 then 1900 + year else year

/-- A year after 9999 has a sign and six digits. -/
def isoYear (year : ℕ) : Text := if year ≤ 9999 then padded 4 year else '+' :: padded 6 year

def midnight (date : Date) (ending : Text) : Text :=
  isoYear date.year ++ '-' :: (padded 2 date.month ++ '-' :: (padded 2 date.day ++
    ("T00:00:00".toList ++ ending)))

/-- This is `toISOString` of the first instant of a day. -/
def toISOString (day : ℕ) : Text := midnight (Calendar.dateOf day) ".000Z".toList

/-- The last day that a time value reaches. -/
def lastTimeDay : ℕ := 719162 + 100000000

/-- There is no result when the page throws an error. -/
def ledgerDayStart (value : Text) (days : ℕ) : Option Text :=
  match (value.splitOn '-').map number with
  | [some year, some month, some day] =>
      let first := Calendar.dayOf ⟨fullYear year, month, day + days⟩
      if first ≤ lastTimeDay then some (replaceFirst ".000Z".toList "Z".toList (toISOString first))
      else none
  | _ => none

end Instants

section Query

/-- The filters hold the texts of their inputs, which may be empty. -/
structure LedgerFilter where
  page : ℕ
  event : Text
  since : Text
  untilDay : Text

def ledgerPageSize : ℕ := 50

/-- The bound that a date gives, or nothing for an empty input. -/
def ledgerBound (name value : Text) (days : ℕ) : Option (List (Text × Text)) :=
  if value = [] then some [] else (ledgerDayStart value days).map fun start => [(name, start)]

/-- These are the parameters of `_ledgerWorksUrl`. -/
def ledgerWorksQuery (filter : LedgerFilter) : Option (List (Text × Text)) := do
  let since ← ledgerBound "since".toList filter.since 0
  let untilDay ← ledgerBound "until".toList filter.untilDay 1
  some ([("page".toList, Nat.toDigits 10 filter.page),
      ("page_size".toList, Nat.toDigits 10 ledgerPageSize)] ++
    (if filter.event = [] then [] else [("event".toList, filter.event)]) ++ since ++ untilDay)

end Query

section Dates

/-- The date of an input is valid, and the page can send its instants. -/
structure Sendable (date : Date) : Prop where
  valid : date.Valid
  late : 100 ≤ date.year
  early : date.NotAfter ⟨9999, 12, 30⟩

/-- A padded number is read as the number. -/
theorem number_padded (width value : ℕ) (positive : 0 < width) (fits : value < 10 ^ width) :
    number (padded width value) = some value := by
  have length := length_padded width value positive fits
  have filled : padded width value ≠ [] := by
    intro empty
    rw [empty] at length
    exact absurd length (Nat.ne_of_lt positive)
  unfold number
  rw [if_pos ⟨filled, List.all_eq_true.mpr (isDigit_of_mem_padded width value)⟩,
    ofDigitChars_padded]

/-- A sign that is no digit stands in no numeral. -/
theorem not_mem_padded (sign : Char) (other : sign.isDigit = false) (width value : ℕ) :
    sign ∉ padded width value := by
  intro member
  exact absurd ((isDigit_of_mem_padded width value sign member).symm.trans other) (by decide)

/-- The value of a date splits into its year, its month and its day. -/
theorem splitOn_dateValue (date : Date) :
    (dateValue date).splitOn '-' = [padded 4 date.year, padded 2 date.month, padded 2 date.day] := by
  have joined : dateValue date =
      ['-'].intercalate [padded 4 date.year, padded 2 date.month, padded 2 date.day] := by
    simp [dateValue, List.intercalate_cons_cons, List.intercalate_singleton]
  rw [joined]
  apply List.splitOn_intercalate
  · intro part member
    simp only [List.mem_cons, List.not_mem_nil, or_false] at member
    rcases member with rfl | rfl | rfl
    · exact not_mem_padded '-' rfl 4 date.year
    · exact not_mem_padded '-' rfl 2 date.month
    · exact not_mem_padded '-' rfl 2 date.day
  · simp

/-- No fraction stands before the last symbols of the text, so these are replaced. -/
theorem replaceFirst_midnight (date : Date) :
    replaceFirst ".000Z".toList "Z".toList (midnight date ".000Z".toList) =
      midnight date "Z".toList := by
  have free : '.' ∉ midnight date [] := by
    unfold midnight isoYear
    simp only [List.mem_append, List.mem_cons, not_or]
    refine ⟨?_, by decide, not_mem_padded '.' rfl 2 _, by decide, not_mem_padded '.' rfl 2 _,
      by decide, by decide⟩
    split
    · exact not_mem_padded '.' rfl 4 _
    · rw [List.mem_cons, not_or]
      exact ⟨by decide, not_mem_padded '.' rfl 6 _⟩
  have apart (ending : Text) : midnight date ending = midnight date [] ++ ending := by
    simp [midnight]
  have replaced := replaceFirst_append '.' "000Z".toList [] (midnight date []) "Z".toList free
  rw [List.append_nil, List.append_nil] at replaced
  rw [apart ".000Z".toList, apart "Z".toList]
  exact replaced

section Sending

variable (date : Date) (sendable : Sendable date)

include sendable

theorem Sendable.year_lt : date.year < 10000 := by
  have early := sendable.early
  unfold Date.NotAfter at early
  dsimp only at early
  omega

/-- The day after a date that can be sent belongs to the same calendar. -/
theorem Sendable.day_lt : Calendar.dayOf date + 1 < Calendar.lastDay := by
  have last : (⟨9999, 12, 30⟩ : Date).Valid := ⟨by decide, by decide, by decide⟩
  have ordered := (Calendar.dayOf_le_iff date sendable.valid _ last).mpr sendable.early
  have number : Calendar.dayOf ⟨9999, 12, 30⟩ = 3652057 := by
    decide +kernel
  unfold Calendar.lastDay
  omega

/-- The page asks for the first instant of the date, or of the next one. -/
theorem ledgerDayStart_dateValue (days : ℕ) (near : days ≤ 1) :
    ledgerDayStart (dateValue date) days =
      some (midnight (Calendar.dateOf (Calendar.dayOf date + days)) "Z".toList) := by
  have inside := sendable.day_lt date
  have month := sendable.valid.month
  have day := Calendar.valid_day_lt date sendable.valid
  have year : fullYear date.year = date.year := if_neg (by have late := sendable.late; omega)
  have first : Calendar.dayOf ⟨date.year, date.month, date.day + days⟩ =
      Calendar.dayOf date + days :=
    Calendar.dayOf_add date.year date.month date.day days sendable.valid.day.1
  unfold Calendar.lastDay at inside
  unfold ledgerDayStart
  rw [splitOn_dateValue, List.map_cons, List.map_cons, List.map_cons, List.map_nil,
    number_padded 4 date.year (by decide) (sendable.year_lt date),
    number_padded 2 date.month (by decide) (by omega),
    number_padded 2 date.day (by decide) (by omega)]
  dsimp only
  rw [year, first, if_pos (by unfold lastTimeDay; omega), toISOString, replaceFirst_midnight]

end Sending

end Dates

section Midnight

/-- A test of the two characters of a short text. -/
def onPair (test : Char → Char → Bool) : Text → Bool
  | [first, second] => test first second
  | _ => false

/-- A test of a pair holds only of two symbols. -/
theorem onPair_iff (test : Char → Char → Bool) (text : Text) :
    onPair test text = true ↔ ∃ first second, text = [first, second] ∧ test first second = true := by
  unfold onPair
  split
  · simp
  · rename_i other
    constructor
    · exact fun false => absurd false (by decide)
    · rintro ⟨first, second, same, _⟩
      exact absurd same (other first second)

/-- Every padded month passes the rule of the months. -/
theorem months_match : ∀ month < 13, 1 ≤ month → onPair Proxy.isMonth (padded 2 month) = true := by
  decide +kernel

/-- Every padded day passes the rule of the days. -/
theorem days_match : ∀ day < 32, 1 ≤ day →
    onPair (Proxy.isDay Char.isDigit) (padded 2 day) = true := by
  decide +kernel

variable (digit : Char → Bool) (plain : ∀ symbol : Char, symbol.isDigit = true → digit symbol = true)

include plain

/-- A day of plain digits is a day for every reading of digits. -/
theorem isDay_of_plain (first second : Char) (day : Proxy.isDay Char.isDigit first second = true) :
    Proxy.isDay digit first second = true := by
  simp only [Proxy.isDay, Bool.or_eq_true, Bool.and_eq_true] at day ⊢
  exact day.imp_left (Or.imp_right (And.imp_right (plain second)))

variable (date : Date) (valid : date.Valid) (early : date.year < 10000)

include valid early

/-- The console's pattern accepts the first instant of a day. -/
theorem rfc3339_midnight : rfc3339 digit (midnight date "Z".toList) = true := by
  have month := months_match date.month (Nat.lt_succ_of_le valid.month.2) valid.month.1
  have day := days_match date.day (Calendar.valid_day_lt date valid) valid.day.1
  have length := length_padded 4 date.year (by decide) early
  have digits : ∀ symbol ∈ padded 4 date.year, digit symbol = true := fun symbol member =>
    plain symbol (isDigit_of_mem_padded 4 date.year symbol member)
  have zero : digit '0' = true := plain '0' rfl
  obtain ⟨m₁, m₂, months, matched⟩ := (onPair_iff _ _).mp month
  obtain ⟨d₁, d₂, days, dayMatched⟩ := (onPair_iff _ _).mp day
  have dayDigits := isDay_of_plain digit plain d₁ d₂ dayMatched
  obtain ⟨y₁, y₂, y₃, y₄, years⟩ := List.length_eq_four.mp length
  rw [years] at digits
  simp only [List.mem_cons, List.not_mem_nil, or_false, forall_eq_or_imp, forall_eq] at digits
  obtain ⟨one, two, three, four⟩ := digits
  unfold midnight isoYear
  rw [if_pos (by omega), years, months, days]
  simp [rfc3339, one, two, three, four, matched, dayDigits, Proxy.isHour, Proxy.isSixty, zero,
    Proxy.isFractionZone, Proxy.isZone]

omit plain in
/-- The text of the first instant of a day is read as that instant. -/
theorem read_midnight :
    IsoText.read 6 (midnight date "Z".toList) =
      some ((86400000000 * Calendar.dayOf date : ℕ) : ℤ) := by
  have two (rest : List Char) (value : ℕ) (fits : value < 100) :=
    IsoText.readNumeral_padded rest 2 value (by decide) fits
  have month := valid.month
  have day := Calendar.valid_day_lt date valid
  have started := valid.day.1
  have clock : "T00:00:00".toList ++ "Z".toList =
      'T' :: (padded 2 0 ++ ':' :: (padded 2 0 ++ ':' :: (padded 2 0 ++ ['Z']))) := by
    decide
  have inside : 1 ≤ date.month ∧ date.month ≤ 12 ∧ 1 ≤ date.day ∧ date.day ≤ 31 ∧ 0 < 24 ∧
      0 < 60 ∧ 0 < 60 := by
    omega
  unfold IsoText.read midnight isoYear
  rw [if_pos (by omega), clock, IsoText.readNumeral_padded _ 4 _ (by decide) early]
  simp only [Option.bind_eq_bind]
  rw [Option.bind_some, IsoText.readSymbol_cons, Option.bind_some, two _ date.month (by omega),
    Option.bind_some, IsoText.readSymbol_cons, Option.bind_some, two _ date.day (by omega),
    Option.bind_some, IsoText.readSymbol_cons, Option.bind_some, two _ 0 (by omega),
    Option.bind_some, IsoText.readSymbol_cons, Option.bind_some, two _ 0 (by omega),
    Option.bind_some, IsoText.readSymbol_cons, Option.bind_some, two _ 0 (by omega),
    Option.bind_some]
  have fraction : IsoText.readFraction 6 ['Z'] = some (0, ['Z']) := rfl
  have offset : IsoText.readOffset ['Z'] = some 0 := rfl
  rw [fraction, Option.bind_some, offset, Option.bind_some, if_pos (by omega)]
  have same : Calendar.dayOf ⟨date.year, date.month, date.day⟩ = Calendar.dayOf date := rfl
  rw [same, Option.some.injEq]
  push_cast
  omega

end Midnight

section Windows

/-- The choices of the operator. An event is one of the list, or all of them. -/
structure LedgerChoice where
  page : ℕ
  event : Option Text
  since : Option Date
  untilDay : Option Date

/-- An input without a choice is empty. -/
def LedgerChoice.filter (choice : LedgerChoice) : LedgerFilter where
  page := choice.page
  event := choice.event.getD []
  since := (choice.since.map dateValue).getD []
  untilDay := (choice.untilDay.map dateValue).getD []

/-- The choices that the inputs of the page offer, except the earliest and the latest dates. -/
structure LedgerChoice.Offered (choice : LedgerChoice) : Prop where
  page : 1 ≤ choice.page ∧ choice.page ≤ 2 ^ 53
  event : ∀ event ∈ choice.event, event ∈ ledgerEvents
  since : ∀ date ∈ choice.since, Sendable date
  untilDay : ∀ date ∈ choice.untilDay, Sendable date

def instantsPerDay : ℕ := 86400000000

/-- The bounds of a query hold for an instant in microseconds. The upper bound is exclusive. -/
def InWindow (query : List (Text × Text)) (instant : ℕ) : Prop :=
  (∀ text ∈ lastValue query "since".toList,
      ∃ start, IsoText.read 6 text = some start ∧ start ≤ instant) ∧
    ∀ text ∈ lastValue query "until".toList,
      ∃ stop, IsoText.read 6 text = some stop ∧ (instant : ℤ) < stop

/-- The day of an instant lies between the chosen dates, and both of these belong to the window. -/
def LedgerChoice.Covers (choice : LedgerChoice) (instant : ℕ) : Prop :=
  (∀ date ∈ choice.since, date.NotAfter (Calendar.dateOf (instant / instantsPerDay))) ∧
    ∀ date ∈ choice.untilDay, (Calendar.dateOf (instant / instantsPerDay)).NotAfter date

/-- The first instant of a day, as the page writes it. -/
def dayStart (day : ℕ) : Text := midnight (Calendar.dateOf day) "Z".toList

/-- The query that the choices mean. -/
def LedgerChoice.query (choice : LedgerChoice) : List (Text × Text) :=
  [("page".toList, Nat.toDigits 10 choice.page), ("page_size".toList, Nat.toDigits 10 50)] ++
    (choice.event.map fun event => ("event".toList, event)).toList ++
    (choice.since.map fun date => ("since".toList, dayStart (Calendar.dayOf date))).toList ++
    (choice.untilDay.map fun date => ("until".toList, dayStart (Calendar.dayOf date + 1))).toList

/-- A day that starts late enough is read and accepted. -/
theorem read_dayStart (day : ℕ) (inside : day < Calendar.lastDay) :
    IsoText.read 6 (dayStart day) = some ((instantsPerDay * day : ℕ) : ℤ) := by
  have read := read_midnight (Calendar.dateOf day) (Calendar.valid_dateOf day)
    (Calendar.year_dateOf day inside)
  rw [Calendar.dayOf_dateOf] at read
  exact read

theorem dateValue_ne_nil (date : Date) : dateValue date ≠ [] := by
  simp [dateValue]

theorem event_ne_nil : ∀ event ∈ ledgerEvents, event ≠ [] := by
  decide

/-- A chosen date becomes the start of its day or of the next. -/
theorem ledgerBound_choice (name : Text) (chosen : Option Date) (days : ℕ) (near : days ≤ 1)
    (sendable : ∀ date ∈ chosen, Sendable date) :
    ledgerBound name ((chosen.map dateValue).getD []) days =
      some (chosen.map fun date => (name, dayStart (Calendar.dayOf date + days))).toList := by
  cases chosen with
  | none => rfl
  | some date =>
      have sent := ledgerDayStart_dateValue date (sendable date rfl) days near
      simp only [Option.map_some, Option.getD_some, ledgerBound, dateValue_ne_nil, if_false, sent,
        Option.toList_some]
      rfl

variable (choice : LedgerChoice)

/-- The page asks for what is chosen. -/
theorem ledgerWorksQuery_choice (offered : choice.Offered) :
    ledgerWorksQuery choice.filter = some choice.query := by
  have since := ledgerBound_choice "since".toList choice.since 0 (by decide) offered.since
  have untilDay := ledgerBound_choice "until".toList choice.untilDay 1 (by decide) offered.untilDay
  have event : (if choice.event.getD [] = [] then []
      else [("event".toList, choice.event.getD [])]) =
        (choice.event.map fun event => ("event".toList, event)).toList := by
    cases chosen : choice.event with
    | none => rfl
    | some event =>
        have filled := event_ne_nil event (offered.event event chosen)
        simp [filled]
  unfold ledgerWorksQuery LedgerChoice.filter
  dsimp only
  rw [since, untilDay, event]
  rfl

/-- Each name of the query tells its choice. -/
theorem lastValue_query :
    lastValue choice.query "page".toList = some (Nat.toDigits 10 choice.page) ∧
    lastValue choice.query "page_size".toList = some (Nat.toDigits 10 50) ∧
    lastValue choice.query "event".toList = choice.event ∧
    lastValue choice.query "since".toList =
      choice.since.map (fun date => dayStart (Calendar.dayOf date)) ∧
    lastValue choice.query "until".toList =
      choice.untilDay.map (fun date => dayStart (Calendar.dayOf date + 1)) := by
  obtain ⟨page, event, since, untilDay⟩ := choice
  cases event <;> cases since <;> cases untilDay <;> exact ⟨rfl, rfl, rfl, rfl, rfl⟩

/-- The bounds of the query hold for the days between the chosen dates. -/
theorem inWindow_query (offered : choice.Offered) (instant : ℕ) :
    InWindow choice.query instant ↔ choice.Covers instant := by
  obtain ⟨_, _, _, since, untilDay⟩ := lastValue_query choice
  have own := Calendar.valid_dateOf (instant / instantsPerDay)
  unfold InWindow LedgerChoice.Covers
  rw [since, untilDay]
  apply and_congr
  · cases chosen : choice.since with
    | none => simp
    | some date =>
        have sendable := offered.since date chosen
        have read := read_dayStart (Calendar.dayOf date)
          (Nat.lt_of_succ_lt (sendable.day_lt date))
        have order := Calendar.dayOf_le_iff date sendable.valid _ own
        rw [Calendar.dayOf_dateOf] at order
        simp only [Option.map_some, Option.mem_some_iff, forall_eq', read, Option.some.injEq,
          exists_eq_left']
        rw [← order]
        unfold instantsPerDay
        omega
  · cases chosen : choice.untilDay with
    | none => simp
    | some date =>
        have sendable := offered.untilDay date chosen
        have read := read_dayStart (Calendar.dayOf date + 1) (sendable.day_lt date)
        have order := Calendar.dayOf_le_iff _ own date sendable.valid
        rw [Calendar.dayOf_dateOf] at order
        simp only [Option.map_some, Option.mem_some_iff, forall_eq', read, Option.some.injEq,
          exists_eq_left']
        rw [← order]
        unfold instantsPerDay
        omega

section Forwarding

variable (readInt : Text → Option ℤ) (digit : Char → Bool)

/-- The console forwards the query that the page sends, and it means the choices of the operator. -/
structure ForwardsChoice : Prop where
  sent : ledgerWorksQuery choice.filter = some choice.query
  forwarded : proxyParams readInt (ledgerWorksParameters digit)
    (parseQsl (searchParams choice.query)) = some choice.query
  window : ∀ instant, InWindow choice.query instant ↔ choice.Covers instant

variable (reads : ∀ number ≤ 2 ^ 53, readInt (Nat.toDigits 10 number) = some (number : ℤ))
variable (plain : ∀ symbol : Char, symbol.isDigit = true → digit symbol = true)

include plain in
/-- The start of a day passes the rule of the timestamps. -/
theorem rfc3339_dayStart (day : ℕ) (inside : day < Calendar.lastDay) :
    rfc3339 digit (dayStart day) = true :=
  rfc3339_midnight digit plain _ (Calendar.valid_dateOf day) (Calendar.year_dateOf day inside)

include reads in
/-- A number within its bounds is forwarded as it is written. -/
theorem number_forward (low : ℤ) (high : Option ℤ) (number : ℕ) (readable : number ≤ 2 ^ 53)
    (above : low ≤ number) (below : ∀ bound ∈ high, (number : ℤ) ≤ bound) :
    (Proxy.Rule.number low high).forward readInt (Nat.toDigits 10 number) =
      some (Nat.toDigits 10 number) := by
  have sign : ¬(number : ℤ) < 0 := by omega
  simp only [Proxy.Rule.forward, reads number readable, Option.bind_eq_bind, Option.bind_some]
  rw [if_pos ⟨above, below⟩, Proxy.decimal, if_neg sign, Int.natAbs_natCast]

include reads plain in
/-- Every choice of the page reaches catalog-api, and the days that it names are the days asked for. -/
theorem ledgerWorks_forwardsChoice (offered : choice.Offered) :
    ForwardsChoice choice readInt digit := by
  obtain ⟨page, pageSize, event, since, untilDay⟩ := lastValue_query choice
  have keeps : Proxy.KeepsRules readInt choice.query (ledgerWorksParameters digit) := by
    intro parameter member value found
    simp only [ledgerWorksParameters, List.mem_cons, List.not_mem_nil, or_false] at member
    rcases member with rfl | rfl | rfl | rfl | rfl
    · have same := Option.some.inj (page.symm.trans found)
      rw [← same]
      exact number_forward readInt reads 1 none choice.page offered.page.2
        (by exact_mod_cast offered.page.1) (fun bound absent => absurd absent (by simp))
    · have same := Option.some.inj (pageSize.symm.trans found)
      rw [← same]
      exact number_forward readInt reads 1 (some 100) 50 (by decide) (by decide)
        fun bound same => by rw [← Option.some.inj same]; decide
    · have listed := offered.event value (event ▸ found)
      simp [Proxy.Rule.forward, listed]
    · obtain ⟨date, chosen, same⟩ := Option.map_eq_some_iff.mp (since ▸ found)
      have accepted := rfc3339_dayStart digit plain (Calendar.dayOf date)
        (Nat.lt_of_succ_lt ((offered.since date chosen).day_lt date))
      simp [Proxy.Rule.forward, ← same, accepted]
    · obtain ⟨date, chosen, same⟩ := Option.map_eq_some_iff.mp (untilDay ▸ found)
      have accepted := rfc3339_dayStart digit plain (Calendar.dayOf date + 1)
        ((offered.untilDay date chosen).day_lt date)
      simp [Proxy.Rule.forward, ← same, accepted]
  have forwarded : given choice.query (ledgerWorksParameters digit) = choice.query := by
    have none_left : given choice.query [] = [] := rfl
    unfold ledgerWorksParameters Proxy.pageParameter Proxy.pageSizeParameter
    simp only [Proxy.given_cons, none_left, page, pageSize, event, since, untilDay,
      Option.map_some, Option.map_map, Option.toList_some, List.append_nil]
    simp [LedgerChoice.query, Function.comp_def]
  refine ⟨ledgerWorksQuery_choice choice offered, ?_, inWindow_query choice offered⟩
  rw [searchParams, parseQsl_queryText formByte queryCode_form,
    Proxy.proxyParams_of_keepsRules readInt choice.query _ keeps, forwarded]

omit choice in
theorem number_toDigits (value : ℕ) : number (Nat.toDigits 10 value) = some value := by
  unfold number
  rw [if_pos ⟨Nat.toDigits_ne_nil, List.all_eq_true.mpr fun symbol member =>
    Nat.isDigit_of_mem_toDigits (by decide) (by decide) member⟩, Nat.ofDigitChars_ten_toDigits]

/-- Promotions from a leap day to the day after it. -/
theorem ledgerWorks_forwardsChoice_leap :
    ForwardsChoice ⟨2, some "promoted".toList, some ⟨2024, 2, 29⟩, some ⟨2024, 3, 1⟩⟩
      (fun text => (number text).map Int.ofNat) Char.isDigit := by
  have leap : Sendable ⟨2024, 2, 29⟩ := ⟨⟨by decide, by decide, by decide⟩, by decide, by simp [Date.NotAfter]⟩
  have next : Sendable ⟨2024, 3, 1⟩ := ⟨⟨by decide, by decide, by decide⟩, by decide, by simp [Date.NotAfter]⟩
  apply ledgerWorks_forwardsChoice
  · intro value _
    rw [number_toDigits]
    rfl
  · exact fun symbol digit => digit
  · exact ⟨by decide, fun event same => Option.some.inj same ▸ by decide,
      fun date same => Option.some.inj same ▸ leap, fun date same => Option.some.inj same ▸ next⟩

end Forwarding

end Windows

end OperationsConsole.Browser
