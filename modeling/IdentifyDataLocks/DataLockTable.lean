import IdentifyDataLocks.DataLockLinks
import IdentifyDataLocks.Numerals
import IdentifyDataLocks.PauseDates

/-! The table under each entry of the learner page: which rows name a code, when the two cells
of a row agree, and how the cost follows from the negotiated prices below it. -/
namespace IdentifyDataLocks
open Calendar Linq Numerals

/-! The formats of en-GB, the culture that the application sets at its start. -/

/-- `ToString("C")` of a decimal. -/
def currencyString (x : Decimal) : String := money '£' x

def Calendar.DateTime.date (d : DateTime) : ℕ × ℕ × ℕ := (d.year, d.month, d.day)

theorem value_shortDateString (d : DateTime) :
    value (shortDateString d) = d.day * 1000000 + d.month * 10000 + d.year := by
  have hday := d.day_range.2
  have hmonths : daysInMonth d.year d.month ≤ 31 := by
    unfold daysInMonth
    split_ifs <;> omega
  have hmonth := d.month_range.2
  have hyear := d.year_range.2
  have hslash : digits "/" = [] := by decide
  have htwo : ∀ n, DateTime.twoDigits n = twoDigits n := fun _ => rfl
  have hfour : DateTime.fourDigits d.year = twoDigits (d.year / 100) ++ twoDigits (d.year % 100) := by
    change (d.year / 1000).repr ++ _ ++ _ ++ _ = _
    have hhundreds : d.year / 100 / 10 = d.year / 1000 := by omega
    have htens : d.year % 100 / 10 = d.year / 10 % 10 := by omega
    have hunits : d.year % 100 % 10 = d.year % 10 := by omega
    rw [twoDigits, twoDigits, hhundreds, htens, hunits, ← String.append_assoc]
    rfl
  simp only [shortDateString, DateTime.toDayMonthYear, htwo, hfour, value_append, digits_append,
    List.length_append, value_twoDigits, hslash, List.length_nil]
  rw [length_digits_twoDigits (by omega), length_digits_twoDigits (by omega),
    length_digits_twoDigits (by omega)]
  simp only [value, hslash, Nat.ofDigitChars_nil]
  omega

/-- A short date leaves out the time of day and nothing else. -/
theorem shortDateString_eq_iff {d d' : DateTime} :
    shortDateString d = shortDateString d' ↔ d.date = d'.date := by
  constructor
  · intro h
    have hvalue := congrArg value h
    rw [value_shortDateString, value_shortDateString] at hvalue
    have hmonth := d.month_range.2
    have hmonth' := d'.month_range.2
    have hyear := d.year_range.2
    have hyear' := d'.year_range.2
    simp only [DateTime.date, Prod.mk.injEq]
    omega
  · intro h
    simp only [DateTime.date, Prod.mk.injEq] at h
    rw [shortDateString, shortDateString, DateTime.toDayMonthYear, DateTime.toDayMonthYear,
      h.1, h.2.1, h.2.2]

def ApprenticeshipStatus.toString : ApprenticeshipStatus → String
  | unknown => "Unknown"
  | active => "Active"
  | paused => "Paused"
  | stopped => "Stopped"
  | inactive => "Inactive"

/-! The models of the rows. -/

structure DataLockRowModel where
  heading : String
  activeDataLock : String
  apprenticeValue : String
  ilrValue : String
  isLocked : Bool

namespace DataLockRowModel

/-- `Extract`, for a value with the text of its `ToString`. -/
def extract (valueExtractor : DataMatch → Option String) (data : Option DataMatch) : String :=
  match data with
  | some data => (valueExtractor data).getD "-"
  | none => "-"

def create (period : CollectionPeriod) (dataLock : DataLock) (heading : String)
    (valueExtractor : DataMatch → Option String) : DataLockRowModel :=
  let isLocked := period.dataLocks.contains dataLock
  { heading := heading
    apprenticeValue := extract valueExtractor period.apprenticeship
    ilrValue := extract valueExtractor (some period.ilr)
    isLocked := isLocked
    activeDataLock := if isLocked then dataLock.toString else "-" }

/-- The constructor without a data lock, which passes 0 for it. -/
def createUnlabelled (period : CollectionPeriod) (heading : String)
    (value : DataMatch → Option String) : DataLockRowModel :=
  create period ⟨0⟩ heading value

end DataLockRowModel

structure TnpDataLockRowModel where
  rowClass : String
  heading : String
  ilrValues : Option (List AmountFromDate)

def TnpDataLockRowModel.create (period : CollectionPeriod) (heading : String)
    (valueExtractor : DataMatch → Option (List AmountFromDate)) : TnpDataLockRowModel where
  rowClass := String.ofList ((heading.toList.map Char.toLower).filter fun c => c ≠ ' ')
  heading := heading
  ilrValues := valueExtractor period.ilr

/-! The rows as they are rendered; a cell is the list of its lines. -/

structure TableRow where
  cssClass : Option String
  heading : String
  apprenticeshipService : List String
  ilrSubmission : List String
  dataLock : String
  deriving DecidableEq

namespace TableRow

def lockedClass (isLocked : Bool) : Option String := if isLocked then some "data-locked" else none

def ofDataLockRow (row : DataLockRowModel) : TableRow where
  cssClass := lockedClass row.isLocked
  heading := row.heading
  apprenticeshipService := [row.apprenticeValue]
  ilrSubmission := [row.ilrValue]
  dataLock := row.activeDataLock

def ofPauseDateRow (row : PauseDateDataLockRowModel) : TableRow where
  cssClass := lockedClass row.isLocked
  heading := row.heading
  apprenticeshipService :=
    if row.hasPausedDate then
      ["From: " ++ row.pausedOnDate.getD "", "To: " ++ row.resumedOnDate.getD ""]
    else ["-"]
  ilrSubmission := ["n/a"]
  dataLock := row.activeDataLock

/-- The loop over null would throw; a submission has a list for each row. -/
def ofTnpRow (row : TnpDataLockRowModel) : TableRow where
  cssClass := some row.rowClass
  heading := row.heading
  apprenticeshipService := ["n/a"]
  ilrSubmission := (row.ilrValues.getD []).flatMap fun v =>
    ["Date: " ++ shortDateString v.start, "Price: " ++ currencyString v.amount]
  dataLock := " - "

end TableRow

open TableRow DataLockRowModel

namespace CollectionPeriod

/-- The body of the table in `_CollectionPeriods.cshtml`. -/
def tableRows (period : CollectionPeriod) : List TableRow :=
  [ofDataLockRow (create period ⟨1⟩ "UKPRN" fun x => some (toString x.ukprn)),
    ofDataLockRow (create period ⟨2⟩ "ULN" fun x => some (toString x.uln)),
    ofDataLockRow (create period ⟨3⟩ "Standard code" fun x => x.standard.map toString),
    ofDataLockRow (create period ⟨4⟩ "Framework code" fun x => x.framework.map toString),
    ofDataLockRow (create period ⟨5⟩ "Program type" fun x => x.program.map toString),
    ofDataLockRow (create period ⟨6⟩ "Pathway code" fun x => x.pathway.map toString),
    ofDataLockRow (create period ⟨7⟩ "Cost" fun x => some (currencyString x.cost)),
    ofDataLockRow (create period ⟨9⟩ "Start date" fun x => x.priceStart.map shortDateString),
    ofPauseDateRow (PauseDateDataLockRowModel.create shortDateString period ⟨12⟩ "Pause date"),
    ofDataLockRow (create period ⟨10⟩ "Stop date" fun x => x.stoppedOn.map shortDateString),
    -- no mapping sets the planned completion
    ofDataLockRow (createUnlabelled period "Planned completion date" fun _ => none),
    ofDataLockRow (createUnlabelled period "Completion status" fun x =>
      some x.completionStatus.toString),
    ofTnpRow (.create period "TNP 1" (·.tnp1)),
    ofTnpRow (.create period "TNP 2" (·.tnp2)),
    ofTnpRow (.create period "TNP 3" (·.tnp3)),
    ofTnpRow (.create period "TNP 4" (·.tnp4))]

/-! The column "Data lock". -/

/-- The rows with a data lock, and the value that each constructor is given. -/
def labels : List (String × DataLock) :=
  [("UKPRN", ⟨1⟩), ("ULN", ⟨2⟩), ("Standard code", ⟨3⟩), ("Framework code", ⟨4⟩),
    ("Program type", ⟨5⟩), ("Pathway code", ⟨6⟩), ("Cost", ⟨7⟩), ("Start date", ⟨9⟩),
    ("Pause date", ⟨12⟩), ("Stop date", ⟨10⟩), ("Planned completion date", ⟨0⟩),
    ("Completion status", ⟨0⟩)]

theorem map_tableRows (period : CollectionPeriod) :
    period.tableRows.map (fun row => (row.heading, row.cssClass, row.dataLock)) =
      (labels.map fun label => (label.1, lockedClass (period.dataLocks.contains label.2),
        if period.dataLocks.contains label.2 then label.2.toString else "-")) ++
      [("TNP 1", some "tnp1", " - "), ("TNP 2", some "tnp2", " - "),
        ("TNP 3", some "tnp3", " - "), ("TNP 4", some "tnp4", " - ")] := rfl

end CollectionPeriod

theorem DataLock.digits_toString_ne_nil (d : DataLock) : digits d.toString ≠ [] := by
  by_cases h : d.Named
  · exact h.forall_elim (by decide)
  · rw [toString_of_not_named h]
    exact digits_int_repr_ne_nil _

/-- No text without a digit is the text of a data lock. -/
theorem DataLock.toString_ne {d : DataLock} {s : String} (h : digits s = []) : s ≠ d.toString := by
  rintro rfl
  exact d.digits_toString_ne_nil h

namespace CollectionPeriod

variable {period : CollectionPeriod} {d : DataLock}

theorem cell_eq_iff {k : DataLock} :
    (if period.dataLocks.contains k then k.toString else "-") = d.toString ↔
      k ∈ period.dataLocks ∧ k = d := by
  by_cases hk : k ∈ period.dataLocks
  · simp [hk, DataLock.toString_injective.eq_iff]
  · have hblank : "-" ≠ d.toString := DataLock.toString_ne (by decide)
    simp [hk, hblank]

/-- The headings of the rows that can name a data lock. -/
def headings (d : DataLock) : List String := (labels.filter fun label => label.2 = d).map (·.1)

theorem headings_eq_nil_iff : headings d = [] ↔
    d.value < 0 ∨ d.value = 8 ∨ d.value = 11 ∨ 12 < d.value := by
  have hnil : headings d = [] ↔ ∀ label ∈ labels, label.2 ≠ d := by
    simp [headings]
  obtain ⟨v⟩ := d
  rw [hnil]
  simp only [labels, List.forall_mem_cons, List.not_mem_nil, false_imp_iff, implies_true, and_true,
    ne_eq, DataLock.mk.injEq]
  omega

theorem map_heading_filter (period : CollectionPeriod) (d : DataLock) :
    (period.tableRows.filter fun row => row.dataLock = d.toString).map (·.heading) =
      if d ∈ period.dataLocks then headings d else [] := by
  have hproj : (period.tableRows.filter fun row => row.dataLock = d.toString).map (·.heading) =
      ((period.tableRows.map fun row => (row.heading, row.cssClass, row.dataLock)).filter
        fun row => row.2.2 = d.toString).map (·.1) := by
    rw [List.filter_map, List.map_map]
    rfl
  have hblank : " - " ≠ d.toString := DataLock.toString_ne (by decide)
  have htnp : ([("TNP 1", some "tnp1", " - "), ("TNP 2", some "tnp2", " - "),
        ("TNP 3", some "tnp3", " - "), ("TNP 4", some "tnp4", " - ")].filter
          fun row : String × Option String × String => row.2.2 = d.toString) = [] := by
    simp [hblank]
  rw [hproj, map_tableRows, List.filter_append, htnp, List.append_nil, List.filter_map,
    List.map_map]
  simp only [Function.comp_def, cell_eq_iff]
  by_cases hd : d ∈ period.dataLocks
  · rw [if_pos hd, headings]
    congr 1
    apply List.filter_congr
    intro label _
    rw [decide_eq_decide]
    constructor
    · exact fun h => h.2
    · rintro rfl
      exact ⟨hd, rfl⟩
  · rw [if_neg hd, List.map_eq_nil_iff, List.filter_eq_nil_iff]
    intro label _ h
    obtain ⟨hmem, rfl⟩ := of_decide_eq_true h
    exact hd hmem

theorem marked_iff {row : TableRow} (h : row ∈ period.tableRows) :
    row.cssClass = some "data-locked" ↔ ∃ d ∈ period.dataLocks, row.dataLock = d.toString := by
  have hmem : (row.heading, row.cssClass, row.dataLock) ∈
      period.tableRows.map fun row => (row.heading, row.cssClass, row.dataLock) :=
    List.mem_map_of_mem h
  rw [map_tableRows, List.mem_append] at hmem
  rcases hmem with hmem | hmem
  · obtain ⟨label, -, heq⟩ := List.mem_map.mp hmem
    simp only [Prod.mk.injEq] at heq
    rw [← heq.2.1, ← heq.2.2]
    simp only [cell_eq_iff]
    simp [lockedClass]
  · have hblank : row.dataLock = " - " ∧ row.cssClass ≠ some "data-locked" := by
      simp only [List.mem_cons, List.not_mem_nil, or_false, Prod.mk.injEq] at hmem
      rcases hmem with ⟨-, hclass, hcell⟩ | ⟨-, hclass, hcell⟩ | ⟨-, hclass, hcell⟩ |
        ⟨-, hclass, hcell⟩
      all_goals
        rw [hclass]
        exact ⟨hcell, by decide⟩
    have hnone : ∀ d : DataLock, " - " ≠ d.toString := fun d => DataLock.toString_ne (by decide)
    simp [hblank, hnone]

/-- A data lock of the entry is named by the row or rows of its value and by no other, and a
row is marked exactly when it names one. Dlock08, Dlock11 and the values without a name have no
row: an entry with no others announces them above a table without a mark. -/
theorem tableRows_name_dataLocks (period : CollectionPeriod) :
    (∀ d, (period.tableRows.filter fun row => row.dataLock = d.toString).map (·.heading) =
        if d ∈ period.dataLocks then headings d else []) ∧
      (∀ row ∈ period.tableRows, row.cssClass = some "data-locked" ↔
        ∃ d ∈ period.dataLocks, row.dataLock = d.toString) ∧
      ((∀ row ∈ period.tableRows, row.cssClass ≠ some "data-locked") ↔
        ∀ d ∈ period.dataLocks, d.value < 0 ∨ d.value = 8 ∨ d.value = 11 ∨ 12 < d.value) := by
  refine ⟨map_heading_filter period, fun row hrow => marked_iff hrow, fun h d hd => ?_,
    fun h row hrow hmark => ?_⟩
  · rw [← headings_eq_nil_iff]
    have hrows := map_heading_filter period d
    rw [if_pos hd] at hrows
    rw [← hrows, List.map_eq_nil_iff, List.filter_eq_nil_iff]
    intro row hrow hname
    exact h row hrow ((marked_iff hrow).mpr ⟨d, hd, of_decide_eq_true hname⟩)
  · obtain ⟨d, hd, hname⟩ := (marked_iff hrow).mp hmark
    have hrows := map_heading_filter period d
    rw [if_pos hd, headings_eq_nil_iff.mpr (h d hd), List.map_eq_nil_iff,
      List.filter_eq_nil_iff] at hrows
    exact hrows row hrow (decide_eq_true hname)

end CollectionPeriod

/-! The cells of a row. -/

/-- A format that writes equal texts exactly for equal keys, and never the text of a null. -/
structure Shown {α κ : Type} (text : α → String) (key : α → κ) : Prop where
  eq_iff : ∀ a b, text a = text b ↔ key a = key b
  ne_dash : ∀ a, text a ≠ "-"

theorem ne_dash_of_digits {s : String} (h : digits s ≠ []) : s ≠ "-" := by
  rintro rfl
  exact h (by decide)

theorem shown_int64 : Shown (toString : Int64 → String) id where
  eq_iff a b := by
    change a.toInt.repr = b.toInt.repr ↔ a = b
    rw [Int.repr_inj, Int64.toInt_inj]
  ne_dash a := ne_dash_of_digits (digits_int_repr_ne_nil a.toInt)

theorem shown_int16 : Shown (toString : Int16 → String) id where
  eq_iff a b := by
    change a.toInt.repr = b.toInt.repr ↔ a = b
    rw [Int.repr_inj, Int16.toInt_inj]
  ne_dash a := ne_dash_of_digits (digits_int_repr_ne_nil a.toInt)

theorem shown_currency : Shown currencyString pennies where
  eq_iff _ _ := money_eq_iff (by decide) (by decide)
  ne_dash _ := ne_dash_of_digits digits_money_ne_nil

theorem shown_shortDate : Shown shortDateString DateTime.date where
  eq_iff _ _ := shortDateString_eq_iff
  ne_dash d h := by
    have hvalue := value_shortDateString d
    have hday := d.day_range.1
    have hzero : value "-" = 0 := by decide
    rw [h] at hvalue
    omega

theorem shown_status : Shown ApprenticeshipStatus.toString id where
  eq_iff a b := by cases a <;> cases b <;> simp [ApprenticeshipStatus.toString]
  ne_dash a := by cases a <;> simp [ApprenticeshipStatus.toString]

namespace CollectionPeriod

variable {period : CollectionPeriod}

/-- Both sides have the same value, or neither has one. -/
def agrees {κ : Type} [DecidableEq κ] (period : CollectionPeriod)
    (value : DataMatch → Option κ) : Bool :=
  period.apprenticeship.bind value = value period.ilr

def cellsAgree (row : TableRow) : String × Bool :=
  (row.heading, row.apprenticeshipService = row.ilrSubmission)

theorem cellsAgree_ofDataLockRow {α κ : Type} [DecidableEq κ] {text : α → String} {key : α → κ}
    (h : Shown text key) (dataLock : DataLock) (heading : String) (f : DataMatch → Option α) :
    cellsAgree (ofDataLockRow (create period dataLock heading fun x => (f x).map text)) =
      (heading, period.agrees fun x => (f x).map key) := by
  have hextract : ∀ s : Option DataMatch, extract (fun x => (f x).map text) s =
      ((s.bind f).map text).getD "-" := by
    intro s
    cases s <;> rfl
  have hkey : (period.apprenticeship.bind fun x => (f x).map key) =
      (period.apprenticeship.bind f).map key := by
    cases period.apprenticeship <;> rfl
  simp only [cellsAgree, ofDataLockRow, create, agrees, hextract, hkey, Option.bind_some,
    List.cons.injEq, and_true, Prod.mk.injEq, true_and, decide_eq_decide]
  cases period.apprenticeship.bind f with
  | none =>
    cases f period.ilr with
    | none => simp
    | some b => simpa using (h.ne_dash b).symm
  | some a =>
    cases f period.ilr with
    | none => simpa using h.ne_dash a
    | some b => simpa using h.eq_iff a b

theorem cellsAgree_ofPauseDateRow (row : PauseDateDataLockRowModel) :
    cellsAgree (ofPauseDateRow row) = (row.heading, false) := by
  unfold cellsAgree ofPauseDateRow
  cases row.hasPausedDate <;> simp

theorem cellsAgree_ofTnpRow (row : TnpDataLockRowModel) :
    cellsAgree (ofTnpRow row) = (row.heading, false) := by
  unfold cellsAgree ofTnpRow
  cases row.ilrValues.getD [] <;> simp

/-- The cells of a row read alike exactly when the two sides have the same number, the same
amount to the penny, the same day or the same status; a missing value is like a missing side.
The cells of the pause date and of the negotiated prices are never alike. -/
theorem map_cellsAgree (period : CollectionPeriod) :
    period.tableRows.map cellsAgree =
      [("UKPRN", period.agrees fun x => some x.ukprn),
        ("ULN", period.agrees fun x => some x.uln),
        ("Standard code", period.agrees (·.standard)),
        ("Framework code", period.agrees (·.framework)),
        ("Program type", period.agrees (·.program)),
        ("Pathway code", period.agrees (·.pathway)),
        ("Cost", period.agrees fun x => some (pennies x.cost)),
        ("Start date", period.agrees fun x => x.priceStart.map DateTime.date),
        ("Pause date", false),
        ("Stop date", period.agrees fun x => x.stoppedOn.map DateTime.date),
        ("Planned completion date", true),
        ("Completion status", period.agrees fun x => some x.completionStatus),
        ("TNP 1", false), ("TNP 2", false), ("TNP 3", false), ("TNP 4", false)] := by
  have hcode : ∀ dataLock heading (f : DataMatch → Option Int16),
      cellsAgree (ofDataLockRow (create period dataLock heading fun x => (f x).map toString)) =
        (heading, period.agrees f) := by
    intro dataLock heading f
    have h := @cellsAgree_ofDataLockRow period _ _ _ _ _ shown_int16 dataLock heading f
    simpa only [Option.map_id_fun, id] using h
  have hplanned : cellsAgree
      (ofDataLockRow (createUnlabelled period "Planned completion date" fun _ => none)) =
        ("Planned completion date", true) := by
    cases h : period.apprenticeship <;>
      simp [cellsAgree, ofDataLockRow, createUnlabelled, create, extract, h]
  simp only [tableRows, List.map_cons, List.map_nil, List.cons.injEq, and_true]
  exact ⟨cellsAgree_ofDataLockRow shown_int64 _ _ fun x => some x.ukprn,
    cellsAgree_ofDataLockRow shown_int64 _ _ fun x => some x.uln,
    hcode _ _ _, hcode _ _ _, hcode _ _ _, hcode _ _ _,
    cellsAgree_ofDataLockRow shown_currency _ _ fun x => some x.cost,
    cellsAgree_ofDataLockRow shown_shortDate _ _ _,
    cellsAgree_ofPauseDateRow _,
    cellsAgree_ofDataLockRow shown_shortDate _ _ _,
    hplanned,
    cellsAgree_ofDataLockRow shown_status _ _ fun x => some x.completionStatus,
    cellsAgree_ofTnpRow _, cellsAgree_ofTnpRow _, cellsAgree_ofTnpRow _, cellsAgree_ofTnpRow _⟩

end CollectionPeriod

/-! The cost and the negotiated prices. -/

def amounts (values : Option (List AmountFromDate)) : List Decimal :=
  (values.getD []).map (·.amount)

/-- The amounts of the TNP rows that make up the cost: those of the residual prices if their sum
is positive. -/
def DataMatch.addedAmounts (x : DataMatch) : List Decimal :=
  if 0 < (amounts x.tnp3 ++ amounts x.tnp4).sum then amounts x.tnp3 ++ amounts x.tnp4
  else amounts x.tnp1 ++ amounts x.tnp2

theorem EarningEventModel.sum_addedAmounts (e : EarningEventModel) :
    e.toDataMatch.addedAmounts.sum = e.calculateCost := by
  have hsum : ∀ (f g : EarningEventPriceEpisodeModel → Decimal),
      (amounts (some (e.getTnpValue f)) ++ amounts (some (e.getTnpValue g))).sum =
        (e.priceEpisodes.map fun pe => f pe + g pe).sum := by
    intro f g
    rw [List.sum_append, List.sum_map_add]
    simp only [amounts, getTnpValue, Option.getD_some, List.map_map, Function.comp_def]
  have hresidual := hsum (·.totalNegotiatedPrice3) (·.totalNegotiatedPrice4)
  have hinitial := hsum (·.totalNegotiatedPrice1) (·.totalNegotiatedPrice2)
  simp only [DataMatch.addedAmounts, toDataMatch, calculateCost, hresidual]
  split
  · exact hresidual
  · exact hinitial

/-- In every entry the printed cost of the submission is what its printed TNP rows add up to:
exactly for whole pennies, and otherwise but for half a penny on each number. The four rows give
their amounts for the same dates, the first of which is the start date. -/
theorem cost_adds_up (app : Option ApprenticeshipModel) (earnings : List EarningEventModel)
    (locks : List DataLockEventModel) :
    ∀ c ∈ (CollectionPeriodReport.build app earnings locks).collectionPeriods,
      ((∀ x ∈ c.ilr.addedAmounts, ∃ n : ℤ, 100 * x = n) →
          pennies c.ilr.cost = (c.ilr.addedAmounts.map pennies).sum) ∧
        2 * |pennies c.ilr.cost - (c.ilr.addedAmounts.map pennies).sum| ≤
          c.ilr.addedAmounts.length + 1 ∧
        ∃ dates, (∀ tnp ∈ [c.ilr.tnp1, c.ilr.tnp2, c.ilr.tnp3, c.ilr.tnp4],
            tnp.map (·.map (·.start)) = some dates) ∧ c.ilr.priceStart = dates.head? := by
  intro c hc
  obtain ⟨e, -, rfl⟩ := CollectionPeriodReport.mem_collectionPeriods.mp hc
  have hcost : (e.toCollectionPeriod app locks).ilr.cost =
      (e.toCollectionPeriod app locks).ilr.addedAmounts.sum := e.sum_addedAmounts.symm
  refine ⟨fun hwhole => ?_, ?_, e.priceEpisodes.map (·.startDate), fun tnp htnp => ?_, ?_⟩
  · rw [hcost, pennies_sum_of_whole hwhole]
  · rw [hcost]
    exact pennies_sum _
  · have hdates : ∀ f, (some (e.getTnpValue f)).map (·.map (·.start)) =
        some (e.priceEpisodes.map (·.startDate)) := by
      intro f
      simp only [EarningEventModel.getTnpValue, Option.map_some, List.map_map, Function.comp_def]
    simp only [List.mem_cons, List.not_mem_nil, or_false] at htnp
    rcases htnp with rfl | rfl | rfl | rfl
    all_goals exact hdates _
  · exact (List.head?_map ..).symm

open CollectionPeriodReport in
/-- A training price with an assessment price behind it. -/
def pricedR09 : EarningEventModel :=
  { earningR09 10018916 "ZPROG001" may6 with
    priceEpisodes :=
      [{ startDate := may6, totalNegotiatedPrice1 := 4500, totalNegotiatedPrice2 := 500 }] }

theorem cost_adds_up_priced :
    2 * |pennies (pricedR09.toCollectionPeriod none []).ilr.cost -
        ((pricedR09.toCollectionPeriod none []).ilr.addedAmounts.map pennies).sum| ≤
      (pricedR09.toCollectionPeriod none []).ilr.addedAmounts.length + 1 := by
  have hmem : pricedR09.toCollectionPeriod none [] ∈
      (CollectionPeriodReport.build none [pricedR09] []).collectionPeriods := by
    have hkept : pricedR09 ∈ CollectionPeriodReport.filter none [pricedR09] := by decide
    exact CollectionPeriodReport.mem_collectionPeriods.mpr
      ⟨pricedR09, ⟨CollectionPeriodReport.mem_filter.mp hkept, [], [], rfl, by simp⟩, rfl⟩
  exact (cost_adds_up none [pricedR09] [] _ hmem).2.1

end IdentifyDataLocks
