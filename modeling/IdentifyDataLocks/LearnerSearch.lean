import IdentifyDataLocks.DataLockLinks
import IdentifyDataLocks.Numerals
import IdentifyDataLocks.RequestOutcome

/-! The search for a learner: which texts the start page sends on, and how numbers are read
back from the texts that are written for them. -/
namespace IdentifyDataLocks
open Calendar Linq Fallible

/-! Numbers as text. -/

theorem ofDigitChars_cast {digits : List Char} (m : ℕ) (h : ∀ c ∈ digits, c.isDigit) :
    digits.foldl (fun (n : ℤ) c => 10 * n + ((c.toNat : ℤ) - 48)) m =
      (Nat.ofDigitChars 10 digits m : ℕ) := by
  induction digits generalizing m with
  | nil => simp
  | cons c digits ih =>
    rw [List.forall_mem_cons] at h
    have hdigit : 48 ≤ c.toNat := (Char.isDigit_iff_toNat.mp h.1).1
    rw [List.foldl_cons, Nat.ofDigitChars_cons, ← ih _ h.2]
    congr 1
    change 10 * (m : ℤ) + ((c.toNat : ℤ) - 48) = ((10 * m + (c.toNat - 48) : ℕ) : ℤ)
    omega

theorem foldl_repr (n : ℕ) :
    n.repr.toList.foldl (fun (n : ℤ) c => 10 * n + ((c.toNat : ℤ) - 48)) 0 = n := by
  have hcast := ofDigitChars_cast 0 fun c (h : c ∈ n.repr.toList) => Numerals.isDigit_of_mem_repr h
  rw [Nat.cast_zero] at hcast
  rw [hcast, Nat.toList_repr, Nat.ofDigitChars_ten_toDigits]

def isWhite (c : Char) : Bool := c = ' ' || (9 ≤ c.toNat && c.toNat ≤ 13)

/-- Neither white space nor U+0000. -/
def Untrimmed (c : Char) : Prop := isWhite c = false ∧ c.toNat ≠ 0

theorem untrimmed_of_isDigit {c : Char} (h : c.isDigit) : Untrimmed c := by
  have hdigit := Char.isDigit_iff_toNat.mp h
  have hlo : 48 ≤ c.toNat := hdigit.1
  have hspace : c ≠ ' ' := by
    rintro rfl
    exact absurd hlo (by decide)
  refine ⟨?_, by omega⟩
  simp [isWhite, hspace]
  omega

theorem trim_of_untrimmed {l : List Char} (h : ∀ c ∈ l, Untrimmed c) :
    (((l.reverse.dropWhile fun c => c.toNat = 0).dropWhile isWhite).reverse.dropWhile isWhite) =
      l := by
  have hself : ∀ (p : Char → Bool) (l : List Char), (∀ c ∈ l, p c = false) →
      l.dropWhile p = l := by
    intro p l hl
    cases l with
    | nil => rfl
    | cons c l => rw [List.dropWhile_cons_of_neg (by simp [hl c])]
  rw [hself _ l.reverse, hself _ l.reverse, List.reverse_reverse, hself]
  · exact fun c hc => (h c hc).1
  · exact fun c hc => (h c (List.mem_reverse.mp hc)).1
  · exact fun c hc => decide_eq_false (h c (List.mem_reverse.mp hc)).2

/-- The value of a sign and a magnitude, within 64 bits. -/
def signed (negative : Bool) (magnitude : ℕ) : Option Int64 :=
  let value : ℤ := if negative then -magnitude else magnitude
  if -2 ^ 63 ≤ value ∧ value < 2 ^ 63 then some (Int64.ofInt value) else none

/-- What `longTryParse` makes of the digits behind the sign. -/
theorem signed_of_digits {ds : List Char} {n : ℕ} (negative : Bool) (hne : ds ≠ [])
    (hdigits : ∀ c ∈ ds, c.isDigit)
    (hfold : ds.foldl (fun (n : ℤ) c => 10 * n + ((c.toNat : ℤ) - 48)) 0 = n) :
    (if (ds.isEmpty || !ds.all Char.isDigit) = true then none
      else
        let magnitude : ℤ := ds.foldl (fun n c => 10 * n + ((c.toNat : ℤ) - 48)) 0
        let value := if negative = true then -magnitude else magnitude
        if -2 ^ 63 ≤ value ∧ value < 2 ^ 63 then some (Int64.ofInt value) else none) =
      signed negative n := by
  have hall : ds.all Char.isDigit = true := List.all_eq_true.mpr hdigits
  have hempty : ds.isEmpty = false := by simpa using hne
  simp only [hall, hempty, Bool.not_true, Bool.or_false, Bool.false_eq_true, if_false, hfold,
    signed]

/-- Digits, with or without a minus sign, are read as the number they write. -/
theorem longTryParse_repr (negative : Bool) (n : ℕ) :
    longTryParse (some ((if negative then "-" else "") ++ n.repr)) = signed negative n := by
  have hdigits : ∀ c ∈ n.repr.toList, c.isDigit := fun c h => Numerals.isDigit_of_mem_repr h
  have hfold := foldl_repr n
  have hne : n.repr.toList ≠ [] := by
    rw [Nat.toList_repr]
    exact Nat.toDigits_ne_nil
  have hkept : ∀ c ∈ n.repr.toList, Untrimmed c := fun c h => untrimmed_of_isDigit (hdigits c h)
  have htrim : ∀ l : List Char, (∀ c ∈ l, Untrimmed c) →
      (((l.reverse.dropWhile fun c => c.toNat = 0).dropWhile
        fun c => c = ' ' || (9 ≤ c.toNat && c.toNat ≤ 13)).reverse.dropWhile
          fun c => c = ' ' || (9 ≤ c.toNat && c.toNat ≤ 13)) = l :=
    fun l => trim_of_untrimmed
  cases negative with
  | true =>
    have hbody : ("-" ++ n.repr).toList = '-' :: n.repr.toList := by
      rw [String.toList_append]
      rfl
    simp only [longTryParse, Option.bind_some, if_true, hbody]
    rw [htrim _ (List.forall_mem_cons.mpr ⟨⟨by decide, by decide⟩, hkept⟩)]
    exact signed_of_digits true hne hdigits hfold
  | false =>
    simp only [longTryParse, Option.bind_some, Bool.false_eq_true, if_false, String.empty_append]
    rw [htrim _ hkept]
    -- the first digit is no sign
    cases hlist : n.repr.toList with
    | nil => exact absurd hlist hne
    | cons c cs =>
      rw [hlist] at hdigits hfold hne
      have hc : c.isDigit := hdigits c (by simp)
      split
      · simp_all
      · simp_all
      · exact signed_of_digits false hne hdigits hfold

theorem toString_eq (n : Int64) :
    toString n = (if decide (n.toInt < 0) then "-" else "") ++ n.toInt.natAbs.repr := by
  change n.toInt.repr = _
  cases n.toInt with
  | ofNat m =>
    have hsign : ¬ (Int.ofNat m < 0) := not_lt.mpr (Int.natCast_nonneg m)
    simp only [hsign, decide_false, Bool.false_eq_true, if_false, String.empty_append]
    rfl
  | negSucc m =>
    simp only [Int.negSucc_lt_zero m, decide_true, if_true]
    rfl

/-- A number is read back from the text that is written for it. -/
theorem longTryParse_toString (n : Int64) : longTryParse (some (toString n)) = some n := by
  have hlo := n.le_toInt
  have hhi := n.toInt_lt
  have hvalue : (if decide (n.toInt < 0) then -(n.toInt.natAbs : ℤ) else n.toInt.natAbs) =
      n.toInt := by
    split_ifs with h
    · have hneg := of_decide_eq_true h
      omega
    · have hnonneg : ¬ n.toInt < 0 := fun hneg => h (decide_eq_true hneg)
      omega
  rw [toString_eq, longTryParse_repr, signed]
  simp only [hvalue]
  rw [if_pos ⟨hlo, hhi⟩, Int64.ofInt_toInt]

/-! Two spellings of one number. -/

namespace LearnerModel

variable {p : LearnerReportProvider} {timeProvider : ITimeProvider} {page : LearnerModel}
  {uln : Option String}

/-- The page keeps the text it was asked for. -/
def withUln (uln : Option String) (page : LearnerModel) : LearnerModel := { page with uln := uln }

theorem onGetAsync_withUln (h : longTryParse uln = longTryParse page.uln) :
    onGetAsync p timeProvider (page.withUln uln) =
      (do let page' ← onGetAsync p timeProvider page; return page'.withUln uln) := by
  unfold onGetAsync
  rw [withUln, h]
  cases longTryParse page.uln with
  | none => rfl
  | some n =>
    simp only [bind_assoc, pure_bind]
    rfl

theorem request_withUln (h : longTryParse uln = longTryParse page.uln) :
    request p timeProvider (page.withUln uln) =
      (do
        let (page', blocks) ← request p timeProvider page
        return (page'.withUln uln, blocks)) := by
  have hrender : ∀ page' : LearnerModel,
      activeDataLocks timeProvider (page'.withUln uln) = activeDataLocks timeProvider page' :=
    fun _ => rfl
  simp only [request, onGetAsync_withUln h, bind_assoc, pure_bind, hrender]

/-- White space, a plus sign and leading zeros in the number asked for do not matter: the page is
that of the number as the report writes it, but for the text it repeats. -/
theorem request_of_number (p : LearnerReportProvider) (timeProvider : ITimeProvider)
    (page : LearnerModel) (uln : Int64) (hu : longTryParse page.uln = some uln) (s : Reads) :
    (request p timeProvider (page.withUln (some (toString uln)))).run s =
      ((request p timeProvider page).run s).map fun result =>
        ((result.1.1.withUln (some (toString uln)), result.1.2), result.2) := by
  have hsame : longTryParse (some (toString uln)) = longTryParse page.uln := by
    rw [longTryParse_toString, hu]
  rw [request_withUln hsame, StateT.run_bind]
  cases (request p timeProvider page).run s with
  | error ex => rfl
  | ok result => rfl

theorem request_of_number_spelled :
    (request lockedR09 rollover
        (withUln (some (toString (1003528448 : Int64))) { uln := some " +01003528448" })).run {} =
      ((request lockedR09 rollover { uln := some " +01003528448" }).run {}).map fun result =>
        ((result.1.1.withUln (some (toString (1003528448 : Int64))), result.1.2), result.2) :=
  request_of_number lockedR09 rollover _ 1003528448 (by decide) {}

end LearnerModel

/-! The start page. -/

/-- The results of `OnPost`; the second argument of a redirect is the route value `Uln`. -/
inductive ActionResult
  | redirectToPage (pageName : String) (uln : Option String)
  | page (modelState : List (String × String))
  deriving DecidableEq

structure StartModel where
  uln : Option String

namespace StartModel

/-- A text that is no number leaves `uln` at 0. -/
def validateModel (modelState : List (String × String)) (page : StartModel) :
    List (String × String) :=
  let isUlnANumber := (longTryParse page.uln).isSome
  let uln := (longTryParse page.uln).getD 0
  if page.uln = none ∨ isUlnANumber = false ∨ uln ≤ 0 ∨ 9999999999 < uln then
    modelState ++ [("Uln", "Enter a valid ULN")]
  else modelState

/-- `modelState` holds what the binding of the form has found. -/
def onPost (modelState : List (String × String)) (page : StartModel) : ActionResult :=
  let modelState := validateModel modelState page
  if modelState.isEmpty then .redirectToPage "learner" page.uln else .page modelState

/-- The numbers of one to ten digits. -/
def ValidUln (text : Option String) : Prop :=
  ∃ uln, longTryParse text = some uln ∧ 1 ≤ uln.toInt ∧ uln.toInt ≤ 9999999999

theorem validateModel_of_valid {modelState : List (String × String)} {start : StartModel}
    (h : ValidUln start.uln) : validateModel modelState start = modelState := by
  obtain ⟨uln, hu, hlo, hhi⟩ := h
  have hsome : start.uln ≠ none := by
    intro hnone
    rw [hnone] at hu
    cases hu
  have hpos : ¬ uln ≤ 0 := by
    rw [Int64.le_iff_toInt_le]
    exact not_le.mpr hlo
  have hmax : ¬ 9999999999 < uln := by
    rw [Int64.lt_iff_toInt_lt]
    exact not_lt.mpr hhi
  simp [validateModel, hu, hsome, hpos, hmax]

theorem validateModel_of_not_valid {modelState : List (String × String)} {start : StartModel}
    (h : ¬ ValidUln start.uln) :
    validateModel modelState start = modelState ++ [("Uln", "Enter a valid ULN")] := by
  refine if_pos ?_
  cases hu : longTryParse start.uln with
  | none => exact Or.inr (Or.inl rfl)
  | some uln =>
    refine Or.inr (Or.inr ?_)
    by_contra hrange
    rw [not_or, Int64.not_le, Int64.not_lt, Option.getD_some] at hrange
    obtain ⟨hlo, hhi⟩ := hrange
    rw [Int64.lt_iff_toInt_lt] at hlo
    rw [Int64.le_iff_toInt_le] at hhi
    exact h ⟨uln, hu, hlo, hhi⟩

/-- The search sends a text on exactly when it is a number of one to ten digits and the form
was bound without errors; the learner page then answers it on every day it answers at all.
Every other text comes back with the error of its field behind those of the binding. -/
theorem onPost_leads_to_report (modelState : List (String × String)) (start : StartModel)
    (p : LearnerReportProvider) (today : DateTime) (h : LearnerModel.Answerable today) :
    (onPost modelState start = .redirectToPage "learner" start.uln ↔
        modelState = [] ∧ ValidUln start.uln) ∧
      (∀ errors, onPost modelState start = .page errors ↔
        (modelState ≠ [] ∨ ¬ ValidUln start.uln) ∧
          (ValidUln start.uln → errors = modelState) ∧
          (¬ ValidUln start.uln → errors = modelState ++ [("Uln", "Enter a valid ULN")])) ∧
      ∀ pageName uln, onPost modelState start = .redirectToPage pageName uln →
        ∃ result, (LearnerModel.request p (fun _ => today) { uln := uln }).run {} = .ok result := by
  by_cases hvalid : ValidUln start.uln
  · have hpost : onPost modelState start =
        if modelState.isEmpty then .redirectToPage "learner" start.uln else .page modelState := by
      rw [onPost, validateModel_of_valid hvalid]
    have hanswer : ∃ result,
        (LearnerModel.request p (fun _ => today) { uln := start.uln }).run {} = .ok result := by
      obtain ⟨uln, hu, -⟩ := hvalid
      exact LearnerModel.exists_request_iff.mpr ⟨by simp [hu], h⟩
    rw [hpost]
    cases modelState with
    | nil => simpa [hvalid] using hanswer
    | cons error errors => simp [hvalid, eq_comm]
  · have hpost : onPost modelState start =
        .page (modelState ++ [("Uln", "Enter a valid ULN")]) := by
      rw [onPost, validateModel_of_not_valid hvalid]
      simp
    rw [hpost]
    simp [hvalid, eq_comm]

theorem onPost_leads_to_report_may7 :
    onPost [] { uln := some "1003528448" } = .redirectToPage "learner" (some "1003528448") ∧
      ∃ result, (LearnerModel.request LearnerModel.lockedR09
        (fun _ => CollectionPeriodReport.may7) { uln := some "1003528448" }).run {} =
          .ok result := by
  obtain ⟨hredirect, -, hanswer⟩ := onPost_leads_to_report [] { uln := some "1003528448" }
    LearnerModel.lockedR09 CollectionPeriodReport.may7 (by decide)
  have hpost := hredirect.mpr ⟨rfl, 1003528448, longTryParse_1003528448, by decide, by decide⟩
  exact ⟨hpost, hanswer _ _ hpost⟩

end StartModel

end IdentifyDataLocks
