import IdentifyDataLocks.LearnerReportProvider

/-! The programme codes of a data match are narrowed to short on both sides, so a row of the
report compares them modulo 2^16. -/
namespace IdentifyDataLocks
open CollectionPeriodReport LearnerReportProvider

/-- The two codes are different and agree in their lowest 16 bits. -/
def Collides (code : ℤ) (other : Option ℤ) : Prop :=
  ∃ c, other = some c ∧ c ≠ code ∧ (2 ^ 16 : ℤ) ∣ c - code

theorem ofInt16_eq_iff {c d : ℤ} : Int16.ofInt c = Int16.ofInt d ↔ (2 ^ 16 : ℤ) ∣ d - c := by
  have hsize : ((Int16.size : ℕ) : ℤ) = 2 ^ 16 := rfl
  rw [← Int16.toInt_inj, Int16.toInt_ofInt, Int16.toInt_ofInt, eq_comm,
    Int.bmod_eq_bmod_iff_bmod_sub_eq_zero, ← Int.dvd_iff_bmod_eq_zero, hsize]

/-- A narrowed pair compares as its codes do unless they collide. A missing code stays
missing, and equal codes stay equal. -/
theorem narrowed_eq_iff {code : ℤ} {other : Option ℤ} :
    (some (Int16.ofInt code) = other.map Int16.ofInt ↔ some code = other) ↔
      ¬ Collides code other := by
  cases other with
  | none => simp [Collides]
  | some c =>
    have hcollides : Collides code (some c) ↔ c ≠ code ∧ (2 ^ 16 : ℤ) ∣ c - code := by
      simp [Collides]
    rw [Option.map_some, Option.some_inj, Option.some_inj, ofInt16_eq_iff, hcollides]
    by_cases hc : c = code
    · simp [hc]
    · have hne : code ≠ c := fun h => hc h.symm
      simp [hc, hne]

/-- Codes that short can hold never collide. -/
theorem not_collides_of_short {code : ℤ} {other : Option ℤ} (hcode : -2 ^ 15 ≤ code ∧ code < 2 ^ 15)
    (hother : ∀ c ∈ other, -2 ^ 15 ≤ c ∧ c < 2 ^ 15) : ¬ Collides code other := by
  intro h
  obtain ⟨c, rfl, hne, hdvd⟩ := h
  have hc := hother c rfl
  omega

/-- Each of the rows Standard code, Framework code, Program type and Pathway code shows two
equal values exactly when the stored codes are equal. -/
structure ComparesFaithfully (e : EarningEventModel) (a : ApprenticeshipModel) : Prop where
  standard : e.toDataMatch.standard = a.toDataMatch.standard ↔
    some e.learningAimStandardCode.toInt = a.standardCode.map Int64.toInt
  framework : e.toDataMatch.framework = a.toDataMatch.framework ↔
    some e.learningAimFrameworkCode.toInt = a.frameworkCode.map Int32.toInt
  program : e.toDataMatch.program = a.toDataMatch.program ↔
    some e.learningAimProgrammeType.toInt = a.programmeType.map Int32.toInt
  pathway : e.toDataMatch.pathway = a.toDataMatch.pathway ↔
    some e.learningAimPathwayCode.toInt = a.pathwayCode.map Int32.toInt

/-- One pair, whichever width the apprenticeship stores its code in. -/
theorem toInt16_eq_map_iff {α : Type} {toInt : α → ℤ} {toInt16 : α → Int16}
    (h : ∀ c, toInt16 c = Int16.ofInt (toInt c)) (code : Int32) (other : Option α) :
    (some code.toInt16 = other.map toInt16 ↔ some code.toInt = other.map toInt) ↔
      ¬ Collides code.toInt (other.map toInt) := by
  have hother : other.map toInt16 = (other.map toInt).map Int16.ofInt := by
    rw [Option.map_map]
    exact Option.map_congr fun c _ => h c
  rw [← narrowed_eq_iff, hother]
  exact Iff.rfl

/-- The rows are faithful exactly when no pair of stored codes collides. A collision hides a
mismatch; none is ever invented. -/
theorem comparesFaithfully_iff (e : EarningEventModel) (a : ApprenticeshipModel) :
    ComparesFaithfully e a ↔
      ¬ Collides e.learningAimStandardCode.toInt (a.standardCode.map Int64.toInt) ∧
      ¬ Collides e.learningAimFrameworkCode.toInt (a.frameworkCode.map Int32.toInt) ∧
      ¬ Collides e.learningAimProgrammeType.toInt (a.programmeType.map Int32.toInt) ∧
      ¬ Collides e.learningAimPathwayCode.toInt (a.pathwayCode.map Int32.toInt) := by
  have hlong := toInt16_eq_map_iff (fun c : Int64 => (Int16.ofInt_int64ToInt c).symm)
  have hint := toInt16_eq_map_iff (fun c : Int32 => (Int16.ofInt_int32ToInt c).symm)
  rw [← hlong, ← hint, ← hint, ← hint]
  constructor
  · intro h
    exact ⟨h.standard, h.framework, h.program, h.pathway⟩
  · intro h
    obtain ⟨hstandard, hframework, hprogram, hpathway⟩ := h
    exact ⟨hstandard, hframework, hprogram, hpathway⟩

/-- The standards 25 and 65561 are both shown as 25. -/
theorem standard_65561_shown_as_25 :
    ¬ ComparesFaithfully
        { earningR09 10018916 "ZPROG001" may6 with learningAimStandardCode := 25 }
        { apprenticeshipOf 10018916 with standardCode := some 65561 } := by
  intro h
  have hcodes := h.standard.mp (by decide)
  exact absurd hcodes (by decide)

end IdentifyDataLocks
