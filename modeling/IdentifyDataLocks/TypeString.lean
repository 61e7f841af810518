import IdentifyDataLocks.Regex

/-! The class name that `TypeString` reads from an assembly-qualified type name. Strings are
lists of UTF-16 code units. -/
namespace IdentifyDataLocks.TypeString
open Regex Regex.Pattern

abbrev Text := List UInt16

def comma : UInt16 := 44

variable (isWord : UInt16 → Bool)

/-- `(\w+),`, where `isWord` is the class of word characters. -/
def regex : Pattern UInt16 := .seq (.group (.oneOrMore isWord)) (.one fun c => c = comma)

/-- The result and the `out` parameter. -/
def tryParseTypeName (typesString : Text) : Bool × Option Text :=
  let m := (regex isWord).matchFirst typesString
  if m.count < 1 then (false, none) else (true, some (m.value 1))

/-- A word character with a comma right behind it. -/
def HasTypeName (s : Text) : Prop :=
  ∃ before c after, s = before ++ c :: comma :: after ∧ isWord c = true

/-- The run of word characters before the first comma that has one before it. -/
def FirstTypeName (s name : Text) : Prop :=
  ∃ before after, s = before ++ (name ++ comma :: after) ∧
    name ≠ [] ∧ (∀ c ∈ name, isWord c = true) ∧
    (∀ c ∈ before.getLast?, isWord c = false) ∧ ¬ HasTypeName isWord (before ++ name)

structure ParsesTypeName (s : Text) : Prop where
  accepts : (tryParseTypeName isWord s).1 = true ↔ HasTypeName isWord s
  name : (tryParseTypeName isWord s).1 = true →
    ∃ name, (tryParseTypeName isWord s).2 = some name ∧ FirstTypeName isWord s name
  rejects : (tryParseTypeName isWord s).1 = false → (tryParseTypeName isWord s).2 = none

variable {isWord}

theorem matches_regex_iff {x : Text} {gs : List Text} :
    (regex isWord).Matches x gs ↔ ∃ name : Text, name ≠ [] ∧ (∀ c ∈ name, isWord c = true) ∧
      x = name ++ [comma] ∧ gs = [name] := by
  constructor
  · intro h
    cases h with
    | seq hgroup hcomma =>
      cases hgroup with
      | group hrun =>
        cases hrun with
        | oneOrMore hne hall =>
          cases hcomma with
          | one hc =>
            obtain rfl := of_decide_eq_true hc
            exact ⟨_, hne, hall, rfl, rfl⟩
  · intro h
    obtain ⟨name, hne, hall, rfl, rfl⟩ := h
    exact .seq (.group (.oneOrMore hne hall)) (.one (by simp))

/-- The pattern occurs at the last character of every name. -/
theorem occurs_of_hasTypeName {s before after : Text} {c : UInt16}
    (hs : s = before ++ c :: comma :: after) (hc : isWord c = true) :
    (regex isWord).Occurs s before [c, comma] [[c]] := by
  refine ⟨matches_regex_iff.mpr ⟨[c], by simp, by simpa using hc, rfl, rfl⟩, after, ?_⟩
  simp [hs]

theorem hasTypeName_iff {s : Text} :
    HasTypeName isWord s ↔ ∃ before x gs, (regex isWord).Occurs s before x gs := by
  constructor
  · intro h
    obtain ⟨before, c, after, hs, hc⟩ := h
    exact ⟨before, _, _, occurs_of_hasTypeName hs hc⟩
  · intro h
    obtain ⟨before, x, gs, hm, rest, hs⟩ := h
    obtain ⟨name, hne, hall, rfl, rfl⟩ := matches_regex_iff.mp hm
    refine ⟨before ++ name.dropLast, name.getLast hne, rest, ?_, hall _ (List.getLast_mem hne)⟩
    rw [← hs]
    conv_lhs => rw [← List.dropLast_append_getLast hne]
    simp

/-- Names have no comma, so a pair that ends within a name begins before it. -/
theorem length_lt_of_pair {before name l r : Text} {c : UInt16} (hcomma : isWord comma = false)
    (hall : ∀ d ∈ name, isWord d = true) (h : before ++ name = l ++ c :: comma :: r) :
    l.length < before.length := by
  have hnot : comma ∉ name := by
    intro hmem
    rw [hall comma hmem] at hcomma
    cases hcomma
  rcases List.append_eq_append_iff.mp h with ⟨t, rfl, rfl⟩ | ⟨t, rfl, ht⟩
  · simp at hnot
  · cases t with
    | nil =>
      rw [List.nil_append] at ht
      simp [← ht] at hnot
    | cons d t => simp

/-- The search finds the name of the first pair. -/
theorem firstTypeName_of_firstWay (hcomma : isWord comma = false) {s : Text} {w : Way UInt16}
    (h : (regex isWord).firstWay s = some w) :
    ∃ name, w.groups = [name] ∧ FirstTypeName isWord s name := by
  obtain ⟨before, happ, hm, hleft⟩ := firstWay_eq_some h
  obtain ⟨name, hne, hall, hconsumed, hgroups⟩ := matches_regex_iff.mp hm
  refine ⟨name, hgroups, before, w.rest, ?_, hne, hall, ?_, ?_⟩
  · rw [← happ, hconsumed, List.append_assoc]
    rfl
  · -- a word character in front would start a match one place to the left
    intro c hc
    by_contra hword
    rw [Bool.not_eq_false] at hword
    obtain ⟨front, rfl⟩ := List.getLast?_eq_some_iff.mp hc
    have hoccurs : (regex isWord).Occurs s front (c :: name ++ [comma]) [c :: name] := by
      refine ⟨matches_regex_iff.mpr ⟨c :: name, by simp, ?_, rfl, rfl⟩, w.rest, ?_⟩
      · rw [List.forall_mem_cons]
        exact ⟨hword, hall⟩
      · simp [← happ, hconsumed]
    have hle := hleft front _ _ hoccurs
    rw [List.length_append, List.length_singleton] at hle
    omega
  · intro hpair
    obtain ⟨l, c, r, hs, hc⟩ := hpair
    have hlt := length_lt_of_pair hcomma hall hs
    have hs' : s = l ++ c :: comma :: (r ++ comma :: w.rest) := by
      rw [← happ, hconsumed, List.append_assoc, ← List.append_assoc, hs]
      simp
    have hle := hleft l _ _ (occurs_of_hasTypeName hs' hc)
    omega

theorem tryParseTypeName_fst (s : Text) : (tryParseTypeName isWord s).1 = true := by
  have hcount := count_matchFirst_pos (regex isWord) s
  rw [tryParseTypeName, if_neg (by omega)]

theorem tryParseTypeName_snd (s : Text) :
    (tryParseTypeName isWord s).2 = some (((regex isWord).matchFirst s).value 1) := by
  have hcount := count_matchFirst_pos (regex isWord) s
  rw [tryParseTypeName, if_neg (by omega)]

/-- A type name is read as documented exactly when the string has one. Every other string is
accepted too, with the empty name. -/
theorem parsesTypeName_iff (isWord : UInt16 → Bool) (hcomma : isWord comma = false) (s : Text) :
    (ParsesTypeName isWord s ↔ HasTypeName isWord s) ∧
      (¬ HasTypeName isWord s → tryParseTypeName isWord s = (true, some [])) := by
  have hsearch : HasTypeName isWord s ↔ (regex isWord).firstWay s ≠ none := by
    rw [hasTypeName_iff, ne_eq, firstWay_eq_none]
    push Not
    rfl
  refine ⟨⟨fun h => h.accepts.mp (tryParseTypeName_fst s), fun h => ?_⟩, fun h => ?_⟩
  · obtain ⟨w, hw⟩ := Option.ne_none_iff_exists'.mp (hsearch.mp h)
    obtain ⟨name, hgroups, hname⟩ := firstTypeName_of_firstWay hcomma hw
    have hvalue : ((regex isWord).matchFirst s).value 1 = name := by
      simp [matchFirst, hw, Match.value, hgroups]
    refine ⟨iff_of_true (tryParseTypeName_fst s) h, fun _ => ⟨name, ?_, hname⟩, fun hfalse => ?_⟩
    · rw [tryParseTypeName_snd, hvalue]
    · rw [tryParseTypeName_fst] at hfalse
      cases hfalse
  · have hnone : (regex isWord).firstWay s = none := by
      by_contra hsome
      exact h (hsearch.mpr hsome)
    apply Prod.ext
    · exact tryParseTypeName_fst s
    · rw [tryParseTypeName_snd]
      simp [matchFirst, hnone, Match.value]

/-- Digits, letters and the underscore. -/
def asciiWord (c : UInt16) : Bool :=
  (48 ≤ c && c ≤ 57) || (65 ≤ c && c ≤ 90) || c == 95 || (97 ≤ c && c ≤ 122)

def text (s : String) : Text := s.toList.map fun c => c.toNat.toUInt16

theorem parsesTypeName_class : ParsesTypeName asciiWord (text "Some.Namespace.Class, Other") := by
  have hname : HasTypeName asciiWord (text "Some.Namespace.Class, Other") :=
    ⟨text "Some.Namespace.Clas", 115, text " Other", by decide, by decide⟩
  exact (parsesTypeName_iff asciiWord (by decide) _).1.mpr hname

example : tryParseTypeName asciiWord (text "Some.Namespace.Class, Other") =
    (true, some (text "Class")) := by decide

/-- Without a comma there is no type name, and the result is true all the same. -/
theorem plain_name_accepted : ¬ ParsesTypeName asciiWord (text "Class") := by
  intro h
  obtain ⟨before, c, after, hs, -⟩ := h.accepts.mp (tryParseTypeName_fst _)
  have hcomma : comma ∈ text "Class" := by simp [hs]
  exact absurd hcomma (by decide)

end IdentifyDataLocks.TypeString
