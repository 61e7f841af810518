import Mathlib

/-! Regular expressions over any alphabet, matched by backtracking: classes of one character,
greedy repetition of a class, sequence and capture groups. The ways to match at a position are
listed in the order in which a greedy engine tries them. -/
namespace IdentifyDataLocks.Regex

variable {α : Type*}

inductive Pattern (α : Type*)
  | one (p : α → Bool)
  | oneOrMore (p : α → Bool)
  | seq (first second : Pattern α)
  | group (inner : Pattern α)

/-- One way to match a prefix of a text: the prefix, its captures and the rest. -/
structure Way (α : Type*) where
  consumed : List α
  groups : List (List α)
  rest : List α

/-- The nonempty prefixes in the class with what follows them, the longest first. -/
def runs (p : α → Bool) : List α → List (List α × List α)
  | [] => []
  | c :: s => if p c then (runs p s).map (fun run => (c :: run.1, run.2)) ++ [([c], s)] else []

namespace Pattern

def ways : Pattern α → List α → List (Way α)
  | one _, [] => []
  | one p, c :: s => if p c then [⟨[c], [], s⟩] else []
  | oneOrMore p, s => (runs p s).map fun run => ⟨run.1, [], run.2⟩
  | seq a b, s => (a.ways s).flatMap fun w => (b.ways w.rest).map fun w' =>
      ⟨w.consumed ++ w'.consumed, w.groups ++ w'.groups, w'.rest⟩
  | group a, s => (a.ways s).map fun w => { w with groups := w.consumed :: w.groups }

/-- The texts of a pattern, each with the captures of its groups from left to right. -/
inductive Matches : Pattern α → List α → List (List α) → Prop
  | one {p : α → Bool} {c : α} (hc : p c = true) : Matches (.one p) [c] []
  | oneOrMore {p : α → Bool} {run : List α} (hne : run ≠ []) (hrun : ∀ c ∈ run, p c = true) :
      Matches (.oneOrMore p) run []
  | seq {a b : Pattern α} {x y : List α} {gs hs : List (List α)} (ha : Matches a x gs)
      (hb : Matches b y hs) : Matches (.seq a b) (x ++ y) (gs ++ hs)
  | group {a : Pattern α} {x : List α} {gs : List (List α)} (ha : Matches a x gs) :
      Matches (.group a) x (x :: gs)

end Pattern

theorem mem_runs_cons {p : α → Bool} {c : α} {s : List α} {run : List α × List α} :
    run ∈ runs p (c :: s) ↔
      p c = true ∧ ((∃ tail ∈ runs p s, (c :: tail.1, tail.2) = run) ∨ run = ([c], s)) := by
  cases hc : p c with
  | false => simp [runs, hc]
  | true => simp only [runs, hc, if_true, List.mem_append, List.mem_map, List.mem_singleton, true_and]

/-- A run is a nonempty prefix in the class; any such prefix is one of the runs. -/
theorem mem_runs_iff {p : α → Bool} {s : List α} {run : List α × List α} :
    run ∈ runs p s ↔ run.1 ++ run.2 = s ∧ run.1 ≠ [] ∧ ∀ c ∈ run.1, p c = true := by
  induction s generalizing run with
  | nil =>
    simp only [runs, List.not_mem_nil, List.append_eq_nil_iff, false_iff]
    intro h
    exact h.2.1 h.1.1
  | cons c s ih =>
    rw [mem_runs_cons]
    constructor
    · intro h
      obtain ⟨hc, ⟨tail, htail, rfl⟩ | rfl⟩ := h
      · obtain ⟨happ, -, htail⟩ := ih.mp htail
        simpa [happ, hc] using htail
      · simp [hc]
    · intro h
      obtain ⟨x, rest⟩ := run
      obtain ⟨happ, hne, hrun⟩ := h
      cases x with
      | nil => exact absurd rfl hne
      | cons d x =>
        simp only [List.cons_append, List.cons.injEq] at happ
        obtain ⟨rfl, happ⟩ := happ
        simp only [List.forall_mem_cons] at hrun
        refine ⟨hrun.1, ?_⟩
        cases x with
        | nil => exact Or.inr (by simpa using happ)
        | cons e x => exact Or.inl ⟨(e :: x, rest), ih.mpr ⟨happ, by simp, hrun.2⟩, rfl⟩

namespace Pattern

theorem mem_ways_seq {a b : Pattern α} {s : List α} {w : Way α} :
    w ∈ (seq a b).ways s ↔ ∃ v ∈ a.ways s, ∃ v' ∈ b.ways v.rest,
      ⟨v.consumed ++ v'.consumed, v.groups ++ v'.groups, v'.rest⟩ = w := by
  simp only [ways, List.mem_flatMap, List.mem_map]

/-- The ways to match at a position are the prefixes that are texts of the pattern. -/
theorem mem_ways_iff {a : Pattern α} {s : List α} {w : Way α} :
    w ∈ a.ways s ↔ w.consumed ++ w.rest = s ∧ a.Matches w.consumed w.groups := by
  induction a generalizing s w with
  | one p =>
    constructor
    · intro h
      cases s with
      | nil => simp [ways] at h
      | cons c s =>
        cases hc : p c with
        | false => simp [ways, hc] at h
        | true =>
          simp only [ways, hc, if_true, List.mem_singleton] at h
          subst h
          exact ⟨rfl, .one hc⟩
    · intro h
      obtain ⟨x, gs, rest⟩ := w
      obtain ⟨rfl, hm⟩ := h
      cases hm with
      | one hc => simp [ways, hc]
  | oneOrMore p =>
    simp only [ways, List.mem_map]
    constructor
    · intro h
      obtain ⟨run, hrun, rfl⟩ := h
      obtain ⟨happ, hne, hall⟩ := mem_runs_iff.mp hrun
      exact ⟨happ, .oneOrMore hne hall⟩
    · intro h
      obtain ⟨x, gs, rest⟩ := w
      obtain ⟨happ, hm⟩ := h
      cases hm with
      | oneOrMore hne hall => exact ⟨(x, rest), mem_runs_iff.mpr ⟨happ, hne, hall⟩, rfl⟩
  | seq a b iha ihb =>
    rw [mem_ways_seq]
    constructor
    · intro h
      obtain ⟨v, hv, v', hv', rfl⟩ := h
      obtain ⟨happ, hm⟩ := iha.mp hv
      obtain ⟨happ', hm'⟩ := ihb.mp hv'
      refine ⟨?_, .seq hm hm'⟩
      rw [List.append_assoc, happ', happ]
    · intro h
      obtain ⟨x, gs, rest⟩ := w
      obtain ⟨rfl, hm⟩ := h
      cases hm with
      | @seq _ _ x y gs hs ha hb =>
        exact ⟨⟨x, gs, y ++ rest⟩, iha.mpr ⟨(List.append_assoc x y rest).symm, ha⟩,
          ⟨y, hs, rest⟩, ihb.mpr ⟨rfl, hb⟩, rfl⟩
  | group a ih =>
    simp only [ways, List.mem_map]
    constructor
    · intro h
      obtain ⟨v, hv, rfl⟩ := h
      obtain ⟨happ, hm⟩ := ih.mp hv
      exact ⟨happ, .group hm⟩
    · intro h
      obtain ⟨x, gs, rest⟩ := w
      obtain ⟨happ, hm⟩ := h
      simp only at happ hm
      cases hm with
      | @group _ _ gs ha => exact ⟨⟨x, gs, rest⟩, ih.mpr ⟨happ, ha⟩, rfl⟩

/-- The first way at the leftmost position that has one. -/
def firstWay (a : Pattern α) : List α → Option (Way α)
  | [] => (a.ways []).head?
  | c :: s => ((a.ways (c :: s)).head?).or (firstWay a s)

/-- The pattern matches the text `x` with captures `gs`, somewhere in `s` after `before`. -/
def Occurs (a : Pattern α) (s before x : List α) (gs : List (List α)) : Prop :=
  a.Matches x gs ∧ ∃ rest, before ++ (x ++ rest) = s

theorem head?_ways_eq_none {a : Pattern α} {s : List α} :
    (a.ways s).head? = none ↔ ∀ x gs, ¬ a.Occurs s [] x gs := by
  rw [List.head?_eq_none_iff, List.eq_nil_iff_forall_not_mem]
  constructor
  · intro h x gs hoccurs
    obtain ⟨hm, rest, happ⟩ := hoccurs
    exact h ⟨x, gs, rest⟩ (mem_ways_iff.mpr ⟨happ, hm⟩)
  · intro h w hw
    obtain ⟨happ, hm⟩ := mem_ways_iff.mp hw
    exact h w.consumed w.groups ⟨hm, w.rest, happ⟩

theorem occurs_cons {a : Pattern α} {c : α} {s before x : List α} {gs : List (List α)} :
    a.Occurs (c :: s) before x gs ↔
      (before = [] ∧ a.Occurs (c :: s) [] x gs) ∨
        ∃ tail, before = c :: tail ∧ a.Occurs s tail x gs := by
  cases before with
  | nil => simp
  | cons d before =>
    simp only [Occurs, List.cons_append, List.cons.injEq, reduceCtorEq, false_and, false_or]
    constructor
    · intro h
      obtain ⟨hm, rest, rfl, happ⟩ := h
      exact ⟨before, ⟨rfl, rfl⟩, hm, rest, happ⟩
    · intro h
      obtain ⟨tail, ⟨rfl, rfl⟩, hm, rest, happ⟩ := h
      exact ⟨hm, rest, rfl, happ⟩

/-- A search fails exactly where the pattern occurs nowhere. -/
theorem firstWay_eq_none {a : Pattern α} {s : List α} :
    a.firstWay s = none ↔ ∀ before x gs, ¬ a.Occurs s before x gs := by
  induction s with
  | nil =>
    rw [firstWay, head?_ways_eq_none]
    constructor
    · intro h before x gs hoccurs
      have hnil : before = [] := by
        obtain ⟨-, rest, happ⟩ := hoccurs
        exact (List.append_eq_nil_iff.mp happ).1
      exact h x gs (hnil ▸ hoccurs)
    · intro h
      exact h []
  | cons c s ih =>
    rw [firstWay, Option.or_eq_none_iff, head?_ways_eq_none, ih]
    constructor
    · intro h before x gs hoccurs
      rcases occurs_cons.mp hoccurs with ⟨-, hhere⟩ | ⟨tail, -, hlater⟩
      · exact h.1 x gs hhere
      · exact h.2 tail x gs hlater
    · intro h
      refine ⟨h [], fun before x gs hoccurs => ?_⟩
      exact h (c :: before) x gs (occurs_cons.mpr (Or.inr ⟨before, rfl, hoccurs⟩))

/-- A match found is an occurrence, and none starts further to the left. -/
theorem firstWay_eq_some {a : Pattern α} {s : List α} {w : Way α} (h : a.firstWay s = some w) :
    ∃ before, before ++ (w.consumed ++ w.rest) = s ∧ a.Matches w.consumed w.groups ∧
      ∀ l x gs, a.Occurs s l x gs → before.length ≤ l.length := by
  induction s with
  | nil =>
    rw [firstWay] at h
    obtain ⟨happ, hm⟩ := mem_ways_iff.mp (List.mem_of_mem_head? h)
    exact ⟨[], happ, hm, fun l x gs _ => Nat.zero_le _⟩
  | cons c s ih =>
    rw [firstWay] at h
    cases hhead : (a.ways (c :: s)).head? with
    | some v =>
      rw [hhead, Option.some_or, Option.some.injEq] at h
      subst h
      obtain ⟨happ, hm⟩ := mem_ways_iff.mp (List.mem_of_mem_head? hhead)
      exact ⟨[], happ, hm, fun l x gs _ => Nat.zero_le _⟩
    | none =>
      rw [hhead, Option.none_or] at h
      obtain ⟨before, happ, hm, hleft⟩ := ih h
      refine ⟨c :: before, by rw [List.cons_append, happ], hm, fun l x gs hoccurs => ?_⟩
      rcases occurs_cons.mp hoccurs with ⟨-, hhere⟩ | ⟨tail, rfl, hlater⟩
      · exact absurd hhere (head?_ways_eq_none.mp hhead x gs)
      · have hle := hleft tail x gs hlater
        simp only [List.length_cons]
        omega

end Pattern

/-- Group 0 is the whole match. A failed match has that group alone, and it is empty, as is
any group that a match does not have. -/
structure Match (α : Type*) where
  groups : List (List α)

namespace Match

def count (m : Match α) : ℕ := m.groups.length

def value (m : Match α) (n : ℕ) : List α := m.groups.getD n []

end Match

def Pattern.matchFirst (a : Pattern α) (s : List α) : Match α :=
  match a.firstWay s with
  | some w => ⟨w.consumed :: w.groups⟩
  | none => ⟨[[]]⟩

theorem Pattern.count_matchFirst_pos (a : Pattern α) (s : List α) :
    0 < (a.matchFirst s).count := by
  unfold matchFirst
  cases a.firstWay s with
  | none => simp [Match.count]
  | some w => simp [Match.count]

end IdentifyDataLocks.Regex
