import Mathlib

/-! Numbers as texts: what the digits of a text amount to, thousands set off by commas, and
amounts of money to the penny. -/
namespace IdentifyDataLocks.Numerals

def digits (s : String) : List Char := s.toList.filter Char.isDigit

/-- The number that the digits of a text spell, whatever stands between them. -/
def value (s : String) : ℕ := Nat.ofDigitChars 10 (digits s) 0

theorem digits_append (s t : String) : digits (s ++ t) = digits s ++ digits t := by
  simp [digits]

theorem value_append (s t : String) :
    value (s ++ t) = value s * 10 ^ (digits t).length + value t := by
  rw [value, digits_append, Nat.ofDigitChars_append, Nat.ofDigitChars_eq_ofDigitChars_zero]
  rw [value, value, mul_comm]

theorem isDigit_of_mem_repr {n : ℕ} {c : Char} (h : c ∈ n.repr.toList) : c.isDigit := by
  rw [Nat.toList_repr] at h
  exact Nat.isDigit_of_mem_toDigits (by decide) (by decide) h

/-- A number is written in digits alone. -/
theorem digits_repr_eq (n : ℕ) : digits n.repr = n.repr.toList :=
  List.filter_eq_self.mpr fun _ => isDigit_of_mem_repr

theorem digits_repr (n : ℕ) : digits n.repr = Nat.toDigits 10 n := by
  rw [digits_repr_eq, Nat.toList_repr]

theorem digits_repr_ne_nil (n : ℕ) : digits n.repr ≠ [] := by
  rw [digits_repr]
  exact Nat.toDigits_ne_nil

theorem digits_int_repr_ne_nil (n : ℤ) : digits n.repr ≠ [] := by
  cases n with
  | ofNat n => exact digits_repr_ne_nil n
  | negSucc n =>
    change digits ("-" ++ (n + 1).repr) ≠ []
    rw [digits_append]
    exact List.append_ne_nil_of_right_ne_nil _ (digits_repr_ne_nil (n + 1))

theorem value_repr (n : ℕ) : value n.repr = n := by
  rw [value, digits_repr, Nat.ofDigitChars_ten_toDigits]

/-- A digit is one character long. -/
theorem length_digits_repr {n : ℕ} (h : n < 10) : (digits n.repr).length = 1 := by
  rw [digits_repr, Nat.toDigits_of_lt_base h]
  rfl

/-! Thousands. -/

/-- The digits of a number from its units up, with a comma behind each third of them. -/
def groupReversed : List Char → List Char
  | a :: b :: c :: rest =>
    match rest with
    | [] => [a, b, c]
    | _ :: _ => a :: b :: c :: ',' :: groupReversed rest
  | cs => cs

def groupThousands (cs : List Char) : List Char := (groupReversed cs.reverse).reverse

/-- The commas are the only characters added. -/
theorem filter_groupReversed (cs : List Char) (h : ∀ c ∈ cs, c.isDigit) :
    (groupReversed cs).filter Char.isDigit = cs := by
  induction cs using groupReversed.induct with
  | case1 a b c =>
    rw [groupReversed, List.filter_eq_self]
    exact h
  | case2 a b c d rest ih =>
    simp only [List.forall_mem_cons] at h
    obtain ⟨ha, hb, hc, hrest⟩ := h
    have hcomma : ','.isDigit = false := by decide
    have ih := ih (List.forall_mem_cons.mpr hrest)
    rw [groupReversed]
    simp [ha, hb, hc, hcomma, ih]
  | case3 cs hshort =>
    rw [groupReversed.eq_def]
    split
    · exact absurd rfl (hshort _ _ _ _)
    · rw [List.filter_eq_self]
      exact h

def thousands (n : ℕ) : String := String.ofList (groupThousands n.repr.toList)

theorem digits_thousands (n : ℕ) : digits (thousands n) = digits n.repr := by
  have hdigit : ∀ c ∈ n.repr.toList.reverse, c.isDigit := by
    intro c hc
    exact isDigit_of_mem_repr (List.mem_reverse.mp hc)
  rw [digits_repr_eq, digits, thousands, String.toList_ofList, groupThousands, List.filter_reverse,
    filter_groupReversed _ hdigit, List.reverse_reverse]

theorem value_thousands (n : ℕ) : value (thousands n) = n := by
  rw [value, digits_thousands]
  exact value_repr n

example : thousands 1234567 = "1,234,567" := by decide

/-! Money. -/

/-- An amount in whole pennies; half a penny is rounded away from zero. -/
def pennies (x : ℚ) : ℤ := if 0 ≤ x then ⌊100 * x + 1 / 2⌋ else -⌊-(100 * x) + 1 / 2⌋

theorem abs_sub_pennies_le (x : ℚ) : |100 * x - pennies x| ≤ 1 / 2 := by
  unfold pennies
  split
  · have hle := Int.floor_le (100 * x + 1 / 2)
    have hlt := Int.lt_floor_add_one (100 * x + 1 / 2)
    rw [abs_le]
    constructor <;> linarith
  · have hle := Int.floor_le (-(100 * x) + 1 / 2)
    have hlt := Int.lt_floor_add_one (-(100 * x) + 1 / 2)
    rw [abs_le]
    push_cast
    constructor <;> linarith

theorem pennies_of_whole {x : ℚ} {n : ℤ} (h : 100 * x = n) : pennies x = n := by
  have hbound := abs_le.mp (abs_sub_pennies_le x)
  rw [h] at hbound
  have hlo : (-1 : ℚ) < ((n - pennies x : ℤ) : ℚ) := by
    push_cast
    linarith
  have hhi : ((n - pennies x : ℤ) : ℚ) < 1 := by
    push_cast
    linarith
  have hlo' : -1 < n - pennies x := by exact_mod_cast hlo
  have hhi' : n - pennies x < 1 := by exact_mod_cast hhi
  omega

theorem abs_sum_sub_le (xs : List ℚ) :
    |100 * xs.sum - ((xs.map pennies).sum : ℤ)| ≤ xs.length / 2 := by
  induction xs with
  | nil => simp
  | cons x xs ih =>
    have hx := abs_le.mp (abs_sub_pennies_le x)
    have ih := abs_le.mp ih
    rw [List.map_cons, List.sum_cons, List.sum_cons, List.length_cons, Int.cast_add, Nat.cast_succ,
      abs_le]
    constructor <;> linarith

/-- Rounded amounts add up to their rounded sum, but for half a penny on each number. -/
theorem pennies_sum (xs : List ℚ) :
    2 * |pennies xs.sum - (xs.map pennies).sum| ≤ xs.length + 1 := by
  have hsum := abs_le.mp (abs_sum_sub_le xs)
  have htotal := abs_le.mp (abs_sub_pennies_le xs.sum)
  have hbound : 2 * |((pennies xs.sum - (xs.map pennies).sum : ℤ) : ℚ)| ≤ xs.length + 1 := by
    have habs : |((pennies xs.sum - (xs.map pennies).sum : ℤ) : ℚ)| ≤ (xs.length + 1) / 2 := by
      rw [Int.cast_sub, abs_le]
      constructor <;> linarith
    linarith
  exact_mod_cast hbound

theorem pennies_sum_of_whole {xs : List ℚ} (h : ∀ x ∈ xs, ∃ n : ℤ, 100 * x = n) :
    pennies xs.sum = (xs.map pennies).sum := by
  apply pennies_of_whole
  induction xs with
  | nil => simp
  | cons x xs ih =>
    rw [List.forall_mem_cons] at h
    obtain ⟨⟨n, hn⟩, hxs⟩ := h
    rw [List.sum_cons, mul_add, ih hxs, hn, List.map_cons, List.sum_cons, pennies_of_whole hn]
    push_cast
    rfl

def twoDigits (n : ℕ) : String := (n / 10).repr ++ (n % 10).repr

theorem value_twoDigits (n : ℕ) : value (twoDigits n) = n := by
  rw [twoDigits, value_append, value_repr, value_repr, length_digits_repr (Nat.mod_lt n (by decide))]
  omega

theorem length_digits_twoDigits {n : ℕ} (h : n < 100) : (digits (twoDigits n)).length = 2 := by
  rw [twoDigits, digits_append, List.length_append, length_digits_repr (by omega),
    length_digits_repr (by omega)]

/-- The sign of what is left after rounding, the symbol, the pounds and the pence. -/
def money (symbol : Char) (x : ℚ) : String :=
  (if pennies x < 0 then "-" else "") ++ String.singleton symbol ++
    thousands ((pennies x).natAbs / 100) ++ "." ++ twoDigits ((pennies x).natAbs % 100)

section Money
variable {symbol : Char} {x y : ℚ}

theorem value_money (h : ¬ symbol.isDigit) : value (money symbol x) = (pennies x).natAbs := by
  have hsign : value (if pennies x < 0 then "-" else "") = 0 := by
    split
    · rfl
    · rfl
  have hsymbol : digits (String.singleton symbol) = [] := by simp [digits, h]
  have hpoint : digits "." = [] := by decide
  rw [money, value_append, value_append, value_append, value_append, hsign, value_thousands,
    value_twoDigits, length_digits_twoDigits (Nat.mod_lt _ (by decide))]
  simp only [value, hsymbol, hpoint, Nat.ofDigitChars_nil, List.length_nil]
  omega

theorem digits_money_ne_nil : digits (money symbol x) ≠ [] := by
  have hpence : ∀ n, digits (twoDigits n) ≠ [] := by
    intro n
    rw [twoDigits, digits_append]
    exact List.append_ne_nil_of_right_ne_nil _ (digits_repr_ne_nil _)
  rw [money, digits_append]
  exact List.append_ne_nil_of_right_ne_nil _ (hpence _)

theorem head?_money_iff (h : symbol ≠ '-') :
    (money symbol x).toList.head? = some '-' ↔ pennies x < 0 := by
  unfold money
  split <;> simp_all

/-- Two amounts read alike when they are the same to the penny. -/
theorem money_eq_iff (hdigit : ¬ symbol.isDigit) (hminus : symbol ≠ '-') :
    money symbol x = money symbol y ↔ pennies x = pennies y := by
  constructor
  · intro h
    have hvalue : (pennies x).natAbs = (pennies y).natAbs := by
      rw [← value_money hdigit, h, value_money hdigit]
    have hsign : pennies x < 0 ↔ pennies y < 0 := by
      rw [← head?_money_iff hminus, h, head?_money_iff hminus]
    omega
  · intro h
    rw [money, money, h]

end Money

example : money '£' (-1234567 / 1000) = "-£1,234.57" := by decide +kernel

end IdentifyDataLocks.Numerals
