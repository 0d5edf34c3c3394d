import Mathlib.Data.List.TakeWhile
import ModuleHost.Proofs.Text.Unquoted
import ModuleHost.Toml.Scalar

/-!
# Numbers read back

An integer's digits at the end of a line are no date, no time and no number with a fraction, since
nothing but the line end follows them, and they are read as the integer (`numeric_numeral`).
-/
namespace ModuleHost.Toml

open Text

variable {c x : Char} {ds p q r : List Char} {n : Nat}

/-! ## Digits -/

theorem natOfDigits_concat (base : Nat) (ds : List Char) (c : Char) :
    natOfDigits base (ds ++ [c]) = natOfDigits base ds * base + (hexValue? c).getD 0 := by
  simp only [natOfDigits, List.foldl_append, List.foldl_cons, List.foldl_nil]

theorem natOfDigits_toDigits (n : Nat) : natOfDigits 10 (Nat.toDigits 10 n) = n := by
  have value (d : Nat) (small : d < 10) : (hexValue? d.digitChar).getD 0 = d := by
    rw [hexValue?_digitChar (Nat.lt_trans small (by decide))]
    rfl
  induction n using Nat.strongRecOn with
  | _ n ih =>
    rw [Nat.toDigits_eq_if (by decide)]
    split
    · rename_i small
      simpa [natOfDigits] using value n small
    · rename_i large
      rw [natOfDigits_concat, ih (n / 10) (Nat.div_lt_self (by omega) (by decide)),
        value _ (Nat.mod_lt n (by decide))]
      omega

theorem isDigit_toDigits (n : Nat) : ∀ c ∈ Nat.toDigits 10 n, c.isDigit = true :=
  fun _ => Nat.isDigit_of_mem_toDigits (by decide) (by decide)

theorem toDigits_eq_cons (n : Nat) : ∃ c ds, Nat.toDigits 10 n = c :: ds ∧ c.isDigit = true := by
  obtain ⟨c, ds, digits⟩ := List.exists_cons_of_ne_nil (Nat.toDigits_ne_nil (n := n) (b := 10))
  exact ⟨c, ds, digits, isDigit_toDigits n c (by simp [digits])⟩

theorem eq_zero_of_toDigits (zero : Nat.toDigits 10 n = '0' :: ds) : n = 0 := by
  induction n using Nat.strongRecOn generalizing ds with
  | _ n ih =>
    rw [Nat.toDigits_eq_if (by decide)] at zero
    split at zero
    · rename_i small
      have only : ∀ n < 10, Nat.digitChar n = '0' → n = 0 := by decide
      exact only n small (List.cons.inj zero).1
    · rename_i large
      obtain ⟨first, rest, digits, -⟩ := toDigits_eq_cons (n / 10)
      rw [digits, List.cons_append, List.cons.injEq] at zero
      have none := ih (n / 10) (Nat.div_lt_self (by omega) (by decide)) (digits.trans (by rw [zero.1]))
      omega

theorem digitRun_append (all : ∀ c ∈ ds, c.isDigit = true) (r : List Char) :
    digitRun Char.isDigit (ds ++ '\n' :: r) = (ds, '\n' :: r) := by
  induction ds with
  | nil => rfl
  | cons c ds ih =>
    obtain ⟨first, later⟩ := List.forall_mem_cons.mp all
    have other : c ≠ '_' := by
      rintro rfl
      cases first
    rw [List.cons_append, digitRun.eq_def]
    split
    · rename_i same
      exact absurd (List.cons.inj same).1 other
    · rename_i same
      obtain ⟨rfl, rfl⟩ := List.cons.inj same
      simp only [first, if_true, ih later]
    · rename_i same
      cases same

theorem decimalDigits_append (n : Nat) (r : List Char) :
    decimalDigits (Nat.toDigits 10 n ++ '\n' :: r) = some (Nat.toDigits 10 n, '\n' :: r) := by
  obtain ⟨c, ds, digits, -⟩ := toDigits_eq_cons n
  by_cases zero : c = '0'
  · subst zero
    obtain rfl := eq_zero_of_toDigits digits
    rfl
  · have all := isDigit_toDigits n
    rw [digits] at all ⊢
    obtain ⟨first, later⟩ := List.forall_mem_cons.mp all
    unfold decimalDigits
    split
    · rename_i same
      exact absurd (List.cons.inj same).1 zero
    · simp only [List.cons_append, digits?, first, if_true, digitRun_append later]

theorem next_of_digits (all : ∀ c ∈ ds, c.isDigit = true) (same : ds ++ '\n' :: r = p ++ x :: q)
    (front : ∀ c ∈ p, c.isDigit = true) : x = '\n' ∨ x.isDigit = true := by
  by_contra other
  rw [not_or, Bool.not_eq_true] at other
  have left : (ds ++ '\n' :: r).dropWhile Char.isDigit = ('\n' :: r).dropWhile Char.isDigit :=
    List.dropWhile_append_of_pos all
  have right : (p ++ x :: q).dropWhile Char.isDigit = (x :: q).dropWhile Char.isDigit :=
    List.dropWhile_append_of_pos front
  rw [same, right] at left
  simp only [List.dropWhile_cons, other.2, Bool.false_eq_true, if_false] at left
  have line : Char.isDigit '\n' = false := rfl
  simp only [line, Bool.false_eq_true, if_false, List.cons.injEq] at left
  exact other.1 left.1

/-! ## Integers -/

/-- How an integer is written: a minus for a negative one, and the digits of what is left of it. -/
theorem toList_toString (n : Int) :
    (toString n).toList = (if n < 0 then ['-'] else []) ++ Nat.toDigits 10 n.natAbs := by
  rw [Int.toString_eq_repr]
  cases n with
  | ofNat m =>
    have sign : ¬ Int.ofNat m < 0 := Int.not_lt.mpr (Int.natCast_nonneg m)
    rw [if_neg sign]
    simp [Int.repr, Nat.repr_eq_ofList_toDigits]
  | negSucc m =>
    rw [if_pos (Int.negSucc_lt_zero m)]
    simp [Int.repr, Nat.repr_eq_ofList_toDigits]

theorem signed_natAbs (n : Int) : signed (decide (n < 0)) n.natAbs = n := by
  by_cases negative : n < 0
  · rw [signed, if_pos (decide_eq_true negative)]
    omega
  · rw [signed, if_neg (by simpa using negative)]
    omega

/-- The characters of an integer at the end of a line. -/
def numeral (n : Int) (r : List Char) : List Char := (toString n).toList ++ '\n' :: r

theorem sign_numeral (n : Int) (r : List Char) :
    sign (numeral n r) = (decide (n < 0), Nat.toDigits 10 n.natAbs ++ '\n' :: r) := by
  rw [numeral, toList_toString]
  by_cases negative : n < 0
  · simp [negative, sign]
  · obtain ⟨c, ds, digits, first⟩ := toDigits_eq_cons n.natAbs
    simp only [negative, if_false, List.nil_append, digits, List.cons_append, decide_false]
    unfold sign
    split
    · rename_i same
      obtain ⟨rfl, -⟩ := List.cons.inj same
      cases first
    · rename_i same
      obtain ⟨rfl, -⟩ := List.cons.inj same
      cases first
    · rfl

theorem next_of_numeral {n : Int} (same : numeral n r = p ++ x :: q)
    (front : ∀ c ∈ p, c.isDigit = true) (some : p ≠ []) : x = '\n' ∨ x.isDigit = true := by
  rw [numeral, toList_toString] at same
  by_cases negative : n < 0
  · obtain ⟨c, p', rfl⟩ := List.exists_cons_of_ne_nil some
    rw [if_pos negative] at same
    obtain ⟨rfl, -⟩ := List.cons.inj same
    cases front '-' (by simp)
  · rw [if_neg negative] at same
    exact next_of_digits (isDigit_toDigits n.natAbs) same front

theorem startsDate_numeral (n : Int) (r : List Char) : startsDate (numeral n r) = false := by
  unfold startsDate
  split
  · rename_i a b c d q same
    rw [List.all_eq_false]
    by_contra digits
    simp only [not_exists, not_and, not_not] at digits
    rcases next_of_numeral (p := [a, b, c, d]) same digits (by simp) with line | digit
    · cases line
    · cases digit
  · rfl

theorem twoDigits_eq_some {low high : Nat} (h : twoDigits low high p = some (n, q)) :
    ∃ a b, p = a :: b :: q ∧ ∀ c ∈ [a, b], c.isDigit = true := by
  unfold twoDigits at h
  split at h
  · rename_i a b r
    split at h
    · rename_i digits
      simp only at h
      split at h
      · cases h
        exact ⟨a, b, rfl, by simpa using digits⟩
      · cases h
    · cases h
  · cases h

theorem char_eq_some (h : char c p = some q) : p = c :: q := by
  unfold char at h
  split at h
  · split at h
    · rename_i same
      cases h
      rw [same]
    · cases h
  · cases h

theorem startsTime_numeral (n : Int) (r : List Char) : startsTime (numeral n r) = false := by
  rw [startsTime, Option.isSome_eq_false_iff, Option.isNone_iff_eq_none,
    Option.eq_none_iff_forall_ne_some]
  intro q read
  obtain ⟨⟨m, rest⟩, two, colon⟩ := Option.bind_eq_some_iff.mp read
  obtain ⟨a, b, same, digits⟩ := twoDigits_eq_some two
  rw [char_eq_some colon] at same
  rcases next_of_numeral (p := [a, b]) same digits (by simp) with line | digit
  · cases line
  · cases digit

theorem float_numeral (n : Int) (r : List Char) : float (numeral n r) = none := by
  obtain ⟨c, ds, digits, first⟩ := toDigits_eq_cons n.natAbs
  have whole := decimalDigits_append n.natAbs r
  simp only [float, sign_numeral]
  rw [digits, List.cons_append] at whole ⊢
  split
  · rename_i same
    obtain ⟨rfl, -⟩ := List.cons.inj same
    cases first
  · rename_i same
    obtain ⟨rfl, -⟩ := List.cons.inj same
    cases first
  · rw [whole]
    rfl

/-- No digit stands behind a zero at the front, nor a letter that announces another base. -/
theorem next_of_zero {n : Int} (same : numeral n r = '0' :: x :: q) : x = '\n' := by
  rw [numeral, toList_toString] at same
  by_cases negative : n < 0
  · rw [if_pos negative] at same
    cases (List.cons.inj same).1
  · obtain ⟨c, ds, digits, -⟩ := toDigits_eq_cons n.natAbs
    rw [if_neg negative, List.nil_append, digits, List.cons_append] at same
    obtain ⟨rfl, next⟩ := List.cons.inj same
    rw [eq_zero_of_toDigits digits] at digits
    obtain ⟨-, rfl⟩ := List.cons.inj digits
    exact (List.cons.inj next).1.symm

theorem integer_numeral (n : Int) (r : List Char) (range : inRange n = true) :
    integer (numeral n r) = some (n, '\n' :: r) := by
  have other (x : Char) (q : List Char) (letter : x ≠ '\n') : numeral n r ≠ '0' :: x :: q :=
    fun same => letter (next_of_zero same)
  have value := signed_natAbs n
  unfold integer
  split
  · rename_i same
    exact absurd same (other _ _ (by decide))
  · rename_i same
    exact absurd same (other _ _ (by decide))
  · rename_i same
    exact absurd same (other _ _ (by decide))
  · simp only [sign_numeral, decimalDigits_append, Option.map_some, natOfDigits_toDigits, value,
      Option.bind_eq_bind, Option.bind_some, range, if_true]

/-- **An integer is read back** from its digits at the end of a line. -/
theorem numeric_numeral (n : Int) (r : List Char) (range : inRange n = true) :
    numeric (numeral n r) = some (.integer n, '\n' :: r) := by
  simp only [numeric, startsDate_numeral, startsTime_numeral, float_numeral,
    integer_numeral n r range, Bool.or_self, Bool.false_eq_true, if_false, Option.map_some]

end ModuleHost.Toml
