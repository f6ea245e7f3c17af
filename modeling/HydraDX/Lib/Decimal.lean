import Mathlib.Data.Nat.Digits.Lemmas
import Mathlib.Tactic

set_option autoImplicit false

/-! # Decimal numbers as text

`decimal n` is the text of `n` in ASCII digits, the most significant first; zero is the empty
text, and `numeral n` writes it as a digit. Reading a text digit by digit, the number only grows
(`le_valueFrom`), so a bound on the number is a bound on all that is read before. A text that is
framed by its length, written in decimal without any separator, can be read back
(`framed_injective`): the length of the whole grows with the length of the text, so two frames that
are equal have texts of the same length. -/

namespace Decimal

/-- The ASCII character of a digit. -/
def digit (d : Nat) : UInt8 := UInt8.ofNat (48 + d)

def decimal (n : Nat) : List UInt8 := ((Nat.digits 10 n).map digit).reverse

/-- The number that a text of digits denotes. -/
def value (text : List UInt8) : Nat := text.foldl (fun n c => 10 * n + (c.toNat - 48)) 0

theorem digit_toNat {d : Nat} (hd : d < 10) : (digit d).toNat = 48 + d := by
  unfold digit
  rw [UInt8.toNat_ofNat_of_lt']
  show 48 + d < 256
  omega

/-- The digits of a text are digits. -/
theorem isDigit_of_mem {n : Nat} {c : UInt8} (h : c ∈ decimal n) :
    48 ≤ c.toNat ∧ c.toNat ≤ 57 := by
  unfold decimal at h
  rw [List.mem_reverse, List.mem_map] at h
  obtain ⟨d, hd, rfl⟩ := h
  have hlt : d < 10 := Nat.digits_lt_base (by decide) hd
  rw [digit_toNat hlt]
  omega

/-- **The text of a number denotes the number.** -/
theorem value_decimal (n : Nat) : value (decimal n) = n := by
  have key : ∀ ds : List Nat, (∀ d ∈ ds, d < 10) →
      (ds.map digit).foldr (fun c n => 10 * n + (c.toNat - 48)) 0 = Nat.ofDigits 10 ds := by
    intro ds
    induction ds with
    | nil => intro _; rfl
    | cons d ds ih =>
        intro h
        have hd : (digit d).toNat = 48 + d := digit_toNat (h d List.mem_cons_self)
        have hrest := ih (fun d' hd' => h d' (List.mem_cons_of_mem d hd'))
        rw [List.map_cons, List.foldr_cons, hrest, hd, Nat.ofDigits_cons]
        omega
  unfold value decimal
  rw [List.foldl_reverse, key _ (fun d hd => Nat.digits_lt_base (by decide) hd),
    Nat.ofDigits_digits]

theorem decimal_eq_nil_iff {n : Nat} : decimal n = [] ↔ n = 0 := by
  unfold decimal
  rw [List.reverse_eq_nil_iff, List.map_eq_nil_iff, Nat.digits_eq_nil_iff_eq_zero]

/-- There are no leading zeros. -/
theorem head?_ne_zero (n : Nat) : (decimal n).head? ≠ some 48 := by
  unfold decimal
  rw [List.head?_reverse, List.getLast?_map]
  by_cases hn : n = 0
  · rw [hn, Nat.digits_zero]
    nofun
  · have hne : Nat.digits 10 n ≠ [] := Nat.digits_ne_nil_iff_ne_zero.mpr hn
    have hlast : (Nat.digits 10 n).getLast hne ≠ 0 := Nat.getLast_digit_ne_zero 10 hn
    have hlt : (Nat.digits 10 n).getLast hne < 10 :=
      Nat.digits_lt_base (by decide) (List.getLast_mem hne)
    rw [List.getLast?_eq_some_getLast hne]
    intro h
    have hzero := congrArg UInt8.toNat (Option.some.inj h)
    rw [digit_toNat hlt] at hzero
    have h48 : (48 : UInt8).toNat = 48 := rfl
    omega

theorem length_decimal_mono {n m : Nat} (h : n ≤ m) :
    (decimal n).length ≤ (decimal m).length := by
  unfold decimal
  rw [List.length_reverse, List.length_reverse, List.length_map, List.length_map]
  exact Nat.le_length_digits_le 10 n m h

/-- **A text framed by its length can be read back.** -/
theorem framed_injective {header text text' : List UInt8}
    (h : header ++ decimal text.length ++ text = header ++ decimal text'.length ++ text') :
    text = text' := by
  have hlength : text.length = text'.length := by
    have hsum := congrArg List.length h
    simp only [List.length_append] at hsum
    rcases Nat.lt_trichotomy text.length text'.length with hlt | heq | hgt
    · have hle := length_decimal_mono hlt.le
      omega
    · exact heq
    · have hle := length_decimal_mono hgt.le
      omega
  rw [hlength] at h
  exact List.append_cancel_left h

/-! ## Numerals -/

def IsDigit (c : UInt8) : Prop := 48 ≤ c.toNat ∧ c.toNat ≤ 57

instance (c : UInt8) : Decidable (IsDigit c) :=
  inferInstanceAs (Decidable (48 ≤ c.toNat ∧ c.toNat ≤ 57))

/-- The text of a number, with a digit for zero. -/
def numeral (n : Nat) : List UInt8 := if n = 0 then [48] else decimal n

/-- The number that is read if `text` is read after `n`. -/
def valueFrom (n : Nat) (text : List UInt8) : Nat :=
  text.foldl (fun n c => 10 * n + (c.toNat - 48)) n

theorem valueFrom_cons (n : Nat) (c : UInt8) (text : List UInt8) :
    valueFrom n (c :: text) = valueFrom (10 * n + (c.toNat - 48)) text := by
  unfold valueFrom
  rw [List.foldl_cons]

theorem le_valueFrom (n : Nat) (text : List UInt8) : n ≤ valueFrom n text := by
  induction text generalizing n with
  | nil => exact Nat.le_refl n
  | cons c text ih =>
      have hnext := ih (10 * n + (c.toNat - 48))
      rw [valueFrom_cons]
      omega

theorem value_numeral (n : Nat) : value (numeral n) = n := by
  unfold numeral
  split_ifs with h
  · rw [h]
    rfl
  · exact value_decimal n

theorem numeral_ne_nil (n : Nat) : numeral n ≠ [] := by
  unfold numeral
  split_ifs with h
  · exact List.cons_ne_nil _ _
  · rwa [ne_eq, decimal_eq_nil_iff]

theorem isDigit_of_mem_numeral {n : Nat} {c : UInt8} (h : c ∈ numeral n) : IsDigit c := by
  unfold numeral at h
  split_ifs at h
  · rw [List.mem_singleton.mp h]
    decide
  · exact isDigit_of_mem h

end Decimal
