import Mathlib.Tactic

set_option autoImplicit false

/-! # Hexadecimal text

Bytes written as pairs of hexadecimal digits. `decode` reads digits of either case, two for a
byte; it fails on any other character and on an odd number of digits. `encode` writes lower case
digits. Decoding undoes encoding (`decode_encode`), and a text is decoded exactly if it consists
of an even number of digits (`decode_eq_some`, `exists_decode`). -/

namespace Hex

/-- The value of a hexadecimal digit. -/
def digitValue (c : Char) : Option Nat :=
  if 48 ≤ c.toNat ∧ c.toNat ≤ 57 then some (c.toNat - 48)
  else if 97 ≤ c.toNat ∧ c.toNat ≤ 102 then some (c.toNat - 87)
  else if 65 ≤ c.toNat ∧ c.toNat ≤ 70 then some (c.toNat - 55)
  else none

def IsDigit (c : Char) : Prop := (digitValue c).isSome = true

instance (c : Char) : Decidable (IsDigit c) := inferInstanceAs (Decidable (_ = true))

/-- The lower case digit with a value. -/
def digitChar (n : Nat) : Char := if n < 10 then Char.ofNat (48 + n) else Char.ofNat (87 + n)

def decode : List Char → Option (List UInt8)
  | [] => some []
  | [_] => none
  | a :: b :: text =>
      match digitValue a, digitValue b, decode text with
      | some x, some y, some bytes => some (UInt8.ofNat (16 * x + y) :: bytes)
      | _, _, _ => none

def encode : List UInt8 → List Char
  | [] => []
  | byte :: bytes => digitChar (byte.toNat / 16) :: digitChar (byte.toNat % 16) :: encode bytes

/-! ## Digits -/

theorem digitValue_digitChar {n : Nat} (h : n < 16) : digitValue (digitChar n) = some n := by
  interval_cases n
  all_goals rfl

theorem isDigit_digitChar {n : Nat} (h : n < 16) : IsDigit (digitChar n) := by
  unfold IsDigit
  rw [digitValue_digitChar h]
  rfl

/-- Digits are ASCII characters, one byte each. -/
theorem utf8Size_of_isDigit {c : Char} (h : IsDigit c) : c.utf8Size = 1 := by
  have hle : c.toNat ≤ 102 := by
    unfold IsDigit digitValue at h
    split_ifs at h with h₁ h₂ h₃
    · omega
    · omega
    · omega
    · cases h
  rw [Char.utf8Size_eq_one_iff, UInt32.le_iff_toNat_le]
  show c.toNat ≤ 127
  omega

/-! ## Text -/

theorem decode_encode (bytes : List UInt8) : decode (encode bytes) = some bytes := by
  induction bytes with
  | nil => rfl
  | cons byte bytes ih =>
      have hlt : byte.toNat < 256 := byte.toNat_lt
      have hhigh : digitValue (digitChar (byte.toNat / 16)) = some (byte.toNat / 16) :=
        digitValue_digitChar (by omega)
      have hlow : digitValue (digitChar (byte.toNat % 16)) = some (byte.toNat % 16) :=
        digitValue_digitChar (by omega)
      have hbyte : 16 * (byte.toNat / 16) + byte.toNat % 16 = byte.toNat := by omega
      rw [encode, decode, hhigh, hlow, ih]
      simp only [hbyte, UInt8.ofNat_toNat]

theorem length_encode (bytes : List UInt8) : (encode bytes).length = 2 * bytes.length := by
  induction bytes with
  | nil => rfl
  | cons byte bytes ih =>
      rw [encode, List.length_cons, List.length_cons, List.length_cons, ih]
      omega

theorem isDigit_of_mem_encode {bytes : List UInt8} {c : Char} (h : c ∈ encode bytes) :
    IsDigit c := by
  induction bytes with
  | nil => cases h
  | cons byte bytes ih =>
      have hlt : byte.toNat < 256 := byte.toNat_lt
      rw [encode, List.mem_cons, List.mem_cons] at h
      rcases h with rfl | rfl | h
      · exact isDigit_digitChar (by omega)
      · exact isDigit_digitChar (by omega)
      · exact ih h

theorem decode_cons_cons_eq_some {a b : Char} {text : List Char} {bytes : List UInt8} :
    decode (a :: b :: text) = some bytes ↔ ∃ x y rest, digitValue a = some x ∧
      digitValue b = some y ∧ decode text = some rest ∧
      bytes = UInt8.ofNat (16 * x + y) :: rest := by
  rw [decode]
  constructor
  · intro h
    split at h
    · rename_i x y rest hx hy hrest
      exact ⟨x, y, rest, hx, hy, hrest, (Option.some.inj h).symm⟩
    · cases h
  · rintro ⟨x, y, rest, hx, hy, hrest, rfl⟩
    simp only [hx, hy, hrest]

/-- What is decoded consists of digits, two for a byte. -/
theorem decode_eq_some : ∀ {text : List Char} {bytes : List UInt8}, decode text = some bytes →
    text.length = 2 * bytes.length ∧ ∀ c ∈ text, IsDigit c
  | [], bytes, h => by
      cases h
      exact ⟨rfl, nofun⟩
  | [_], bytes, h => by cases h
  | a :: b :: text, bytes, h => by
      obtain ⟨x, y, rest, hx, hy, hrest, rfl⟩ := decode_cons_cons_eq_some.mp h
      obtain ⟨hlength, hdigits⟩ := decode_eq_some hrest
      refine ⟨?_, fun c hc => ?_⟩
      · simp only [List.length_cons, hlength]
        omega
      · rw [List.mem_cons, List.mem_cons] at hc
        rcases hc with rfl | rfl | hc
        · rw [IsDigit, hx]
          rfl
        · rw [IsDigit, hy]
          rfl
        · exact hdigits c hc

/-- **An even number of digits can be decoded.** -/
theorem exists_decode : ∀ {text : List Char}, Even text.length → (∀ c ∈ text, IsDigit c) →
    ∃ bytes, decode text = some bytes
  | [], _, _ => ⟨[], rfl⟩
  | [_], heven, _ => by simp at heven
  | a :: b :: text, heven, hdigits => by
      have heven' : Even text.length := by
        rw [List.length_cons, List.length_cons, Nat.even_add_one, Nat.even_add_one, not_not]
          at heven
        exact heven
      obtain ⟨rest, hrest⟩ := exists_decode heven' fun c hc =>
        hdigits c (List.mem_cons_of_mem a (List.mem_cons_of_mem b hc))
      obtain ⟨x, hx⟩ := Option.isSome_iff_exists.mp (hdigits a List.mem_cons_self)
      obtain ⟨y, hy⟩ := Option.isSome_iff_exists.mp
        (hdigits b (List.mem_cons_of_mem a List.mem_cons_self))
      exact ⟨_, decode_cons_cons_eq_some.mpr ⟨x, y, rest, hx, hy, hrest, rfl⟩⟩

end Hex
