import HydraDX.Claims.Address
import HydraDX.Lib.Decimal

set_option autoImplicit false

/-! # The message that a claim signs

`EcdsaSignature` of `pallets/claims/src/traits.rs` and `to_ascii_hex` of
`pallets/claims/src/lib.rs`. Who claims signs the text of an Ethereum personal message: a header,
the length of the rest in decimal, the prefix of the chain and the account in hexadecimal digits,
with nothing in between. Different accounts give different messages (`message_binds_account`).

Hashing and the recovery of a public key are not part of the repository. -/

namespace HydraDX.Claims

/-! ## The account -/

/-- `push_nibble`: the ASCII digit of a number below sixteen. -/
def nibble (n : UInt8) : UInt8 := if n < 10 then 48 + n else 97 - 10 + n

def toAsciiHex (data : List UInt8) : List UInt8 :=
  data.flatMap fun b => [nibble (b / 16), nibble (b % 16)]

theorem nibble_toNat {n : UInt8} (hn : n.toNat < 16) :
    (nibble n).toNat = if n.toNat < 10 then 48 + n.toNat else 87 + n.toNat := by
  unfold nibble
  by_cases h : n < 10
  · have hlt : n.toNat < 10 := UInt8.lt_iff_toNat_lt.mp h
    rw [if_pos h, if_pos hlt, UInt8.toNat_add]
    show (48 + n.toNat) % 256 = _
    omega
  · have hge : ¬ n.toNat < 10 := fun hlt => h (UInt8.lt_iff_toNat_lt.mpr hlt)
    rw [if_neg h, if_neg hge, UInt8.toNat_add]
    show (87 + n.toNat) % 256 = _
    omega

theorem nibble_div_toNat (b : UInt8) : (nibble (b / 16)).toNat
    = if b.toNat / 16 < 10 then 48 + b.toNat / 16 else 87 + b.toNat / 16 := by
  have hb : b.toNat < 256 := b.toNat_lt
  have hdiv : (b / 16).toNat = b.toNat / 16 := UInt8.toNat_div b 16
  rw [nibble_toNat (by omega), hdiv]

theorem nibble_mod_toNat (b : UInt8) : (nibble (b % 16)).toNat
    = if b.toNat % 16 < 10 then 48 + b.toNat % 16 else 87 + b.toNat % 16 := by
  have hmod : (b % 16).toNat = b.toNat % 16 := UInt8.toNat_mod b 16
  rw [nibble_toNat (by omega), hmod]

theorem toAsciiHex_injective : Function.Injective toAsciiHex := by
  intro data
  induction data with
  | nil =>
      intro data' h
      cases data' with
      | nil => rfl
      | cons b data' => cases h
  | cons a data ih =>
      intro data' h
      cases data' with
      | nil => cases h
      | cons b data' =>
          simp only [toAsciiHex, List.flatMap_cons, List.cons_append, List.nil_append,
            List.cons.injEq] at h
          obtain ⟨hhigh, hlow, hrest⟩ := h
          have hdiv := congrArg UInt8.toNat hhigh
          have hmod := congrArg UInt8.toNat hlow
          rw [nibble_div_toNat, nibble_div_toNat] at hdiv
          rw [nibble_mod_toNat, nibble_mod_toNat] at hmod
          have hab : a = b := by
            apply UInt8.toNat_inj.mp
            split_ifs at hdiv hmod
            all_goals omega
          rw [hab, ih hrest]

theorem toAsciiHex_length (data : List UInt8) : (toAsciiHex data).length = 2 * data.length := by
  induction data with
  | nil => rfl
  | cons b data ih =>
      have hcons : (toAsciiHex (b :: data)).length = (toAsciiHex data).length + 2 := rfl
      rw [hcons, ih, List.length_cons]
      omega

/-- The characters are `0` to `9` and `a` to `f`. -/
theorem toAsciiHex_mem {data : List UInt8} {c : UInt8} (h : c ∈ toAsciiHex data) :
    (48 ≤ c.toNat ∧ c.toNat ≤ 57) ∨ (97 ≤ c.toNat ∧ c.toNat ≤ 102) := by
  unfold toAsciiHex at h
  rw [List.mem_flatMap] at h
  obtain ⟨b, -, hc⟩ := h
  have hb : b.toNat < 256 := b.toNat_lt
  rw [List.mem_cons, List.mem_singleton] at hc
  rcases hc with rfl | rfl
  · rw [nibble_div_toNat]
    split_ifs
    · omega
    · omega
  · rw [nibble_mod_toNat]
    split_ifs
    · omega
    · omega

/-! ## The message -/

/-- The text `Ethereum Signed Message:` between the bytes `0x19` and LF. -/
def messageHeader : List UInt8 :=
  [25, 69, 116, 104, 101, 114, 101, 117, 109, 32, 83, 105, 103, 110, 101, 100, 32, 77, 101, 115,
    115, 97, 103, 101, 58, 10]

/-- The loop that collects the digits of a number, the last one first. -/
def revDigits (l : Nat) : List UInt8 :=
  if 0 < l then (48 + UInt8.ofNat (l % 10)) :: revDigits (l / 10) else []
termination_by l

def ethereumSignableMessage (what pfx : List UInt8) : List UInt8 :=
  messageHeader ++ (revDigits (pfx.length + what.length)).reverse ++ pfx ++ what

/-- **The loop writes the length in decimal.** -/
theorem revDigits_reverse (l : Nat) : (revDigits l).reverse = Decimal.decimal l := by
  have key : revDigits l = (Nat.digits 10 l).map Decimal.digit := by
    induction l using Nat.strong_induction_on with
    | _ l ih =>
        rw [revDigits]
        by_cases hl : 0 < l
        · have hdigit : 48 + UInt8.ofNat (l % 10) = Decimal.digit (l % 10) := by
            rw [Decimal.digit, UInt8.ofNat_add]
            rfl
          rw [if_pos hl, Nat.digits_def' (by decide) hl, List.map_cons, hdigit,
            ih (l / 10) (by omega)]
        · have hzero : l = 0 := by omega
          rw [if_neg hl, hzero]
          rfl
  rw [key]
  rfl

theorem ethereumSignableMessage_eq (what pfx : List UInt8) :
    ethereumSignableMessage what pfx
      = messageHeader ++ Decimal.decimal (pfx.length + what.length) ++ pfx ++ what := by
  rw [ethereumSignableMessage, revDigits_reverse]

theorem ethereumSignableMessage_injective (pfx : List UInt8) :
    Function.Injective fun what => ethereumSignableMessage what pfx := by
  intro what what' h
  simp only [ethereumSignableMessage_eq] at h
  have hframe : pfx ++ what = pfx ++ what' := by
    have htext : messageHeader ++ Decimal.decimal (pfx ++ what).length ++ (pfx ++ what)
        = messageHeader ++ Decimal.decimal (pfx ++ what').length ++ (pfx ++ what') := by
      simpa only [List.append_assoc, List.length_append] using h
    exact Decimal.framed_injective htext
  exact List.append_cancel_left hframe

/-- **A claim signature binds to one account.** The message determines what is signed. Between the
header and the prefix it has the length of the rest in decimal, without leading zeros, and nothing if
there is no rest. Hexadecimal text has two characters for a byte and determines the bytes. So two
accounts that are encoded differently never sign the same message. -/
theorem message_binds_account (pfx : List UInt8) :
    (Function.Injective fun what => ethereumSignableMessage what pfx) ∧
    (∀ what, ∃ digits, ethereumSignableMessage what pfx = messageHeader ++ digits ++ pfx ++ what ∧
      (∀ d ∈ digits, 48 ≤ d.toNat ∧ d.toNat ≤ 57) ∧
      Decimal.value digits = pfx.length + what.length ∧ digits.head? ≠ some 48 ∧
      (digits = [] ↔ pfx = [] ∧ what = [])) ∧
    Function.Injective toAsciiHex ∧
    (∀ data, (toAsciiHex data).length = 2 * data.length ∧
      ∀ c ∈ toAsciiHex data,
        (48 ≤ c.toNat ∧ c.toNat ≤ 57) ∨ (97 ≤ c.toNat ∧ c.toNat ≤ 102)) ∧
    (Function.Injective fun encoded => ethereumSignableMessage (toAsciiHex encoded) pfx) := by
  refine ⟨ethereumSignableMessage_injective pfx, fun what => ?_, toAsciiHex_injective,
    fun data => ⟨toAsciiHex_length data, fun c => toAsciiHex_mem⟩,
    (ethereumSignableMessage_injective pfx).comp toAsciiHex_injective⟩
  refine ⟨Decimal.decimal (pfx.length + what.length), ethereumSignableMessage_eq what pfx,
    fun d => Decimal.isDigit_of_mem, Decimal.value_decimal _, Decimal.head?_ne_zero _, ?_⟩
  rw [Decimal.decimal_eq_nil_iff, Nat.add_eq_zero_iff, List.length_eq_zero_iff,
    List.length_eq_zero_iff]

/-! ## Recovering the signer -/

structure EcdsaSignature where
  bytes : List.Vector UInt8 65
  deriving DecidableEq

/-- `sp_io`: hashing, and the public key of a signature and a message hash. -/
structure Crypto where
  keccak256 : List UInt8 → List.Vector UInt8 32
  secp256k1EcdsaRecover : List.Vector UInt8 65 → List.Vector UInt8 32 →
    Option (List.Vector UInt8 64)

/-- The address that signed `what`: the last twenty bytes of the hash of its public key. -/
def EcdsaSignature.recover (crypto : Crypto) (signature : EcdsaSignature)
    (what pfx : List UInt8) : Option EthereumAddress := do
  let msg := crypto.keccak256 (ethereumSignableMessage what pfx)
  let key ← crypto.secp256k1EcdsaRecover signature.bytes msg
  return ⟨(crypto.keccak256 key.toList).drop 12⟩

end HydraDX.Claims
