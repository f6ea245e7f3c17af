import HydraDX.Lib.Fallible
import HydraDX.Lib.Hex
import Mathlib.Data.Vector.Basic

set_option autoImplicit false

/-! # Ethereum addresses as text

`Serialize` and `Deserialize` for `EthereumAddress`, `pallets/claims/src/traits.rs`. A string is
the list of its characters, and its length is the number of bytes of its UTF-8 encoding.

The crate `rustc_hex` is not part of the repository. It is a parameter (`RustcHex`) with its
documented behaviour: lower case digits are written, digits of either case are read in pairs, white
space is skipped, anything else is an error.

The length is checked on the text, while twenty bytes are needed after decoding. A text of forty
characters some of which are white space decodes to fewer bytes, and `copy_from_slice` panics. -/

namespace HydraDX.Claims

structure EthereumAddress where
  bytes : List.Vector UInt8 20
  deriving DecidableEq

/-! ## Strings -/

/-- `str::len`, in bytes. -/
def len (s : List Char) : Nat := (s.map fun c => c.utf8Size).sum

/-- `&s[n..]`, which panics unless the index is at the start of a character or at the end. -/
def sliceFrom : Nat → List Char → Option (List Char)
  | 0, s => some s
  | _ + 1, [] => none
  | n + 1, c :: s => if c.utf8Size ≤ n + 1 then sliceFrom (n + 1 - c.utf8Size) s else none

/-- The white space that `from_hex` skips: space, tab, CR and LF. -/
def IsSpace (c : Char) : Prop := c.toNat = 32 ∨ c.toNat = 9 ∨ c.toNat = 13 ∨ c.toNat = 10

instance (c : Char) : Decidable (IsSpace c) := inferInstanceAs (Decidable (_ ∨ _))

/-- The crate `rustc_hex`. An error is its debug text. -/
structure RustcHex where
  toHex : List UInt8 → List Char
  fromHex : List Char → Except String (List UInt8)
  toHex_eq : ∀ bytes, toHex bytes = Hex.encode bytes
  fromHex_eq_ok : ∀ text bytes, fromHex text = .ok bytes ↔
    (∀ c ∈ text, Hex.IsDigit c ∨ IsSpace c) ∧
    Hex.decode (text.filter fun c => decide (Hex.IsDigit c)) = some bytes

/-! ## Reading and writing -/

/-- How deserializing ends other than with an address: with an error, or not at all. -/
inductive DeserializeError where
  | custom (message : String)
  | panic
  deriving DecidableEq, Repr

variable (hex : RustcHex)

def serialize (address : EthereumAddress) : List Char :=
  ['0', 'x'] ++ hex.toHex address.bytes.toList

/-- `copy_from_slice` into the twenty bytes of an address, which panics if the lengths differ. -/
def copyFromSlice (raw : List UInt8) : Except DeserializeError EthereumAddress :=
  if h : raw.length = 20 then .ok ⟨⟨raw, h⟩⟩ else .error .panic

/-- `deserialize` from the length check on. -/
def readBody (s : List Char) : Except DeserializeError EthereumAddress := do
  ensure (len s = 40) (.custom "Bad length of Ethereum address (should be 42 including '0x')")
  match hex.fromHex s with
  | .error e => .error (.custom e)
  | .ok raw => copyFromSlice raw

def deserialize (baseString : List Char) : Except DeserializeError EthereumAddress :=
  let offset := if ['0', 'x'].isPrefixOf baseString then 2 else 0
  match sliceFrom offset baseString with
  | none => .error .panic
  | some s => readBody hex s

/-- Forty digits that denote the address. -/
def DenotesBody (t : List Char) (address : EthereumAddress) : Prop :=
  t.length = 40 ∧ (∀ c ∈ t, Hex.IsDigit c) ∧ Hex.decode t = some address.bytes.toList

/-- Forty characters, of which some are white space, and the others an even number of digits. -/
def PaddedBody (t : List Char) : Prop :=
  t.length = 40 ∧ (∀ c ∈ t, Hex.IsDigit c ∨ IsSpace c) ∧ (∃ c ∈ t, IsSpace c) ∧
    Even (t.filter fun c => decide (Hex.IsDigit c)).length

/-- The text is an optional `0x` and digits that denote the address. -/
def Denotes (s : List Char) (address : EthereumAddress) : Prop :=
  ∃ t, (s = t ∨ s = '0' :: 'x' :: t) ∧ DenotesBody t address

/-- The text is an optional `0x` and a padded body. -/
def Padded (s : List Char) : Prop := ∃ t, (s = t ∨ s = '0' :: 'x' :: t) ∧ PaddedBody t

/-- The text is read as it should be: there is no panic, and exactly the texts that denote an
address give one. -/
def ReadsText (s : List Char) : Prop :=
  deserialize hex s ≠ .error .panic ∧
    ∀ address, deserialize hex s = .ok address ↔ Denotes s address

/-! ## The text without `0x` -/

/-- What is left of a text without its `0x`. -/
def bodyOf (s : List Char) : List Char := if ['0', 'x'].isPrefixOf s then s.drop 2 else s

/-- A text is its body, with `0x` in front or not. -/
theorem eq_bodyOf (s : List Char) :
    (['0', 'x'].isPrefixOf s = false ∧ bodyOf s = s) ∨
    (['0', 'x'].isPrefixOf s = true ∧ s = '0' :: 'x' :: bodyOf s) := by
  unfold bodyOf
  cases h : ['0', 'x'].isPrefixOf s with
  | false => exact Or.inl ⟨rfl, rfl⟩
  | true =>
      obtain ⟨t, rfl⟩ := List.isPrefixOf_iff_prefix.mp h
      exact Or.inr ⟨rfl, rfl⟩

theorem deserialize_eq (s : List Char) : deserialize hex s = readBody hex (bodyOf s) := by
  unfold deserialize
  rcases eq_bodyOf s with ⟨hoffset, hbody⟩ | ⟨hoffset, hbody⟩
  · have hslice : sliceFrom 0 s = some s := by rw [sliceFrom]
    rw [hoffset, hbody]
    simp only [Bool.false_eq_true, if_false, hslice]
  · have hslice : sliceFrom 2 s = some (bodyOf s) := by
      generalize bodyOf s = t at hbody
      subst hbody
      simp [sliceFrom, Char.utf8Size]
    rw [hoffset]
    simp only [if_true, hslice]

theorem not_isDigit_of_isSpace {c : Char} (h : IsSpace c) : ¬ Hex.IsDigit c := by
  intro hd
  unfold Hex.IsDigit Hex.digitValue at hd
  unfold IsSpace at h
  split_ifs at hd with h₁ h₂ h₃
  · omega
  · omega
  · omega
  · cases hd

/-- A body of digits and white space does not begin with `0x` itself. -/
theorem bodyOf_eq {s t : List Char} (h : s = t ∨ s = '0' :: 'x' :: t)
    (ht : ∀ c ∈ t, Hex.IsDigit c ∨ IsSpace c) : bodyOf s = t := by
  rcases h with rfl | rfl
  · rcases eq_bodyOf s with ⟨-, hbody⟩ | ⟨-, hbody⟩
    · exact hbody
    · have hx : 'x' ∈ s := by
        rw [hbody]
        simp
      exact absurd (ht 'x' hx) (by decide)
  · rfl

theorem len_of_ascii {t : List Char} (ht : ∀ c ∈ t, Hex.IsDigit c ∨ IsSpace c) :
    len t = t.length := by
  have hsize : ∀ c ∈ t, c.utf8Size = 1 := by
    intro c hc
    rcases ht c hc with hd | hs
    · exact Hex.utf8Size_of_isDigit hd
    · rw [Char.utf8Size_eq_one_iff, UInt32.le_iff_toNat_le]
      show c.toNat ≤ 127
      unfold IsSpace at hs
      omega
  unfold len
  rw [List.map_congr_left hsize, List.map_const', List.sum_replicate, smul_eq_mul, Nat.mul_one]

/-! ## The body -/

section Body

variable {hex} {t : List Char} {address : EthereumAddress}

theorem copyFromSlice_eq_ok {raw : List UInt8} :
    copyFromSlice raw = .ok address ↔ raw = address.bytes.toList := by
  unfold copyFromSlice
  constructor
  · intro h
    split_ifs at h with hlength
    cases h
    rfl
  · rintro rfl
    rw [dif_pos address.bytes.toList_length]
    rfl

theorem copyFromSlice_eq_panic {raw : List UInt8} :
    copyFromSlice raw = .error .panic ↔ raw.length ≠ 20 := by
  unfold copyFromSlice
  by_cases hlength : raw.length = 20
  · simp [hlength]
  · simp [hlength]

theorem readBody_eq_ok : readBody hex t = .ok address ↔
    len t = 40 ∧ hex.fromHex t = .ok address.bytes.toList := by
  unfold readBody
  rw [Fallible.ensure_bind_eq_ok]
  refine and_congr_right fun _ => ?_
  cases hex.fromHex t with
  | error e => simp
  | ok raw =>
      simp only [copyFromSlice_eq_ok]
      exact ⟨fun h => by rw [h], fun h => Except.ok.inj h⟩

theorem readBody_eq_panic : readBody hex t = .error .panic ↔
    len t = 40 ∧ ∃ raw, hex.fromHex t = .ok raw ∧ raw.length ≠ 20 := by
  unfold readBody
  rw [Fallible.ensure_bind_eq_error]
  cases hex.fromHex t with
  | error e => simp
  | ok raw => simp [copyFromSlice_eq_panic]

/-- Something is skipped exactly if there is white space. -/
theorem length_filter_ne_iff (ht : ∀ c ∈ t, Hex.IsDigit c ∨ IsSpace c) :
    (t.filter fun c => decide (Hex.IsDigit c)).length ≠ t.length ↔ ∃ c ∈ t, IsSpace c := by
  rw [Ne, List.length_filter_eq_length_iff]
  constructor
  · intro h
    by_contra hnone
    apply h
    intro c hc
    rcases ht c hc with hd | hs
    · exact decide_eq_true hd
    · exact absurd ⟨c, hc, hs⟩ hnone
  · rintro ⟨c, hc, hs⟩ hall
    exact not_isDigit_of_isSpace hs (of_decide_eq_true (hall c hc))

/-- **The panic**: a padded body decodes to fewer than twenty bytes. -/
theorem readBody_eq_panic_iff : readBody hex t = .error .panic ↔ PaddedBody t := by
  rw [readBody_eq_panic]
  constructor
  · rintro ⟨hlen, raw, hraw, hne⟩
    obtain ⟨hchars, hdecode⟩ := (hex.fromHex_eq_ok t raw).mp hraw
    have hlength := (Hex.decode_eq_some hdecode).1
    rw [len_of_ascii hchars] at hlen
    refine ⟨hlen, hchars, (length_filter_ne_iff hchars).mp (by omega), raw.length, by omega⟩
  · rintro ⟨hlength, hchars, hspace, heven⟩
    obtain ⟨raw, hdecode⟩ := Hex.exists_decode heven fun c hc =>
      of_decide_eq_true (List.mem_filter.mp hc).2
    have hraw := (Hex.decode_eq_some hdecode).1
    have hne := (length_filter_ne_iff hchars).mpr hspace
    refine ⟨by rw [len_of_ascii hchars, hlength], raw,
      (hex.fromHex_eq_ok t raw).mpr ⟨hchars, hdecode⟩, by omega⟩

theorem filter_eq_self_of_digits (ht : ∀ c ∈ t, Hex.IsDigit c) :
    (t.filter fun c => decide (Hex.IsDigit c)) = t :=
  List.filter_eq_self.mpr fun c hc => decide_eq_true (ht c hc)

/-- Nothing but digits gives an address. -/
theorem readBody_eq_ok_iff : readBody hex t = .ok address ↔ DenotesBody t address := by
  rw [readBody_eq_ok, hex.fromHex_eq_ok]
  constructor
  · rintro ⟨hlen, hchars, hdecode⟩
    rw [len_of_ascii hchars] at hlen
    have hlength := (Hex.decode_eq_some hdecode).1
    rw [List.Vector.toList_length] at hlength
    -- twenty bytes need all forty characters
    have hdigits : ∀ c ∈ t, Hex.IsDigit c := by
      have hall : (t.filter fun c => decide (Hex.IsDigit c)).length = t.length := by omega
      intro c hc
      exact of_decide_eq_true (List.length_filter_eq_length_iff.mp hall c hc)
    rw [filter_eq_self_of_digits hdigits] at hdecode
    exact ⟨hlen, hdigits, hdecode⟩
  · rintro ⟨hlength, hdigits, hdecode⟩
    have hchars : ∀ c ∈ t, Hex.IsDigit c ∨ IsSpace c := fun c hc => Or.inl (hdigits c hc)
    refine ⟨by rw [len_of_ascii hchars, hlength], hchars, ?_⟩
    rw [filter_eq_self_of_digits hdigits]
    exact hdecode

end Body

/-! ## Round trip and accepted texts -/

/-- What a text is, read off its body. -/
theorem exists_body_iff {Q : List Char → Prop} (hQ : ∀ t, Q t → ∀ c ∈ t, Hex.IsDigit c ∨ IsSpace c)
    (s : List Char) : (∃ t, (s = t ∨ s = '0' :: 'x' :: t) ∧ Q t) ↔ Q (bodyOf s) := by
  constructor
  · rintro ⟨t, hs, ht⟩
    rw [bodyOf_eq hs (hQ t ht)]
    exact ht
  · intro h
    refine ⟨bodyOf s, ?_, h⟩
    rcases eq_bodyOf s with ⟨-, hbody⟩ | ⟨-, hbody⟩
    · exact Or.inl hbody.symm
    · exact Or.inr hbody

theorem deserialize_serialize (address : EthereumAddress) :
    deserialize hex (serialize hex address) = .ok address := by
  have hbody : bodyOf (serialize hex address) = Hex.encode address.bytes.toList := by
    unfold serialize
    rw [hex.toHex_eq]
    rfl
  rw [deserialize_eq, hbody, readBody_eq_ok_iff]
  refine ⟨?_, fun c hc => Hex.isDigit_of_mem_encode hc, Hex.decode_encode _⟩
  rw [Hex.length_encode, List.Vector.toList_length]

/-- **Addresses as text.** An address that is written is read back; and a text is read as it should
be exactly if it is not padded with white space to forty characters. -/
theorem address_text (hex : RustcHex) :
    (∀ address, deserialize hex (serialize hex address) = .ok address) ∧
    ∀ s, ReadsText hex s ↔ ¬ Padded s := by
  refine ⟨deserialize_serialize hex, fun s => ?_⟩
  have hpadded : Padded s ↔ PaddedBody (bodyOf s) := exists_body_iff (fun _ h => h.2.1) s
  have hdenotes : ∀ address, Denotes s address ↔ DenotesBody (bodyOf s) address := fun address =>
    exists_body_iff (fun _ h c hc => Or.inl (h.2.1 c hc)) s
  unfold ReadsText
  have hpanic : readBody hex (bodyOf s) = .error .panic ↔ PaddedBody (bodyOf s) :=
    readBody_eq_panic_iff
  rw [deserialize_eq, hpadded, ← hpanic]
  constructor
  · intro h
    exact h.1
  · intro h
    refine ⟨h, fun address => ?_⟩
    rw [hdenotes, readBody_eq_ok_iff]

/-- The crate, as far as its behaviour is documented. -/
def RustcHex.documented : RustcHex where
  toHex := Hex.encode
  fromHex text :=
    if text.all fun c => decide (Hex.IsDigit c ∨ IsSpace c) then
      match Hex.decode (text.filter fun c => decide (Hex.IsDigit c)) with
      | some bytes => .ok bytes
      | none => .error "InvalidHexLength"
    else .error "InvalidHexCharacter"
  toHex_eq _ := rfl
  fromHex_eq_ok text bytes := by
    have hall : (text.all fun c => decide (Hex.IsDigit c ∨ IsSpace c)) = true ↔
        ∀ c ∈ text, Hex.IsDigit c ∨ IsSpace c := by
      simp only [List.all_eq_true, decide_eq_true_eq]
    split_ifs with h
    · cases Hex.decode (text.filter fun c => decide (Hex.IsDigit c)) with
      | some bytes' =>
          simp only [Except.ok.injEq, Option.some.injEq, iff_and_self]
          exact fun _ => hall.mp h
      | none => simp
    · rw [hall] at h
      simp [h]

/-- An address in upper case. -/
theorem address_text_digits :
    ReadsText RustcHex.documented ('0' :: 'x' :: List.replicate 40 'A') := by
  rw [(address_text RustcHex.documented).2]
  rintro ⟨t, hs, -, -, ⟨c, hc, hspace⟩, -⟩
  have hmem : c ∈ '0' :: 'x' :: List.replicate 40 'A' := by
    rcases hs with hs | hs
    · rw [hs]
      exact hc
    · rw [hs]
      exact List.mem_cons_of_mem _ (List.mem_cons_of_mem _ hc)
  have hchar : c = '0' ∨ c = 'x' ∨ c = 'A' := by simpa using hmem
  rcases hchar with rfl | rfl | rfl
  · exact absurd hspace (by decide)
  · exact absurd hspace (by decide)
  · exact absurd hspace (by decide)

/-- Thirty-eight digits and two spaces: deserializing does not return. -/
theorem deserialize_padded :
    ¬ (∀ hex s, ReadsText hex s) ∧
    deserialize RustcHex.documented (List.replicate 38 '0' ++ [' ', ' ']) = .error .panic := by
  have hpanic : deserialize RustcHex.documented (List.replicate 38 '0' ++ [' ', ' '])
      = .error .panic := by
    decide +kernel
  exact ⟨fun h => (h RustcHex.documented _).1 hpanic, hpanic⟩

end HydraDX.Claims
