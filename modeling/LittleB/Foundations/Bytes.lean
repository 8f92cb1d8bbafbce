import Mathlib.Data.List.TakeWhile
import Mathlib.Tactic

/-!
Octet strings: the texts, numbers and C strings that a wire format and a key
value store are written in.

* `Bytes.ofString`: the UTF-8 octets of a text, injective (`ofString_inj`);
* `Bytes.cstr`: what a reader of a zero-terminated string sees of it,
  `cstr_eq_self_iff`;
* `Bytes.ofLE`, `Bytes.ofBE`, `Bytes.toLE`: unsigned numbers of a given width,
  with the round trip `ofLE_toLE`;
* `Bytes.decimal`, `Bytes.ofDecimal`: the canonical decimal rendering of an
  integer and its strict reader, `ofDecimal_decimal`.
-/

/-- Octet strings. -/
abbrev Bytes := List UInt8

namespace Bytes

/-! ### Texts -/

/-- The UTF-8 octets of a text. -/
def ofString (s : String) : Bytes := s.toByteArray.data.toList

lemma ofString_inj {s t : String} : ofString s = ofString t ↔ s = t := by
  refine ⟨fun h => ?_, fun h => by rw [h]⟩
  exact String.toByteArray_inj.mp (ByteArray.ext (Array.toList_inj.mp h))

/-- A zero-terminated string: the octets before the first zero octet. -/
def cstr (bs : Bytes) : Bytes := bs.takeWhile (· ≠ 0)

lemma cstr_cstr (bs : Bytes) : cstr (cstr bs) = cstr bs := List.takeWhile_idem

/-- A string is its own C string exactly when it has no zero octet. -/
lemma cstr_eq_self_iff {bs : Bytes} : cstr bs = bs ↔ (0 : UInt8) ∉ bs := by
  rw [cstr, List.takeWhile_eq_self_iff]
  refine ⟨fun h hmem => ?_, fun h b hb => ?_⟩
  · have h0 := h 0 hmem
    simp at h0
  · have hne : b ≠ 0 := fun h0 => h (h0 ▸ hb)
    simpa using hne

/-! ### Numbers of a fixed width -/

/-- The unsigned number with the given octets, least significant first. -/
def ofLE : Bytes → ℕ
  | [] => 0
  | b :: bs => b.toNat + 256 * ofLE bs

/-- The unsigned number with the given octets, most significant first. -/
def ofBE (bs : Bytes) : ℕ := ofLE bs.reverse

/-- The `k` low octets of a number, least significant first. -/
def toLE : ℕ → ℕ → Bytes
  | 0, _ => []
  | k + 1, n => UInt8.ofNat n :: toLE k (n / 256)

@[simp] lemma toLE_length (k n : ℕ) : (toLE k n).length = k := by
  induction k generalizing n with
  | zero => rfl
  | succ k ih => rw [toLE, List.length_cons, ih]

lemma ofLE_lt (bs : Bytes) : ofLE bs < 256 ^ bs.length := by
  induction bs with
  | nil => simp [ofLE]
  | cons b bs ih =>
      have hb : b.toNat < 256 := b.toNat_lt
      rw [ofLE, List.length_cons, pow_succ]
      omega

/-- Reading back the `k` low octets gives the number modulo `256 ^ k`. -/
lemma ofLE_toLE_mod (k n : ℕ) : ofLE (toLE k n) = n % 256 ^ k := by
  induction k generalizing n with
  | zero => simp [toLE, ofLE, Nat.mod_one]
  | succ k ih =>
      rw [toLE, ofLE, ih, pow_succ, mul_comm (256 ^ k), Nat.mod_mul]
      simp

/-- A number that fits the width is read back as it was written. -/
lemma ofLE_toLE {k n : ℕ} (h : n < 256 ^ k) : ofLE (toLE k n) = n := by
  rw [ofLE_toLE_mod, Nat.mod_eq_of_lt h]

/-! ### Decimal numbers -/

/-- The decimal digits of a natural number, in ASCII. -/
def digits (n : ℕ) : Bytes := (Nat.toDigits 10 n).map fun c => UInt8.ofNat c.toNat

/-- The value of a string of ASCII digits. -/
def ofDigits (bs : Bytes) : ℕ := Nat.ofDigitChars 10 (bs.map fun b => Char.ofNat b.toNat) 0

/-- The canonical decimal rendering of an integer: no leading zero, no `+`. -/
def decimal (n : ℤ) : Bytes :=
  if n < 0 then 45 :: digits n.natAbs else digits n.natAbs

/-- The integer a string of octets spells without regard to leading zeros. -/
def looseDecimal : Bytes → ℤ
  | 45 :: ds => -(ofDigits ds : ℤ)
  | ds => ofDigits ds

/-- The strict reader: only a canonical rendering is a number. -/
def ofDecimal (bs : Bytes) : Option ℤ :=
  if decimal (looseDecimal bs) = bs then some (looseDecimal bs) else none

/-- A digit survives the way through an octet. -/
lemma ofNat_octet_of_isDigit {c : Char} (h : c.isDigit = true) :
    Char.ofNat (UInt8.ofNat c.toNat).toNat = c := by
  have hc : c.toNat ≤ 57 := by
    have h2 : c.val ≤ 57 := by simp [Char.isDigit] at h; exact h.2
    exact UInt32.le_iff_toNat_le.mp h2
  have hmod : (UInt8.ofNat c.toNat).toNat = c.toNat := by
    rw [UInt8.toNat_ofNat']
    exact Nat.mod_eq_of_lt (by omega)
  rw [hmod, Char.ofNat_toNat]

lemma isDigit_of_mem_toDigits {n : ℕ} {c : Char} (h : c ∈ Nat.toDigits 10 n) :
    c.isDigit = true :=
  Nat.isDigit_of_mem_toDigits (by norm_num) (by norm_num) h

@[simp] lemma ofDigits_digits (n : ℕ) : ofDigits (digits n) = n := by
  have hmap : (digits n).map (fun b => Char.ofNat b.toNat) = Nat.toDigits 10 n := by
    rw [digits, List.map_map]
    conv_rhs => rw [← List.map_id (Nat.toDigits 10 n)]
    exact List.map_congr_left fun c hc => ofNat_octet_of_isDigit (isDigit_of_mem_toDigits hc)
  rw [ofDigits, hmap, Nat.ofDigitChars_ten_toDigits]

/-- No digit is a minus sign. -/
lemma minus_notMem_digits (n : ℕ) : (45 : UInt8) ∉ digits n := by
  rw [digits, List.mem_map]
  rintro ⟨c, hc, h45⟩
  have hdig := isDigit_of_mem_toDigits hc
  have hback := ofNat_octet_of_isDigit hdig
  rw [h45] at hback
  rw [← hback] at hdig
  revert hdig
  decide

lemma looseDecimal_decimal (n : ℤ) : looseDecimal (decimal n) = n := by
  rw [decimal]
  split_ifs with hneg
  · rw [looseDecimal, ofDigits_digits]
    omega
  · have hval : looseDecimal (digits n.natAbs) = ofDigits (digits n.natAbs) := by
      rw [looseDecimal]
      intro ds hds
      exact minus_notMem_digits n.natAbs (by rw [hds]; simp)
    rw [hval, ofDigits_digits]
    omega

/-- **The decimal round trip**: the strict reader reads back every rendering. -/
@[simp] theorem ofDecimal_decimal (n : ℤ) : ofDecimal (decimal n) = some n := by
  rw [ofDecimal, looseDecimal_decimal, if_pos rfl]

lemma decimal_injective : Function.Injective decimal := fun m n h => by
  have hm := ofDecimal_decimal m
  rw [h, ofDecimal_decimal] at hm
  exact (Option.some.inj hm).symm

end Bytes
