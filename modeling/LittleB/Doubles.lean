import LittleB.Formats

/-!
`double`s and their bits.

* `Double.Exact`: the magnitudes with 53 binary digits within the range of the exponents;
  `Exact.bits_eq` gives what `bits` writes of a number of such a magnitude;
* `ofBits_bits_finite`: it is read back from its bits, `ofBits_bits_ofBits`: every `double` is;
* `Double.Is`: what the type holds, `Is.ofBits_ofLE`; `is_ofInt32`: every `int32` is one.
-/

namespace LittleB

namespace Double

/-- A magnitude of at most 53 binary digits within the range of the exponents. -/
def Exact (a : ℚ) : Prop := ∃ (m : ℕ) (k : ℤ), m < 2 ^ 53 ∧ -1074 ≤ k ∧ k ≤ 971 ∧ a = m * 2 ^ k

/-- The exponent that `bits` gives a magnitude. -/
def exponent (a : ℚ) : ℤ := max (Int.log 2 a) (-1022)

/-- An exact magnitude in units of the last digit of its exponent: a number of 53 digits, or
one of fewer where the exponent is the smallest. -/
lemma Exact.normal {a : ℚ} (h : Exact a) (ha : 0 < a) :
    ∃ M : ℕ, M < 2 ^ 53 ∧ (2 ^ 52 ≤ M ∨ exponent a = -1022) ∧ -1022 ≤ exponent a ∧
      exponent a ≤ 1023 ∧ a * 2 ^ (52 - exponent a) = M := by
  obtain ⟨m, k, hm, hlow, hhigh, rfl⟩ := h
  have htwo : (2 : ℚ) ≠ 0 := two_ne_zero
  have hbelow : (m : ℚ) * 2 ^ k < 2 ^ (53 + k) := by
    rw [zpow_add₀ htwo]
    have hm' : (m : ℚ) < 2 ^ (53 : ℤ) := by exact_mod_cast hm
    exact mul_lt_mul_of_pos_right hm' (zpow_pos two_pos k)
  have hlog : Int.log 2 ((m : ℚ) * 2 ^ k) < 53 + k :=
    (Int.lt_zpow_iff_log_lt one_lt_two ha).mp hbelow
  generalize he : exponent ((m : ℚ) * 2 ^ k) = e
  rw [exponent] at he
  have hcut : e ≤ k + 52 := by omega
  have hunits : (m : ℚ) * 2 ^ k * 2 ^ (52 - e) = ((m * 2 ^ (k + 52 - e).toNat : ℕ) : ℚ) := by
    have hj : ((k + 52 - e).toNat : ℤ) = k + 52 - e := Int.toNat_of_nonneg (by omega)
    rw [mul_assoc, ← zpow_add₀ htwo, Nat.cast_mul, Nat.cast_pow, ← zpow_natCast, hj]
    congr 2
    ring
  refine ⟨_, ?_, ?_, by omega, by omega, hunits⟩
  · have habove : (m : ℚ) * 2 ^ k < 2 ^ (e + 1) :=
      (Int.lt_zpow_iff_log_lt one_lt_two ha).mpr (by omega)
    have hlt : (m : ℚ) * 2 ^ k * 2 ^ (52 - e) < 2 ^ (53 : ℤ) :=
      calc (m : ℚ) * 2 ^ k * 2 ^ (52 - e)
          < 2 ^ (e + 1) * 2 ^ (52 - e) := mul_lt_mul_of_pos_right habove (zpow_pos two_pos _)
        _ = 2 ^ (53 : ℤ) := by
          rw [← zpow_add₀ htwo]
          congr 1
          ring
    rw [hunits] at hlt
    exact_mod_cast hlt
  · by_cases hsmall : e = -1022
    · exact .inr hsmall
    · have hleast : (2 : ℚ) ^ e ≤ (m : ℚ) * 2 ^ k :=
        (Int.zpow_le_iff_le_log one_lt_two ha).mpr (by omega)
      have hle : (2 : ℚ) ^ (52 : ℤ) ≤ (m : ℚ) * 2 ^ k * 2 ^ (52 - e) :=
        calc (2 : ℚ) ^ (52 : ℤ)
            = 2 ^ e * 2 ^ (52 - e) := by
              rw [← zpow_add₀ htwo]
              congr 1
              ring
          _ ≤ (m : ℚ) * 2 ^ k * 2 ^ (52 - e) :=
            mul_le_mul_of_nonneg_right hleast (zpow_nonneg zero_le_two _)
      rw [hunits] at hle
      exact .inl (by exact_mod_cast hle)

/-- A sign, an exponent and a number of units are taken apart again. -/
lemma ofBits_units {s E M : ℕ} (hs : s < 2) (hE : E < 2 ^ 11 - 2) (hM : M < 2 ^ 53)
    (hnormal : 2 ^ 52 ≤ M ∨ E = 0) :
    ofBits (s * 2 ^ 63 + E * 2 ^ 52 + M)
      = .finite (if s = 1 then -(M * 2 ^ ((E : ℤ) - 1074)) else M * 2 ^ ((E : ℤ) - 1074)) := by
  have hsign : 2 ^ 63 ≤ s * 2 ^ 63 + E * 2 ^ 52 + M ↔ s = 1 := by omega
  rw [ofBits]
  simp only [hsign]
  by_cases hbig : 2 ^ 52 ≤ M
  · have he : (s * 2 ^ 63 + E * 2 ^ 52 + M) / 2 ^ 52 % 2 ^ 11 = E + 1 := by omega
    have hf : (s * 2 ^ 63 + E * 2 ^ 52 + M) % 2 ^ 52 = M - 2 ^ 52 := by omega
    have hM' : ((2 : ℚ) ^ 52 + ((M - 2 ^ 52 : ℕ) : ℚ)) = M := by
      rw [Nat.cast_sub hbig]
      push_cast
      ring
    have hexp : ((E + 1 : ℕ) : ℤ) - 1075 = (E : ℤ) - 1074 := by
      push_cast
      ring
    have hfinite : E + 1 ≠ 2 ^ 11 - 1 := by omega
    simp only [he, hf, hfinite, Nat.succ_ne_zero, if_false, hM', hexp]
  · obtain rfl : E = 0 := hnormal.resolve_left hbig
    have he : (s * 2 ^ 63 + 0 * 2 ^ 52 + M) / 2 ^ 52 % 2 ^ 11 = 0 := by omega
    have hf : (s * 2 ^ 63 + 0 * 2 ^ 52 + M) % 2 ^ 52 = M := by omega
    have hfinite : 0 ≠ 2 ^ 11 - 1 := by norm_num
    simp only [he, hf, hfinite, if_false, if_true, Nat.cast_zero, zero_sub]

/-- The sign, the exponent and the units that `bits` writes of an exact number. -/
lemma Exact.bits_eq {q : ℚ} (h : Exact |q|) (hq : q ≠ 0) :
    ∃ s E M : ℕ, s < 2 ∧ E < 2 ^ 11 - 2 ∧ M < 2 ^ 53 ∧ (2 ^ 52 ≤ M ∨ E = 0) ∧
      (finite q).bits = s * 2 ^ 63 + E * 2 ^ 52 + M ∧
      (if s = 1 then -(M * 2 ^ ((E : ℤ) - 1074)) else M * 2 ^ ((E : ℤ) - 1074) : ℚ) = q := by
  obtain ⟨M, hM, hnormal, hlow, hhigh, hunits⟩ := h.normal (abs_pos.mpr hq)
  have hexp : max (Int.log 2 |q|) (-1022) = exponent |q| := rfl
  have hE : ((exponent |q| + 1022).toNat : ℤ) = exponent |q| + 1022 :=
    Int.toNat_of_nonneg (by omega)
  have hvalue : (M : ℚ) * 2 ^ (((exponent |q| + 1022).toNat : ℤ) - 1074) = |q| := by
    have hzero : 52 - exponent |q| + (exponent |q| + 1022 - 1074) = 0 := by ring
    rw [← hunits, hE, mul_assoc, ← zpow_add₀ two_ne_zero, hzero, zpow_zero, mul_one]
  refine ⟨if q < 0 then 1 else 0, (exponent |q| + 1022).toNat, M, by split_ifs <;> decide,
    by omega, hM, hnormal.imp_right fun hsmall => by rw [hsmall]; rfl, ?_, ?_⟩
  · rw [bits, if_neg hq, hexp, if_neg (by omega), hunits, Nat.floor_natCast]
    split_ifs <;> ring
  · rw [hvalue]
    by_cases hneg : q < 0
    · rw [if_pos hneg, if_pos rfl, abs_of_neg hneg, neg_neg]
    · rw [if_neg hneg, if_neg Nat.zero_ne_one, abs_of_nonneg (not_lt.mp hneg)]

/-- **Exact numbers** are read back, from 64 bits. -/
theorem ofBits_bits_finite {q : ℚ} (h : Exact |q|) :
    (finite q).bits < 2 ^ 64 ∧ ofBits (finite q).bits = finite q := by
  by_cases hq : q = 0
  · subst hq
    simp [bits, ofBits]
  · obtain ⟨s, E, M, hs, hE, hM, hnormal, hbits, hvalue⟩ := h.bits_eq hq
    rw [hbits]
    refine ⟨by omega, ?_⟩
    rw [ofBits_units hs hE hM hnormal, hvalue]

/-- The bits of a `double` stand for an exact number, an infinity or no number. -/
lemma ofBits_cases (n : ℕ) :
    (∃ negative, ofBits n = .infinite negative) ∨ ofBits n = .nan ∨
      ∃ q, Exact |q| ∧ ofBits n = .finite q := by
  by_cases hspecial : n / 2 ^ 52 % 2 ^ 11 = 2 ^ 11 - 1
  · by_cases hf : n % 2 ^ 52 = 0
    · exact .inl ⟨2 ^ 63 ≤ n, by simp only [ofBits, if_pos hspecial, if_pos hf]⟩
    · exact .inr (.inl (by simp only [ofBits, if_pos hspecial, if_neg hf]))
  · refine .inr (.inr ⟨_, ?_, by simp only [ofBits, if_neg hspecial]; rfl⟩)
    have hfraction : n % 2 ^ 52 < 2 ^ 52 := Nat.mod_lt _ (by norm_num)
    have hexponent : n / 2 ^ 52 % 2 ^ 11 < 2 ^ 11 := Nat.mod_lt _ (by norm_num)
    have hsign (q : ℚ) (hq : 0 ≤ q) : |if 2 ^ 63 ≤ n then -q else q| = q := by
      split_ifs
      · rw [abs_neg, abs_of_nonneg hq]
      · exact abs_of_nonneg hq
    rw [hsign _ (by split_ifs <;> positivity)]
    split_ifs with hsmall
    · exact ⟨n % 2 ^ 52, -1074, by omega, le_rfl, by norm_num, rfl⟩
    · refine ⟨2 ^ 52 + n % 2 ^ 52, ((n / 2 ^ 52 % 2 ^ 11 : ℕ) : ℤ) - 1075, by omega, by omega,
        by omega, ?_⟩
      push_cast
      rfl

/-- Every `double` is read back. -/
theorem ofBits_bits_ofBits (n : ℕ) :
    (ofBits n).bits < 2 ^ 64 ∧ ofBits (ofBits n).bits = ofBits n := by
  obtain ⟨negative, h⟩ | h | ⟨q, hq, h⟩ := ofBits_cases n
  · rw [h]
    cases negative <;> exact ⟨by decide, rfl⟩
  · rw [h]
    exact ⟨by decide, rfl⟩
  · rw [h]
    exact ofBits_bits_finite hq

/-- An `int32` is exact. -/
lemma exact_ofInt32 (n : Int32) : Exact |(n.toInt : ℚ)| := by
  refine ⟨n.toInt.natAbs, 0, ?_, by norm_num, by norm_num, ?_⟩
  · have hlow := n.le_toInt
    have hhigh := n.toInt_lt
    omega
  · rw [zpow_zero, mul_one, Nat.cast_natAbs, Int.cast_abs]

/-- What the type `double` holds. -/
def Is (d : Double) : Prop := ∃ n, ofBits n = d

/-- An `int32` converted to a `double` is one. -/
lemma is_ofInt32 (n : Int32) : (ofInt32 n).Is := ⟨_, (ofBits_bits_finite (exact_ofInt32 n)).2⟩

lemma is_zero : (finite 0).Is := ⟨0, by simp [ofBits]⟩

/-- The eight octets of a `double` are read back. -/
lemma Is.ofBits_ofLE {d : Double} (h : d.Is) : ofBits (Bytes.ofLE (Bytes.toLE 8 d.bits)) = d := by
  obtain ⟨n, rfl⟩ := h
  obtain ⟨hlt, hback⟩ := ofBits_bits_ofBits n
  rw [Bytes.ofLE_toLE hlt, hback]

end Double

end LittleB
