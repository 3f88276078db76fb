import VirtIOGPU.Drawing.Rows

/-!
# The XOR loop

`chip_xor_rect_with_src` always goes upwards, in a row and from row to row.  Where the source lies
below the destination it can come upon bytes that it has changed itself.  `XorRect` says what the
loop computes in either case: such a byte is combined with what it has become.
-/

namespace VirtIOGPU.Drawing

open Lib.Hoare Lib.Memory

variable {s d k c len : ℕ} {m t : Mem UInt8}

/-- The first `k` bytes of a row have been combined. -/
structure XorRow (s d k : ℕ) (m t : Mem UInt8) : Prop where
  inside : ∀ i < k, t (d + i) = m (d + i) ^^^ (if s < d then t (s + i) else m (s + i))
  outside : ∀ a, a < d ∨ d + k ≤ a → t a = m a

theorem XorRow.start : XorRow s d 0 m m :=
  ⟨fun i hi => absurd hi (Nat.not_lt_zero i), fun _ _ => rfl⟩

/-- The next `c` bytes, which are read before any of them is written. -/
theorem XorRow.step (h : XorRow s d k m t) (hc : s < d → s + c ≤ d) :
    XorRow s d (k + c) m
      (overwrite (d + k) c (fun i => t (d + k + i) ^^^ t (s + k + i)) t) where
  inside i hi := by
    by_cases hold : i < k
    · rw [overwrite_outside (by omega), h.inside i hold]
      by_cases hlt : s < d
      · rw [if_pos hlt, if_pos hlt, overwrite_outside (by omega)]
      · rw [if_neg hlt, if_neg hlt]
    · obtain ⟨j, rfl⟩ : ∃ j, i = k + j := ⟨i - k, by omega⟩
      have hj : j < c := by omega
      rw [← Nat.add_assoc, ← Nat.add_assoc, overwrite_inside hj, h.outside (d + k + j) (by omega)]
      by_cases hlt : s < d
      · have hbelow := hc hlt
        rw [if_pos hlt, overwrite_outside (by omega)]
      · rw [if_neg hlt, h.outside (s + k + j) (by omega)]
  outside a ha := by
    rw [overwrite_outside (by omega)]
    exact h.outside a (by omega)

theorem XorRow.long (h : XorRow s d k m t) {j : ℕ} (hk : k = 4 * j) (hfour : s < d → s + 4 ≤ d) :
    XorRow s d (k + 4) m (xorLong s d j t) := by
  subst hk
  have hbytes : ∀ i < 4, byteOf (loadLong t (d + 4 * j) ^^^ loadLong t (s + 4 * j)) i =
      t (d + 4 * j + i) ^^^ t (s + 4 * j + i) := by
    intro i hi
    rw [byteOf_xor, byteOf_loadLong t _ hi, byteOf_loadLong t _ hi]
  rw [xorLong, storeLong, overwrite_congr hbytes]
  exact h.step hfour

theorem XorRow.byte (h : XorRow s d k m t) : XorRow s d (k + 1) m (xorByte s d k t) := by
  have hbyte : ∀ i < 1, t (d + k) ^^^ t (s + k) = t (d + k + i) ^^^ t (s + k + i) := by
    intro i hi
    rw [Nat.lt_one_iff.mp hi, Nat.add_zero, Nat.add_zero]
  rw [xorByte, storeByte, overwrite_congr hbyte]
  exact h.step fun hlt => hlt

/-- One row of the loop. -/
theorem xorRow_spec (s d rowBytes : ℕ) (m : Mem UInt8) :
    XorRow s d rowBytes m (xorRow s d rowBytes m) := by
  apply longsThenBytes_induction (P := fun k t => XorRow s d k m t) XorRow.start
  · intro haligned j t ht
    -- longs are only taken where both addresses are multiples of 4
    have hfour : s < d → s + 4 ≤ d := by
      intro hlt
      obtain ⟨hs, hd⟩ := or_and_three.mp haligned
      rw [and_three_eq_zero] at hs hd
      omega
    exact ht.long rfl hfour
  · exact fun i t ht => ht.byte

/-- The first `rows` rows have been combined. -/
structure XorRect (s sStride d dStride len rows : ℕ) (m t : Mem UInt8) : Prop where
  inside : ∀ r < rows, ∀ i < len, t (d + r * dStride + i) = m (d + r * dStride + i) ^^^
    (if s + r * sStride < d + r * dStride then t (s + r * sStride + i)
      else m (s + r * sStride + i))
  outside : ∀ a, (∀ r < rows, a < d + r * dStride ∨ d + r * dStride + len ≤ a) → t a = m a

variable {sStride dStride rows : ℕ}

theorem XorRect.step {t' : Mem UInt8} (h : XorRect s sStride d dStride len rows m t)
    (hlen : len ≤ dStride)
    (hrow : XorRow (s + rows * sStride) (d + rows * dStride) len t t') :
    XorRect s sStride d dStride len (rows + 1) m t' where
  inside r hr i hi := by
    rcases Nat.lt_succ_iff_lt_or_eq.mp hr with hold | rfl
    · have hapart := rows_apart d hold hlen
      rw [hrow.outside (d + r * dStride + i) (by omega), h.inside r hold i hi]
      by_cases hlt : s + r * sStride < d + r * dStride
      · rw [if_pos hlt, if_pos hlt, hrow.outside (s + r * sStride + i) (by omega)]
      · rw [if_neg hlt, if_neg hlt]
    · have hbefore : t (d + r * dStride + i) = m (d + r * dStride + i) := by
        apply h.outside
        intro r' hr'
        have hapart := rows_apart d hr' hlen
        omega
      rw [hrow.inside i hi, hbefore]
      by_cases hlt : s + r * sStride < d + r * dStride
      · rw [if_pos hlt, if_pos hlt]
      · rw [if_neg hlt, if_neg hlt, h.outside (s + r * sStride + i)]
        intro r' hr'
        have hapart := rows_apart d hr' hlen
        omega
  outside a ha := by
    rw [hrow.outside a (ha rows (Nat.lt_succ_self rows))]
    exact h.outside a fun r hr => ha r (Nat.lt_succ_of_lt hr)

theorem chipXorRectWithSrc_spec (s sStride d h : ℕ) (hlen : len ≤ dStride) :
    Triple (fun b => b.mem = m ∧ AllDisjoint b.calls)
      (chipXorRectWithSrc s sStride d dStride len h)
      fun _ b => XorRect s sStride d dStride len h m b.mem ∧ AllDisjoint b.calls := by
  rintro b₀ ⟨rfl, hcalls⟩
  have hstart : XorRect s sStride d dStride len 0 b₀.mem b₀.mem :=
    ⟨fun r hr => absurd hr (Nat.not_lt_zero r), fun _ _ => rfl⟩
  refine Triple.forUp
    (f := fun row => onMemory (xorRow (s + row * sStride) (d + row * dStride) len))
    (I := fun k b => XorRect s sStride d dStride len k b₀.mem b.mem ∧ AllDisjoint b.calls)
    (fun row hlt b hb => ⟨?_, hb.2⟩) b₀ ⟨hstart, hcalls⟩
  exact hb.1.step hlen (xorRow_spec _ _ _ b.mem)

end VirtIOGPU.Drawing
