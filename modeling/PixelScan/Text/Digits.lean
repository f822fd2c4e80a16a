namespace PixelScan

variable {b m n : Nat}

theorem notMem_toDigits {c : Char} (hb : 1 < b) (hc : ∀ d, Nat.digitChar d ≠ c) :
    c ∉ Nat.toDigits b n := by
  induction n using Nat.base_induction b hb with
  | single d hd => simpa [Nat.toDigits_of_lt_base hd] using (hc d).symm
  | digit n d hd hn ih =>
      rw [← Nat.toDigits_append_toDigits hb hn hd, Nat.toDigits_of_lt_base hd]
      simpa [ih] using (hc d).symm

theorem notMem_number {c : Char} (hc : ∀ d, Nat.digitChar d ≠ c) (n : Nat) :
    c ∉ (toString n).toList := by
  rw [Nat.toString_eq_repr, Nat.toList_repr]
  exact notMem_toDigits (by decide) hc

/-- The digits of the bases up to 16 differ; all others are written alike. -/
theorem digitChar_inj : ∀ m < 16, ∀ n < 16, Nat.digitChar m = Nat.digitChar n → m = n := by
  decide

theorem toDigits_inj (hb : 1 < b) (hdigits : b ≤ 16) (h : Nat.toDigits b m = Nat.toDigits b n) :
    m = n := by
  induction m using Nat.strongRecOn generalizing n with
  | ind m ih =>
      rw [Nat.toDigits_eq_if hb, Nat.toDigits_eq_if (n := n) hb] at h
      split at h <;> split at h
      · next hm hn =>
          exact digitChar_inj m (by omega) n (by omega) (List.singleton_inj.1 h)
      · simp [List.singleton_eq_append_iff] at h
      · simp [List.append_eq_singleton_iff] at h
      · next hm hn =>
          obtain ⟨hinit, hlast⟩ := List.append_inj' h rfl
          have hquot : m / b = n / b := ih (m / b) (Nat.div_lt_self (by omega) hb) hinit
          have hrem : m % b = n % b := by
            have hm := Nat.mod_lt m (show 0 < b by omega)
            have hn := Nat.mod_lt n (show 0 < b by omega)
            exact digitChar_inj _ (by omega) _ (by omega) (List.singleton_inj.1 hlast)
          rw [← Nat.div_add_mod m b, hquot, hrem, Nat.div_add_mod]

end PixelScan
