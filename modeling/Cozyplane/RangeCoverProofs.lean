import Cozyplane.PrefixTableProofs

/-!
# Covering a range with prefixes — aligned power-of-two blocks

The interval `[l, h]` of `w`-bit numbers is split, from the left, into the largest aligned
power-of-two blocks that fit. A block of `2 ^ k` numbers is a prefix of `w - k` bits, so a
prefix table can hold a range with one row for each block.
-/

namespace RangeCover

open PrefixTable

variable {w : Nat}

/-- A prefix: `bits` leading bits of `base`. -/
structure Prefix (w : Nat) where
  base : BitVec w
  bits : Nat
  deriving DecidableEq

/-- The number has the prefix. -/
def Prefix.holds (p : Prefix w) (q : BitVec w) : Bool := agree p.bits p.base q

/-- Double the block at `l` while it is aligned and within `h`. -/
def grow (l h : Nat) : Nat → Nat → Nat
  | 0, k => k
  | fuel + 1, k =>
    let next := 2 ^ (k + 1)
    if l &&& (next - 1) ≠ 0 ∨ h < l + next - 1 then k else grow l h fuel (k + 1)

/-- The blocks of `[l, h]`, from the left. A block holds at least one number, so `h + 1 - l`
    rounds are enough. -/
def cover (w h : Nat) : Nat → Nat → List (Prefix w)
  | 0, _ => []
  | fuel + 1, l =>
    if l ≤ h then
      let k := grow l h w 0
      ⟨BitVec.ofNat w l, w - k⟩ :: cover w h fuel (l + 2 ^ k)
    else []

/-- Agreement on leading bits is membership in one block. -/
theorem agree_iff_div {k : Nat} (hk : k ≤ w) (a b : BitVec w) :
    agree (w - k) a b = true ↔ a.toNat / 2 ^ k = b.toNat / 2 ^ k := by
  have hsub : w - (w - k) = k := by omega
  unfold agree
  rw [hsub, Bool.and_eq_true, decide_eq_true_eq, beq_iff_eq, ← BitVec.toNat_inj,
    BitVec.toNat_ushiftRight, BitVec.toNat_ushiftRight, Nat.shiftRight_eq_div_pow,
    Nat.shiftRight_eq_div_pow]
  exact ⟨fun h => h.2, fun h => ⟨Nat.sub_le w k, h⟩⟩

theorem div_eq_iff_of_dvd {l n q : Nat} (hn : 0 < n) (hl : n ∣ l) :
    l / n = q / n ↔ l ≤ q ∧ q < l + n := by
  obtain ⟨c, rfl⟩ := hl
  rw [Nat.mul_div_cancel_left c hn, eq_comm, Nat.div_eq_iff hn]
  rw [Nat.mul_comm c n]
  omega

/-- What the doubling loop keeps: the block is aligned and within the interval. -/
theorem grow_spec {l h : Nat} (fuel k : Nat) (hd : 2 ^ k ∣ l) (hfit : l + 2 ^ k - 1 ≤ h) :
    2 ^ grow l h fuel k ∣ l ∧ l + 2 ^ grow l h fuel k - 1 ≤ h ∧ grow l h fuel k ≤ k + fuel := by
  induction fuel generalizing k with
  | zero => exact ⟨hd, hfit, Nat.le_refl k⟩
  | succ fuel ih =>
    unfold grow
    simp only []
    split
    · exact ⟨hd, hfit, Nat.le_add_right k _⟩
    · rename_i hstop
      obtain ⟨hal, hle⟩ := not_or.mp hstop
      have hmod : l % 2 ^ (k + 1) = 0 := by
        rw [← Nat.and_two_pow_sub_one_eq_mod]
        exact not_ne_iff.mp hal
      obtain ⟨h₁, h₂, h₃⟩ := ih (k + 1) (Nat.dvd_of_mod_eq_zero hmod) (Nat.not_lt.mp hle)
      exact ⟨h₁, h₂, by omega⟩

/-- The doubling loop ends because the next block is not aligned or does not fit. -/
theorem grow_stops {l h : Nat} (fuel k : Nat) (hh : h < 2 ^ (k + fuel)) (hd : 2 ^ k ∣ l) :
    ¬ 2 ^ (grow l h fuel k + 1) ∣ l ∨ h + 1 < l + 2 ^ (grow l h fuel k + 1) := by
  induction fuel generalizing k with
  | zero =>
    right
    show h + 1 < l + 2 ^ (k + 1)
    rw [Nat.add_zero] at hh
    omega
  | succ fuel ih =>
    unfold grow
    simp only []
    split
    · rename_i hstop
      rw [Nat.and_two_pow_sub_one_eq_mod, ne_eq, ← Nat.dvd_iff_mod_eq_zero] at hstop
      exact hstop.imp_right fun hlt => by omega
    · rename_i hstop
      rw [Nat.and_two_pow_sub_one_eq_mod, ne_eq, ← Nat.dvd_iff_mod_eq_zero, not_or, not_not] at hstop
      exact ih (k + 1) (by rwa [Nat.add_assoc, Nat.add_comm 1]) hstop.1

/-- The number of numbers a prefix holds. -/
def Prefix.size (p : Prefix w) : Nat := 2 ^ (w - p.bits)

/-- What one round of the cover takes: the block at `l`, or nothing once `l` is past `h`. -/
theorem cover_cases {h : Nat} (hh : h < 2 ^ w) (fuel l : Nat) :
    (cover w h fuel l = [] ∧ (fuel = 0 ∨ h < l)) ∨
    ∃ (p : Prefix w) (n : Nat), fuel = n + 1 ∧ cover w h fuel l = p :: cover w h n (l + p.size) ∧
      p.bits ≤ w ∧ p.base.toNat = l ∧ p.size ∣ l ∧ l + p.size ≤ h + 1 ∧
      (¬ 2 * p.size ∣ l ∨ h + 1 < l + 2 * p.size) := by
  cases fuel with
  | zero => exact .inl ⟨rfl, .inl rfl⟩
  | succ n =>
    by_cases hle : l ≤ h
    · right
      obtain ⟨hdvd, hfit, hk⟩ := grow_spec (h := h) w 0 (Nat.one_dvd l) (by simpa using hle)
      have hstop := grow_stops (h := h) w 0 (by simpa using hh) (Nat.one_dvd l)
      rw [Nat.zero_add] at hk
      rw [Nat.pow_succ'] at hstop
      have hsize : (⟨BitVec.ofNat w l, w - grow l h w 0⟩ : Prefix w).size = 2 ^ grow l h w 0 :=
        congrArg (2 ^ ·) (Nat.sub_sub_self hk)
      refine ⟨⟨BitVec.ofNat w l, w - grow l h w 0⟩, n, rfl, ?_, Nat.sub_le _ _, ?_, ?_⟩
      · rw [hsize]
        simp only [cover, if_pos hle]
      · exact (BitVec.toNat_ofNat ..).trans (Nat.mod_eq_of_lt (Nat.lt_of_le_of_lt hle hh))
      · rw [hsize]
        exact ⟨hdvd, by omega, hstop⟩
    · exact .inl ⟨by simp only [cover, if_neg hle], .inr (Nat.lt_of_not_le hle)⟩

theorem Prefix.holds_iff {p : Prefix w} (hb : p.bits ≤ w) (hd : p.size ∣ p.base.toNat) (q : BitVec w) :
    p.holds q = true ↔ p.base.toNat ≤ q.toNat ∧ q.toNat < p.base.toNat + p.size := by
  have hagree := agree_iff_div (Nat.sub_le w p.bits) p.base q
  rw [Nat.sub_sub_self hb] at hagree
  exact hagree.trans (div_eq_iff_of_dvd (Nat.two_pow_pos _) hd)

/-- **THE BLOCKS HOLD EXACTLY THE INTERVAL.** -/
theorem cover_iff {h : Nat} (hh : h < 2 ^ w) (fuel l : Nat) (hfuel : h + 1 - l ≤ fuel)
    (q : BitVec w) :
    (∃ p ∈ cover w h fuel l, p.holds q = true) ↔ l ≤ q.toNat ∧ q.toNat ≤ h := by
  induction fuel generalizing l with
  | zero =>
    -- no round is left because the interval is empty
    simp only [cover, List.not_mem_nil, false_and, exists_false, false_iff]
    omega
  | succ fuel ih =>
    rcases cover_cases hh (fuel + 1) l with ⟨hnil, hend⟩ | ⟨p, n, hn, hcons, hb, rfl, hd, hfit, -⟩
    · simp only [hnil, List.not_mem_nil, false_and, exists_false, false_iff]
      omega
    · cases hn
      have hpos : 0 < p.size := Nat.two_pow_pos _
      rw [hcons]
      simp only [List.mem_cons, exists_eq_or_imp, ih (p.base.toNat + p.size) (by omega),
        p.holds_iff hb hd]
      omega

theorem cover_blocks {h : Nat} (hh : h < 2 ^ w) (fuel l : Nat) :
    (∀ p ∈ cover w h fuel l, p.bits ≤ w ∧ p.size ∣ p.base.toNat ∧ l ≤ p.base.toNat) ∧
      (cover w h fuel l).Pairwise fun p q => p.base.toNat + p.size ≤ q.base.toNat := by
  induction fuel generalizing l with
  | zero => exact ⟨by simp [cover], .nil⟩
  | succ fuel ih =>
    rcases cover_cases hh (fuel + 1) l with ⟨hnil, -⟩ | ⟨p, n, hn, hcons, hb, rfl, hd, -⟩
    · rw [hnil]
      exact ⟨by simp, .nil⟩
    · cases hn
      obtain ⟨hall, hpair⟩ := ih (p.base.toNat + p.size)
      rw [hcons]
      refine ⟨?_, .cons (fun q hq => (hall q hq).2.2) hpair⟩
      intro q hq
      rcases List.mem_cons.mp hq with rfl | hq
      · exact ⟨hb, hd, Nat.le_refl _⟩
      · obtain ⟨hqb, hqd, hle⟩ := hall q hq
        exact ⟨hqb, hqd, Nat.le_trans (Nat.le_add_right ..) hle⟩

/-- A rest shorter than the alignment of its left end halves with every block. -/
theorem cover_length_le {h : Nat} (hh : h < 2 ^ w) (fuel l j : Nat) (hl : 2 ^ j ∣ l)
    (hshort : h + 1 < l + 2 ^ j) : (cover w h fuel l).length ≤ j := by
  induction fuel generalizing l j with
  | zero => exact Nat.zero_le _
  | succ fuel ih =>
    rcases cover_cases hh (fuel + 1) l with ⟨hnil, -⟩ | ⟨p, n, hn, hcons, -, -, hd, hfit, hstop⟩
    · rw [hnil]
      exact Nat.zero_le _
    · cases hn
      unfold Prefix.size at hcons hd hfit hstop
      have hlt : w - p.bits < j := (Nat.pow_lt_pow_iff_right Nat.one_lt_two).mp (by omega)
      rw [← Nat.pow_succ'] at hstop
      have hend := hstop.resolve_left (not_not.mpr ((Nat.pow_dvd_pow 2 hlt).trans hl))
      have htail := ih (l + 2 ^ (w - p.bits)) (w - p.bits) ((Nat.dvd_add_right hd).mpr (dvd_refl _))
        (by omega)
      rw [hcons, List.length_cons]
      omega

/-- **AT MOST `2 w - 1` BLOCKS**: they grow with the alignment of the left end, by one bit at
    least, until the right end stops them, and shrink from there. -/
theorem cover_length {h : Nat} (hw : 2 ≤ w) (hh : h < 2 ^ w) (fuel l j : Nat) (hl : 2 ^ j ∣ l)
    (hj : j = 0 ∨ 0 < l) : (cover w h fuel l).length ≤ 2 * w - 1 - j := by
  induction fuel generalizing l j with
  | zero => exact Nat.zero_le _
  | succ fuel ih =>
    rcases cover_cases hh (fuel + 1) l with ⟨hnil, -⟩ | ⟨p, n, hn, hcons, -, -, hd, hfit, hstop⟩
    · rw [hnil]
      exact Nat.zero_le _
    · cases hn
      unfold Prefix.size at hcons hd hfit hstop
      -- below a left end other than zero there is room for neither exponent to be `w`
      have hroom : ∀ i, 2 ^ i ∣ l → 0 < l → i < w := by
        intro i hi hpos
        have hle := Nat.le_of_dvd hpos hi
        exact (Nat.pow_lt_pow_iff_right Nat.one_lt_two).mp (by omega)
      rw [hcons, List.length_cons]
      rcases hstop with hodd | hend
      · have hpos : 0 < l := Nat.pos_of_ne_zero fun h0 => hodd (h0 ▸ dvd_zero _)
        have hk := hroom _ hd hpos
        have hjk : j ≤ w - p.bits := by
          by_contra hgt
          rw [← Nat.pow_succ'] at hodd
          exact hodd ((Nat.pow_dvd_pow 2 (Nat.lt_of_not_le hgt)).trans hl)
        have hnext : 2 ^ (w - p.bits + 1) ∣ l + 2 ^ (w - p.bits) := by
          obtain ⟨c, rfl⟩ := hd
          rw [Nat.mul_comm 2, Nat.mul_dvd_mul_iff_left (Nat.two_pow_pos _)] at hodd
          rw [Nat.pow_succ, ← Nat.mul_succ]
          exact Nat.mul_dvd_mul_left _ (by omega)
        have htail := ih (l + 2 ^ (w - p.bits)) _ hnext (.inr (by omega))
        omega
      · have htail := cover_length_le hh fuel (l + 2 ^ (w - p.bits)) (w - p.bits)
          ((Nat.dvd_add_right hd).mpr (dvd_refl _)) (by omega)
        rcases hj with rfl | hpos
        · omega
        · have hjw := hroom _ hl hpos
          have hkw := hroom _ hd hpos
          omega

/-- The loop ends by its own condition: more rounds change nothing. -/
theorem cover_fuel {h : Nat} (fuel n l : Nat) (hfuel : h + 1 - l ≤ fuel) :
    cover w h (fuel + n) l = cover w h fuel l := by
  induction fuel generalizing l with
  | zero =>
    have hend : ¬ l ≤ h := by omega
    cases n with
    | zero => rfl
    | succ n => simp only [cover, if_neg hend]
  | succ fuel ih =>
    rw [Nat.add_right_comm]
    unfold cover
    split
    · have hpos : 0 < 2 ^ grow l h w 0 := Nat.two_pow_pos _
      simp only []
      rw [ih (l + 2 ^ grow l h w 0) (by omega)]
    · rfl

end RangeCover
