import Mathlib

/-!
# Laminar intervals — one sweep, then a binary search

Two intervals of a laminar family are nested or apart, as the prefixes of an address space are.
To ask many times whether an interval meets one of a list, sort the list by left end with the
containing interval first, SWEEP out every interval that starts inside the last one kept, and
SEARCH the rest: only the first interval that does not start before the asked one and its
predecessor can meet it.
-/

namespace Laminar

variable {α : Type} (lo hi : α → Nat)

/-- The interval meets the one from `a` to `b`. -/
def Meets (a b : Nat) (p : α) : Prop := a ≤ hi p ∧ lo p ≤ b

/-- The order of the list: by left end, and of two that share it the longer one first. -/
def Before (p q : α) : Prop := lo p < lo q ∨ (lo p = lo q ∧ hi q ≤ hi p)

/-- In order and apart. -/
def Apart (l : List α) : Prop := l.Pairwise fun p q => hi p < lo q

-- ── the sweep

/-- Keep an interval unless it starts inside the last one kept. -/
def keep (inside : α → α → Bool) (kept : List α) (p : α) : List α :=
  match kept.getLast? with
  | none => [p]
  | some q => if inside q p then kept else kept ++ [p]

/-- What the sweep rests on: `inside` says where an interval starts, and one that starts inside
    an earlier one ends there too. -/
structure Laws (inside : α → α → Bool) (S : α → Prop) : Prop where
  inside_iff : ∀ q p, S q → S p → (inside q p = true ↔ lo q ≤ lo p ∧ lo p ≤ hi q)
  nested : ∀ q p, S q → S p → Before lo hi q p → lo p ≤ hi q → hi p ≤ hi q
  proper : ∀ p, S p → lo p ≤ hi p

variable {lo hi} {inside : α → α → Bool} {S : α → Prop}

variable {l : List α}

theorem Apart.le_last {q : α} (h : Apart lo hi l) (hproper : ∀ p ∈ l, lo p ≤ hi p)
    (hlast : l.getLast? = some q) : ∀ p ∈ l, hi p ≤ hi q := by
  obtain ⟨l', rfl⟩ := List.getLast?_eq_some_iff.mp hlast
  intro p hp
  rcases List.mem_append.mp hp with hp' | hq
  · have hlt : hi p < lo q := (List.pairwise_append.mp h).2.2 p hp' q (.head _)
    have hq := hproper q (List.mem_append_right l' (.head _))
    omega
  · rw [List.mem_singleton.mp hq]

variable {kept : List α}

theorem keep_mem {p q : α} (h : q ∈ keep inside kept p) : q ∈ kept ∨ q = p := by
  unfold keep at h
  split at h
  · exact .inr (List.mem_singleton.mp h)
  split at h
  · exact .inl h
  rcases List.mem_append.mp h with hk | hp
  · exact .inl hk
  · exact .inr (List.mem_singleton.mp hp)

theorem kept_mem {p q : α} (h : q ∈ kept) : q ∈ keep inside kept p := by
  unfold keep
  split
  · rename_i hnone
    rw [List.getLast?_eq_none_iff.mp hnone] at h
    nomatch h
  · split
    · exact h
    · exact List.mem_append_left _ h

/-- **ONE STEP OF THE SWEEP.** The new interval starts after all that were kept. -/
theorem keep_spec (hl : Laws lo hi inside S) {p : α} (hS : ∀ q ∈ kept, S q) (hp : S p)
    (happart : Apart lo hi kept) (hbefore : ∀ q ∈ kept, Before lo hi q p) :
    Apart lo hi (keep inside kept p) ∧
      ∀ a b, Meets lo hi a b p → ∃ q ∈ keep inside kept p, Meets lo hi a b q := by
  unfold keep
  cases hlast : kept.getLast? with
  | none => exact ⟨List.pairwise_singleton _ _, fun a b hm => ⟨p, .head _, hm⟩⟩
  | some q =>
    have hq : q ∈ kept := List.mem_of_getLast? hlast
    have hstart : lo q ≤ lo p := by
      rcases hbefore q hq with hlt | heq
      · exact hlt.le
      · exact heq.1.le
    dsimp only
    split
    · rename_i hin
      refine ⟨happart, fun a b hm => ⟨q, hq, ?_⟩⟩
      have hend := ((hl.inside_iff q p (hS q hq) hp).mp hin).2
      have hnest := hl.nested q p (hS q hq) hp (hbefore q hq) hend
      exact ⟨hm.1.trans hnest, hstart.trans hm.2⟩
    · rename_i hin
      have hout : hi q < lo p := by
        by_contra hle
        exact hin ((hl.inside_iff q p (hS q hq) hp).mpr ⟨hstart, Nat.not_lt.mp hle⟩)
      refine ⟨?_, fun a b hm => ⟨p, List.mem_append_right _ (.head _), hm⟩⟩
      refine List.pairwise_append.mpr ⟨happart, List.pairwise_singleton _ _, fun k hk p' hp' => ?_⟩
      rw [List.mem_singleton.mp hp']
      have hle := happart.le_last (fun k hk => hl.proper k (hS k hk)) hlast k hk
      omega

/-- The sweep from what was kept so far: induction on the rest of the list. -/
theorem sweep_from (hl : Laws lo hi inside S) (hS : ∀ q ∈ kept ++ l, S q) (happart : Apart lo hi kept)
    (hsorted : l.Pairwise (Before lo hi)) (hbefore : ∀ q ∈ kept, ∀ p ∈ l, Before lo hi q p) :
    Apart lo hi (l.foldl (keep inside) kept) ∧
      ∀ a b, (∃ q ∈ l.foldl (keep inside) kept, Meets lo hi a b q) ↔
        ∃ q ∈ kept ++ l, Meets lo hi a b q := by
  induction l generalizing kept with
  | nil => exact ⟨happart, fun a b => by rw [List.append_nil]; rfl⟩
  | cons p l ih =>
    obtain ⟨hfirst, hrest⟩ := List.pairwise_cons.mp hsorted
    have hSkept : ∀ q ∈ kept, S q := fun q hq => hS q (List.mem_append_left _ hq)
    have hSp : S p := hS p (List.mem_append_right _ (.head _))
    obtain ⟨happart', hmeets⟩ := keep_spec hl hSkept hSp happart fun q hq =>
      hbefore q hq p (.head _)
    have hS' : ∀ q ∈ keep inside kept p ++ l, S q := by
      intro q hq
      rcases List.mem_append.mp hq with hq | hq
      · rcases keep_mem hq with hq | rfl
        · exact hSkept q hq
        · exact hSp
      · exact hS q (List.mem_append_right _ (.tail _ hq))
    have hbefore' : ∀ q ∈ keep inside kept p, ∀ r ∈ l, Before lo hi q r := by
      intro q hq r hr
      rcases keep_mem hq with hq | rfl
      · exact hbefore q hq r (.tail _ hr)
      · exact hfirst r hr
    obtain ⟨hout, hsame⟩ := ih hS' happart' hrest hbefore'
    refine ⟨hout, fun a b => (hsame a b).trans ⟨?_, ?_⟩⟩
    · rintro ⟨q, hq, hm⟩
      refine ⟨q, ?_, hm⟩
      rcases List.mem_append.mp hq with hq | hq
      · rcases keep_mem hq with hq | rfl
        · exact List.mem_append_left _ hq
        · exact List.mem_append_right _ (.head _)
      · exact List.mem_append_right _ (.tail _ hq)
    · rintro ⟨q, hq, hm⟩
      rcases List.mem_append.mp hq with hq | hq
      · exact ⟨q, List.mem_append_left _ (kept_mem hq), hm⟩
      rcases List.mem_cons.mp hq with rfl | hq
      · obtain ⟨r, hr, hm'⟩ := hmeets a b hm
        exact ⟨r, List.mem_append_left _ hr, hm'⟩
      · exact ⟨q, List.mem_append_right _ hq, hm⟩

theorem sweep_mem {q : α} (h : q ∈ l.foldl (keep inside) kept) :
    q ∈ kept ∨ q ∈ l := by
  induction l generalizing kept with
  | nil => exact .inl h
  | cons p l ih =>
    rcases ih h with hk | hl
    · rcases keep_mem hk with hk | rfl
      · exact .inl hk
      · exact .inr (.head _)
    · exact .inr (.tail _ hl)

/-- **THE SWEEP**: what is kept is apart, and meets whatever the list meets. -/
theorem sweep_spec (hl : Laws lo hi inside S) (hS : ∀ q ∈ l, S q) (hsorted : l.Pairwise (Before lo hi)) :
    Apart lo hi (l.foldl (keep inside) []) ∧
      ∀ a b, (∃ q ∈ l.foldl (keep inside) [], Meets lo hi a b q) ↔ ∃ q ∈ l, Meets lo hi a b q :=
  sweep_from hl hS List.Pairwise.nil hsorted nofun

/-- **THE SEARCH**: an interval meets one of the list iff it meets the first that does not start
    before it, or the one before that. -/
theorem search_spec (happart : Apart lo hi l) (hproper : ∀ p ∈ l, lo p ≤ hi p) {a b : Nat} (hab : a ≤ b) :
    (∃ p ∈ l, Meets lo hi a b p) ↔
      (∃ p, l[l.findIdx fun p => decide (a ≤ lo p)]? = some p ∧ lo p ≤ b) ∨
      (0 < l.findIdx fun p => decide (a ≤ lo p)) ∧
        ∃ p, l[(l.findIdx fun p => decide (a ≤ lo p)) - 1]? = some p ∧ a ≤ hi p := by
  induction l with
  | nil => simp
  | cons p l ih =>
    obtain ⟨hp, hrest⟩ := List.pairwise_cons.mp happart
    have ih := ih hrest fun q hq => hproper q (List.mem_cons_of_mem p hq)
    have hpp := hproper p (.head _)
    rw [List.findIdx_cons]
    by_cases hstart : a ≤ lo p
    · -- the search stops here; what follows starts even later
      simp only [hstart, decide_true, cond_true, List.getElem?_cons_zero, Option.some.injEq,
        Nat.lt_irrefl, false_and, or_false, exists_eq_left']
      refine ⟨?_, fun hle => ⟨p, .head _, hstart.trans hpp, hle⟩⟩
      rintro ⟨q, hq, hm⟩
      rcases List.mem_cons.mp hq with rfl | hq
      · exact hm.2
      have hlt := hp q hq
      have hend := hm.2
      omega
    · simp only [hstart, decide_false, cond_false, List.getElem?_cons_succ, Nat.zero_lt_succ,
        true_and, Nat.add_sub_cancel]
      have hcons : (∃ q ∈ p :: l, Meets lo hi a b q) ↔
          a ≤ hi p ∨ ∃ q ∈ l, Meets lo hi a b q := by
        simp only [List.mem_cons, exists_eq_or_imp]
        refine or_congr_left ⟨fun hm => hm.1, fun hle => ⟨hle, ?_⟩⟩
        omega
      rw [hcons, ih]
      cases hidx : l.findIdx fun p => decide (a ≤ lo p) with
      | zero =>
        simp only [List.getElem?_cons_zero, Option.some.injEq, exists_eq_left', Nat.lt_irrefl,
          false_and, or_false]
        exact or_comm
      | succ i =>
        -- the next interval starts before `a` as well, and after the end of this one
        have hlen : 0 < l.length := by
          by_contra hzero
          rw [List.length_eq_zero_iff.mp (Nat.eq_zero_of_not_pos hzero)] at hidx
          nomatch hidx
        have hnot : ¬a ≤ lo l[0] := by
          have := List.not_of_lt_findIdx (p := fun p => decide (a ≤ lo p)) (i := 0)
            (show 0 < l.findIdx _ by omega)
          simpa using this
        have hgap := hp l[0] (List.getElem_mem hlen)
        have hfalse : ¬a ≤ hi p := by omega
        simp only [hfalse, false_or, Nat.zero_lt_succ, true_and, Nat.add_sub_cancel,
          List.getElem?_cons_succ]

/-- **DYADIC INTERVALS ARE LAMINAR**: one that starts inside another ends inside it. -/
theorem dyadic_nested {a b i j : Nat} (ha : 2 ^ i ∣ a) (hb : 2 ^ j ∣ b) (hle : a ≤ b)
    (hlt : b < a + 2 ^ i) (hij : a = b → j ≤ i) : b + 2 ^ j ≤ a + 2 ^ i := by
  rcases Nat.lt_or_ge i j with hlong | hshort
  · -- `b` is a multiple of the shorter length too, so it is the only one in reach
    have hdvd : 2 ^ i ∣ b - a := Nat.dvd_sub (Nat.dvd_trans (Nat.pow_dvd_pow 2 hlong.le) hb) ha
    have hzero : b - a = 0 := Nat.eq_zero_of_dvd_of_lt hdvd (by omega)
    omega
  · have hdvd : 2 ^ j ∣ a + 2 ^ i - b :=
      Nat.dvd_sub (Nat.dvd_add (Nat.dvd_trans (Nat.pow_dvd_pow 2 hshort) ha) (Nat.pow_dvd_pow 2 hshort)) hb
    have := Nat.le_of_dvd (by omega) hdvd
    omega

end Laminar
