import Mathlib

/-!
# Longest-prefix tables — lookup over bit-vector keys

A prefix table is a list of entries, each a prefix length, a key and a value. An entry
**covers** a key when the two agree on the entry's leading bits; `lookup` returns the
covering entry with the greatest prefix length. Nothing here depends on what the keys
mean: addresses, ports and scopes are all `BitVec w`.
-/

namespace PrefixTable

variable {v w : Nat} {ν : Type}

/-- The leading `n` bits of two keys agree. A length beyond the key's width matches
    nothing (no such entry can be stored). -/
def agree (n : Nat) (a b : BitVec w) : Bool :=
  decide (n ≤ w) && a >>> (w - n) == b >>> (w - n)

/-- One row of a prefix table. -/
structure Entry (w : Nat) (ν : Type) where
  plen : Nat
  key : BitVec w
  val : ν
  deriving DecidableEq

/-- The entry matches the looked-up key on its own prefix. -/
def Entry.covers (e : Entry w ν) (k : BitVec w) : Bool :=
  agree e.plen e.key k

abbrev Table (w : Nat) (ν : Type) := List (Entry w ν)

/-- Longest-prefix lookup; of two covering rows of one length the first one listed is taken. -/
def lookup : Table w ν → BitVec w → Option (Entry w ν)
  | [], _ => none
  | e :: es, k =>
    if e.covers k then
      match lookup es k with
      | some f => if e.plen < f.plen then some f else some e
      | none => some e
    else lookup es k

/-- The value stored at the longest covering row. -/
def find (t : Table w ν) (k : BitVec w) : Option ν :=
  (lookup t k).map Entry.val

variable {t : Table w ν} {n : Nat}

theorem agree_refl (h : n ≤ w) (a : BitVec w) : agree n a a = true := by
  simp [agree, h]

variable {a k b : BitVec w}

theorem agree_symm (h : agree n a b = true) :
    agree n b a = true := by
  simp only [agree, Bool.and_eq_true, beq_iff_eq] at h ⊢
  exact ⟨h.1, h.2.symm⟩

theorem agree_trans {c : BitVec w} (hab : agree n a b = true) (hbc : agree n b c = true) :
    agree n a c = true := by
  simp only [agree, Bool.and_eq_true, beq_iff_eq] at hab hbc ⊢
  exact ⟨hab.1, hab.2.trans hbc.2⟩

theorem agree_iff_bits :
    agree n a b = true ↔ n ≤ w ∧ ∀ i, w - n ≤ i → a.getLsbD i = b.getLsbD i := by
  simp only [agree, Bool.and_eq_true, decide_eq_true_eq, beq_iff_eq]
  refine and_congr_right fun _ => ⟨fun h i hi => ?_, fun h => ?_⟩
  · have hbit := congrArg (fun x => x.getLsbD (i - (w - n))) h
    simpa only [BitVec.getLsbD_ushiftRight, Nat.add_sub_cancel' hi] using hbit
  · ext i _
    simpa only [BitVec.getElem_ushiftRight] using h (w - n + i) (Nat.le_add_right _ _)

theorem agree_mono {m : Nat} (hmn : m ≤ n) (h : agree n a b = true) :
    agree m a b = true := by
  rw [agree_iff_bits] at h ⊢
  exact ⟨Nat.le_trans hmn h.1, fun i hi => h.2 i (by omega)⟩

/-- **A FIXED FIELD IN FRONT OF AN ADDRESS**: an entry of the field and `n` bits agrees with a key
    iff the field is the same and the address agrees on its `n` leading bits. -/
theorem agree_append (f g : BitVec v) (a b : BitVec w) :
    agree (v + n) (f ++ a) (g ++ b) = true ↔ f = g ∧ agree n a b = true := by
  rw [agree_iff_bits, agree_iff_bits]
  constructor
  · rintro ⟨hn, h⟩
    refine ⟨?_, by omega, fun i hi => ?_⟩
    · ext i hi
      have hbit := h (w + i) (by omega)
      have hge : ¬ w + i < w := by omega
      rw [BitVec.getLsbD_append, BitVec.getLsbD_append] at hbit
      simpa [hi, hge] using hbit
    · by_cases hiw : i < w
      · have hbit := h i (by omega)
        rw [BitVec.getLsbD_append, BitVec.getLsbD_append] at hbit
        simpa [hiw] using hbit
      · rw [BitVec.getLsbD_of_ge a i (by omega), BitVec.getLsbD_of_ge b i (by omega)]
  · rintro ⟨rfl, hn, h⟩
    refine ⟨by omega, fun i hi => ?_⟩
    rw [BitVec.getLsbD_append, BitVec.getLsbD_append]
    by_cases hiw : i < w
    · simpa [hiw] using h i (by omega)
    · simp [hiw]

theorem agree_zero (a b : BitVec w) : agree 0 a b = true := by
  rw [agree_iff_bits]
  refine ⟨Nat.zero_le w, fun i hi => ?_⟩
  rw [BitVec.getLsbD_of_ge a i (by omega), BitVec.getLsbD_of_ge b i (by omega)]

theorem agree_full : agree w a b = true ↔ a = b := by
  rw [agree_iff_bits]
  constructor
  · rintro ⟨-, h⟩
    exact BitVec.eq_of_getLsbD_eq fun i _ => h i (by omega)
  · rintro rfl
    exact ⟨Nat.le_refl w, fun _ _ => rfl⟩

theorem append_inj {f g : BitVec v} : f ++ a = g ++ b ↔ f = g ∧ a = b := by
  rw [← agree_full, agree_append, agree_full]

private theorem lookup_cons (e : Entry w ν) (es : Table w ν) (k : BitVec w) :
    lookup (e :: es) k =
      if e.covers k then
        match lookup es k with
        | some f => if e.plen < f.plen then some f else some e
        | none => some e
      else lookup es k := rfl

/-- A miss is exactly the absence of a covering row. -/
theorem lookup_eq_none :
    lookup t k = none ↔ ∀ e ∈ t, e.covers k = false := by
  induction t with
  | nil => simp [lookup]
  | cons e es ih =>
    rw [lookup_cons]
    cases hc : e.covers k with
    | false => simp [hc, ih]
    | true =>
      cases hr : lookup es k with
      | none => simp [hc]
      | some f => by_cases hl : e.plen < f.plen <;> simp [hc, hl]

/-- **WHAT A HIT IS**: a row of the table that covers the key, with no longer covering
    row in the table. -/
theorem lookup_spec {e : Entry w ν} (h : lookup t k = some e) :
    e ∈ t ∧ e.covers k = true ∧ ∀ f ∈ t, f.covers k = true → f.plen ≤ e.plen := by
  induction t generalizing e with
  | nil => nomatch h
  | cons d ds ih =>
    rw [lookup_cons] at h
    cases hc : d.covers k with
    | false =>
      rw [hc] at h
      obtain ⟨hm, hcov, hmax⟩ := ih h
      refine ⟨.tail _ hm, hcov, fun f hf hfc => ?_⟩
      rcases List.mem_cons.mp hf with rfl | hf
      · rw [hc] at hfc; nomatch hfc
      · exact hmax f hf hfc
    | true =>
      rw [hc, if_pos rfl] at h
      split at h
      · rename_i g hr
        obtain ⟨hgm, hgc, hgmax⟩ := ih hr
        by_cases hl : d.plen < g.plen
        · obtain rfl : g = e := by simpa [hl] using h
          refine ⟨.tail _ hgm, hgc, fun f hf hfc => ?_⟩
          rcases List.mem_cons.mp hf with rfl | hf
          · exact Nat.le_of_lt hl
          · exact hgmax f hf hfc
        · obtain rfl : d = e := by simpa [hl] using h
          refine ⟨.head _, hc, fun f hf hfc => ?_⟩
          rcases List.mem_cons.mp hf with rfl | hf
          · exact Nat.le_refl _
          · exact Nat.le_trans (hgmax f hf hfc) (Nat.le_of_not_lt hl)
      · rename_i hr
        obtain rfl : d = e := Option.some.inj h
        refine ⟨.head _, hc, fun f hf hfc => ?_⟩
        rcases List.mem_cons.mp hf with rfl | hf
        · exact Nat.le_refl _
        · rw [lookup_eq_none.mp hr f hf] at hfc; nomatch hfc

theorem lookup_isSome :
    (∃ e, lookup t k = some e) ↔ ∃ e ∈ t, e.covers k = true := by
  constructor
  · rintro ⟨e, he⟩
    exact ⟨e, (lookup_spec he).1, (lookup_spec he).2.1⟩
  · rintro ⟨e, hm, hc⟩
    cases hr : lookup t k with
    | some f => exact ⟨f, rfl⟩
    | none => rw [lookup_eq_none.mp hr e hm] at hc; nomatch hc

theorem covers_same_length {d e : Entry w ν} (hd : d.covers k = true) (he : e.covers k = true)
    (hl : d.plen = e.plen) : agree e.plen d.key e.key = true := by
  have hd' : agree e.plen d.key k = true := hl ▸ hd
  exact agree_trans hd' (agree_symm he)

end PrefixTable
