import Cozyplane.PrefixTableProofs
import Cozyplane.AccumulateProofs

/-!
# Range policies — address blocks with exceptions, flattened into a prefix table

A range policy is a set of `Block`s. Each has a range it admits and the exceptions cut out
of that range; a range lives in a scope (everything a rule fixes besides the address). Its
meaning is a UNION: an address is admitted in a scope if some block admits it there.

An implementation may instead write all ranges as allow rows and all exceptions as deny rows
of ONE longest-prefix table, allow winning at an identical prefix, and ask the table at a
first scope and only then at a second (`twoLevel`). Nothing then ties an exception to its own
block any more.
-/

namespace RangePolicy

open PrefixTable Accumulate

variable {v w : Nat} {ν : Type}

/-- The two rows have one key. -/
def sameKey (d e : Entry w ν) : Bool := d.plen == e.plen && d.key == e.key

theorem sameKey_iff {d e : Entry w ν} : sameKey d e = true ↔ d.plen = e.plen ∧ d.key = e.key := by
  simp [sameKey]

/-- Where an entry stands: what two entries of one table never share. -/
def place (e : Entry w ν) : Nat × BitVec w := (e.plen, e.key)

/-- Set one key of a desired table, within its capacity. -/
def putDesired (cap : Nat) (e : Entry w ν) (want : Table w ν) : Except String (Table w ν) :=
  if want.any (sameKey e) = false ∧ cap ≤ want.length then
    .error ("desired state exceeds map capacity " ++ toString cap)
  else .ok (e :: want.filter fun d => !sameKey e d)

/-- An allow row already there is kept. -/
def putRange (cap : Nat) (e : Entry w Bool) (want : Table w Bool) :
    Except String (Table w Bool) :=
  if want.any fun d => sameKey e d && d.val then .ok want else putDesired cap e want

/-- The whole desired table. -/
def putRanges (cap : Nat) (rows : List (Entry w Bool)) : Except String (Table w Bool) :=
  forEach rows (putRange cap) []

variable {cap : Nat}

theorem putDesired_mem {e d : Entry w ν} {want t : Table w ν} (h : putDesired cap e want = .ok t) :
    d ∈ t ↔ d = e ∨ (d ∈ want ∧ sameKey e d = false) := by
  unfold putDesired at h
  split at h
  · nomatch h
  cases h
  simp

/-- A table without values is the set of the keys put into it. -/
theorem putDesired_adds (cap : Nat) (e : Entry w Unit) :
    Adds (fun t d => d ∈ t) (putDesired cap e) (fun d => d = e) := by
  intro want t h d
  show d ∈ t ↔ d ∈ want ∨ d = e
  rw [putDesired_mem h]
  constructor
  · rintro (he | ⟨hd, -⟩)
    · exact .inr he
    · exact .inl hd
  · rintro (hd | he)
    · by_cases hk : sameKey e d = true
      · obtain ⟨hn, hkey⟩ := sameKey_iff.mp hk
        left
        obtain ⟨n', k', u'⟩ := e
        simp only at hn hkey
        rw [hn, hkey]
      · exact .inr ⟨hd, by simpa using hk⟩
    · exact .inl he

theorem putAll_spec {α : Type} {xs : List α} {entry : α → Entry w ν} {t : Table w ν}
    (h : forEach xs (fun x => putDesired cap (entry x)) [] = .ok t) :
    (∀ e ∈ t, ∃ x ∈ xs, e = entry x) ∧ ∀ x ∈ xs, ∃ e ∈ t, sameKey (entry x) e = true := by
  have hkeep : ∀ s s' : Table w ν, (∀ d ∈ s, ∃ e ∈ s', sameKey d e = true) → ∀ c : Entry w ν,
      (∃ e ∈ s, sameKey c e = true) → ∃ e ∈ s', sameKey c e = true := by
    rintro s s' hle c ⟨d, hd, hcd⟩
    obtain ⟨e, he, hde⟩ := hle d hd
    rw [sameKey_iff] at hcd hde
    exact ⟨e, he, sameKey_iff.mpr ⟨hcd.1.trans hde.1, hcd.2.trans hde.2⟩⟩
  have hrefl : ∀ e : Entry w ν, sameKey e e = true := fun e => sameKey_iff.mpr ⟨rfl, rfl⟩
  have hstep : ∀ x ∈ xs, ∀ s s' : Table w ν, (∀ e ∈ s, ∃ x ∈ xs, e = entry x) →
      putDesired cap (entry x) s = .ok s' → (∀ e ∈ s', ∃ x ∈ xs, e = entry x) ∧
        (∀ d ∈ s, ∃ e ∈ s', sameKey d e = true) ∧ ∃ e ∈ s', sameKey (entry x) e = true := by
    intro x hx s s' hs hput
    have hin : entry x ∈ s' := (putDesired_mem hput).mpr (.inl rfl)
    refine ⟨fun e he => ?_, fun d hd => ?_, entry x, hin, hrefl _⟩
    · rcases (putDesired_mem hput).mp he with rfl | ⟨he, -⟩
      · exact ⟨x, hx, rfl⟩
      · exact hs e he
    · by_cases hk : sameKey (entry x) d = true
      · obtain ⟨hn, hkey⟩ := sameKey_iff.mp hk
        exact ⟨entry x, hin, sameKey_iff.mpr ⟨hn.symm, hkey.symm⟩⟩
      · exact ⟨d, (putDesired_mem hput).mpr (.inr ⟨hd, by simpa using hk⟩), hrefl d⟩
  obtain ⟨hI, -, hpost⟩ := forEach_establishes (fun s d hd => ⟨d, hd, hrefl d⟩)
    (fun a b c hab hbc d hd => hkeep b c hbc d (hab d hd))
    (fun x s s' hle => hkeep s s' hle (entry x)) hstep [] t nofun h
  exact ⟨hI, hpost⟩

/-- The allow row of the same key. -/
def Allowing (e : Entry w Bool) : Entry w Bool := ⟨e.plen, e.key, true⟩

/-- The table holds the rows put so far, less the deny rows an allow row overrides. -/
def Holds (want : Table w Bool) (rows : List (Entry w Bool)) : Prop :=
  ∀ d, d ∈ want ↔ d ∈ rows ∧ (d.val = false → Allowing d ∉ rows)

variable {t : Table w Bool}

theorem putRange_holds {e : Entry w Bool} {want : Table w Bool} {rows : List (Entry w Bool)}
    (hw : Holds want rows) (h : putRange cap e want = .ok t) :
    Holds t (rows ++ [e]) := by
  have hallow : (want.any fun d => sameKey e d && d.val) = true ↔ Allowing e ∈ rows := by
    rw [List.any_eq_true]
    constructor
    · rintro ⟨⟨n, k, b⟩, hd, hk⟩
      obtain ⟨hk, rfl⟩ := Bool.and_eq_true_iff.mp hk
      obtain ⟨rfl, rfl⟩ := sameKey_iff.mp hk
      exact ((hw _).mp hd).1
    · exact fun ha => ⟨Allowing e, (hw _).mpr ⟨ha, nofun⟩, by simp [sameKey, Allowing]⟩
  rintro ⟨n, k, b⟩
  obtain ⟨n', k', b'⟩ := e
  have hd := hw ⟨n, k, b⟩
  unfold putRange at h
  split at h
  · -- an allow row of this key is there: the table stays
    rename_i hany
    have hin := hallow.mp hany
    cases h
    simp only [Allowing, List.mem_append, List.mem_singleton, Entry.mk.injEq] at hd hin ⊢
    cases b <;> cases b' <;> grind
  · rename_i hany
    have hnot := mt hallow.mpr hany
    rw [putDesired_mem h, hd]
    simp only [Allowing, List.mem_append, List.mem_singleton, Entry.mk.injEq, ← Bool.not_eq_true,
      sameKey_iff] at hnot ⊢
    cases b <;> cases b' <;> grind

theorem putRanges_holds {rows : List (Entry w Bool)} (h : putRanges cap rows = .ok t) :
    Holds t rows := by
  refine forEach_ind (I := fun done want => Holds want done) ?_
    (fun _ _ _ _ _ hw he => putRange_holds hw he) h
  intro d
  simp

/-- One prefix, one key: two rows of one length that agree on it are spelt alike. -/
def Canonical (rows : List (Entry w Bool)) : Prop :=
  ∀ d ∈ rows, ∀ e ∈ rows, d.plen = e.plen → agree e.plen d.key e.key = true → d.key = e.key

/-- Some row covers the key. -/
def Touches (rows : List (Entry w Bool)) (k : BitVec w) : Prop :=
  ∃ e ∈ rows, e.covers k = true

/-- Some allow row covers the key, and no longer deny row does. -/
def Admits (rows : List (Entry w Bool)) (k : BitVec w) : Prop :=
  ∃ e ∈ rows, e.val = true ∧ e.covers k = true ∧
    ∀ d ∈ rows, d.val = false → d.covers k = true → d.plen ≤ e.plen

variable {k : BitVec w}

theorem Holds.touches {rows : List (Entry w Bool)} (hw : Holds t rows) :
    Touches rows k ↔ ∃ e ∈ t, e.covers k = true := by
  constructor
  · rintro ⟨e, he, hc⟩
    by_cases ha : Allowing e ∈ rows
    · exact ⟨Allowing e, (hw _).mpr ⟨ha, nofun⟩, hc⟩
    · exact ⟨e, (hw e).mpr ⟨he, fun _ => ha⟩, hc⟩
  · rintro ⟨e, he, hc⟩
    exact ⟨e, ((hw e).mp he).1, hc⟩

theorem find_eq_none_iff {rows : List (Entry w Bool)} (hw : Holds t rows) :
    find t k = none ↔ ¬ Touches rows k := by
  unfold find
  rw [Option.map_eq_none_iff, hw.touches, lookup_eq_none]
  constructor
  · rintro h ⟨e, he, hc⟩
    rw [h e he] at hc
    nomatch hc
  · intro h e he
    cases hc : e.covers k with
    | false => rfl
    | true => exact absurd ⟨e, he, hc⟩ h

/-- **WHAT THE TABLE ANSWERS**: yes exactly if an allow row covers the key and no longer
    deny row does. -/
theorem find_putRanges {rows : List (Entry w Bool)} (hw : Holds t rows)
    (hcan : Canonical rows) : find t k = some true ↔ Admits rows k := by
  constructor
  · intro h
    unfold find at h
    cases hl : lookup t k with
    | none => rw [hl] at h; nomatch h
    | some e =>
      rw [hl] at h
      obtain ⟨hmem, hcov, hmax⟩ := lookup_spec hl
      refine ⟨e, ((hw e).mp hmem).1, Option.some.inj h, hcov, fun d hd hdv hdc => ?_⟩
      -- a deny row that the table lost was overridden by an allow row of its key
      by_cases ha : Allowing d ∈ rows
      · exact hmax (Allowing d) ((hw _).mpr ⟨ha, nofun⟩) hdc
      · exact hmax d ((hw d).mpr ⟨hd, fun _ => ha⟩) hdc
  · rintro ⟨e, he, hev, hec, hno⟩
    have het : e ∈ t := (hw e).mpr ⟨he, fun hv => by rw [hev] at hv; nomatch hv⟩
    obtain ⟨l, hl⟩ := lookup_isSome.mpr ⟨e, het, hec⟩
    obtain ⟨hlm, hlc, hmax⟩ := lookup_spec hl
    have hle := hmax e het hec
    unfold find
    rw [hl]
    cases hlv : l.val with
    | true => exact congrArg some hlv
    | false =>
      -- the longest row is a deny row, no longer than `e`: the same key, which `e` overrides
      have hlen : l.plen = e.plen := Nat.le_antisymm (hno l ((hw l).mp hlm).1 hlv hlc) hle
      have hkey : l.key = e.key :=
        hcan l ((hw l).mp hlm).1 e he hlen (covers_same_length hlc hec hlen)
      refine absurd ?_ (((hw l).mp hlm).2 hlv)
      rw [Allowing, hlen, hkey, ← hev]
      exact he

/-- Ask at a first key; only a miss there asks at the second. -/
def twoLevel (t : Table w Bool) (k₁ k₂ : BitVec w) : Bool :=
  match find t k₁ with
  | some b => b
  | none => (find t k₂).getD false

theorem twoLevel_iff {rows : List (Entry w Bool)} {k₁ k₂ : BitVec w} (hw : Holds t rows)
    (hcan : Canonical rows) :
    twoLevel t k₁ k₂ = true ↔
      (Touches rows k₁ ∧ Admits rows k₁) ∨ (¬ Touches rows k₁ ∧ Admits rows k₂) := by
  have hsome : ∀ {k}, find t k = some true ↔ Admits rows k := find_putRanges hw hcan
  have hnone : ∀ {k}, find t k = none ↔ ¬ Touches rows k := find_eq_none_iff hw
  unfold twoLevel
  cases h₁ : find t k₁ with
  | none =>
    have hmiss := hnone.mp h₁
    have hget : (find t k₂).getD false = true ↔ Admits rows k₂ := by
      rw [← hsome]
      cases find t k₂ with
      | none | some b => simp
    simp only [hget, hmiss, not_false_iff, true_and, false_and, false_or]
  | some b =>
    have hhit : Touches rows k₁ := by
      by_contra hno
      rw [hnone.mpr hno] at h₁
      nomatch h₁
    simp only [hhit, true_and, not_true_eq_false, false_and, or_false]
    rw [← hsome, h₁, Option.some.injEq]

/-- An address range: `plen` leading bits of `addr`, the rest zero. -/
structure Range (w : Nat) where
  plen : Nat
  addr : BitVec w
  le : plen ≤ w
  masked : ∀ i, i < w - plen → addr.getLsbD i = false

/-- The range around an address, its low bits cleared. -/
def Range.around (n : Nat) (hn : n ≤ w) (a : BitVec w) : Range w where
  plen := n
  addr := (a >>> (w - n)) <<< (w - n)
  le := hn
  masked := by
    intro i hi
    simp [BitVec.getLsbD_shiftLeft, hi]

def Range.contains (r : Range w) (a : BitVec w) : Bool := agree r.plen r.addr a

theorem Range.around_contains {n : Nat} (hn : n ≤ w) (a b : BitVec w) :
    (Range.around n hn a).contains b = agree n a b := by
  have hmask : agree n ((a >>> (w - n)) <<< (w - n)) a = true := by
    rw [agree_iff_bits]
    refine ⟨hn, fun i hi => ?_⟩
    have hge : ¬ i < w - n := by omega
    rw [BitVec.getLsbD_shiftLeft, BitVec.getLsbD_ushiftRight, Nat.add_sub_cancel' hi]
    by_cases hiw : i < w
    · simp [hge, hiw]
    · simp [hiw, BitVec.getLsbD_of_ge a i (by omega)]
  unfold Range.contains Range.around
  cases hab : agree n a b with
  | true => exact agree_trans hmask hab
  | false =>
    cases h : agree n ((a >>> (w - n)) <<< (w - n)) b with
    | false => rfl
    | true => rw [agree_trans (agree_symm hmask) h] at hab; nomatch hab

theorem Range.meet_iff {r s : Range w} :
    (∃ k, r.contains k = true ∧ s.contains k = true) ↔
      agree (min r.plen s.plen) r.addr s.addr = true := by
  constructor
  · rintro ⟨k, hr, hs⟩
    exact agree_trans (agree_mono (min_le_left _ _) hr) (agree_symm (agree_mono (min_le_right _ _) hs))
  · intro h
    rcases le_total r.plen s.plen with hle | hle
    · rw [min_eq_left hle] at h
      exact ⟨s.addr, h, agree_refl s.le _⟩
    · rw [min_eq_right hle] at h
      exact ⟨r.addr, agree_refl r.le _, agree_symm h⟩

theorem Range.addr_eq {r s : Range w} (hl : r.plen = s.plen)
    (h : agree s.plen r.addr s.addr = true) : r.addr = s.addr := by
  rw [agree_iff_bits] at h
  refine BitVec.eq_of_getLsbD_eq fun i hi => ?_
  by_cases hlow : i < w - s.plen
  · rw [r.masked i (by rw [hl]; exact hlow), s.masked i hlow]
  · exact h.2 i (by omega)

/-- A range and the scope in front of it. -/
structure ScopedRange (v w : Nat) extends Range w where
  scope : BitVec v

def ScopedRange.holds (r : ScopedRange v w) (s : BitVec v) (a : BitVec w) : Bool :=
  r.scope == s && r.contains a

/-- A block of a range policy. -/
structure Block (v w : Nat) where
  range : ScopedRange v w
  excepts : List (ScopedRange v w)

namespace Block

/-- The meaning of a block. -/
def admits (b : Block v w) (s : BitVec v) (a : BitVec w) : Bool :=
  b.range.holds s a && b.excepts.all fun x => !x.holds s a

/-- The rows of a block: its range, and the exceptions. -/
def rows (b : Block v w) : List (Entry (v + w) Bool) :=
  row b.range true :: b.excepts.map fun x => row x false
where
  /-- A row of the flattened table. -/
  row (r : ScopedRange v w) (allow : Bool) : Entry (v + w) Bool :=
    ⟨v + r.plen, r.scope ++ r.addr, allow⟩

end Block

/-- The policy's meaning at two scopes: some block admits the address in one of them. -/
def Union (bs : Set (Block v w)) (s₁ s₂ : BitVec v) (a : BitVec w) : Prop :=
  ∃ b ∈ bs, b.admits s₁ a = true ∨ b.admits s₂ a = true

/-- Some range or exception of the scope contains the address. -/
def Mentions (bs : Set (Block v w)) (s : BitVec v) (a : BitVec w) : Prop :=
  ∃ b ∈ bs, b.range.holds s a = true ∨ ∃ x ∈ b.excepts, x.holds s a = true

/-- Some range of the scope contains the address, and no exception that contains it is longer,
    whichever block it belongs to. -/
def Unmasked (bs : Set (Block v w)) (s : BitVec v) (a : BitVec w) : Prop :=
  ∃ b ∈ bs, b.range.holds s a = true ∧
    ∀ c ∈ bs, ∀ x ∈ c.excepts, x.holds s a = true → x.plen ≤ b.range.plen

/-- The first scope decides, if it mentions the address. -/
def Decided (bs : Set (Block v w)) (s₁ s₂ : BitVec v) (a : BitVec w) : Prop :=
  (Mentions bs s₁ a ∧ Unmasked bs s₁ a) ∨ (¬ Mentions bs s₁ a ∧ Unmasked bs s₂ a)

-- ── where the table is not the union

/-- In the scope, every range that contains the address is shorter than some exception that contains
    it, of whichever block. -/
def Outranked (bs : Set (Block v w)) (s : BitVec v) (a : BitVec w) : Prop :=
  ∀ b ∈ bs, b.range.holds s a = true →
    ∃ c ∈ bs, ∃ x ∈ c.excepts, x.holds s a = true ∧ b.range.plen < x.plen

/-- The scope that answers: the first, if anything there contains the address. -/
def Asked (bs : Set (Block v w)) (s₁ s₂ : BitVec v) (a : BitVec w) (s : BitVec v) : Prop :=
  (Mentions bs s₁ a ∧ s = s₁) ∨ (¬ Mentions bs s₁ a ∧ s = s₂)

/-- A block admits the address in the scope that answers, and exceptions of other blocks there are
    longer than every range that contains it. -/
def Masked (bs : Set (Block v w)) (s₁ s₂ : BitVec v) (a : BitVec w) : Prop :=
  ∃ s, Asked bs s₁ s₂ a s ∧ (∃ b ∈ bs, b.admits s a = true) ∧ Outranked bs s a

/-- A block admits the address in the second scope and none in the first, which answers all the same,
    by its exceptions. -/
def Hidden (bs : Set (Block v w)) (s₁ s₂ : BitVec v) (a : BitVec w) : Prop :=
  (∃ b ∈ bs, b.admits s₂ a = true) ∧ (∀ b ∈ bs, b.admits s₁ a = false) ∧ Mentions bs s₁ a ∧
    Outranked bs s₁ a

/-- No block admits the address, but in the scope that answers a range contains it that is at least as
    long as every exception that contains it, the block's own among them. -/
def Swallowed (bs : Set (Block v w)) (s₁ s₂ : BitVec v) (a : BitVec w) : Prop :=
  (∀ b ∈ bs, b.admits s₁ a = false ∧ b.admits s₂ a = false) ∧ ∃ s, Asked bs s₁ s₂ a s ∧
    ∃ b ∈ bs, b.range.holds s a = true ∧
      ∀ c ∈ bs, ∀ x ∈ c.excepts, x.holds s a = true → x.plen ≤ b.range.plen

/-- No block is in the way of another at the address. -/
def Clear (bs : Set (Block v w)) (s₁ s₂ : BitVec v) (a : BitVec w) : Prop :=
  ¬ Masked bs s₁ s₂ a ∧ ¬ Hidden bs s₁ s₂ a ∧ ¬ Swallowed bs s₁ s₂ a

-- ── the table of a policy

/-- What the blocks name: their ranges and their exceptions. -/
def prefixes (bs : Set (Block v w)) : Set (ScopedRange v w) :=
  { r | ∃ b ∈ bs, r = b.range ∨ r ∈ b.excepts }

/-- `rows` are the rows of the blocks, in any order and number. -/
def Flattens (rows : List (Entry (v + w) Bool)) (bs : Set (Block v w)) : Prop :=
  ∀ e, e ∈ rows ↔ ∃ b ∈ bs, e ∈ b.rows

variable {bs cs : Set (Block v w)} {rows : List (Entry (v + w) Bool)} {s : BitVec v}

variable {a : BitVec w}

theorem row_covers {r : ScopedRange v w} {allow : Bool} :
    (Block.rows.row r allow).covers (s ++ a) = true ↔ r.holds s a = true := by
  have h := agree_append (n := r.plen) r.scope s r.addr a
  unfold ScopedRange.holds
  rw [Bool.and_eq_true, beq_iff_eq]
  exact h

theorem range_row_mem (hf : Flattens rows bs) {b : Block v w} (hb : b ∈ bs) :
    Block.rows.row b.range true ∈ rows :=
  (hf _).mpr ⟨b, hb, .head _⟩

theorem except_row_mem (hf : Flattens rows bs) {b : Block v w} (hb : b ∈ bs) {x : ScopedRange v w}
    (hx : x ∈ b.excepts) : Block.rows.row x false ∈ rows :=
  (hf _).mpr ⟨b, hb, .tail _ (List.mem_map.mpr ⟨x, hx, rfl⟩)⟩

theorem mem_flattens (hf : Flattens rows bs) {e : Entry (v + w) Bool} (he : e ∈ rows) :
    ∃ b ∈ bs, e = Block.rows.row b.range true ∨
      ∃ x ∈ b.excepts, e = Block.rows.row x false := by
  obtain ⟨b, hb, heb⟩ := (hf e).mp he
  refine ⟨b, hb, ?_⟩
  rcases List.mem_cons.mp heb with rfl | hx
  · exact .inl rfl
  · obtain ⟨x, hxe, rfl⟩ := List.mem_map.mp hx
    exact .inr ⟨x, hxe, rfl⟩

theorem canonical_of_flattens (hf : Flattens rows bs) : Canonical rows := by
  have hrow : ∀ e ∈ rows, ∃ r allow, e = Block.rows.row r allow := by
    intro e he
    obtain ⟨b, -, h | ⟨x, -, h⟩⟩ := mem_flattens hf he
    · exact ⟨b.range, true, h⟩
    · exact ⟨x, false, h⟩
  intro d hd e he hl hag
  obtain ⟨r, x, rfl⟩ := hrow d hd
  obtain ⟨s, y, rfl⟩ := hrow e he
  have hlen : r.plen = s.plen := by
    have : v + r.plen = v + s.plen := hl
    omega
  obtain ⟨hscope, haddr⟩ := (agree_append r.scope s.scope r.addr s.addr).mp hag
  show r.scope ++ r.addr = s.scope ++ s.addr
  rw [hscope, Range.addr_eq hlen haddr]

theorem touches_iff_mentions (hf : Flattens rows bs) : Touches rows (s ++ a) ↔ Mentions bs s a := by
  constructor
  · rintro ⟨e, he, hc⟩
    obtain ⟨b, hb, rfl | ⟨x, hx, rfl⟩⟩ := mem_flattens hf he
    · exact ⟨b, hb, .inl (row_covers.mp hc)⟩
    · exact ⟨b, hb, .inr ⟨x, hx, row_covers.mp hc⟩⟩
  · rintro ⟨b, hb, hr | ⟨x, hx, hr⟩⟩
    · exact ⟨_, range_row_mem hf hb, row_covers.mpr hr⟩
    · exact ⟨_, except_row_mem hf hb hx, row_covers.mpr hr⟩

theorem admits_iff_unmasked (hf : Flattens rows bs) : Admits rows (s ++ a) ↔ Unmasked bs s a := by
  constructor
  · rintro ⟨e, he, hev, hc, hno⟩
    obtain ⟨b, hb, rfl | ⟨x, hx, rfl⟩⟩ := mem_flattens hf he
    · refine ⟨b, hb, row_covers.mp hc, fun c hcb x hx hxa => ?_⟩
      have hle : v + x.plen ≤ v + b.range.plen :=
        hno _ (except_row_mem hf hcb hx) rfl (row_covers.mpr hxa)
      omega
    · nomatch hev
  · rintro ⟨b, hb, hr, hno⟩
    refine ⟨_, range_row_mem hf hb, rfl, row_covers.mpr hr, fun d hd hdv hdc => ?_⟩
    obtain ⟨c, hc, rfl | ⟨x, hx, rfl⟩⟩ := mem_flattens hf hd
    · nomatch hdv
    · have hle := hno c hc x hx (row_covers.mp hdc)
      show v + x.plen ≤ v + b.range.plen
      omega

/-- Something of the block lies in the scope. -/
def Block.InScope (b : Block v w) (s : BitVec v) : Prop :=
  b.range.scope = s ∨ ∃ x ∈ b.excepts, x.scope = s

theorem ScopedRange.holds_scope {r : ScopedRange v w} (h : r.holds s a = true) : r.scope = s := by
  unfold ScopedRange.holds at h
  rw [Bool.and_eq_true, beq_iff_eq] at h
  exact h.1

theorem mentions_congr (h : ∀ b, b.InScope s → (b ∈ bs ↔ b ∈ cs)) (a : BitVec w) :
    Mentions bs s a ↔ Mentions cs s a := by
  refine exists_congr fun b => and_congr_left fun hr => h b ?_
  rcases hr with hr | ⟨x, hx, hr⟩
  · exact .inl (ScopedRange.holds_scope hr)
  · exact .inr ⟨x, hx, ScopedRange.holds_scope hr⟩

theorem unmasked_congr (h : ∀ b, b.InScope s → (b ∈ bs ↔ b ∈ cs)) (a : BitVec w) :
    Unmasked bs s a ↔ Unmasked cs s a := by
  -- one direction, for any two sets that agree on the scope
  have hone : ∀ bs cs : Set (Block v w), (∀ b, b.InScope s → (b ∈ bs ↔ b ∈ cs)) →
      Unmasked bs s a → Unmasked cs s a := by
    rintro bs cs h ⟨b, hb, hr, hno⟩
    refine ⟨b, (h b (.inl (ScopedRange.holds_scope hr))).mp hb, hr, fun c hc x hx hxa => ?_⟩
    exact hno c ((h c (.inr ⟨x, hx, ScopedRange.holds_scope hxa⟩)).mpr hc) x hx hxa
  exact ⟨hone bs cs h, hone cs bs fun b hb => (h b hb).symm⟩

theorem decided_congr (s₁ s₂ : BitVec v) (h : ∀ b, b.InScope s₁ ∨ b.InScope s₂ → (b ∈ bs ↔ b ∈ cs))
    (a : BitVec w) :
    Decided bs s₁ s₂ a ↔ Decided cs s₁ s₂ a := by
  unfold Decided
  rw [mentions_congr (fun b hb => h b (.inl hb)), unmasked_congr fun b hb => h b (.inl hb),
    unmasked_congr fun b hb => h b (.inr hb)]

theorem outranked_iff : Outranked bs s a ↔ ¬ Unmasked bs s a := by
  unfold Outranked Unmasked
  push Not
  rfl

theorem Block.admits_holds {b : Block v w} (h : b.admits s a = true) : b.range.holds s a = true :=
  (Bool.and_eq_true_iff.mp h).1

theorem asked_first {s₁ s₂ : BitVec v} (h : Mentions bs s₁ a) : Asked bs s₁ s₂ a s ↔ s = s₁ := by
  simp only [Asked, h, true_and, not_true_eq_false, false_and, or_false]

theorem asked_second {s₁ s₂ : BitVec v} (h : ¬ Mentions bs s₁ a) : Asked bs s₁ s₂ a s ↔ s = s₂ := by
  simp only [Asked, h, false_and, not_false_iff, true_and, false_or]

/-- **THE TABLE IS THE UNION EXACTLY WHEN** no block is in the way of another. -/
theorem union_iff_decided (s₁ s₂ : BitVec v) (a : BitVec w) :
    (Union bs s₁ s₂ a ↔ Decided bs s₁ s₂ a) ↔ Clear bs s₁ s₂ a := by
  have hunion : Union bs s₁ s₂ a ↔
      (∃ b ∈ bs, b.admits s₁ a = true) ∨ ∃ b ∈ bs, b.admits s₂ a = true := by
    simp only [Union, and_or_left, exists_or]
  have hnone : ∀ s, (∀ b ∈ bs, b.admits s a = false) ↔ ¬ ∃ b ∈ bs, b.admits s a = true := by
    intro s
    push Not
    simp only [Bool.not_eq_true]
  -- an address that a block admits in the first scope is mentioned there
  have hfirst : (∃ b ∈ bs, b.admits s₁ a = true) → Mentions bs s₁ a := by
    rintro ⟨b, hb, hadm⟩
    exact ⟨b, hb, .inl (Block.admits_holds hadm)⟩
  unfold Clear Masked Hidden Swallowed Decided
  simp only [outranked_iff, forall₂_and, hnone]
  change (_ ↔ _) ↔ ¬ _ ∧ ¬ _ ∧ ¬ (_ ∧ ∃ s, Asked bs s₁ s₂ a s ∧ Unmasked bs s a)
  rw [hunion]
  by_cases hm : Mentions bs s₁ a
  · simp only [asked_first hm, exists_eq_left, hm]
    generalize (∃ b ∈ bs, b.admits s₁ a = true) = first
    generalize (∃ b ∈ bs, b.admits s₂ a = true) = second
    generalize Unmasked bs s₁ a = unmasked
    by_cases first <;> by_cases second <;> by_cases unmasked <;> simp [*]
  · simp only [asked_second hm, exists_eq_left, hm, mt hfirst hm]
    generalize (∃ b ∈ bs, b.admits s₂ a = true) = second
    generalize Unmasked bs s₂ a = unmasked
    by_cases second <;> by_cases unmasked <;> simp [*]

/-- A block that admits the address in the scope that answers, with no longer exception there. -/
theorem clear_of_longest {s₁ s₂ : BitVec v} (hs : Asked bs s₁ s₂ a s) {b : Block v w} (hb : b ∈ bs)
    (hadm : b.admits s a = true)
    (hno : ∀ c ∈ bs, ∀ x ∈ c.excepts, x.holds s a = true → x.plen ≤ b.range.plen) :
    Clear bs s₁ s₂ a := by
  have hunmasked : Unmasked bs s a := ⟨b, hb, Block.admits_holds hadm, hno⟩
  refine (union_iff_decided s₁ s₂ a).mp (iff_of_true ?_ ?_)
  · rcases hs with ⟨-, rfl⟩ | ⟨-, rfl⟩
    · exact ⟨b, hb, .inl hadm⟩
    · exact ⟨b, hb, .inr hadm⟩
  · rcases hs with ⟨hm, rfl⟩ | ⟨hm, rfl⟩
    · exact .inl ⟨hm, hunmasked⟩
    · exact .inr ⟨hm, hunmasked⟩

/-- A table takes one row for each prefix the blocks name. -/
theorem Flattens.card (h : Flattens rows bs) :
    (rows.map place).toFinset.card = (prefixes bs).ncard := by
  let key : ScopedRange v w → Nat × BitVec (v + w) := fun r => (v + r.plen, r.scope ++ r.addr)
  have hinj : Function.Injective key := by
    rintro ⟨⟨n, a, _, _⟩, s⟩ ⟨⟨n', a', _, _⟩, s'⟩ heq
    obtain ⟨hlen, hkey⟩ := Prod.mk.inj heq
    obtain ⟨rfl, rfl⟩ := append_inj.mp hkey
    obtain rfl : n = n' := Nat.add_left_cancel hlen
    rfl
  have hplaces : ((rows.map place).toFinset : Set _) = Set.image key (prefixes bs) := by
    ext p
    simp only [List.coe_toFinset, List.mem_map, Set.mem_ofPred_eq, Set.mem_image, h _]
    constructor
    · rintro ⟨e, ⟨b, hb, he⟩, rfl⟩
      rcases List.mem_cons.mp he with rfl | he
      · exact ⟨b.range, ⟨b, hb, .inl rfl⟩, rfl⟩
      · obtain ⟨x, hx, rfl⟩ := List.mem_map.mp he
        exact ⟨x, ⟨b, hb, .inr hx⟩, rfl⟩
    · rintro ⟨r, ⟨b, hb, rfl | hx⟩, rfl⟩
      · exact ⟨_, ⟨b, hb, .head _⟩, rfl⟩
      · exact ⟨_, ⟨b, hb, .tail _ (List.mem_map_of_mem hx)⟩, rfl⟩
  rw [← Set.ncard_coe_finset, hplaces, Set.ncard_image_of_injective _ hinj]

theorem Block.admits_iff {γ : Type} {range : γ → ScopedRange v w} {contains : γ → Bool} {p : Prop}
    (h : ∀ c, (range c).holds s a = true ↔ p ∧ contains c = true) (c : γ) (excepts : List γ) :
    (⟨range c, excepts.map range⟩ : Block v w).admits s a = true ↔
      p ∧ contains c = true ∧ ∀ x ∈ excepts, contains x = false := by
  unfold Block.admits
  rw [Bool.and_eq_true, h, List.all_eq_true, List.forall_mem_map, and_assoc]
  refine and_congr_right fun hp => and_congr_right fun _ => forall₂_congr fun x _ => ?_
  rw [Bool.not_eq_true', ← Bool.not_eq_true, h, and_iff_right hp, Bool.not_eq_true]

-- ── blocks that lost exceptions, and sets that lost blocks

/-- The block, less some of its exceptions. -/
def Block.Loses (b c : Block v w) : Prop := c.range = b.range ∧ c.excepts ⊆ b.excepts

theorem Block.Loses.trans {b c d : Block v w} (h : b.Loses c) (h' : c.Loses d) : b.Loses d :=
  ⟨h'.1.trans h.1, fun _ hx => h.2 (h'.2 hx)⟩

/-- What is left of the blocks. -/
def Leaves (bs cs : Set (Block v w)) : Prop := ∀ c ∈ cs, ∃ b ∈ bs, b.Loses c

/-- An exception that was longer than every range around the address is lost, and a range that is left
    contains the address with no longer exception left. -/
def Exposed (bs cs : Set (Block v w)) (s : BitVec v) (a : BitVec w) : Prop :=
  (∃ b ∈ bs, ∃ x ∈ b.excepts, (∀ c ∈ cs, x ∉ c.excepts) ∧ x.holds s a = true ∧
    ∀ c ∈ bs, c.range.holds s a = true → c.range.plen < x.plen) ∧ Unmasked cs s a

/-- All that the first scope said of the address is lost; it refused, and the second scope admits. -/
def Uncovered (bs cs : Set (Block v w)) (s₁ s₂ : BitVec v) (a : BitVec w) : Prop :=
  (Mentions bs s₁ a ∧ ¬ Mentions cs s₁ a) ∧ Outranked bs s₁ a ∧ Unmasked cs s₂ a

theorem Leaves.mentions (h : Leaves bs cs) (hm : Mentions cs s a) : Mentions bs s a := by
  obtain ⟨c, hc, hm⟩ := hm
  obtain ⟨b, hb, hrange, hexcepts⟩ := h c hc
  exact ⟨b, hb, hm.imp (fun hr => hrange ▸ hr) fun ⟨x, hx, hh⟩ => ⟨x, hexcepts hx, hh⟩⟩

theorem Unmasked.mentions (h : Unmasked bs s a) : Mentions bs s a := by
  obtain ⟨b, hb, hr, -⟩ := h
  exact ⟨b, hb, .inl hr⟩

/-- Among the ranges around an address one is longest. -/
theorem exists_longest (h : ∃ b ∈ bs, b.range.holds s a = true) :
    ∃ b ∈ bs, b.range.holds s a = true ∧
      ∀ c ∈ bs, c.range.holds s a = true → c.range.plen ≤ b.range.plen := by
  let lengths : Set Nat := { n | ∃ b ∈ bs, b.range.holds s a = true ∧ b.range.plen = n }
  have hbound : BddAbove lengths := ⟨w, fun n ⟨b, _, _, hn⟩ => hn ▸ b.range.le⟩
  obtain ⟨b, hb, hr⟩ := h
  obtain ⟨top, htop, hholds, hlen⟩ := Nat.sSup_mem (s := lengths) ⟨_, b, hb, hr, rfl⟩ hbound
  exact ⟨top, htop, hholds, fun c hc hh => hlen ▸ le_csSup hbound ⟨c, hc, hh, rfl⟩⟩

/-- **A RANGE IS EXPOSED EXACTLY WHEN** it was outranked and no longer is. -/
theorem exposed_iff (h : Leaves bs cs) :
    Exposed bs cs s a ↔ Outranked bs s a ∧ Unmasked cs s a := by
  refine and_congr_left fun hun => ⟨?_, fun hout => ?_⟩
  · rintro ⟨b, hb, x, hx, -, hholds, hlonger⟩ c hc hr
    exact ⟨b, hb, x, hx, hholds, hlonger c hc hr⟩
  · obtain ⟨c, hc, hr, hno⟩ := hun
    obtain ⟨b, hb, hrange, -⟩ := h c hc
    rw [hrange] at hr hno
    -- the exception above the longest range is above all of them, so it cannot be left
    obtain ⟨top, htop, hth, hmax⟩ := exists_longest ⟨b, hb, hr⟩
    obtain ⟨d, hd, x, hx, hxh, hlt⟩ := hout top htop hth
    refine ⟨d, hd, x, hx, fun c' hc' hin => ?_, hxh, fun e he hh => (hmax e he hh).trans_lt hlt⟩
    have hle := hno c' hc' x hin hxh
    have := hmax b hb hr
    omega

/-- **WHAT IS LEFT ADMITS MORE EXACTLY WHEN** an exception that decided is lost above a range that is
    left, or all that the first scope said. -/
theorem widened_iff (h : Leaves bs cs) (s₁ s₂ : BitVec v) (a : BitVec w) :
    (Decided cs s₁ s₂ a ∧ ¬ Decided bs s₁ s₂ a) ↔
      (∃ s, Asked bs s₁ s₂ a s ∧ Exposed bs cs s a) ∨ Uncovered bs cs s₁ s₂ a := by
  simp only [exposed_iff h, Uncovered, outranked_iff, Decided]
  by_cases hm : Mentions bs s₁ a
  · simp only [asked_first hm, exists_eq_left, hm, true_and, not_true_eq_false, false_and, or_false]
    by_cases hc : Mentions cs s₁ a
    · simp only [hc, true_and, not_true_eq_false, false_and, or_false]
      exact and_comm
    · have hnone : ¬ Unmasked cs s₁ a := mt Unmasked.mentions hc
      simp only [hc, hnone, and_false, not_false_iff, true_and, false_or]
      exact and_comm
  · have hc : ¬ Mentions cs s₁ a := mt h.mentions hm
    simp only [asked_second hm, exists_eq_left, hm, hc, false_and, not_false_iff, true_and, false_or,
      or_false]
    exact and_comm

/-- **WHAT THE TWO-SCOPE QUESTION ANSWERS**, in terms of the blocks. -/
theorem twoLevel_blocks {t : Table (v + w) Bool} (ht : putRanges cap rows = .ok t)
    (hf : Flattens rows bs) (s₁ s₂ : BitVec v) (a : BitVec w) :
    twoLevel t (s₁ ++ a) (s₂ ++ a) = true ↔ Decided bs s₁ s₂ a := by
  rw [twoLevel_iff (putRanges_holds ht) (canonical_of_flattens hf), touches_iff_mentions hf,
    admits_iff_unmasked hf, admits_iff_unmasked hf]
  rfl

end RangePolicy
