import Cozyplane.KernelMapProofs

/-!
# Shared maps — two writers of one kernel map

Each row belongs to one of two writers, as `side` says from its key and value. A writer replaces
its own rows by a wanted set and leaves the other's alone. It refuses, BEFORE the first operation,
if a wanted key is taken by a row of the other, or if its rows and the other's do not fit together.
-/

namespace SharedMap

open KernelMap

variable {κ ν : Type} [DecidableEq κ] [DecidableEq ν] (side : κ → ν → Bool)

/-- The rows of the other writer. -/
def others (own : Bool) (m : KMap κ ν) : List (Sigma fun _ : κ => ν) :=
  m.entries.filter fun e => side e.1 e.2 != own

/-- The writer's own rows that are not wanted. -/
def stale (own : Bool) (m want : KMap κ ν) : List κ :=
  (m.entries.filter fun e => side e.1 e.2 == own && decide (e.1 ∉ want)).map Sigma.fst

/-- The operations of a writer. -/
def sharedOps (own : Bool) (m want : KMap κ ν) : List (Op κ ν) :=
  (stale side own m want).map .del ++ (changed m want).map putOp

def written (own : Bool) (m want : KMap κ ν) : KMap κ ν := applyAll m (sharedOps side own m want)

/-- A wanted key is taken by a row of the other writer. -/
def collides (own : Bool) (m want : KMap κ ν) : Bool :=
  (others side own m).any fun e => decide (e.1 ∈ want)

/-- The wanted rows and those of the other writer are more than the map holds. -/
def exceeds (cap : Nat) (own : Bool) (m want : KMap κ ν) : Bool :=
  decide (cap < want.keys.length + (others side own m).length)

/-- The writer may begin. -/
def fits (cap : Nat) (own : Bool) (m want : KMap κ ν) : Bool :=
  !collides side own m want && !exceeds side cap own m want

def attempt (cap : Nat) (own : Bool) (m want : KMap κ ν) : KMap κ ν :=
  if fits side cap own m want then written side own m want else m

/-- The first writer, then the second, and then the first again if the second got through. -/
def settle (cap : Nat) (m wantA wantB : KMap κ ν) : KMap κ ν :=
  let m₁ := attempt side cap true m wantA
  if fits side cap false m₁ wantB then
    attempt side cap true (written side false m₁ wantB) wantA
  else m₁

variable {side} {cap : Nat} {own : Bool} {m want : KMap κ ν}

omit [DecidableEq ν] in
theorem mem_others {e : Sigma fun _ : κ => ν} :
    e ∈ others side own m ↔ m.lookup e.1 = some e.2 ∧ side e.1 e.2 ≠ own := by
  unfold others
  rw [List.mem_filter, bne_iff_ne]
  exact and_congr_left fun _ => AList.mem_lookup_iff.symm

omit [DecidableEq ν] in
theorem mem_stale {k : κ} :
    k ∈ stale side own m want ↔ (∃ v, m.lookup k = some v ∧ side k v = own) ∧ k ∉ want := by
  unfold stale
  rw [List.mem_map]
  constructor
  · rintro ⟨⟨j, v⟩, hmem, rfl⟩
    rw [List.mem_filter, Bool.and_eq_true, beq_iff_eq, decide_eq_true_eq] at hmem
    exact ⟨⟨v, AList.mem_lookup_iff.mpr hmem.1, hmem.2.1⟩, hmem.2.2⟩
  · rintro ⟨⟨v, hv, hside⟩, hnot⟩
    refine ⟨⟨k, v⟩, List.mem_filter.mpr ⟨AList.mem_lookup_iff.mp hv, ?_⟩, rfl⟩
    rw [Bool.and_eq_true, beq_iff_eq, decide_eq_true_eq]
    exact ⟨hside, hnot⟩

/-- The operations of a writer, in some order of either iteration. -/
def Shares (side : κ → ν → Bool) (own : Bool) (m want : KMap κ ν) (ops : List (Op κ ν)) : Prop :=
  ∃ (dels : List κ) (puts : List (Sigma fun _ : κ => ν)), ops = dels.map .del ++ puts.map putOp ∧
    dels.Perm (stale side own m want) ∧ puts.Perm (changed m want)

theorem sharedOps_shares : Shares side own m want (sharedOps side own m want) :=
  ⟨_, _, rfl, .refl _, .refl _⟩

variable {ops : List (Op κ ν)}

/-- An operation deletes a row of the writer that is not wanted, or puts a wanted row. -/
theorem Shares.cases (h : Shares side own m want ops) {o : Op κ ν} (ho : o ∈ ops) :
    (o.value = none ∧ want.lookup o.key = none ∧ ∃ v, m.lookup o.key = some v ∧ side o.key v = own) ∨
      ∃ v, o.value = some v ∧ want.lookup o.key = some v := by
  obtain ⟨dels, puts, rfl, hdels, hputs⟩ := h
  rcases List.mem_append.mp ho with hdel | hput
  · obtain ⟨k, hk, rfl⟩ := List.mem_map.mp hdel
    obtain ⟨hrow, hnot⟩ := mem_stale.mp (hdels.mem_iff.mp hk)
    exact .inl ⟨rfl, AList.lookup_eq_none.mpr hnot, hrow⟩
  · obtain ⟨e, he, rfl⟩ := List.mem_map.mp hput
    exact .inr ⟨e.2, rfl, (mem_changed.mp (hputs.mem_iff.mp he)).1⟩

theorem Shares.point (h : Shares side own m want ops) {done : List (Op κ ν)} (hin : done ⊆ ops) (k : κ) :
    ((∃ o ∈ done, o.key = k) → (applyAll m done).lookup k = want.lookup k) ∧
      ((∀ o ∈ done, o.key ≠ k) → (applyAll m done).lookup k = m.lookup k) := by
  refine lookup_applyAll ?_ m
  rintro o ho rfl
  rcases h.cases (hin ho) with ⟨hval, hw, -⟩ | ⟨v, hval, hw⟩
  · rw [hval, hw]
  · rw [hval, hw]

/-- **WHAT A WRITER LEAVES**: the wanted rows, and the rows of the other writer. -/
theorem Shares.lookup (h : Shares side own m want ops) (k : κ) :
    (applyAll m ops).lookup k =
      (want.lookup k).or ((m.lookup k).filter fun v => side k v != own) := by
  obtain ⟨hsome, hnone⟩ := h.point (List.Subset.refl ops) k
  by_cases htouched : ∃ o ∈ ops, o.key = k
  · rw [hsome htouched]
    obtain ⟨o, ho, rfl⟩ := htouched
    rcases h.cases ho with ⟨-, hw, v, hv, hside⟩ | ⟨v, -, hw⟩
    · rw [hw, hv, Option.none_or, Option.filter_some_neg (by rw [hside]; simp)]
    · rw [hw]
      rfl
  · have hne : ∀ o ∈ ops, o.key ≠ k := fun o ho hk => htouched ⟨o, ho, hk⟩
    refine (hnone hne).trans ?_
    obtain ⟨dels, puts, rfl, hdels, hputs⟩ := h
    -- No operation: the key is wanted as it is, or is not the writer's.
    cases hw : want.lookup k with
    | some v =>
      by_contra hdiff
      have hmem : (⟨k, v⟩ : Sigma fun _ : κ => ν) ∈ puts :=
        hputs.mem_iff.mpr (mem_changed.mpr ⟨hw, hdiff⟩)
      exact hne (.put k v) (List.mem_append_right _ (List.mem_map_of_mem hmem)) rfl
    | none =>
      cases hm : m.lookup k with
      | none => rfl
      | some v =>
        have hside : side k v ≠ own := by
          intro hside
          exact hne (.del k) (List.mem_append_left _ (List.mem_map_of_mem (hdels.mem_iff.mpr
            (mem_stale.mpr ⟨⟨v, hm, hside⟩, AList.lookup_eq_none.mp hw⟩)))) rfl
        rw [Option.none_or,
          Option.filter_some_pos (p := fun v => side k v != own) (bne_iff_ne.mpr hside)]

def OwnRows (side : κ → ν → Bool) (own : Bool) (want : KMap κ ν) : Prop :=
  ∀ k v, want.lookup k = some v → side k v = own

/-- The rows of one side of the map are those of a given set. -/
def Holds (side : κ → ν → Bool) (own : Bool) (m rows : KMap κ ν) : Prop :=
  ∀ k v, m.lookup k = some v ∧ side k v = own ↔ rows.lookup k = some v

theorem Shares.holds (h : OwnRows side own want) (hops : Shares side own m want ops) :
    Holds side own (applyAll m ops) want := by
  intro k v
  rw [hops.lookup]
  cases hw : want.lookup k with
  | some u =>
    refine ⟨fun hl => hl.1, fun hl => ⟨hl, ?_⟩⟩
    obtain rfl := Option.some.inj hl
    exact h k u hw
  | none =>
    rw [Option.none_or, Option.filter_eq_some_iff, bne_iff_ne]
    exact ⟨fun hl => absurd hl.2 hl.1.2, (nomatch ·)⟩

theorem holds_written (h : OwnRows side own want) : Holds side own (written side own m want) want :=
  sharedOps_shares.holds h

/-- **THE OTHER WRITER'S ROWS STAY**, wherever the operations stop. -/
theorem Shares.frame (h : Shares side own m want ops) (hown : OwnRows side own want)
    (hfree : collides side own m want = false) (i : Nat) {k : κ} {v : ν} (hside : side k v ≠ own) :
    (applyAll m (ops.take i)).lookup k = some v ↔ m.lookup k = some v := by
  obtain ⟨hsome, hnone⟩ := h.point (List.take_subset i ops) k
  by_cases htouched : ∃ o ∈ ops.take i, o.key = k
  · rw [hsome htouched]
    refine ⟨fun hw => absurd (hown k v hw) hside, fun hm => ?_⟩
    obtain ⟨o, ho, rfl⟩ := htouched
    rcases h.cases (List.mem_of_mem_take ho) with ⟨-, -, u, hu, hsideu⟩ | ⟨u, -, hu⟩
    · cases hm.symm.trans hu
      exact absurd hsideu hside
    have hwant : o.key ∈ want := by
      rw [← AList.lookup_isSome, hu]
      rfl
    exact absurd (decide_eq_true hwant) (List.any_eq_false.mp hfree ⟨o.key, v⟩ (mem_others.mpr ⟨hm, hside⟩))
  · rw [hnone fun o ho hk => htouched ⟨o, ho, hk⟩]

omit [DecidableEq ν] in
theorem length_dels (ks : List κ) (m : KMap κ ν) :
    (applyAll m (ks.map Op.del)).keys.length ≤ m.keys.length := by
  induction ks generalizing m with
  | nil => exact le_rfl
  | cons k ks ih =>
    refine Nat.le_trans (ih (m.erase k)) ?_
    rw [AList.keys_erase]
    exact List.length_erase_le

/-- **THE MAP STAYS WITHIN ITS CAPACITY**: first it only shrinks, and then it holds wanted rows and
    the other writer's. -/
theorem Shares.length_le (h : Shares side own m want ops) (hroom : exceeds side cap own m want = false)
    (hm : m.keys.length ≤ cap) (i : Nat) : (applyAll m (ops.take i)).keys.length ≤ cap := by
  have hpoint := fun k => h.point (List.take_subset i ops) k
  obtain ⟨dels, puts, rfl, hdels, -⟩ := h
  by_cases hi : i ≤ (dels.map (Op.del : κ → Op κ ν)).length
  · rw [List.take_append_of_le_length hi, ← List.map_take]
    exact Nat.le_trans (length_dels _ m) hm
  have hgone : ∀ k ∈ dels, Op.del k ∈ (dels.map Op.del ++ puts.map putOp).take i := by
    intro k hk
    rw [List.take_append, List.take_of_length_le (Nat.le_of_not_le hi)]
    exact List.mem_append_left _ (List.mem_map_of_mem hk)
  generalize (dels.map Op.del ++ puts.map putOp).take i = done at *
  have hkeys : (applyAll m done).keys ⊆ want.keys ++ (others side own m).map Sigma.fst := by
    intro k hk
    obtain ⟨v, hv⟩ := mem_iff_lookup.mp hk
    obtain ⟨hsome, hnone⟩ := hpoint k
    by_cases hw : k ∈ want
    · exact List.mem_append_left _ hw
    have hne : ∀ o ∈ done, o.key ≠ k := by
      rintro o ho rfl
      rw [hsome ⟨o, ho, rfl⟩, AList.lookup_eq_none.mpr hw] at hv
      nomatch hv
    rw [hnone hne] at hv
    refine List.mem_append_right _ (List.mem_map.mpr ⟨⟨k, v⟩, mem_others.mpr ⟨hv, fun hside => ?_⟩, rfl⟩)
    exact hne (.del k) (hgone k (hdels.mem_iff.mpr (mem_stale.mpr ⟨⟨v, hv, hside⟩, hw⟩))) rfl
  have hlen := (List.subperm_of_subset (AList.keys_nodup _) hkeys).length_le
  rw [List.length_append, List.length_map] at hlen
  exact Nat.le_trans hlen (Nat.not_lt.mp (of_decide_eq_false hroom))

omit [DecidableEq ν] in
theorem others_length {rows : KMap κ ν} (h : Holds side (!own) m rows) :
    (others side own m).length = rows.keys.length := by
  have hnodup : ∀ l : KMap κ ν, l.entries.Nodup := fun l => l.nodupKeys.nodup
  have hperm : (others side own m).Perm rows.entries := by
    refine (List.perm_ext_iff_of_nodup ((hnodup m).filter _) (hnodup rows)).mpr fun e => ?_
    have hside : side e.1 e.2 ≠ own ↔ side e.1 e.2 = !own := by
      cases side e.1 e.2 <;> cases own <;> decide
    have hrow := h e.1 e.2
    rw [← hside] at hrow
    exact mem_others.trans (hrow.trans AList.mem_lookup_iff)
  rw [hperm.length_eq]
  exact (List.length_map _).symm

omit [DecidableEq ν] in
theorem fits_of_holds (own : Bool) {m want rows : KMap κ ν} (h : Holds side (!own) m rows)
    (hapart : ∀ k, k ∈ want → k ∉ rows) (hroom : want.keys.length + rows.keys.length ≤ cap) :
    fits side cap own m want = true := by
  unfold fits
  rw [Bool.and_eq_true, Bool.not_eq_true', Bool.not_eq_true']
  constructor
  · unfold collides
    rw [List.any_eq_false]
    intro e he hin
    obtain ⟨hm, hside⟩ := mem_others.mp he
    have hother : side e.1 e.2 = !own := by
      revert hside
      cases side e.1 e.2 <;> cases own <;> decide
    refine hapart e.1 (of_decide_eq_true hin) ?_
    rw [← AList.lookup_isSome, (h e.1 e.2).mp ⟨hm, hother⟩]
    rfl
  · unfold exceeds
    rw [decide_eq_false_iff_not, others_length h]
    omega

/-- **TWO WRITERS SETTLE**: sets that fit together, and one of the writers can begin. -/
theorem settle_lookup {wantA wantB : KMap κ ν} (hA : OwnRows side true wantA)
    (hB : OwnRows side false wantB) (hapart : ∀ k, k ∈ wantA → k ∉ wantB)
    (hroom : wantA.keys.length + wantB.keys.length ≤ cap)
    (hstart : fits side cap true m wantA = true ∨ fits side cap false m wantB = true) (k : κ) :
    (settle side cap m wantA wantB).lookup k = (wantA.lookup k).or (wantB.lookup k) := by
  have hroom' : wantB.keys.length + wantA.keys.length ≤ cap := by omega
  have hapart' : ∀ k, k ∈ wantB → k ∉ wantA := fun k hb ha => hapart k ha hb
  -- The second writer gets through in either case.
  have hsecond : fits side cap false (attempt side cap true m wantA) wantB = true := by
    by_cases hfirst : fits side cap true m wantA = true
    · have hdone : attempt side cap true m wantA = written side true m wantA := if_pos hfirst
      rw [hdone]
      exact fits_of_holds false (holds_written hA) hapart' hroom'
    · have hsame : attempt side cap true m wantA = m := if_neg hfirst
      rw [hsame]
      exact hstart.resolve_left hfirst
  have hsettle : settle side cap m wantA wantB =
      attempt side cap true (written side false (attempt side cap true m wantA) wantB) wantA :=
    if_pos hsecond
  have hrows : Holds side false (written side false (attempt side cap true m wantA) wantB) wantB :=
    holds_written hB
  generalize written side false (attempt side cap true m wantA) wantB = m₂ at hsettle hrows
  have hthird : attempt side cap true m₂ wantA = written side true m₂ wantA :=
    if_pos (fits_of_holds true hrows hapart hroom)
  rw [hsettle, hthird]
  refine (sharedOps_shares.lookup k).trans (congrArg _ ?_)
  cases hb : wantB.lookup k with
  | some v =>
    obtain ⟨hl, hside⟩ := (hrows k v).mpr hb
    rw [hl, Option.filter_some_pos (p := fun v => side k v != true) (by rw [hside]; rfl)]
  | none =>
    rw [Option.filter_eq_none_iff]
    intro v hv hside
    have hfalse : side k v = false := by
      revert hside
      cases side k v <;> decide
    have hrow := (hrows k v).mp ⟨hv, hfalse⟩
    rw [hb] at hrow
    nomatch hrow

end SharedMap
