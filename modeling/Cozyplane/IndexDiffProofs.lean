import Cozyplane.KernelMapProofs
import Cozyplane.RunProofs

/-!
# Index diffs — many owners, one map, and an index of what each has written

Each owner has a wanted set of rows that may change from run to run. A run does not read the map:
it compares the wanted set with an INDEX of what the owner's last successful run wrote, puts what
differs, deletes what is gone, and only then records the wanted set. Any operation may fail and end
the run there.

After a failed run index and map disagree, and only a run with the SAME wanted set is known to
bring them together again. A key that another owner still has in its index is deleted by that owner
later, whoever has put it since.
-/

namespace IndexDiff

open KernelMap Function

variable {ι κ ν : Type} [DecidableEq ι] [DecidableEq κ] [DecidableEq ν]

/-- `last` (an owner's latest run and its success) and `touched` (the keys ever put) are history. -/
structure State (ι κ ν : Type) where
  map : KMap κ ν
  owned : ι → KMap κ ν
  last : ι → Option (KMap κ ν × Bool)
  touched : List κ

/-- Nothing is in an index; the map may hold anything. -/
def State.start (map : KMap κ ν) : State ι κ ν := ⟨map, fun _ => ∅, fun _ => none, []⟩

/-- A run of an owner, with its operations and how many of them took effect when one failed; or a
    sweep of keys. -/
inductive Event (ι κ ν : Type) where
  | run (who : ι) (desired : KMap κ ν) (ops : List (Op κ ν)) (stop : Option Nat)
  | sweep (keys : List κ)

def putKeys (ops : List (Op κ ν)) : List κ :=
  ops.filterMap fun o => match o with
    | .put k _ => some k
    | .del _ => none

/-- A run records its set only if it succeeds. -/
def step (s : State ι κ ν) : Event ι κ ν → State ι κ ν
  | .run who desired ops none =>
    { map := applyAll s.map ops
      owned := update s.owned who desired
      last := update s.last who (some (desired, true))
      touched := putKeys ops ++ s.touched }
  | .run who desired ops (some n) =>
    { s with map := applyAll s.map (ops.take n)
             last := update s.last who (some (desired, false))
             touched := putKeys (ops.take n) ++ s.touched }
  | .sweep keys => { s with map := applyAll s.map (keys.map .del) }

/-- The operations are the differences, puts first, in some order of either iteration. -/
def Diffs (prev desired : KMap κ ν) (ops : List (Op κ ν)) : Prop :=
  ∃ (puts : List (Sigma fun _ : κ => ν)) (dels : List κ), ops = puts.map putOp ++ dels.map .del ∧
    puts.Perm (changed prev desired) ∧ dels.Perm (stale prev desired)

/-- What the program does: its operations are the differences, and it sweeps, before any run has
    failed, keys that are in no index. -/
def Valid (s : State ι κ ν) : Event ι κ ν → Prop
  | .run who desired ops stop => Diffs (s.owned who) desired ops ∧ ∀ n, stop = some n → n < ops.length
  | .sweep keys => (∀ who D, s.last who ≠ some (D, false)) ∧ ∀ k ∈ keys, ∀ who, k ∉ s.owned who

/-- The owner holds the key: by its index, or a failed run. -/
def Claims (s : State ι κ ν) (who : ι) (k : κ) : Prop :=
  k ∈ s.owned who ∨ ∃ D, s.last who = some (D, false) ∧ k ∈ D

/-- A run repeats a failed one, and asks for no key that another owner holds. -/
def Careful (s : State ι κ ν) : Event ι κ ν → Prop
  | .run who desired _ _ =>
    (∀ D, s.last who = some (D, false) → ∀ k, desired.lookup k = D.lookup k) ∧
      ∀ k ∈ desired, ∀ other, other ≠ who → ¬ Claims s other k
  | .sweep _ => True

variable {prev : KMap κ ν}

variable {desired : KMap κ ν} {ops : List (Op κ ν)}

omit [DecidableEq ι] in
theorem Diffs.syncs (h : Diffs prev desired ops) :
    ∃ ops', Syncs prev desired ops' ∧ ∀ o, o ∈ ops ↔ o ∈ ops' := by
  obtain ⟨puts, dels, rfl, hputs, hdels⟩ := h
  refine ⟨dels.map .del ++ puts.map putOp, ⟨dels, puts, rfl, hdels, hputs⟩, fun o => ?_⟩
  rw [List.mem_append, List.mem_append]
  exact Or.comm

variable {o : Op κ ν}

omit [DecidableEq ι] in
theorem Diffs.wants (h : Diffs prev desired ops)
    (ho : o ∈ ops) : o.value = desired.lookup o.key := by
  obtain ⟨ops', hsync, hmem⟩ := h.syncs
  exact hsync.wants o ((hmem o).mp ho)

variable {done : List (Op κ ν)} {k : κ}

omit [DecidableEq ι] in
theorem Diffs.untouched (h : Diffs prev desired ops)
    (hk : ∀ o ∈ ops, o.key ≠ k) : prev.lookup k = desired.lookup k := by
  obtain ⟨ops', hsync, hmem⟩ := h.syncs
  exact hsync.untouched fun o ho => hk o ((hmem o).mpr ho)

omit [DecidableEq ι] in
theorem Diffs.keys (h : Diffs prev desired ops)
    (ho : o ∈ ops) : o.key ∈ prev ∨ o.key ∈ desired := by
  obtain ⟨puts, dels, rfl, hputs, hdels⟩ := h
  rcases List.mem_append.mp ho with hput | hdel
  · obtain ⟨e, he, rfl⟩ := List.mem_map.mp hput
    refine .inr ?_
    show e.1 ∈ desired
    rw [← AList.lookup_isSome, (mem_changed.mp (hputs.mem_iff.mp he)).1]
    rfl
  · obtain ⟨j, hj, rfl⟩ := List.mem_map.mp hdel
    exact .inl (mem_stale.mp (hdels.mem_iff.mp hj)).1

omit [DecidableEq ι] in
/-- What the first operations of a run leave under a key. -/
theorem Diffs.point {m : KMap κ ν} (h : Diffs prev desired ops) (hdone : ∀ o ∈ done, o ∈ ops)
    (k : κ) :
    ((∃ o ∈ done, o.key = k) → (applyAll m done).lookup k = desired.lookup k) ∧
      ((∀ o ∈ done, o.key ≠ k) → (applyAll m done).lookup k = m.lookup k) := by
  refine lookup_applyAll (fun o ho hk => ?_) m
  rw [h.wants (hdone o ho), hk]

omit [DecidableEq ι] in
theorem Diffs.outside {m : KMap κ ν} (h : Diffs prev desired ops) (hdone : ∀ o ∈ done, o ∈ ops)
    (hprev : k ∉ prev) (hdes : k ∉ desired) : (applyAll m done).lookup k = m.lookup k := by
  refine (h.point hdone k).2 fun o ho hk => ?_
  rcases h.keys (hdone o ho) with hin | hin
  · exact hprev (hk ▸ hin)
  · exact hdes (hk ▸ hin)

omit [DecidableEq ι] in
theorem mem_putKeys (h : Diffs prev desired ops) (hdone : ∀ o ∈ done, o ∈ ops) :
    k ∈ putKeys done → k ∈ desired ∧ ∃ o ∈ done, o.key = k := by
  intro hk
  obtain ⟨o, ho, hput⟩ := List.mem_filterMap.mp hk
  cases o with
  | del j => nomatch hput
  | put j v =>
    obtain rfl := Option.some.inj hput
    refine ⟨?_, _, ho, rfl⟩
    have hval : some v = desired.lookup j := h.wants (hdone _ ho)
    rw [← AList.lookup_isSome, ← hval]
    rfl

omit [DecidableEq ι] in
theorem putKeys_of_mem (h : Diffs prev desired ops) (hdone : ∀ o ∈ done, o ∈ ops) (ho : o ∈ done)
    (hk : o.key ∈ desired) : o.key ∈ putKeys done := by
  cases o with
  | del j =>
    have hval : none = desired.lookup j := h.wants (hdone _ ho)
    exact absurd hk (AList.lookup_eq_none.mp hval.symm)
  | put j v => exact List.mem_filterMap.mpr ⟨_, ho, rfl⟩

-- ── what careful runs keep

/-- What careful runs keep. -/
structure Good (s : State ι κ ν) : Prop where
  /-- No key is held twice. -/
  apart : ∀ {who other k}, who ≠ other → Claims s who k → ¬ Claims s other k
  /-- An indexed row is in the map, or a failed run has changed it. -/
  held : ∀ {who k}, k ∈ s.owned who → s.map.lookup k = (s.owned who).lookup k ∨
    ∃ D, s.last who = some (D, false) ∧ s.map.lookup k = D.lookup k
  /-- A key that was put and is held no more is gone. -/
  gone : ∀ {k}, k ∈ s.touched → (∀ who, ¬ Claims s who k) → s.map.lookup k = none
  recorded : ∀ {who k}, k ∈ s.owned who → k ∈ s.touched
  indexed : ∀ {who D}, s.last who = some (D, true) → s.owned who = D
  idle : ∀ {who}, s.last who = none → s.owned who = ∅

omit [DecidableEq ι] [DecidableEq ν] in
theorem start_good (map : KMap κ ν) : Good (State.start (ι := ι) map) where
  apart _ h := by
    rcases h with h | ⟨D, hD, -⟩
    · nomatch h
    · nomatch hD
  held h := nomatch h
  gone h := nomatch h
  recorded h := nomatch h
  indexed h := nomatch h
  idle _ := rfl

variable {s : State ι κ ν} {who : ι} {desired : KMap κ ν} {ops : List (Op κ ν)}

omit [DecidableEq ι] [DecidableEq κ] [DecidableEq ν] in
theorem claims_other {s' : State ι κ ν} {other : ι} (howned : s'.owned other = s.owned other)
    (hlast : s'.last other = s.last other) :
    Claims s' other k ↔ Claims s other k := by
  unfold Claims
  rw [howned, hlast]

omit [DecidableEq ι] [DecidableEq ν] in
theorem outside_of_claims (hgood : Good s) (hfree : ∀ k ∈ desired, ∀ other, other ≠ who →
    ¬ Claims s other k) {other : ι} (hne : other ≠ who) (hk : Claims s other k) :
    k ∉ s.owned who ∧ k ∉ desired :=
  ⟨fun hin => hgood.apart hne hk (.inl hin), fun hin => hfree k hin other hne hk⟩

omit [DecidableEq ι] in
theorem Good.of_own {s' : State ι κ ν} (hgood : Good s) (hdiff : Diffs (s.owned who) desired ops)
    (hfree : ∀ k ∈ desired, ∀ other, other ≠ who → ¬ Claims s other k)
    (hdone : ∀ o ∈ done, o ∈ ops) (hmap : s'.map = applyAll s.map done)
    (htouched : s'.touched = putKeys done ++ s.touched)
    (howned : ∀ other, other ≠ who → s'.owned other = s.owned other)
    (hlast : ∀ other, other ≠ who → s'.last other = s.last other)
    (hclaims : ∀ k, Claims s' who k → k ∈ s.owned who ∨ k ∈ desired)
    (hdesired : ∀ k ∈ desired, Claims s' who k)
    (hleft : ∀ k, ¬ Claims s' who k → (∀ o ∈ done, o.key ≠ k) → ¬ Claims s who k)
    (hheld : ∀ k ∈ s'.owned who, s'.map.lookup k = (s'.owned who).lookup k ∨
      ∃ D, s'.last who = some (D, false) ∧ s'.map.lookup k = D.lookup k)
    (hrecorded : ∀ k ∈ s'.owned who, k ∈ s'.touched) {ok : Bool}
    (hresult : s'.last who = some (desired, ok)) (hindexed : ok = true → s'.owned who = desired) :
    Good s' := by
  have hother : ∀ other k, other ≠ who → (Claims s' other k ↔ Claims s other k) :=
    fun other k hne => claims_other (howned other hne) (hlast other hne)
  -- A key the owner holds after the run was its own, or was free.
  have hmine : ∀ k, Claims s' who k → ∀ other, other ≠ who → ¬ Claims s other k := by
    intro k hk other hne hclaim
    obtain ⟨hprev, hdes⟩ := outside_of_claims hgood hfree hne hclaim
    exact (hclaims k hk).elim hprev hdes
  refine ⟨?_, ?_, ?_, ?_, ?_, ?_⟩
  · intro a b k hab ha hb
    by_cases hawho : a = who
    · subst hawho
      exact hmine k ha b hab.symm ((hother b k hab.symm).mp hb)
    rw [hother a k hawho] at ha
    by_cases hbwho : b = who
    · subst hbwho
      exact hmine k hb a hab ha
    · exact hgood.apart hab ha ((hother b k hbwho).mp hb)
  · intro a k hk
    by_cases hawho : a = who
    · subst hawho
      exact hheld k hk
    rw [howned a hawho] at hk ⊢
    obtain ⟨hprev, hdes⟩ := outside_of_claims hgood hfree hawho (.inl hk)
    rw [hmap, hlast a hawho, hdiff.outside hdone hprev hdes]
    exact hgood.held hk
  · intro k hk hnone
    have hdes : k ∉ desired := fun hin => hnone who (hdesired k hin)
    rw [hmap]
    by_cases hop : ∃ o ∈ done, o.key = k
    · rw [(hdiff.point hdone k).1 hop]
      exact AList.lookup_eq_none.mpr hdes
    have hne : ∀ o ∈ done, o.key ≠ k := fun o ho hok => hop ⟨o, ho, hok⟩
    rw [(hdiff.point hdone k).2 hne]
    rw [htouched] at hk
    rcases List.mem_append.mp hk with hput | hold
    · exact absurd (mem_putKeys hdiff hdone hput).1 hdes
    refine hgood.gone hold fun a ha => ?_
    by_cases hawho : a = who
    · subst hawho
      exact hleft k (hnone a) hne ha
    · exact hnone a ((hother a k hawho).mpr ha)
  · intro a k hk
    by_cases hawho : a = who
    · subst hawho
      exact hrecorded k hk
    rw [howned a hawho] at hk
    rw [htouched]
    exact List.mem_append_right _ (hgood.recorded hk)
  · intro a D hD
    by_cases hawho : a = who
    · subst hawho
      rw [hresult] at hD
      obtain ⟨rfl, hok⟩ := Prod.mk.inj (Option.some.inj hD)
      exact hindexed hok
    · rw [hlast a hawho] at hD
      rw [howned a hawho]
      exact hgood.indexed hD
  · intro a ha
    by_cases hawho : a = who
    · subst hawho
      rw [hresult] at ha
      nomatch ha
    · rw [hlast a hawho] at ha
      rw [howned a hawho]
      exact hgood.idle ha

/-- **A RUN THAT SUCCEEDS.** -/
theorem run_good (hgood : Good s) (hdiff : Diffs (s.owned who) desired ops)
    (hretry : ∀ D, s.last who = some (D, false) → ∀ k, desired.lookup k = D.lookup k)
    (hfree : ∀ k ∈ desired, ∀ other, other ≠ who → ¬ Claims s other k) :
    Good (step s (.run who desired ops none)) := by
  have hself : ∀ o ∈ ops, o ∈ ops := fun _ ho => ho
  have howned : (step s (.run who desired ops none)).owned who = desired := update_self ..
  have hlast : (step s (.run who desired ops none)).last who = some (desired, true) :=
    update_self ..
  have hclaims : ∀ k, Claims (step s (.run who desired ops none)) who k → k ∈ desired := by
    rintro k (hk | ⟨D, hD, -⟩)
    · exact howned ▸ hk
    · nomatch hlast.symm.trans hD
  have hdesired : ∀ k ∈ desired, Claims (step s (.run who desired ops none)) who k :=
    fun k hk => .inl (howned.symm ▸ hk)
  -- A key of the new set that no operation is about was there before.
  have hprev : ∀ {k}, (∀ o ∈ ops, o.key ≠ k) → (k ∈ s.owned who ↔ k ∈ desired) := by
    intro k hne
    rw [← AList.lookup_isSome, hdiff.untouched hne, AList.lookup_isSome]
  refine hgood.of_own hdiff hfree hself rfl rfl (fun other hne => update_of_ne hne ..)
    (fun other hne => update_of_ne hne ..) (fun k hk => .inr (hclaims k hk)) hdesired
    ?_ ?_ ?_ hlast fun _ => howned
  · rintro k hnone hne (hin | ⟨D, hD, hin⟩)
    · exact hnone (hdesired k ((hprev hne).mp hin))
    · refine hnone (hdesired k ?_)
      rw [← AList.lookup_isSome, hretry D hD k, AList.lookup_isSome]
      exact hin
  · intro k hk
    rw [howned] at hk ⊢
    refine .inl ?_
    by_cases hop : ∃ o ∈ ops, o.key = k
    · exact (hdiff.point hself k).1 hop
    have hne : ∀ o ∈ ops, o.key ≠ k := fun o ho hok => hop ⟨o, ho, hok⟩
    refine ((hdiff.point hself k).2 hne).trans ?_
    rcases hgood.held ((hprev hne).mpr hk) with hm | ⟨D, hD, hm⟩
    · exact hm.trans (hdiff.untouched hne)
    · exact hm.trans (hretry D hD k).symm
  · intro k hk
    rw [howned] at hk
    by_cases hop : ∃ o ∈ ops, o.key = k
    · obtain ⟨o, ho, rfl⟩ := hop
      exact List.mem_append_left _ (putKeys_of_mem hdiff hself ho hk)
    · exact List.mem_append_right _
        (hgood.recorded ((hprev fun o ho hok => hop ⟨o, ho, hok⟩).mpr hk))

/-- **A RUN THAT FAILS** after some of its operations. -/
theorem failed_good (hgood : Good s) (hdiff : Diffs (s.owned who) desired ops)
    (hretry : ∀ D, s.last who = some (D, false) → ∀ k, desired.lookup k = D.lookup k)
    (hfree : ∀ k ∈ desired, ∀ other, other ≠ who → ¬ Claims s other k) (n : Nat) :
    Good (step s (.run who desired ops (some n))) := by
  have hdone : ∀ o ∈ ops.take n, o ∈ ops := fun _ ho => List.mem_of_mem_take ho
  have hlast : (step s (.run who desired ops (some n))).last who = some (desired, false) :=
    update_self ..
  have hdesired : ∀ k ∈ desired, Claims (step s (.run who desired ops (some n))) who k :=
    fun k hk => .inr ⟨desired, hlast, hk⟩
  refine hgood.of_own hdiff hfree hdone rfl rfl (fun _ _ => rfl)
    (fun other hne => update_of_ne hne ..) ?_ hdesired ?_ ?_ ?_ hlast (nomatch ·)
  · rintro k (hk | ⟨D, hD, hk⟩)
    · exact .inl hk
    · obtain rfl := (Prod.mk.inj (Option.some.inj (hlast.symm.trans hD))).1
      exact .inr hk
  · rintro k hnone - (hin | ⟨D, hD, hin⟩)
    · exact hnone (.inl hin)
    · refine hnone (hdesired k ?_)
      rw [← AList.lookup_isSome, hretry D hD k, AList.lookup_isSome]
      exact hin
  · intro k hk
    by_cases hop : ∃ o ∈ ops.take n, o.key = k
    · exact .inr ⟨desired, hlast, (hdiff.point hdone k).1 hop⟩
    have hsame := (hdiff.point (m := s.map) hdone k).2 fun o ho hok => hop ⟨o, ho, hok⟩
    rcases hgood.held hk with hm | ⟨D, hD, hm⟩
    · exact .inl (hsame.trans hm)
    · exact .inr ⟨desired, hlast, hsame.trans (hm.trans (hretry D hD k).symm)⟩
  · intro k hk
    exact List.mem_append_right _ (hgood.recorded hk)

omit [DecidableEq ν] in
/-- A sweep takes the keys away. -/
theorem sweep_lookup (s : State ι κ ν) (keys : List κ) (k : κ) :
    (step s (.sweep keys)).map.lookup k = if k ∈ keys then none else s.map.lookup k := by
  have hnothing : ∀ o ∈ keys.map (Op.del (ν := ν)), o.key = k → o.value = none := by
    intro o ho _
    obtain ⟨j, _, rfl⟩ := List.mem_map.mp ho
    rfl
  have hdel := lookup_applyAll hnothing s.map
  split
  · rename_i hk
    exact hdel.1 ⟨.del k, List.mem_map_of_mem hk, rfl⟩
  · rename_i hk
    refine hdel.2 fun o ho he => ?_
    obtain ⟨j, hj, rfl⟩ := List.mem_map.mp ho
    obtain rfl : j = k := he
    exact hk hj

omit [DecidableEq ν] in
/-- What is in an index survives a sweep. -/
theorem sweep_live {keys : List κ} (hdead : ∀ j ∈ keys, ∀ who, j ∉ s.owned who) (hk : k ∈ s.owned who) :
    (step s (.sweep keys)).map.lookup k = s.map.lookup k := by
  rw [sweep_lookup, if_neg fun hin => hdead k hin who hk]

theorem sweep_good (hgood : Good s) {keys : List κ} (hvalid : Valid s (.sweep keys)) :
    Good (step s (.sweep keys)) := by
  refine ⟨hgood.apart, fun {a k} hk => ?_, fun {k} hk hnone => ?_, hgood.recorded, hgood.indexed,
    hgood.idle⟩
  · rw [sweep_live hvalid.2 hk]
    exact hgood.held hk
  · rw [sweep_lookup]
    split
    · rfl
    · exact hgood.gone hk hnone

theorem step_good (hgood : Good s) {e : Event ι κ ν} (hvalid : Valid s e) (hcareful : Careful s e) :
    Good (step s e) := by
  cases e with
  | sweep keys => exact sweep_good hgood hvalid
  | run who desired ops stop =>
    obtain ⟨hretry, hfree⟩ := hcareful
    cases stop with
    | none => exact run_good hgood hvalid.1 hretry hfree
    | some n => exact failed_good hgood hvalid.1 hretry hfree n

omit [DecidableEq ι] [DecidableEq ν] in
/-- **SETTLED**: when every owner's latest run has succeeded, the rows written are those wanted. -/
theorem settled (hgood : Good s) {current : ι → KMap κ ν}
    (hsettled : ∀ who, s.last who = some (current who, true) ∨
      s.last who = none ∧ current who = ∅) (k : κ) (v : ν) :
    (k ∈ s.touched ∧ s.map.lookup k = some v) ↔ ∃ who, (current who).lookup k = some v := by
  have howned : ∀ who, s.owned who = current who := by
    intro who
    rcases hsettled who with h | ⟨h, hcur⟩
    · exact hgood.indexed h
    · rw [hgood.idle h, hcur]
  have hnofail : ∀ who D, s.last who ≠ some (D, false) := by
    intro who D hD
    rcases hsettled who with h | ⟨h, -⟩
    · rw [h] at hD
      nomatch (Prod.mk.inj (Option.some.inj hD)).2
    · rw [h] at hD
      nomatch hD
  have hmap : ∀ who, k ∈ s.owned who → s.map.lookup k = (current who).lookup k := by
    intro who hk
    rcases hgood.held hk with hm | ⟨D, hD, -⟩
    · rw [hm, howned who]
    · exact absurd hD (hnofail who D)
  constructor
  · rintro ⟨htouched, hv⟩
    by_contra hnone
    have hgone : s.map.lookup k = none := by
      refine hgood.gone htouched fun who hclaim => ?_
      rcases hclaim with hin | ⟨D, hD, -⟩
      · exact hnone ⟨who, (hmap who hin).symm.trans hv⟩
      · exact hnofail who D hD
    rw [hgone] at hv
    nomatch hv
  · rintro ⟨who, hv⟩
    have hin : k ∈ s.owned who := by
      rw [← AList.lookup_isSome, howned who, hv]
      rfl
    exact ⟨hgood.recorded hin, (hmap who hin).trans hv⟩

-- ── histories of runs that succeed, the newest first

/-- What the latest run of an owner asked for. -/
def latest : List (ι × KMap κ ν) → ι → KMap κ ν
  | [], _ => ∅
  | (a, D) :: earlier, who => if who = a then D else latest earlier who

/-- The row left by the last run that CHANGED what its owner asks for under the key: a run that asks
    for the same as the owner's last one does not touch it. -/
def written : List (ι × KMap κ ν) → κ → Option ν
  | [], _ => none
  | (a, D) :: earlier, k =>
    if (latest earlier a).lookup k = D.lookup k then written earlier k else D.lookup k

variable {hist : List (ι × KMap κ ν)}

/-- What nobody asks for any more has been taken away. -/
theorem written_eq_none (h : ∀ who, k ∉ latest hist who) : written hist k = none := by
  induction hist with
  | nil => rfl
  | cons run earlier ih =>
    obtain ⟨a, D⟩ := run
    have hD : D.lookup k = none := by
      have ha := h a
      unfold latest at ha
      rw [if_pos rfl] at ha
      exact AList.lookup_eq_none.mpr ha
    unfold written
    split
    · rename_i hsame
      refine ih fun who hk => ?_
      by_cases hwho : who = a
      · subst hwho
        exact AList.lookup_eq_none.mp (hsame.trans hD) hk
      · have hother := h who
        unfold latest at hother
        rw [if_neg hwho] at hother
        exact hother hk
    · exact hD

/-- A row that was written is one that some run asked for. -/
theorem asked_of_written {v : ν} (h : written hist k = some v) : ∃ run ∈ hist, run.2.lookup k = some v := by
  induction hist with
  | nil => nomatch h
  | cons run earlier ih =>
    obtain ⟨a, D⟩ := run
    unfold written at h
    split at h
    · obtain ⟨run, hrun, hv⟩ := ih h
      exact ⟨run, .tail _ hrun, hv⟩
    · exact ⟨_, .head _, h⟩

/-- The indexes are those of the history; the map agrees with it but for keys in no index. -/
structure Records (s : State ι κ ν) (hist : List (ι × KMap κ ν)) : Prop where
  owned : ∀ who, s.owned who = latest hist who
  rows : ∀ k, s.map.lookup k = written hist k ∨ ∀ who, k ∉ latest hist who

theorem start_records (map : KMap κ ν) : Records (State.start (ι := ι) map) [] :=
  ⟨fun _ => rfl, fun _ => .inr fun _ => nofun⟩

/-- A run puts or deletes exactly the keys whose row changes. -/
theorem run_lookup (hdiff : Diffs (s.owned who) desired ops) (k : κ) :
    (step s (.run who desired ops none)).map.lookup k =
      if (s.owned who).lookup k = desired.lookup k then s.map.lookup k else desired.lookup k := by
  have hpoint := hdiff.point (m := s.map) (fun o ho => ho) k
  show (applyAll s.map ops).lookup k = _
  split
  · rename_i hsame
    refine hpoint.2 fun o ho hk => ?_
    obtain ⟨puts, dels, rfl, hputs, hdels⟩ := id hdiff
    rcases List.mem_append.mp ho with hput | hdel
    · obtain ⟨e, he, rfl⟩ := List.mem_map.mp hput
      obtain ⟨hnew, hold⟩ := mem_changed.mp (hputs.mem_iff.mp he)
      obtain rfl : e.1 = k := hk
      exact hold (hsame.trans hnew)
    · obtain ⟨j, hj, rfl⟩ := List.mem_map.mp hdel
      obtain ⟨hold, hnew⟩ := mem_stale.mp (hdels.mem_iff.mp hj)
      obtain rfl : j = k := hk
      exact AList.lookup_eq_none.mp (hsame.trans (AList.lookup_eq_none.mpr hnew)) hold
  · rename_i hdiffers
    refine hpoint.1 ?_
    by_contra hnone
    exact hdiffers (hdiff.untouched fun o ho hk => hnone ⟨o, ho, hk⟩)

/-- **A RUN EXTENDS THE HISTORY**, also where the map agreed with it before. -/
theorem run_written (hrec : Records s hist) (hdiff : Diffs (s.owned who) desired ops)
    (hk : s.map.lookup k = written hist k) :
    (step s (.run who desired ops none)).map.lookup k = written ((who, desired) :: hist) k := by
  rw [run_lookup hdiff, hrec.owned, hk]
  rfl

theorem run_records (hrec : Records s hist) (hdiff : Diffs (s.owned who) desired ops) :
    Records (step s (.run who desired ops none)) ((who, desired) :: hist) := by
  constructor
  · intro other
    show update s.owned who desired other = _
    unfold latest
    split
    · rename_i hother
      rw [hother, update_self]
    · rename_i hother
      rw [update_of_ne hother, hrec.owned]
  · intro k
    rcases hrec.rows k with hrow | hfree
    · exact .inl (run_written hrec hdiff hrow)
    -- a leftover stays one, unless the run is about it
    by_cases hsame : (latest hist who).lookup k = desired.lookup k
    · refine .inr fun other => ?_
      unfold latest
      split
      · rw [← AList.lookup_eq_none, ← hsame]
        exact AList.lookup_eq_none.mpr (hfree who)
      · exact hfree other
    · refine .inl ?_
      rw [run_lookup hdiff, hrec.owned, if_neg hsame]
      unfold written
      rw [if_neg hsame]

/-- **A SWEEP** of what no index holds leaves what the history says. -/
theorem sweep_written (hrec : Records s hist) {keys : List κ}
    (hdead : ∀ j ∈ keys, ∀ who, j ∉ s.owned who)
    (hall : k ∈ s.map → (∀ who, k ∉ s.owned who) → k ∈ keys) :
    (step s (.sweep keys)).map.lookup k = written hist k := by
  by_cases hlive : ∃ who, k ∈ s.owned who
  · obtain ⟨who, hk⟩ := hlive
    rw [sweep_live hdead hk]
    refine (hrec.rows k).resolve_right fun hfree => hfree who ?_
    exact hrec.owned who ▸ hk
  · have hfree : ∀ who, k ∉ s.owned who := fun who hk => hlive ⟨who, hk⟩
    rw [written_eq_none fun who => hrec.owned who ▸ hfree who, sweep_lookup]
    split
    · rfl
    · rename_i hkeep
      exact AList.lookup_eq_none.mpr fun hin => hkeep (hall hin hfree)

theorem sweep_records (hrec : Records s hist) {keys : List κ}
    (hdead : ∀ j ∈ keys, ∀ who, j ∉ s.owned who) : Records (step s (.sweep keys)) hist := by
  refine ⟨hrec.owned, fun k => ?_⟩
  by_cases hlive : ∃ who, k ∈ latest hist who
  · obtain ⟨who, hk⟩ := hlive
    rw [sweep_live hdead (hrec.owned who ▸ hk)]
    exact .inl ((hrec.rows k).resolve_right fun hfree => hfree who hk)
  · exact .inr fun who hk => hlive ⟨who, hk⟩

end IndexDiff
