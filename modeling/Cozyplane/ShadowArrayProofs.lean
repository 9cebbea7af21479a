import Cozyplane.KernelMapProofs
import Cozyplane.PhasedProofs

/-!
# Shadowed arrays — an array written through an in-process copy of its non-zero cells

A kernel array of a fixed index set can only be written a cell at a time, and reading it back
costs as much as writing it. The writer keeps a SHADOW: the cells it knows to be non-zero. The
first sync of a process writes every cell (the array may hold anything) and is then SEEDED;
every later one writes the cells whose shadow differs from what is wanted.
-/

namespace ShadowArray

open KernelMap Phased Function

variable {ι C : Type} [DecidableEq ι] [DecidableEq C] [Zero C]

/-- An array in the kernel and its shadow. -/
structure Shadowed (ι C : Type) where
  kernel : ι → C
  shadow : KMap ι C
  seeded : Bool

/-- A cell is stored, or the shadow is complete. -/
inductive Write (ι C : Type) where
  | put (p : ι) (c : C)
  | seed

/-- A successful write is recorded; only non-zero cells are retained. -/
def Shadowed.write (s : Shadowed ι C) : Write ι C → Shadowed ι C
  | .put p c =>
    { s with
      kernel := update s.kernel p c
      shadow := if c = 0 then s.shadow.erase p else s.shadow.insert p c }
  | .seed => { s with seeded := true }

/-- A missing cell reads as zero. -/
def cellAt (m : KMap ι C) (p : ι) : C := (m.lookup p).getD 0

/-- The shadow has the cell exactly as the array does. -/
def Tracks (s : Shadowed ι C) (p : ι) : Prop :=
  s.shadow.lookup p = if s.kernel p = 0 then none else some (s.kernel p)

/-- Once seeded, every cell is tracked. -/
def Tracked (s : Shadowed ι C) : Prop := s.seeded = true → ∀ p, Tracks s p

omit [DecidableEq C] in
theorem cellAt_insert_self (m : KMap ι C) (p : ι) (c : C) : cellAt (m.insert p c) p = c := by
  unfold cellAt
  rw [AList.lookup_insert]
  rfl

variable {s : Shadowed ι C} {ps : List ι} {p : ι}

omit [DecidableEq C] in
theorem cellAt_insert_ne (m : KMap ι C) {q : ι} (c : C) (h : q ≠ p) :
    cellAt (m.insert p c) q = cellAt m q := by
  unfold cellAt
  rw [AList.lookup_insert_ne h]

theorem Tracks.cellAt (h : Tracks s p) :
    cellAt s.shadow p = s.kernel p := by
  unfold ShadowArray.cellAt
  rw [h]
  split
  · rename_i hz
    rw [hz]
    rfl
  · rfl

theorem Tracks.lookup_iff (h : Tracks s p) {c : C} :
    s.shadow.lookup p = some c ↔ s.kernel p = c ∧ c ≠ 0 := by
  rw [h]
  split
  · rename_i hz
    constructor
    · intro hc
      nomatch hc
    · rintro ⟨rfl, hne⟩
      exact absurd hz hne
  · rename_i hz
    constructor
    · intro hc
      cases hc
      exact ⟨rfl, hz⟩
    · rintro ⟨rfl, -⟩
      rfl

theorem put_tracks (s : Shadowed ι C) (p : ι) (c : C) : Tracks (s.write (.put p c)) p := by
  have hkernel : (s.write (.put p c)).kernel p = c := update_self ..
  unfold Tracks
  rw [hkernel]
  show AList.lookup p (if c = 0 then s.shadow.erase p else s.shadow.insert p c) = _
  split
  · exact AList.lookup_erase p s.shadow
  · exact AList.lookup_insert s.shadow

theorem put_kernel_ne (s : Shadowed ι C) {q : ι} (c : C) (h : q ≠ p) :
    (s.write (.put p c)).kernel q = s.kernel q := update_of_ne h ..

theorem put_shadow_ne (s : Shadowed ι C) {q : ι} (c : C) (h : q ≠ p) :
    (s.write (.put p c)).shadow.lookup q = s.shadow.lookup q := by
  show AList.lookup q (if c = 0 then s.shadow.erase p else s.shadow.insert p c) = _
  split
  · exact AList.lookup_erase_ne h
  · exact AList.lookup_insert_ne h

theorem put_tracked (h : Tracked s) (p : ι) (c : C) :
    Tracked (s.write (.put p c)) := by
  intro hseeded q
  by_cases hq : q = p
  · rw [hq]
    exact put_tracks s p c
  unfold Tracks
  rw [put_shadow_ne s c hq, put_kernel_ne s c hq]
  exact h hseeded q

def putCell (want : KMap ι C) (p : ι) : Write ι C := .put p (cellAt want p)

theorem puts_seeded (want : KMap ι C) (ps : List ι) (s : Shadowed ι C) :
    (exec Shadowed.write s (ps.map (putCell want))).seeded = s.seeded := by
  induction ps generalizing s with
  | nil => rfl
  | cons p ps ih =>
    rw [List.map_cons, exec_cons, ih]
    rfl

theorem puts_other (want : KMap ι C) (h : p ∉ ps) (s : Shadowed ι C) :
    (exec Shadowed.write s (ps.map (putCell want))).kernel p = s.kernel p ∧
      (exec Shadowed.write s (ps.map (putCell want))).shadow.lookup p = s.shadow.lookup p := by
  induction ps generalizing s with
  | nil => exact ⟨rfl, rfl⟩
  | cons q ps ih =>
    have hne : p ≠ q := fun he => h (he ▸ List.mem_cons_self)
    obtain ⟨hk, hs⟩ := ih (fun hp => h (List.mem_cons_of_mem q hp)) (s.write (putCell want q))
    rw [List.map_cons, exec_cons, hk, hs]
    exact ⟨put_kernel_ne s _ hne, put_shadow_ne s _ hne⟩

theorem puts_self (want : KMap ι C) (h : p ∈ ps) (s : Shadowed ι C) :
    (exec Shadowed.write s (ps.map (putCell want))).kernel p = cellAt want p ∧
      Tracks (exec Shadowed.write s (ps.map (putCell want))) p := by
  induction ps generalizing s with
  | nil => nomatch h
  | cons q ps ih =>
    rw [List.map_cons, exec_cons]
    by_cases hp : p ∈ ps
    · exact ih hp _
    obtain rfl : p = q := (List.mem_cons.mp h).resolve_right hp
    obtain ⟨hk, hs⟩ := puts_other want hp (s.write (putCell want p))
    unfold Tracks
    rw [hk, hs]
    exact ⟨update_self .., put_tracks s p _⟩

theorem puts_tracks (want : KMap ι C) (ps : List ι) (h : Tracks s p) :
    Tracks (exec Shadowed.write s (ps.map (putCell want))) p := by
  by_cases hp : p ∈ ps
  · exact (puts_self want hp s).2
  obtain ⟨hk, hs⟩ := puts_other want hp s
  unfold Tracks
  rw [hk, hs]
  exact h

def stalePages (s : Shadowed ι C) (want : KMap ι C) : List ι :=
  s.shadow.keys.filter fun p => cellAt want p ≠ cellAt s.shadow p

def missingPages (s : Shadowed ι C) (want : KMap ι C) : List ι :=
  want.keys.filter fun p => cellAt s.shadow p ≠ cellAt want p

/-- The first sync writes every cell and seeds; a later one rewrites the stale cells, then the
    missing ones, each in some order. -/
def syncPhase (all : List ι) (want : KMap ι C) : Phase (Shadowed ι C) (Write ι C) := fun s ws =>
  (s.seeded = false ∧ ws = all.map (putCell want) ++ [.seed]) ∨
  (s.seeded = true ∧ ∃ ps qs : List ι, ps.Perm (stalePages s want) ∧
    qs.Perm (missingPages (exec Shadowed.write s (ps.map (putCell want))) want) ∧
    ws = ps.map (putCell want) ++ qs.map (putCell want))

omit [DecidableEq C] in
theorem cellAt_of_not_mem {m : KMap ι C} (h : p ∉ m.keys) : cellAt m p = 0 := by
  have hnone : m.lookup p = none := AList.lookup_eq_none.mpr h
  unfold cellAt
  rw [hnone]
  rfl

theorem kernel_of_not_missing (hs : ∀ p, Tracks s p) {want : KMap ι C}
    (hps : ps.Perm (stalePages s want))
    (hp : p ∉ missingPages (exec Shadowed.write s (ps.map (putCell want))) want) :
    (exec Shadowed.write s (ps.map (putCell want))).kernel p = cellAt want p := by
  by_cases hwritten : p ∈ ps
  · exact (puts_self want hwritten s).1
  by_cases hwanted : p ∈ want.keys
  · by_contra hne
    refine hp (List.mem_filter.mpr ⟨hwanted, decide_eq_true ?_⟩)
    rw [(puts_tracks want ps (hs p)).cellAt]
    exact hne
  · -- not wanted: the shadow does not have it, or it would be stale
    have hzero := cellAt_of_not_mem hwanted
    rw [(puts_other want hwritten s).1, hzero, ← (hs p).cellAt]
    by_contra hne
    have hshadow : p ∈ s.shadow.keys := by
      by_contra hno
      exact hne (cellAt_of_not_mem hno)
    refine hwritten (hps.mem_iff.mpr (List.mem_filter.mpr ⟨hshadow, decide_eq_true ?_⟩))
    rw [hzero]
    exact Ne.symm hne

/-- **A FULL SYNC** seeds, leaves the array as wanted, and tracks every cell. -/
theorem sync_completes {all : List ι} (hall : ∀ p, p ∈ all) {want : KMap ι C} (hs : Tracked s)
    {ws : List (Write ι C)} (h : syncPhase all want s ws) :
    (exec Shadowed.write s ws).seeded = true ∧
      ∀ p, (exec Shadowed.write s ws).kernel p = cellAt want p ∧
        Tracks (exec Shadowed.write s ws) p := by
  rcases h with ⟨-, rfl⟩ | ⟨hseeded, ps, qs, hps, hqs, rfl⟩
  · rw [exec_append]
    exact ⟨rfl, fun p => puts_self want (hall p) s⟩
  rw [exec_append]
  refine ⟨?_, fun p => ?_⟩
  · rw [puts_seeded, puts_seeded, hseeded]
  · by_cases hp : p ∈ qs
    · exact puts_self want hp _
    obtain ⟨hk, -⟩ := puts_other want hp (exec Shadowed.write s (ps.map (putCell want)))
    rw [hk]
    have hmissing := fun hm => hp (hqs.mem_iff.mpr hm)
    exact ⟨kernel_of_not_missing (hs hseeded) hps hmissing,
      puts_tracks want qs (puts_tracks want ps (hs hseeded p))⟩

/-- **A STOPPED SYNC** leaves every cell tracked, once seeded. -/
theorem sync_keeps {all : List ι} (hall : ∀ p, p ∈ all) (want : KMap ι C) :
    Keeps Shadowed.write Tracked (syncPhase all want) := by
  intro s ws done hs hph hpre
  have hputs : ∀ ps : List ι, ∀ w ∈ ps.map (putCell want), ∀ s' : Shadowed ι C, Tracked s' →
      Tracked (s'.write w) := by
    intro ps w hw s' hs'
    obtain ⟨p, -, rfl⟩ := List.mem_map.mp hw
    exact put_tracked hs' p _
  by_cases hfull : done = ws
  · subst hfull
    exact fun _ p => ((sync_completes hall hs hph).2 p).2
  rcases hph with ⟨-, rfl⟩ | ⟨-, ps, qs, -, -, rfl⟩
  · -- the seeding write is the last one, and was not made
    rcases List.prefix_concat_iff.mp hpre with heq | hpre
    · exact absurd heq hfull
    · exact exec_keeps (fun w hw => hputs all w (hpre.subset hw)) hs
  · rw [← List.map_append] at hpre
    exact exec_keeps (fun w hw => hputs (ps ++ qs) w (hpre.subset hw)) hs

end ShadowArray
