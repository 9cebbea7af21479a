import Cozyplane.KernelMapProofs
import Cozyplane.PhasedProofs
import Cozyplane.RunProofs

/-!
# Guarded snapshots — several maps replaced behind one pinned cell

A LAYER is a family of kernel maps that only mean something together. A snapshot is installed by
arming a guard cell, syncing the maps one after the other, and disarming it; a rejected snapshot
is blocked by arming it alone. Any operation may fail, the process may die between two of them,
and a restart may find a map recreated empty.
-/

namespace SnapshotGuard

open KernelMap Phased Run Function

variable {A ι : Type} {κ ν : ι → Type} [DecidableEq ι] [∀ i, DecidableEq (κ i)]

/-- The maps of a layer, and what a snapshot says each should hold. -/
structure Layer (A : Type) {ι : Type} (κ ν : ι → Type) where
  order : List ι
  nodup : order.Nodup
  complete : ∀ i, i ∈ order
  rows : A → ∀ i, Except String (KMap (κ i) (ν i))

/-- The pinned state: the guard cell, the cell that says a snapshot was ever installed, and the
    maps. -/
structure Pinned {ι : Type} (κ ν : ι → Type) where
  armed : Bool
  ready : Bool
  tables : ∀ i, KMap (κ i) (ν i)

/-- One kernel operation. `fresh` and `freshCells` are maps that a load created anew. -/
inductive Write {ι : Type} (κ ν : ι → Type) where
  | arm
  | disarm
  | ready
  | row (i : ι) (o : Op (κ i) (ν i))
  | fresh (i : ι)
  | freshCells

def Pinned.write (s : Pinned κ ν) : Write κ ν → Pinned κ ν
  | .arm => { s with armed := true }
  | .disarm => { s with armed := false }
  | .ready => { s with ready := true }
  | .row i o => { s with tables := update s.tables i (apply (s.tables i) o) }
  | .fresh i => { s with tables := update s.tables i ∅ }
  | .freshCells => { s with armed := false, ready := false }

theorem exec_rows (i : ι) (ops : List (Op (κ i) (ν i))) (s : Pinned κ ν) :
    exec Pinned.write s (ops.map (.row i)) =
      { s with tables := update s.tables i (applyAll (s.tables i) ops) } := by
  induction ops generalizing s with
  | nil =>
    show s = { s with tables := update s.tables i (s.tables i) }
    rw [update_eq_self]
  | cons o ops ih =>
    rw [List.map_cons, exec_cons, ih]
    have hself : (s.write (.row i o)).tables i = apply (s.tables i) o :=
      update_self ..
    have hidem (m : KMap (κ i) (ν i)) :
        update (s.write (.row i o)).tables i m = update s.tables i m :=
      update_idem ..
    rw [hself, hidem]
    rfl

/-- The maps hold exactly the rows of the snapshot. -/
def Holds (L : Layer A κ ν) (t : ∀ i, KMap (κ i) (ν i)) (a : A) : Prop :=
  ∀ i, ∃ w, L.rows a i = .ok w ∧ ∀ k, (t i).lookup k = w.lookup k

def blockPhases : List (Phase (Pinned κ ν) (Write κ ν)) := [once .arm]

/-- What a load creates: a map, or (`none`) the cells. -/
def freshWrite : Option ι → Write κ ν
  | some i => .fresh i
  | none => .freshCells

def createPhase (gone : List (Option ι)) : Phase (Pinned κ ν) (Write κ ν) := fun _ ws =>
  ws = gone.map freshWrite

/-- It then arms the guard if anything was gone, or if no snapshot was ever installed. -/
def rearmPhase (gone : List (Option ι)) : Phase (Pinned κ ν) (Write κ ν) := fun s ws =>
  ws = if s.ready = false ∨ gone ≠ [] then [.arm] else []

def restartPhases (gone : List (Option ι)) : List (Phase (Pinned κ ν) (Write κ ν)) :=
  [createPhase gone, rearmPhase gone]

variable {L : Layer A κ ν} {gone : List (Option ι)} {s : Pinned κ ν} {ws : List (Write κ ν)}

theorem block_stops (h : Stops Pinned.write blockPhases s ws) :
    ws = [] ∨ (exec Pinned.write s ws).armed = true := by
  rcases stops_once h with rfl | rfl
  · exact .inl rfl
  · exact .inr rfl

omit [DecidableEq ι] [∀ i, DecidableEq (κ i)] in
theorem rearm_cases (h : rearmPhase gone s ws) : ws = [.arm] ∨ ws = [] := by
  have hws : ws = if s.ready = false ∨ gone ≠ [] then [.arm] else [] := h
  split at hws
  · exact .inl hws
  · exact .inr hws

theorem restart_keep (hcells : none ∉ gone) :
    ∀ ph ∈ restartPhases gone, Keeps Pinned.write (fun s : Pinned κ ν => s.armed = true) ph := by
  intro ph hph
  refine .of_writes fun s ws hws x hx s' hs' => ?_
  rcases List.mem_cons.mp hph with rfl | hph
  · obtain rfl : ws = gone.map freshWrite := hws
    obtain ⟨j, hj, rfl⟩ := List.mem_map.mp hx
    cases j with
    | none => exact absurd hj hcells
    | some i => exact hs'
  · obtain rfl := List.mem_singleton.mp hph
    rcases rearm_cases hws with rfl | rfl
    · obtain rfl := List.mem_singleton.mp hx
      rfl
    · nomatch hx

theorem restart_found (h : Stops Pinned.write (restartPhases []) s ws) : ws = [] ∨ ws = [.arm] := by
  cases h with
  | idle => exact .inl rfl
  | within hph hpre =>
    obtain rfl : _ = ([] : List (Write κ ν)) := hph
    exact .inl (List.prefix_nil.mp hpre)
  | later hph hrest =>
    obtain rfl : _ = ([] : List (Write κ ν)) := hph
    rcases stops_singleton hrest with rfl | ⟨ws', hrearm, hpre⟩
    · exact .inl rfl
    · rcases rearm_cases hrearm with rfl | rfl
      · rcases List.prefix_cons_iff.mp hpre with rfl | ⟨done, rfl, hdone⟩
        · exact .inl rfl
        · obtain rfl := List.prefix_nil.mp hdone
          exact .inr rfl
      · exact .inl (List.prefix_nil.mp hpre)

theorem restart_completes (hgone : gone ≠ []) (h : Completes Pinned.write (restartPhases gone) s ws) :
    (exec Pinned.write s ws).armed = true := by
  obtain ⟨ws₁, ws₂, rfl, -, hrest⟩ := completes_cons.mp h
  have hrearm : rearmPhase gone (exec Pinned.write s ws₁) ws₂ := completes_singleton.mp hrest
  have hws₂ : ws₂ = [.arm] := Eq.trans hrearm (if_pos (.inr hgone))
  rw [exec_append, hws₂]
  rfl

theorem restart_stops (hsafe : gone = [] ∨ (none ∉ gone ∧ s.armed = true))
    (h : Stops Pinned.write (restartPhases gone) s ws) :
    exec Pinned.write s ws = s ∨ (exec Pinned.write s ws).armed = true := by
  rcases hsafe with rfl | ⟨hcells, harmed⟩
  · rcases restart_found h with rfl | rfl
    · exact .inl rfl
    · exact .inr rfl
  · exact .inr (Stops.invariant (restart_keep hcells) h harmed)

variable [∀ i, DecidableEq (ν i)]

/-- The rows of the snapshot for one map, and the sync that installs them. -/
def syncPhase (L : Layer A κ ν) (a : A) (i : ι) : Phase (Pinned κ ν) (Write κ ν) := fun s ws =>
  ∃ w ops, L.rows a i = .ok w ∧ Syncs (s.tables i) w ops ∧ ws = ops.map (.row i)

/-- The work of an installation. -/
def installPhases (L : Layer A κ ν) (a : A) : List (Phase (Pinned κ ν) (Write κ ν)) :=
  L.order.map (syncPhase L a) ++ [once .ready]

def applyPhases (L : Layer A κ ν) (a : A) : List (Phase (Pinned κ ν) (Write κ ν)) :=
  once .arm :: (installPhases L a ++ [once .disarm])

theorem syncs_other {a : A} {l : List ι} {i : ι} (hi : i ∉ l)
    (h : Completes Pinned.write (l.map (syncPhase L a)) s ws) :
    (exec Pinned.write s ws).tables i = s.tables i := by
  induction l generalizing s ws with
  | nil =>
    cases h with
    | nil => rfl
  | cons j l ih =>
    have hne : i ≠ j := fun h => hi (h ▸ (.head _))
    have hrest : i ∉ l := fun h => hi (List.mem_cons_of_mem j h)
    cases h with
    | cons hph hcont =>
      obtain ⟨w, ops, -, -, rfl⟩ := hph
      rw [exec_append, ih hrest hcont, exec_rows]
      exact update_of_ne hne ..

/-- **THE SYNCS INSTALL THE SNAPSHOT**, map by map. -/
theorem syncs_hold {a : A} {l : List ι} (hnodup : l.Nodup)
    (h : Completes Pinned.write (l.map (syncPhase L a)) s ws) :
    ∀ i ∈ l, ∃ w, L.rows a i = .ok w ∧
      ∀ k, ((exec Pinned.write s ws).tables i).lookup k = w.lookup k := by
  induction l generalizing s ws with
  | nil => exact nofun
  | cons j l ih =>
    obtain ⟨hnot, hnodup⟩ := List.nodup_cons.mp hnodup
    intro i hi
    cases h with
    | cons hph hcont =>
      rcases List.mem_cons.mp hi with rfl | hi
      · obtain ⟨w, ops, hrows, hsyncs, rfl⟩ := hph
        refine ⟨w, hrows, fun k => ?_⟩
        rw [exec_append, syncs_other hnot hcont, exec_rows]
        show (update s.tables i _ i).lookup k = _
        rw [update_self]
        exact hsyncs.lookup k
      · rw [exec_append]
        exact ih hnodup hcont i hi

theorem install_keep (L : Layer A κ ν) (a : A) :
    ∀ ph ∈ installPhases L a, Keeps Pinned.write (fun s => s.armed = true) ph := by
  intro ph hph
  refine .of_writes fun s ws hws w hw s' hs' => ?_
  rcases List.mem_append.mp hph with hsync | hready
  · obtain ⟨i, -, rfl⟩ := List.mem_map.mp hsync
    obtain ⟨-, ops, -, -, rfl⟩ := hws
    obtain ⟨o, -, rfl⟩ := List.mem_map.mp hw
    exact hs'
  · obtain rfl := List.mem_singleton.mp hready
    obtain rfl : ws = [.ready] := hws
    obtain rfl := List.mem_singleton.mp hw
    exact hs'

/-- **WHERE AN INSTALLATION MAY STOP**: before its first write, behind the armed guard, or with
    every write made. -/
theorem apply_cases {a : A} (h : Stops Pinned.write (applyPhases L a) s ws) :
    ws = [] ∨ (exec Pinned.write s ws).armed = true ∨
      Completes Pinned.write (applyPhases L a) s ws :=
  guarded_stops (fun _ => rfl) (install_keep L a) h

/-- An installation that made every write leaves the guard disarmed and the snapshot whole. -/
theorem apply_completes {a : A} (h : Completes Pinned.write (applyPhases L a) s ws) :
    (exec Pinned.write s ws).armed = false ∧ Holds L (exec Pinned.write s ws).tables a := by
  obtain ⟨ws', hwork, hend⟩ := guarded_completes h
  rw [hend]
  refine ⟨rfl, ?_⟩
  obtain ⟨ws₁, ws₂, rfl, hsyncs, hready⟩ := completes_append.mp hwork
  rw [completes_once.mp hready, exec_append]
  exact fun i => syncs_hold L.nodup hsyncs i (L.complete i)

-- ── runs

/-- An installation, a block or a restart. -/
inductive Call (A ι : Type) where
  | apply (a : A)
  | block
  | restart (gone : List (Option ι))

def Call.phases (L : Layer A κ ν) : Call A ι → List (Phase (Pinned κ ν) (Write κ ν))
  | .apply a => applyPhases L a
  | .block => blockPhases
  | .restart gone => restartPhases gone

/-- The pinned state; the last installation that succeeded; and that nothing was blocked and none
    failed since. -/
structure World (A : Type) {ι : Type} (κ ν : ι → Type) where
  pinned : Pinned κ ν
  last : Option A
  clean : Bool

/-- The world while a call has made some writes. -/
def World.after (w : World A κ ν) (ws : List (Write κ ν)) : World A κ ν :=
  { w with pinned := exec Pinned.write w.pinned ws }

/-- A point inside a call. -/
def Ongoing (L : Layer A κ ν) (w : World A κ ν) (c : Call A ι) (ws : List (Write κ ν)) : Prop :=
  Cut Pinned.write (c.phases L) w.pinned ws

/-- A call that ended, its writes, and whether all were made. -/
structure Event (A : Type) {ι : Type} (κ ν : ι → Type) where
  call : Call A ι
  writes : List (Write κ ν)
  finished : Bool

def World.step (w : World A κ ν) (e : Event A κ ν) : World A κ ν :=
  let pinned := exec Pinned.write w.pinned e.writes
  match e.call, e.finished with
  | .apply a, true => ⟨pinned, some a, true⟩
  | .apply _, false => ⟨pinned, w.last, false⟩
  | .block, _ => ⟨pinned, w.last, false⟩
  | .restart _, _ => ⟨pinned, w.last, w.clean⟩

/-- A finished call made all its writes, any other was stopped by a failure or the end of the
    process. -/
def Event.valid (L : Layer A κ ν) (w : World A κ ν) (e : Event A κ ν) : Prop :=
  Ends Pinned.write (e.call.phases L) w.pinned e.writes e.finished

/-- A restart finds every map, or it finds the cells and the guard armed. -/
def RestartSafe (w : World A κ ν) : Call A ι → Prop
  | .restart gone => gone = [] ∨ (none ∉ gone ∧ w.pinned.armed = true)
  | _ => True

/-- Nothing is lost: an arming write takes effect unless the guard is armed already, and a
    restart is safe. -/
def Event.guarded (w : World A κ ν) (e : Event A κ ν) : Prop :=
  RestartSafe w e.call ∧
    match e.call with
    | .restart _ => True
    | _ => e.writes ≠ [] ∨ w.pinned.armed = true

/-- A disarmed guard means the last snapshot, whole and undisturbed. -/
def Snapshot (L : Layer A κ ν) (w : World A κ ν) : Prop :=
  w.pinned.armed = false → ∃ a, w.last = some a ∧ w.clean = true ∧ Holds L w.pinned.tables a

variable {w : World A κ ν}

omit [DecidableEq ι] [∀ i, DecidableEq (ν i)] in
theorem snapshot_armed (h : w.pinned.armed = true) : Snapshot L w := by
  intro hd
  rw [h] at hd
  nomatch hd

/-- **INSIDE A CALL**: at every point before the last write of a call the guard is armed, or
    nothing has changed. -/
theorem call_stops {c : Call A ι} (hsafe : RestartSafe w c) (h : Ongoing L w c ws) :
    exec Pinned.write w.pinned ws = w.pinned ∨ (exec Pinned.write w.pinned ws).armed = true := by
  obtain ⟨hstops, hpart⟩ := h
  cases c with
  | apply a =>
    rcases apply_cases hstops with rfl | harmed | hall
    · exact .inl rfl
    · exact .inr harmed
    · exact absurd hall hpart
  | block =>
    rcases block_stops hstops with rfl | harmed
    · exact .inl rfl
    · exact .inr harmed
  | restart gone => exact restart_stops hsafe hstops

/-- **ONE CALL** keeps the meaning of a disarmed guard. -/
theorem snapshot_step {e : Event A κ ν} (hw : Snapshot L w) (hvalid : e.valid L w) (hok : e.guarded w) :
    Snapshot L (w.step e) := by
  obtain ⟨call, ws, finished⟩ := e
  obtain ⟨hsafe, harming⟩ := hok
  -- a call that only arms: with the guard armed there is nothing to show, and a lost arming
  -- write is excluded unless the guard was armed before
  have harm : (ws ≠ [] ∨ w.pinned.armed = true) →
      (ws = [] ∨ (exec Pinned.write w.pinned ws).armed = true) →
      (exec Pinned.write w.pinned ws).armed = true := by
    rintro hne (rfl | h)
    · exact hne.resolve_left (absurd rfl)
    · exact h
  cases call with
  | apply a =>
    cases finished with
    | true =>
      intro _
      exact ⟨a, rfl, rfl, (apply_completes hvalid).2⟩
    | false =>
      obtain ⟨hstops, hnot⟩ := hvalid
      refine snapshot_armed (harm harming ?_)
      exact (apply_cases hstops).imp_right fun h => h.resolve_right hnot
  | block =>
    exact snapshot_armed (harm harming (block_stops (Ends.stops hvalid)))
  | restart gone =>
    rcases restart_stops hsafe (Ends.stops hvalid) with hsame | harmed
    · intro hd
      show ∃ a, w.last = some a ∧ w.clean = true ∧ Holds L (exec Pinned.write w.pinned ws).tables a
      have hd' : (exec Pinned.write w.pinned ws).armed = false := hd
      rw [hsame] at hd' ⊢
      exact hw hd'
    · exact snapshot_armed harmed

/-- **THROUGHOUT A RUN**: after every call, and at every point inside the next one. -/
theorem snapshot_throughout (h : Reaches World.step (fun w e => Event.valid L w e ∧ Event.guarded w e)
      (fun w => w.pinned.armed = true) w) :
    Snapshot L w ∧ ∀ c ws, RestartSafe w c → Ongoing L w c ws → Snapshot L (w.after ws) := by
  have hstep : ∀ w e, Snapshot L w → Event.valid L w e ∧ Event.guarded w e →
      Snapshot L (w.step e) := fun w e hw hok => snapshot_step hw hok.1 hok.2
  have hw : Snapshot L w := Reaches.invariant (fun _ => snapshot_armed) hstep h
  refine ⟨hw, fun c ws hsafe hongoing => ?_⟩
  rcases call_stops hsafe hongoing with hsame | harmed
  · unfold World.after
    rw [hsame]
    exact hw
  · exact snapshot_armed harmed

end SnapshotGuard
