import Mathlib

/-!
# Phased programs — writes in order, stopped anywhere

A program that changes shared state one write at a time is a list of PHASES. A phase reads the
state and decides its writes; which writes those may be is a relation, since iteration orders
are not fixed. A phase that can decide nothing (an error) ends the program there.
-/

namespace Phased

variable {σ ω : Type}

/-- The writes a phase may decide on in a state. -/
abbrev Phase (σ ω : Type) := σ → List ω → Prop

/-- The state after some writes. -/
def exec (step : σ → ω → σ) (s : σ) (ws : List ω) : σ := ws.foldl step s

/-- All phases made all their writes. -/
inductive Completes (step : σ → ω → σ) : List (Phase σ ω) → σ → List ω → Prop where
  | nil {s : σ} : Completes step [] s []
  | cons {ph : Phase σ ω} {rest : List (Phase σ ω)} {s : σ} {ws ws' : List ω} :
      ph s ws → Completes step rest (exec step s ws) ws' → Completes step (ph :: rest) s (ws ++ ws')

/-- Some first part of the writes was made. -/
inductive Stops (step : σ → ω → σ) : List (Phase σ ω) → σ → List ω → Prop where
  | idle {phs : List (Phase σ ω)} {s : σ} : Stops step phs s []
  | within {ph : Phase σ ω} {rest : List (Phase σ ω)} {s : σ} {ws done : List ω} :
      ph s ws → done <+: ws → Stops step (ph :: rest) s done
  | later {ph : Phase σ ω} {rest : List (Phase σ ω)} {s : σ} {ws done : List ω} :
      ph s ws → Stops step rest (exec step s ws) done → Stops step (ph :: rest) s (ws ++ done)

variable {step : σ → ω → σ} {phs phs' : List (Phase σ ω)} {ph : Phase σ ω} {s : σ} {ws : List ω}

@[simp] theorem exec_cons (w : ω) : exec step s (w :: ws) = exec step (step s w) ws := rfl

theorem exec_append (ws ws' : List ω) : exec step s (ws ++ ws') = exec step (exec step s ws) ws' :=
  List.foldl_append

/-- A run that made some of its writes, not all. -/
def Cut (step : σ → ω → σ) (phs : List (Phase σ ω)) (s : σ) (ws : List ω) : Prop :=
  Stops step phs s ws ∧ ¬ Completes step phs s ws

/-- A run that finished made all its writes; any other was cut. -/
def Ends (step : σ → ω → σ) (phs : List (Phase σ ω)) (s : σ) (ws : List ω) (finished : Bool) : Prop :=
  if finished then Completes step phs s ws else Cut step phs s ws

theorem completes_cons : Completes step (ph :: phs) s ws ↔
    ∃ ws₁ ws₂, ws = ws₁ ++ ws₂ ∧ ph s ws₁ ∧ Completes step phs (exec step s ws₁) ws₂ := by
  constructor
  · intro h
    cases h with
    | cons hph hrest => exact ⟨_, _, rfl, hph, hrest⟩
  · rintro ⟨ws₁, ws₂, rfl, hph, hrest⟩
    exact .cons hph hrest

theorem completes_singleton : Completes step [ph] s ws ↔ ph s ws := by
  constructor
  · intro h
    cases h with
    | cons hph hrest =>
      cases hrest with
      | nil => rwa [List.append_nil]
  · intro h
    rw [← List.append_nil ws]
    exact .cons h .nil

theorem stops_nil : Stops step ([] : List (Phase σ ω)) s ws ↔ ws = [] := by
  constructor
  · intro h
    cases h with
    | idle => rfl
  · rintro rfl
    exact .idle

theorem stops_singleton (h : Stops step [ph] s ws) : ws = [] ∨ ∃ ws', ph s ws' ∧ ws <+: ws' := by
  cases h with
  | idle => exact .inl rfl
  | within hph hpre => exact .inr ⟨_, hph, hpre⟩
  | later hph hrest =>
    obtain rfl := stops_nil.mp hrest
    rw [List.append_nil]
    exact .inr ⟨_, hph, List.prefix_rfl⟩

theorem Completes.stops (h : Completes step phs s ws) : Stops step phs s ws := by
  induction h with
  | nil => exact .idle
  | cons hph _ ih => exact .later hph ih

theorem Ends.stops {finished : Bool} (h : Ends step phs s ws finished) : Stops step phs s ws := by
  cases finished with
  | true => exact Completes.stops h
  | false => exact And.left h

/-- The phase of one fixed write. -/
def once (w : ω) : Phase σ ω := fun _ ws => ws = [w]

theorem completes_once {w : ω} : Completes step [once w] s ws ↔ ws = [w] := completes_singleton

theorem completes_once_cons {w : ω} : Completes step (once w :: phs) s ws ↔
    ∃ ws', ws = w :: ws' ∧ Completes step phs (step s w) ws' := by
  constructor
  · intro h
    obtain ⟨ws₁, ws₂, rfl, rfl, hrest⟩ := completes_cons.mp h
    exact ⟨ws₂, rfl, hrest⟩
  · rintro ⟨ws', rfl, hrest⟩
    exact .cons (show once w s [w] from rfl) hrest

theorem stops_once_cons {w : ω} (h : Stops step (once w :: phs) s ws) :
    ws = [] ∨ ∃ ws', ws = w :: ws' ∧ Stops step phs (step s w) ws' := by
  cases h with
  | idle => exact .inl rfl
  | within hph hpre =>
    subst hph
    rcases List.prefix_cons_iff.mp hpre with rfl | ⟨done, rfl, hdone⟩
    · exact .inl rfl
    · obtain rfl := List.prefix_nil.mp hdone
      exact .inr ⟨[], rfl, .idle⟩
  | later hph hrest =>
    subst hph
    exact .inr ⟨_, rfl, hrest⟩

theorem stops_once {w : ω} (h : Stops step [once w] s ws) : ws = [] ∨ ws = [w] := by
  rcases stops_once_cons h with rfl | ⟨ws', rfl, hrest⟩
  · exact .inl rfl
  · rw [stops_nil.mp hrest]
    exact .inr rfl

-- ── sequencing

/-- **SEQUENCING**, of full runs. Induction on the first program. -/
theorem completes_append : Completes step (phs ++ phs') s ws ↔
    ∃ ws₁ ws₂, ws = ws₁ ++ ws₂ ∧ Completes step phs s ws₁ ∧
      Completes step phs' (exec step s ws₁) ws₂ := by
  induction phs generalizing s ws with
  | nil =>
    constructor
    · intro h
      exact ⟨[], ws, rfl, .nil, h⟩
    · rintro ⟨ws₁, ws₂, rfl, h₁, h₂⟩
      cases h₁ with
      | nil => exact h₂
  | cons ph rest ih =>
    constructor
    · intro h
      cases h with
      | cons hph hrest =>
        obtain ⟨ws₁, ws₂, rfl, h₁, h₂⟩ := ih.mp hrest
        rw [← exec_append] at h₂
        exact ⟨_, ws₂, (List.append_assoc ..).symm, .cons hph h₁, h₂⟩
    · rintro ⟨ws₁, ws₂, rfl, h₁, h₂⟩
      cases h₁ with
      | cons hph hrest =>
        rw [exec_append] at h₂
        rw [List.append_assoc]
        exact .cons hph (ih.mpr ⟨_, ws₂, rfl, hrest, h₂⟩)

/-- **SEQUENCING**, of stopped runs: stopped in the first program, or in the second after the
    first completed. -/
theorem stops_append (h : Stops step (phs ++ phs') s ws) :
    Stops step phs s ws ∨
      ∃ ws₁ ws₂, ws = ws₁ ++ ws₂ ∧ Completes step phs s ws₁ ∧
        Stops step phs' (exec step s ws₁) ws₂ := by
  induction phs generalizing s ws with
  | nil => exact .inr ⟨[], ws, rfl, .nil, h⟩
  | cons ph rest ih =>
    cases h with
    | idle => exact .inl .idle
    | within hph hpre => exact .inl (.within hph hpre)
    | later hph hrest =>
      rcases ih hrest with hstop | ⟨ws₁, ws₂, rfl, h₁, h₂⟩
      · exact .inl (.later hph hstop)
      · rw [← exec_append] at h₂
        exact .inr ⟨_, ws₂, (List.append_assoc ..).symm, .cons hph h₁, h₂⟩

/-- Every prefix of the phase's writes keeps `Inv`. -/
def Keeps (step : σ → ω → σ) (Inv : σ → Prop) (ph : Phase σ ω) : Prop :=
  ∀ s ws done, Inv s → ph s ws → done <+: ws → Inv (exec step s done)

variable {Inv : σ → Prop}

theorem exec_keeps (h : ∀ w ∈ ws, ∀ s, Inv s → Inv (step s w)) (hs : Inv s) :
    Inv (exec step s ws) := by
  induction ws generalizing s with
  | nil => exact hs
  | cons w ws ih =>
    exact ih (fun w' hw' => h w' (List.mem_cons_of_mem w hw')) (h w (.head _) s hs)

theorem Keeps.of_writes (h : ∀ s ws, ph s ws → ∀ w ∈ ws, ∀ s', Inv s' → Inv (step s' w)) :
    Keeps step Inv ph := by
  intro s ws done hs hph hpre
  exact exec_keeps (fun w hw => h s ws hph w (hpre.subset hw)) hs

/-- **INVARIANTS HOLD AT EVERY POINT**: induction on where the run stopped. -/
theorem Stops.invariant (hkeep : ∀ ph ∈ phs, Keeps step Inv ph) (h : Stops step phs s ws) (hs : Inv s) :
    Inv (exec step s ws) := by
  induction h with
  | idle => exact hs
  | within hph hpre => exact hkeep _ List.mem_cons_self _ _ _ hs hph hpre
  | later hph _ ih =>
    rw [exec_append]
    exact ih (fun ph hmem => hkeep ph (.tail _ hmem))
      (hkeep _ List.mem_cons_self _ _ _ hs hph List.prefix_rfl)

theorem Completes.invariant (hkeep : ∀ ph ∈ phs, Keeps step Inv ph) (h : Completes step phs s ws)
    (hs : Inv s) : Inv (exec step s ws) := by
  induction h with
  | nil => exact hs
  | cons hph _ ih =>
    rw [exec_append]
    exact ih (fun ph hmem => hkeep ph (.tail _ hmem))
      (hkeep _ List.mem_cons_self _ _ _ hs hph List.prefix_rfl)

/-- A program with an assertion between any two phases: each phase takes one to the next, and all
    its prefixes meet `Q`. -/
inductive Outline (step : σ → ω → σ) (Q : σ → Prop) : (σ → Prop) → List (Phase σ ω) → Prop where
  | nil {P : σ → Prop} : (∀ s, P s → Q s) → Outline step Q P []
  | cons {P P' : σ → Prop} {ph : Phase σ ω} {rest : List (Phase σ ω)} : (∀ s, P s → Q s) →
      (∀ s ws done, P s → ph s ws → done <+: ws → Q (exec step s done)) →
      (∀ s ws, P s → ph s ws → P' (exec step s ws)) → Outline step Q P' rest →
      Outline step Q P (ph :: rest)

/-- **OUTLINES** say what holds at every point. -/
theorem Outline.stops {P Q : σ → Prop} (ho : Outline step Q P phs) (h : Stops step phs s ws)
    (hs : P s) : Q (exec step s ws) := by
  induction ho generalizing s ws with
  | nil hq =>
    rw [stops_nil.mp h]
    exact hq s hs
  | cons hq hwithin hnext _ ih =>
    cases h with
    | idle => exact hq s hs
    | within hph hpre => exact hwithin s _ _ hs hph hpre
    | later hph hrest =>
      rw [exec_append]
      exact ih hrest (hnext s _ hs hph)

/-- **A GUARDED PROGRAM** arms, works and disarms. It stops before its first write, while it is
    armed, or with every write made. -/
theorem guarded_stops {Armed : σ → Prop} {arm disarm : ω} (harm : ∀ s, Armed (step s arm))
    (hkeep : ∀ ph ∈ phs, Keeps step Armed ph)
    (h : Stops step (once arm :: (phs ++ [once disarm])) s ws) :
    ws = [] ∨ Armed (exec step s ws) ∨
      Completes step (once arm :: (phs ++ [once disarm])) s ws := by
  rcases stops_once_cons h with rfl | ⟨ws', rfl, hrest⟩
  · exact .inl rfl
  refine .inr ?_
  rw [exec_cons]
  rcases stops_append hrest with hwork | ⟨ws₁, ws₂, rfl, hwork, hlast⟩
  · exact .inl (hwork.invariant hkeep (harm s))
  · rcases stops_once hlast with rfl | rfl
    · rw [List.append_nil]
      exact .inl (hwork.invariant hkeep (harm s))
    · exact .inr (completes_once_cons.mpr ⟨_, rfl,
        completes_append.mpr ⟨ws₁, _, rfl, hwork, completes_once.mpr rfl⟩⟩)

/-- A guarded program that made every write ran its work on the armed state. -/
theorem guarded_completes {arm disarm : ω}
    (h : Completes step (once arm :: (phs ++ [once disarm])) s ws) :
    ∃ ws', Completes step phs (step s arm) ws' ∧
      exec step s ws = step (exec step (step s arm) ws') disarm := by
  obtain ⟨ws', rfl, hrest⟩ := completes_once_cons.mp h
  obtain ⟨ws₁, ws₂, rfl, hwork, hlast⟩ := completes_append.mp hrest
  refine ⟨ws₁, hwork, ?_⟩
  rw [completes_once.mp hlast, exec_cons, exec_append]
  rfl

end Phased
