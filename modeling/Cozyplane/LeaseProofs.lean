import Mathlib

/-!
# Leases — expiring table entries that vouch for later passes

A gate keeps a table of leases. A pass under some TERM (the policy in force) writes a lease
for its own key, and may write one for other keys it opens; a lease lives for a fixed time
and counts only under the term it was written in. A pass is either a ROOT — decided on its own
merits — or it rests on a live lease.

A lease may expire earlier than its full life, never later.
-/

namespace Lease

variable {κ ρ : Type}

/-- A pass of the gate: its key, the term it was decided under, when, and whether it was
    decided on its own merits. -/
structure Pass (κ ρ : Type) where
  key : κ
  term : ρ
  time : Nat
  root : Bool
  deriving DecidableEq

/-- A stored lease. -/
structure Entry (ρ : Type) where
  term : ρ
  expires : Nat
  deriving DecidableEq

section

variable (opens : κ → κ → Prop) (life : Nat)

/-- The pass `b` speaks for key `k` under `term` at time `now`. -/
structure Vouches (b : Pass κ ρ) (k : κ) (term : ρ) (now : Nat) : Prop where
  term_eq : b.term = term
  before : b.time ≤ now
  recent : now < b.time + life
  opened : opens b.key k

/-- A chain of vouching passes down to a root; logs are newest first. -/
inductive Rooted : List (Pass κ ρ) → Pass κ ρ → Prop where
  | root {log : List (Pass κ ρ)} {a : Pass κ ρ} : a.root = true → Rooted log a
  | rests {newer log : List (Pass κ ρ)} {a b : Pass κ ρ} :
      Vouches opens life b a.key a.term a.time → Rooted log b → Rooted (newer ++ b :: log) a

/-- Some rooted pass of the log speaks for `k`. -/
def Backed (log : List (Pass κ ρ)) (k : κ) (term : ρ) (now : Nat) : Prop :=
  ∃ newer b older, log = newer ++ b :: older ∧ Vouches opens life b k term now ∧
    Rooted opens life older b

/-- A lease written by a rooted pass of the log. -/
def Traced (log : List (Pass κ ρ)) (k : κ) (e : Entry ρ) : Prop :=
  ∃ newer b older, log = newer ++ b :: older ∧ b.term = e.term ∧ e.expires ≤ b.time + life ∧
    opens b.key k ∧ Rooted opens life older b

def Sound (table : κ → Option (Entry ρ)) (log : List (Pass κ ρ)) : Prop :=
  ∀ k e, table k = some e → Traced opens life log k e

end

variable {opens : κ → κ → Prop} {life : Nat} {log : List (Pass κ ρ)}
  {table table' : κ → Option (Entry ρ)}

theorem Backed.rooted {a : Pass κ ρ} (h : Backed opens life log a.key a.term a.time) :
    Rooted opens life log a := by
  obtain ⟨newer, b, older, rfl, hvouch, hroot⟩ := h
  exact .rests hvouch hroot

theorem Traced.cons {k : κ} {e : Entry ρ} (h : Traced opens life log k e) (a : Pass κ ρ) :
    Traced opens life (a :: log) k e := by
  obtain ⟨newer, b, older, rfl, hrest⟩ := h
  exact ⟨a :: newer, b, older, rfl, hrest⟩

/-- Losing leases is harmless. -/
theorem Sound.drop (h : Sound opens life table log)
    (hsub : ∀ k e, table' k = some e → table k = some e) : Sound opens life table' log :=
  fun k e he => h k e (hsub k e he)

/-- **A ROOTED PASS MAY WRITE LEASES** for the keys it opens. -/
theorem Sound.grant (h : Sound opens life table log) {a : Pass κ ρ}
    (ha : Rooted opens life log a)
    (hnew : ∀ k e, table' k = some e → table k = some e ∨
      (e.term = a.term ∧ e.expires ≤ a.time + life ∧ opens a.key k)) :
    Sound opens life table' (a :: log) := by
  intro k e he
  rcases hnew k e he with hold | ⟨hterm, hexp, hopen⟩
  · exact (h k e hold).cons a
  · exact ⟨[], a, log, rfl, hterm.symm, hexp, hopen, ha⟩

/-- **A LIVE LEASE IS BACKED**, by a pass less than one life ago. -/
theorem Sound.backed (h : Sound opens life table log) {k : κ} {e : Entry ρ} {now : Nat}
    (hpast : ∀ b ∈ log, b.time ≤ now) (he : table k = some e) (hlive : now < e.expires) :
    Backed opens life log k e.term now := by
  obtain ⟨newer, b, older, rfl, hterm, hexp, hopen, hroot⟩ := h k e he
  have hbefore : b.time ≤ now := hpast b (by simp)
  exact ⟨newer, b, older, rfl, ⟨hterm, hbefore, by omega, hopen⟩, hroot⟩

end Lease
