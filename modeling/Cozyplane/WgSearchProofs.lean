import Cozyplane.CidrOverlapProofs
import Cozyplane.WgStateProofs

/-!
# WireGuard client addresses — the search is complete

`nextWGClientAddress` walks a prefix from its second address and gives up after two candidates
more than there are used addresses. Every candidate it passes over is a used one, a new one each
time, so it never gives up before the end of the prefix.
-/

namespace CozyWgSearch

open CozyCidr CozyCidrOverlap CozyWgState
open CozyVniAlloc (Err)

/-- An address of the prefix that may be leased: not the first and, in IPv4, not the last. -/
def Leasable (p : NetPrefix) (ip : Ip) : Prop :=
  p.contains ip = true ∧ (∃ a, p.contains a = true ∧ a.rank < ip.rank) ∧
    (ip.isV4 = true → ∃ b, p.contains b = true ∧ ip.rank < b.rank)

theorem rank_inj {a b : Ip} (h : a.rank = b.rank) : a = b := by
  cases a with
  | v4 a =>
    cases b with
    | v4 b => exact congrArg Ip.v4 (BitVec.eq_of_toNat_eq h)
    | v6 b => exact absurd h (Nat.ne_of_lt (Nat.lt_of_lt_of_le (rank_v4_lt a) (rank_v6_ge b)))
  | v6 a =>
    cases b with
    | v4 b => exact absurd h.symm (Nat.ne_of_lt (Nat.lt_of_lt_of_le (rank_v4_lt b) (rank_v6_ge a)))
    | v6 b => exact congrArg Ip.v6 (BitVec.eq_of_toNat_eq (Nat.add_left_cancel h))

/-- The next address has the next rank; only the last address of a family has none. -/
theorem next_cases (a : Ip) :
    (∃ a', a.next = some a' ∧ a'.isV4 = a.isV4 ∧ a'.rank = a.rank + 1) ∨
      (a.next = none ∧ ∀ b : Ip, b.isV4 = a.isV4 → b.rank ≤ a.rank) := by
  cases a with
  | v4 x =>
    by_cases hend : x + 1 = 0
    · refine .inr ⟨if_pos hend, fun b hb => ?_⟩
      cases b with
      | v4 y =>
        show y.toNat ≤ x.toNat
        bv_omega
      | v6 y => nomatch hb
    · refine .inl ⟨_, if_neg hend, rfl, ?_⟩
      show (x + 1).toNat = x.toNat + 1
      bv_omega
  | v6 x =>
    by_cases hend : x + 1 = 0
    · refine .inr ⟨if_pos hend, fun b hb => ?_⟩
      cases b with
      | v4 y => nomatch hb
      | v6 y =>
        show 2 ^ 32 + y.toNat ≤ 2 ^ 32 + x.toNat
        bv_omega
    · refine .inl ⟨_, if_neg hend, rfl, ?_⟩
      show 2 ^ 32 + (x + 1).toNat = 2 ^ 32 + x.toNat + 1
      bv_omega

theorem next_of_lt {a b : Ip} (hfam : b.isV4 = a.isV4) (hlt : a.rank < b.rank) :
    ∃ a', a.next = some a' ∧ a'.isV4 = a.isV4 ∧ a'.rank = a.rank + 1 := by
  rcases next_cases a with h | ⟨-, hlast⟩
  · exact h
  · exact absurd hlt (Nat.not_lt.mpr (hlast b hfam))

theorem contains_isV4 {p : NetPrefix} {a : Ip} (h : p.contains a = true) : a.isV4 = p.isV4 := by
  cases p with
  | v4 x n =>
    cases a with
    | v4 y => rfl
    | v6 y => nomatch h
  | v6 x n =>
    cases a with
    | v4 y => nomatch h
    | v6 y => rfl

theorem contains_iff_rank (p : NetPrefix) (s : Ip) :
    p.contains s = true ↔ first p.masked ≤ s.rank ∧ s.rank ≤ last p.masked := by
  rw [← masked_contains]
  refine contains_iff ?_ s
  cases p with
  | v4 a n | v6 a n => exact dvd_shift _ a

variable {X : Env} {p : NetPrefix} {used : List String}

/-- The walk at `addr`, after the addresses `seen`: these are used and behind it, and what is
    free lies ahead. -/
structure Cursor (X : Env) (p : NetPrefix) (used : List String) (addr : Option Ip)
    (seen : List String) : Prop where
  nodup : seen.Nodup
  taken : seen ⊆ used
  behind : ∀ u ∈ seen, ∃ ip, u = X.addrString ip ∧ ∀ a, addr = some a → ip.rank < a.rank
  inside : ∀ a, addr = some a → ∃ b, p.contains b = true ∧ b.isV4 = a.isV4 ∧ b.rank < a.rank
  ahead : ∀ ip, Leasable p ip → X.addrString ip ∉ used → ∃ a, addr = some a ∧ a.rank ≤ ip.rank

theorem Cursor.start : Cursor X p used p.masked.addr.next [] := by
  have hmem : p.contains p.masked.addr = true := by
    rw [← masked_contains]
    exact contains_addr _
  refine ⟨List.nodup_nil, List.nil_subset _, by simp, fun a ha => ?_, ?_⟩
  · rcases next_cases p.masked.addr with ⟨a', ha', hfam, hrank⟩ | ⟨hnone, -⟩
    · cases ha.symm.trans ha'
      exact ⟨_, hmem, hfam.symm, by omega⟩
    · nomatch ha.symm.trans hnone
  · rintro ip ⟨hin, ⟨b, hb, hlt⟩, -⟩ -
    have hlow : p.masked.addr.rank ≤ b.rank := ((contains_iff_rank p b).mp hb).1
    obtain ⟨a, ha, -, hrank⟩ := next_of_lt ((contains_isV4 hin).trans (contains_isV4 hmem).symm)
      (Nat.lt_of_le_of_lt hlow hlt)
    exact ⟨a, ha, by omega⟩

theorem Cursor.step {addr : Ip} {seen : List String} (h : Cursor X p used (some addr) seen)
    (hin : p.contains addr = true) (huse : X.addrString addr ∈ used) :
    Cursor X p used addr.next (X.addrString addr :: seen) := by
  have hinj : ∀ ip : Ip, X.addrString addr = X.addrString ip → addr = ip := by
    intro ip heq
    have hparse := X.parseAddr_addrString addr
    rw [heq, X.parseAddr_addrString] at hparse
    exact (Option.some.inj hparse).symm
  have hnext : ∀ a, addr.next = some a → a.isV4 = addr.isV4 ∧ a.rank = addr.rank + 1 := by
    intro a ha
    rcases next_cases addr with ⟨a', ha', hspec⟩ | ⟨hnone, -⟩
    · cases ha.symm.trans ha'
      exact hspec
    · nomatch ha.symm.trans hnone
  refine ⟨List.nodup_cons.mpr ⟨fun hmem => ?_, h.nodup⟩, List.cons_subset.mpr ⟨huse, h.taken⟩, ?_, ?_, ?_⟩
  · obtain ⟨ip, heq, hlt⟩ := h.behind _ hmem
    cases hinj ip heq
    exact Nat.lt_irrefl _ (hlt addr rfl)
  · intro u hu
    rcases List.mem_cons.mp hu with rfl | hu
    · exact ⟨addr, rfl, fun a ha => by rw [(hnext a ha).2]; exact Nat.lt_succ_self _⟩
    · obtain ⟨ip, rfl, hlt⟩ := h.behind u hu
      have hlt := hlt addr rfl
      exact ⟨ip, rfl, fun a ha => by rw [(hnext a ha).2]; omega⟩
  · intro a ha
    obtain ⟨hfam, hrank⟩ := hnext a ha
    exact ⟨addr, hin, hfam.symm, by omega⟩
  · intro ip hl hfree
    obtain ⟨a, ha, hle⟩ := h.ahead ip hl hfree
    cases ha
    have hlt : addr.rank < ip.rank := Nat.lt_of_le_of_ne hle fun heq =>
      hfree (rank_inj heq ▸ huse)
    obtain ⟨a, ha, -, hrank⟩ := next_of_lt ((contains_isV4 hl.1).trans (contains_isV4 hin).symm) hlt
    exact ⟨a, ha, by omega⟩

/-- The answer of the search: the lowest free address, or an error if there is none. -/
def Lowest (X : Env) (p : NetPrefix) (used : List String) : Except Err String → Prop
  | .ok u => ∃ ip, u = X.addrString ip ∧ Leasable p ip ∧ u ∉ used ∧
      ∀ ip', Leasable p ip' → X.addrString ip' ∉ used → ip.rank ≤ ip'.rank
  | .error _ => ∀ ip, Leasable p ip → X.addrString ip ∈ used

/-- An error is right when nothing free is left ahead. -/
theorem Cursor.exhausted {addr : Option Ip} {seen : List String} (h : Cursor X p used addr seen)
    (hno : ∀ a, addr = some a → ∀ ip, Leasable p ip → ¬ a.rank ≤ ip.rank) (e : Err) :
    Lowest X p used (.error e) := by
  intro ip hl
  by_contra hfree
  obtain ⟨a, ha, hle⟩ := h.ahead ip hl hfree
  exact hno a ha ip hl hle

/-- Induction on the attempts left, which outnumber the used addresses not seen. -/
theorem searchAddress_lowest {n : Nat} {addr : Option Ip} {seen : List String}
    (h : Cursor X p used addr seen) (hn : used.length < seen.length + n) :
    Lowest X p used (searchAddress X p used n addr) := by
  induction n generalizing addr seen with
  | zero => exact absurd (h.nodup.subperm h.taken).length_le (Nat.not_le.mpr hn)
  | succ n ih =>
    cases addr with
    | none => exact h.exhausted (by simp) _
    | some addr =>
      obtain ⟨b, hb, hfam, hlt⟩ := h.inside addr rfl
      -- between two addresses of the prefix there is no gap
      have hgap : ∀ {a c : Ip}, b.rank < a.rank → p.contains c = true → a.rank ≤ c.rank →
          p.contains a = true := by
        intro a c hba hc hac
        rw [contains_iff_rank] at hb hc ⊢
        omega
      unfold searchAddress
      split
      · rename_i hout
        refine h.exhausted (fun a ha ip hl hle => ?_) _
        cases ha
        rw [hgap hlt hl.1 hle] at hout
        cases hout
      rename_i hin
      have hin := Bool.eq_true_of_not_eq_false hin
      split
      · rename_i hlast
        refine h.exhausted (fun a ha ip hl hle => ?_) _
        cases ha
        have hv4 : ip.isV4 = true := by rw [contains_isV4 hl.1, ← contains_isV4 hin, hlast.1]
        obtain ⟨c, hc, hbelow⟩ := hl.2.2 hv4
        obtain ⟨a, ha, -, hrank⟩ := next_of_lt ((contains_isV4 hc).trans (contains_isV4 hin).symm)
          (Nat.lt_of_le_of_lt hle hbelow)
        have hmem : p.contains a = true := hgap (by omega) hc (by omega)
        obtain ⟨-, hnone⟩ := hlast
        rw [ha, Option.any_some, hmem] at hnone
        cases hnone
      rename_i hmore
      split
      · rename_i hfree
        refine ⟨addr, rfl, ⟨hin, ⟨b, hb, hlt⟩, fun hv4 => ?_⟩, hfree, fun ip hl hip => ?_⟩
        · rcases next_cases addr with ⟨a, ha, -, hrank⟩ | ⟨hnone, -⟩
          · rw [ha, Option.any_some] at hmore
            exact ⟨a, Bool.eq_true_of_not_eq_false fun hno => hmore ⟨hv4, hno⟩, by omega⟩
          · rw [hnone] at hmore
            exact absurd ⟨hv4, rfl⟩ hmore
        · obtain ⟨a, ha, hle⟩ := h.ahead ip hl hip
          cases ha
          exact hle
      · rename_i huse
        refine ih (h.step hin (not_not.mp huse)) ?_
        rw [List.length_cons]
        omega

/-- **THE SEARCH IS COMPLETE** within `len(used) + 2` candidates. -/
theorem nextWGClientAddress_lowest (X : Env) (p : NetPrefix) (used : List String) :
    Lowest X p used (nextWGClientAddress X (some p) used) :=
  searchAddress_lowest .start (by simp)

end CozyWgSearch
