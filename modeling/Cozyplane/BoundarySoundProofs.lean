import Cozyplane.RunProofs
import Cozyplane.LeaseProofs
import Cozyplane.ReceiveProofs

/-!
# The managed boundary is sound over whole runs

`boundary_gate` admits a packet between two VPCs by their rules, by a live flow entry, or
because it is an ICMP error about one. A flow entry is a LEASE: it counts under the two
policies it was written in, for thirty seconds, and an opening packet writes one for its
reply as well.

NETWORK 0 IS OUTSIDE: toward the default network no peer policy exists, and the gate leaves
inbound packets to the ingress gates (`northSouth_admitted`).
-/

namespace CozyBoundarySound

open PrefixTable CozyPacket CozyMaps
open CozyBoundary CozyFromPod Run Lease

variable {m : Maps} {f : Flows} {env : Env} {fr : Frame} {p : Pkt} {key0 key : BoundaryFlow}
  {r : Revisions}

/-- The key with its L4 part. -/
def withL4 (key0 : BoundaryFlow) (p : Pkt) (sport dport : U16) : BoundaryFlow :=
  { key0 with sport := sport, dport := dport, proto := p.proto }

/-- Both policies as one value. -/
def revisionsOf (loc peer : BoundaryPolicy) : Revisions :=
  ⟨loc.revision, peer.revision, loc.identity, peer.identity⟩

/-- A packet between two managed VPCs: its flow key and the policies in force. -/
def between (m : Maps) (fr : Frame) (p : Pkt) (key0 : BoundaryFlow) :
    Option (BoundaryFlow × Revisions) :=
  match m.boundaryPolicy key0.loc with
  | none => none
  | some loc =>
    if loc.revision = 0#64 ∨ key0.loc = key0.peer then none
    else
      match boundaryL4 fr p with
      | none => none
      | some (sport, dport) =>
        if key0.peer = 0#32 then none
        else
          match m.boundaryPolicy key0.peer with
          | none => none
          | some peer =>
            if peer.revision = 0#64 then none
            else some (withL4 key0 p sport dport, revisionsOf loc peer)

/-- What `between` found. -/
structure Between (m : Maps) (fr : Frame) (p : Pkt) (key0 key : BoundaryFlow)
    (r : Revisions) : Prop where
  policies : ∃ loc peer, m.boundaryPolicy key0.loc = some loc ∧
    m.boundaryPolicy key0.peer = some peer ∧ loc.revision ≠ 0#64 ∧ peer.revision ≠ 0#64 ∧
    r = revisionsOf loc peer
  l4 : ∃ sport dport, boundaryL4 fr p = some (sport, dport) ∧ key = withL4 key0 p sport dport

/-- **THE GATE REACHES THE FLOW TABLE BETWEEN TWO MANAGED VPCS ONLY**; without it, it admits only
    inside one VPC, toward network 0, or between unmanaged networks. -/
theorem boundaryGate_cases (m : Maps) (f : Flows) (env : Env) (fr : Frame) (p : Pkt)
    (key0 : BoundaryFlow) :
    (∃ key r, between m fr p key0 = some (key, r) ∧ Between m fr p key0 key r ∧
      boundaryGate m f env fr p key0 = gateBetween m f env fr p key r) ∨
    (between m fr p key0 = none ∧ (boundaryGate m f env fr p key0).1 = f ∧
      ((boundaryGate m f env fr p key0).2 = true → key0.loc = key0.peer ∨ key0.peer = 0#32 ∨
        (m.boundaryPolicy key0.loc = none ∧ m.boundaryPolicy key0.peer = none))) := by
  have hno : ∀ {q : Prop}, false = true → q := by rintro _ ⟨⟩
  unfold between boundaryGate
  cases hloc : m.boundaryPolicy key0.loc with
  | none =>
    cases hpeer : m.boundaryPolicy key0.peer with
    | none => exact .inr ⟨rfl, rfl, fun _ => .inr (.inr ⟨rfl, rfl⟩)⟩
    | some peer => exact .inr ⟨rfl, rfl, hno⟩
  | some loc =>
  simp only []
  by_cases hrev : loc.revision = 0#64
  · rw [if_pos hrev, if_pos (.inl hrev)]
    exact .inr ⟨rfl, rfl, hno⟩
  by_cases hsame : key0.loc = key0.peer
  · rw [if_neg hrev, if_pos hsame, if_pos (.inr hsame)]
    exact .inr ⟨rfl, rfl, fun _ => .inl hsame⟩
  rw [if_neg hrev, if_neg hsame, if_neg (not_or.mpr ⟨hrev, hsame⟩)]
  cases hl4 : boundaryL4 fr p with
  | none => exact .inr ⟨rfl, rfl, hno⟩
  | some ports =>
  obtain ⟨sport, dport⟩ := ports
  simp only []
  split
  · rename_i hns
    refine .inr ⟨rfl, ?_, fun _ => .inr (.inl hns)⟩
    repeat' split
    all_goals rfl
  cases hpeer : m.boundaryPolicy key0.peer with
  | none => exact .inr ⟨rfl, rfl, hno⟩
  | some peer =>
  simp only []
  split
  · exact .inr ⟨rfl, rfl, hno⟩
  rename_i hprev
  exact .inl ⟨_, _, rfl, ⟨⟨loc, peer, hloc, hpeer, hrev, hprev, rfl⟩, sport, dport, hl4, rfl⟩,
    rfl⟩

/-- A packet the rules of both current revisions admit on its own merits; for TCP a bare SYN. -/
def byRules (m : Maps) (fr : Frame) (key : BoundaryFlow) (r : Revisions) : Bool :=
  (key.proto != ipprotoTcp || bareSyn fr) && m.boundaryRules (localRule key r) &&
    m.boundaryRules (peerRule key r)

/-- One flow entry more. -/
def store (f : Flows) (k : BoundaryFlow) (v : BoundaryFlowValue) : Flows :=
  { f with boundaryCt := Function.update f.boundaryCt k (some v) }

/-- Everything `gate_between` can do: flow tables and verdict. -/
inductive GateCase (m : Maps) (f : Flows) (env : Env) (fr : Frame) (p : Pkt)
    (key : BoundaryFlow) (r : Revisions) : Flows × Bool → Prop where
  | malformed : errorKind key.proto p.isV6 key.dport ≠ .notError →
      GateCase m f env fr p key r (f, false)
  | error {q : BoundaryFlow} : errorKind key.proto p.isV6 key.dport = .quoting →
      quotedFlow fr p key = some q →
      GateCase m f env fr p key r (f, liveUnder (f.boundaryCt q) r env.now)
  | refresh : errorKind key.proto p.isV6 key.dport = .notError →
      liveUnder (f.boundaryCt key) r env.now = true →
      GateCase m f env fr p key r (store f key (flowValue r env.now), true)
  | refused : errorKind key.proto p.isV6 key.dport = .notError →
      GateCase m f env fr p key r (f, false)
  /-- the kernel took the flow and not its reply: the packet is dropped, the entry stays -/
  | half : errorKind key.proto p.isV6 key.dport = .notError → byRules m fr key r = true →
      GateCase m f env fr p key r (store f key (flowValue r env.now), false)
  | opened : errorKind key.proto p.isV6 key.dport = .notError → byRules m fr key r = true →
      replyFlow key = none →
      GateCase m f env fr p key r (store f key (flowValue r env.now), true)
  | paired {back : BoundaryFlow} : errorKind key.proto p.isV6 key.dport = .notError →
      byRules m fr key r = true → replyFlow key = some back →
      GateCase m f env fr p key r
        (store (store f key (flowValue r env.now)) back (flowValue r env.now), true)

/-- **THE GATE DOES NOTHING ELSE.** -/
theorem gateBetween_case (m : Maps) (f : Flows) (env : Env) (fr : Frame) (p : Pkt)
    (key : BoundaryFlow) (r : Revisions) :
    GateCase m f env fr p key r (gateBetween m f env fr p key r) := by
  unfold gateBetween
  cases hkind : errorKind key.proto p.isV6 key.dport with
  | malformed => exact .malformed (by rw [hkind]; decide)
  | quoting =>
    cases hq : quotedFlow fr p key with
    | none => exact .malformed (by rw [hkind]; decide)
    | some q => exact .error hkind hq
  | notError =>
    cases hlive : liveUnder (f.boundaryCt key) r env.now with
    | true => exact .refresh hkind hlive
    | false =>
    simp only [Bool.false_eq_true, if_false]
    split
    · exact .refused hkind
    rename_i htcp
    split
    · exact .refused hkind
    rename_i hrules
    have hby : byRules m fr key r = true := by
      unfold byRules
      simp only [Bool.or_eq_true, Bool.not_eq_true', not_or, Bool.not_eq_false] at hrules
      rw [hrules.1, hrules.2]
      by_cases hp : key.proto = ipprotoTcp
      · have hsyn : bareSyn fr = true := by
          cases h : bareSyn fr with
          | true => rfl
          | false => exact absurd ⟨hp, h⟩ htcp
        rw [hsyn]
        simp
      · simp [hp]
    unfold trackFlow
    cases env.flowStored with
    | false => exact .refused hkind
    | true =>
      cases hback : replyFlow key with
      | none => exact .opened hkind hby hback
      | some back =>
        cases env.replyStored with
        | false => exact .half hkind hby
        | true => exact .paired hkind hby hback

/-- The flow entries a pass may write: its own and its reply's. -/
def Opens (a k : BoundaryFlow) : Prop := a = k ∨ replyFlow a = some k

variable {s : GateNode} {k : BoundaryFlow}

theorem store_boundaryCt {k' : BoundaryFlow} {v v' : BoundaryFlowValue}
    (h : (store f k v).boundaryCt k' = some v') :
    f.boundaryCt k' = some v' ∨ (k = k' ∧ v = v') := by
  by_cases hk : k = k'
  · subst hk
    rw [show (store f k v).boundaryCt k = some v from Function.update_self ..] at h
    exact .inr ⟨rfl, Option.some.inj h⟩
  · rw [show (store f k v).boundaryCt k' = f.boundaryCt k' from
      Function.update_of_ne (Ne.symm hk) ..] at h
    exact .inl h

/-- **WHAT IT WRITES**: entries of this moment under the policies in force, for the packet's flow or
    its reply, when rules or a live entry let it pass. -/
theorem gateBetween_writes {v : BoundaryFlowValue}
    (h : (gateBetween m f env fr p key r).1.boundaryCt k = some v) :
    f.boundaryCt k = some v ∨
      (v = flowValue r env.now ∧ Opens key k ∧
        errorKind key.proto p.isV6 key.dport = .notError ∧
        (byRules m fr key r = true ∨ ((gateBetween m f env fr p key r).2 = true ∧
          liveUnder (f.boundaryCt key) r env.now = true))) := by
  have hcase := gateBetween_case m f env fr p key r
  generalize gateBetween m f env fr p key r = out at h hcase
  cases hcase with
  | malformed hkind | error hkind hq | refused hkind => exact .inl h
  | refresh hkind hlive =>
    rcases store_boundaryCt h with hold | ⟨rfl, rfl⟩
    · exact .inl hold
    · exact .inr ⟨rfl, .inl rfl, hkind, .inr ⟨rfl, hlive⟩⟩
  | half hkind hby | opened hkind hby hback =>
    rcases store_boundaryCt h with hold | ⟨rfl, rfl⟩
    · exact .inl hold
    · exact .inr ⟨rfl, .inl rfl, hkind, .inl hby⟩
  | paired hkind hby hback =>
    rcases store_boundaryCt h with hold | ⟨rfl, rfl⟩
    · rcases store_boundaryCt hold with hold | ⟨rfl, rfl⟩
      · exact .inl hold
      · exact .inr ⟨rfl, .inl rfl, hkind, .inl hby⟩
    · exact .inr ⟨rfl, .inr hback, hkind, .inl hby⟩

/-- **WHAT IT ADMITS**: by rules, by a live entry, or an error about a live entry. -/
theorem gateBetween_admits (h : (gateBetween m f env fr p key r).2 = true) :
    (errorKind key.proto p.isV6 key.dport = .notError ∧
      (byRules m fr key r = true ∨ liveUnder (f.boundaryCt key) r env.now = true)) ∨
    (errorKind key.proto p.isV6 key.dport = .quoting ∧
      ∃ q, quotedFlow fr p key = some q ∧ liveUnder (f.boundaryCt q) r env.now = true) := by
  have hcase := gateBetween_case m f env fr p key r
  generalize gateBetween m f env fr p key r = out at h hcase
  cases hcase with
  | malformed hkind => nomatch h
  | error hkind hq => exact .inr ⟨hkind, _, hq, h⟩
  | refused hkind => nomatch h
  | refresh hkind hlive => exact .inl ⟨hkind, .inr hlive⟩
  | half hkind hby => nomatch h
  | opened hkind hby hback | paired hkind hby hback => exact .inl ⟨hkind, .inl hby⟩

theorem quotedFlow_spec {q : BoundaryFlow} (h : quotedFlow fr p key = some q) :
    q.src = p.dst ∧ q.hook = !key.hook ∧ q.loc = key.loc ∧ q.peer = key.peer := by
  unfold quotedFlow at h
  cases hhdr : quotedHeader p.isV6 fr.l4 with
  | none => rw [hhdr] at h; nomatch h
  | some hdr =>
  rw [hhdr] at h
  simp only [] at h
  split at h
  · nomatch h
  rename_i hsrc
  split at h
  · nomatch h
  cases h
  exact ⟨not_not.mp hsrc, rfl, rfl, rfl⟩

-- ── a node and its passes

/-- Thirty seconds in nanoseconds. -/
def lifeNs : Nat := flowLifetime.toNat

/-- The flow tables, the passes so far (newest first) and the time of the last packet. -/
structure GateNode where
  flows : Flows
  log : List (Pass BoundaryFlow Revisions)
  clock : U64

/-- A non-error packet between two managed VPCs that the gate admitted, or that rules of both
    admit. -/
def passOf (m : Maps) (f : Flows) (env : Env) (fr : Frame) (p : Pkt) (key0 : BoundaryFlow) :
    Option (Pass BoundaryFlow Revisions) :=
  match between m fr p key0 with
  | none => none
  | some (key, r) =>
    if errorKind key.proto p.isV6 key.dport = .notError ∧
        ((boundaryGate m f env fr p key0).2 = true ∨ byRules m fr key r = true) then
      some ⟨key, r, env.now.toNat, byRules m fr key r⟩
    else none

/-- A packet at a hook of a pod of `loc`, its other end in `peer`; or anything that writes no flow
    entry. -/
inductive Event where
  | packet (m : Maps) (env : Env) (fr : Frame) (loc peer : U32) (hook : Bool)
  | other (f : Flows)

def step (s : GateNode) : Event → GateNode
  | .packet m env fr loc peer hook =>
    match parseIp fr with
    | none => s
    | some p =>
      let key0 := boundaryKey loc peer p hook
      ⟨(boundaryGate m s.flows env fr p key0).1,
        (passOf m s.flows env fr p key0).toList ++ s.log, env.now⟩
  | .other f => { s with flows := f }

/-- The clock is monotone; nobody else makes flow entries. -/
def Lawful (s : GateNode) : Event → Prop
  | .packet _ env _ _ _ _ => s.clock ≤ env.now
  | .other f => ∀ k v, f.boundaryCt k = some v → s.flows.boundaryCt k = some v

/-- A node that has tracked nothing yet. -/
def Fresh (s : GateNode) : Prop := s.log = [] ∧ ∀ k, s.flows.boundaryCt k = none

def leases (f : Flows) (k : BoundaryFlow) : Option (Entry Revisions) :=
  (f.boundaryCt k).map fun v => ⟨BoundaryFlowValue.revs v, v.expires.toNat⟩

/-- Leases are traced to rooted passes, and passes are past. -/
structure Inv (s : GateNode) : Prop where
  sound : Sound Opens lifeNs (leases s.flows) s.log
  past : ∀ b ∈ s.log, b.time ≤ s.clock.toNat

theorem leases_eq_some {e : Entry Revisions} (h : leases f k = some e) :
    ∃ v, f.boundaryCt k = some v ∧ e = ⟨BoundaryFlowValue.revs v, v.expires.toNat⟩ := by
  obtain ⟨v, hv, rfl⟩ := Option.map_eq_some_iff.mp h
  exact ⟨v, hv, rfl⟩

theorem liveUnder_lease {now : U64} (h : liveUnder (f.boundaryCt k) r now = true) :
    ∃ e, leases f k = some e ∧ e.term = r ∧ now.toNat < e.expires := by
  unfold liveUnder at h
  cases hv : f.boundaryCt k with
  | none =>
    rw [hv] at h
    cases h
  | some v =>
    rw [hv] at h
    simp only [Bool.and_eq_true, beq_iff_eq, decide_eq_true_eq] at h
    refine ⟨⟨BoundaryFlowValue.revs v, v.expires.toNat⟩, ?_, h.1, BitVec.lt_def.mp h.2⟩
    unfold leases
    rw [hv]
    rfl

/-- A new entry lives for thirty seconds at most: the addition may wrap, downwards only. -/
theorem flowValue_expires (r : Revisions) (now : U64) :
    (flowValue r now).expires.toNat ≤ now.toNat + lifeNs := by
  show (now + flowLifetime).toNat ≤ now.toNat + flowLifetime.toNat
  rw [BitVec.toNat_add]
  exact Nat.mod_le _ _

/-- **A LIVE ENTRY IS BACKED** by a rooted pass less than thirty seconds ago. -/
theorem Inv.backed (hinv : Inv s) {now : U64} (hclock : s.clock ≤ now)
    (h : liveUnder (s.flows.boundaryCt k) r now = true) :
    Backed Opens lifeNs s.log k r now.toNat := by
  obtain ⟨e, he, rfl, hlive⟩ := liveUnder_lease h
  have hpast : ∀ b ∈ s.log, b.time ≤ now.toNat := fun b hb =>
    Nat.le_trans (hinv.past b hb) (BitVec.le_def.mp hclock)
  exact hinv.sound.backed hpast he hlive

/-- A recorded pass is rooted: rules admit it, or the entry that let it pass is backed. -/
theorem Inv.rooted (hinv : Inv s) (hclock : s.clock ≤ env.now)
    (hpass : byRules m fr key r = true ∨ liveUnder (s.flows.boundaryCt key) r env.now = true) :
    Rooted Opens lifeNs s.log ⟨key, r, env.now.toNat, byRules m fr key r⟩ := by
  rcases hpass with hby | hlive
  · exact .root hby
  · exact Backed.rooted (hinv.backed hclock hlive)

theorem leases_gateBetween {e : Entry Revisions}
    (h : leases (gateBetween m f env fr p key r).1 k = some e) :
    leases f k = some e ∨
      ((e.term = r ∧ e.expires ≤ env.now.toNat + lifeNs ∧ Opens key k) ∧
        errorKind key.proto p.isV6 key.dport = .notError ∧
        (byRules m fr key r = true ∨ ((gateBetween m f env fr p key r).2 = true ∧
          liveUnder (f.boundaryCt key) r env.now = true))) := by
  obtain ⟨v, hv, rfl⟩ := leases_eq_some h
  rcases gateBetween_writes hv with hold | ⟨rfl, hopen, hkind, hpass⟩
  · refine .inl ?_
    unfold leases
    rw [hold]
    rfl
  · exact .inr ⟨⟨rfl, flowValue_expires r env.now, hopen⟩, hkind, hpass⟩

/-- **ONE PACKET KEEPS THE INVARIANT.** -/
theorem packet_inv (hinv : Inv s) (hclock : s.clock ≤ env.now) (m : Maps) (fr : Frame) (p : Pkt)
    (key0 : BoundaryFlow) :
    Inv ⟨(boundaryGate m s.flows env fr p key0).1,
      (passOf m s.flows env fr p key0).toList ++ s.log, env.now⟩ := by
  have hold : ∀ b ∈ s.log, b.time ≤ env.now.toNat := fun b hb =>
    Nat.le_trans (hinv.past b hb) (BitVec.le_def.mp hclock)
  rcases boundaryGate_cases m s.flows env fr p key0 with ⟨key, r, hbtw, _, heq⟩ | ⟨hbtw, hf, _⟩
  · unfold passOf
    rw [hbtw, heq]
    simp only []
    by_cases hrec : errorKind key.proto p.isV6 key.dport = .notError ∧
        ((gateBetween m s.flows env fr p key r).2 = true ∨ byRules m fr key r = true)
    · rw [if_pos hrec]
      refine ⟨?_, fun b hb => ?_⟩
      · have hpass : byRules m fr key r = true ∨
            liveUnder (s.flows.boundaryCt key) r env.now = true := by
          rcases hrec.2 with hadm | hby
          · rcases gateBetween_admits hadm with ⟨_, hwhy⟩ | ⟨hquote, _⟩
            · exact hwhy
            · rw [hrec.1] at hquote
              nomatch hquote
          · exact .inl hby
        refine hinv.sound.grant (hinv.rooted hclock hpass) fun k e he => ?_
        rcases leases_gateBetween he with hkept | ⟨hnew, _⟩
        · exact .inl hkept
        · exact .inr hnew
      · rcases List.mem_cons.mp hb with rfl | hb
        · exact Nat.le_refl _
        · exact hold b hb
    · -- nothing passed, so nothing was written
      rw [if_neg hrec]
      refine ⟨hinv.sound.drop fun k e he => ?_, hold⟩
      rcases leases_gateBetween he with hkept | ⟨_, hkind, hpass⟩
      · exact hkept
      · refine absurd ⟨hkind, ?_⟩ hrec
        rcases hpass with hby | ⟨hadm, _⟩
        · exact .inr hby
        · exact .inl hadm
  · unfold passOf
    rw [hbtw, hf]
    exact ⟨hinv.sound, hold⟩

theorem step_inv {e : Event} (hinv : Inv s) (hlaw : Lawful s e) :
    Inv (step s e) := by
  cases e with
  | packet m env fr loc peer hook =>
    simp only [step]
    cases parseIp fr with
    | none => exact hinv
    | some p => exact packet_inv hinv hlaw m fr p (boundaryKey loc peer p hook)
  | other f =>
    refine ⟨hinv.sound.drop fun k e he => ?_, hinv.past⟩
    obtain ⟨v, hv, rfl⟩ := leases_eq_some he
    unfold leases
    rw [hlaw k v hv]
    rfl

theorem fresh_inv (h : Fresh s) : Inv s := by
  refine ⟨fun k e he => ?_, fun b hb => ?_⟩
  · obtain ⟨v, hv, rfl⟩ := leases_eq_some he
    rw [h.2 k] at hv
    nomatch hv
  · rw [h.1] at hb
    nomatch hb

/-- Why a packet between two managed VPCs may pass: rules of both, a chain of passes of its flow
    that starts with such a packet, or an error about one so tracked at the opposite hook. -/
def Justified (s : GateNode) (m : Maps) (env : Env) (fr : Frame) (p : Pkt)
    (key : BoundaryFlow) (r : Revisions) : Prop :=
  (errorKind key.proto p.isV6 key.dport = .notError ∧
    (byRules m fr key r = true ∨ Backed Opens lifeNs s.log key r env.now.toNat)) ∨
  (errorKind key.proto p.isV6 key.dport = .quoting ∧
    ∃ q, quotedFlow fr p key = some q ∧ q.src = p.dst ∧ q.hook = (!key.hook) ∧
      q.loc = key.loc ∧ q.peer = key.peer ∧
      liveUnder (s.flows.boundaryCt q) r env.now = true ∧
      Backed Opens lifeNs s.log q r env.now.toNat)

/-- **MANAGED BOUNDARIES ARE SOUND.** After any run, a packet admitted between two VPCs of which one
    is managed finds both managed under non-zero revisions, and is justified under them. -/
theorem boundary_sound {s : GateNode} (hrun : Reaches step Lawful Fresh s) (m : Maps)
    (env : Env) (fr : Frame) (p : Pkt) (loc peer : U32) (hook : Bool)
    (hclock : s.clock ≤ env.now) (hne : loc ≠ peer) (hvpc : peer ≠ 0#32)
    (hmanaged : (m.boundaryPolicy loc).isSome = true ∨ (m.boundaryPolicy peer).isSome = true)
    (hadm : (boundaryGate m s.flows env fr p (boundaryKey loc peer p hook)).2 = true) :
    ∃ lp pp sport dport, m.boundaryPolicy loc = some lp ∧ m.boundaryPolicy peer = some pp ∧
      lp.revision ≠ 0#64 ∧ pp.revision ≠ 0#64 ∧ boundaryL4 fr p = some (sport, dport) ∧
      Justified s m env fr p (withL4 (boundaryKey loc peer p hook) p sport dport)
        (revisionsOf lp pp) := by
  have hinv : Inv s := hrun.invariant (fun _ => fresh_inv) fun _ _ => step_inv
  rcases boundaryGate_cases m s.flows env fr p (boundaryKey loc peer p hook) with
    ⟨key, r, _, hbtw, heq⟩ | ⟨_, _, hwhy⟩
  · obtain ⟨⟨lp, pp, hlp, hpp, hlr, hpr, rfl⟩, sport, dport, hl4, rfl⟩ := hbtw
    refine ⟨lp, pp, sport, dport, hlp, hpp, hlr, hpr, hl4, ?_⟩
    rw [heq] at hadm
    rcases gateBetween_admits hadm with ⟨hkind, hby | hlive⟩ | ⟨hkind, q, hq, hlive⟩
    · exact .inl ⟨hkind, .inl hby⟩
    · exact .inl ⟨hkind, .inr (hinv.backed hclock hlive)⟩
    · obtain ⟨hsrc, hhook, hqloc, hqpeer⟩ := quotedFlow_spec hq
      exact .inr ⟨hkind, q, hq, hsrc, hhook, hqloc, hqpeer, hlive, hinv.backed hclock hlive⟩
  · rcases hwhy hadm with hsame | hzero | ⟨hnl, hnp⟩
    · exact absurd hsame hne
    · exact absurd hzero hvpc
    · rcases hmanaged with hl | hpeer
      · rw [show m.boundaryPolicy loc = none from hnl] at hl
        nomatch hl
      · rw [show m.boundaryPolicy peer = none from hnp] at hpeer
        nomatch hpeer

/-- VPC 100 and VPC 200 are managed at revision 1; each has the rule that lets 100 reach 200's TCP
    port 80. -/
def managedPair : Maps := { Maps.empty with
  boundaryPolicy := fun n =>
    if n = 100#32 then some ⟨1#64, 7#64, false⟩
    else if n = 200#32 then some ⟨1#64, 8#64, false⟩
    else none
  boundaryRules := fun k =>
    k = ⟨1#64, 100#32, 200#32, 80#16, ipprotoTcp, false⟩ ∨
      k = ⟨1#64, 200#32, 100#32, 80#16, ipprotoTcp, true⟩ }

/-- 10.1.0.5:12345 to 10.2.0.5:80 with the given TCP flags. -/
def segment (flags : U8) : Frame :=
  .ip4 ⟨4#4, 5#4, 0#16, ipprotoTcp, 0x0a010005#32, 0x0a020005#32⟩
    [0x30#8, 0x39#8, 0#8, 80#8, 0#8, 0#8, 0#8, 0#8, 0#8, 0#8, 0#8, 0#8, 0x50#8, flags,
      0#8, 0#8, 0#8, 0#8, 0#8, 0#8]

def segmentPkt : Pkt := ⟨false, ipprotoTcp, v4To128 0x0a010005#32, v4To128 0x0a020005#32⟩

def quietNode : GateNode := ⟨Flows.empty, [], 0#64⟩

theorem quietNode_fresh : Fresh quietNode := ⟨rfl, fun _ => rfl⟩

/-- The node after a SYN from VPC 100, with the kernel taking the reply entry or not. -/
def afterSyn (replyStored : Bool) : GateNode :=
  step quietNode (.packet managedPair ⟨1#64, 0#32, true, replyStored⟩ (segment 0x02#8) 100#32
    200#32 false)

theorem afterSyn_reached : Reaches step Lawful Fresh (afterSyn true) :=
  .next (.start quietNode_fresh) (show (0#64 : U64) ≤ 1#64 by decide)

theorem boundary_sound_ack :
    ∃ lp pp sport dport, managedPair.boundaryPolicy 100#32 = some lp ∧
      managedPair.boundaryPolicy 200#32 = some pp ∧ lp.revision ≠ 0#64 ∧ pp.revision ≠ 0#64 ∧
      boundaryL4 (segment 0x10#8) segmentPkt = some (sport, dport) ∧
      Justified (afterSyn true) managedPair ⟨1000000001#64, 0#32, true, true⟩ (segment 0x10#8)
        segmentPkt (withL4 (boundaryKey 100#32 200#32 segmentPkt false) segmentPkt sport dport)
        (revisionsOf lp pp) :=
  boundary_sound afterSyn_reached managedPair ⟨1000000001#64, 0#32, true, true⟩
    (segment 0x10#8) segmentPkt 100#32 200#32 false
    (show (1#64 : U64) ≤ 1000000001#64 by decide) (by decide) (by decide) (.inl rfl)
    (by decide +kernel)

/-- **TOWARD NETWORK 0 NO PEER POLICY IS ASKED FOR** at the `to_pod` hook. And an opening packet
    dropped for want of room for its reply entry lets the next one pass, which is no SYN. -/
theorem northSouth_admitted :
    (boundaryGate managedPair Flows.empty ⟨1#64, 0#32, true, true⟩ (segment 0x02#8) segmentPkt
      (boundaryKey 200#32 0#32 segmentPkt true)).2 = true ∧
    (managedPair.boundaryPolicy 200#32).isSome = true ∧
    managedPair.boundaryPolicy 0#32 = none ∧
    (boundaryGate managedPair quietNode.flows ⟨1#64, 0#32, true, false⟩ (segment 0x02#8)
      segmentPkt (boundaryKey 100#32 200#32 segmentPkt false)).2 = false ∧
    (boundaryGate managedPair (afterSyn false).flows ⟨1000000001#64, 0#32, true, true⟩
      (segment 0x10#8) segmentPkt (boundaryKey 100#32 200#32 segmentPkt false)).2 = true ∧
    (∀ key r, byRules managedPair (segment 0x10#8) (withL4 key segmentPkt 12345#16 80#16) r =
      false) := by
  refine ⟨by decide +kernel, rfl, rfl, by decide +kernel, by decide +kernel, fun key r => rfl⟩

end CozyBoundarySound
