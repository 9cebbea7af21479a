import Cozyplane.NetworkPolicyProofs

/-!
# Malformed policy entries — what a skipped entry lets through

The compiler skips what does not parse: a port entry, an ipBlock, an exception. Skipping one that
grants admits less. Skipping an exception does not: its deny row is missing. Neither does skipping
an ipBlock or a port always: the deny rows of its exceptions masked ranges of other blocks too.
-/

namespace CozyNpMalformed

open RangePolicy CozyPacket CozyMaps CozyDatapath CozyPolicy
open CozyNpCompile CozyNpSync CozyNp
open CozyCidr (IPNet cidrRange)

/-- Two lists that differ at one place. -/
def OneAt {α : Type} (R : α → α → Prop) (xs ys : List α) : Prop :=
  ∃ before x y after, xs = before ++ x :: after ∧ ys = before ++ y :: after ∧ R x y

section Entries

variable (P : Platform)

def BadText (t t' : String) : Prop := (P.parseCIDR t).isSome = true ∧ P.parseCIDR t' = none

def BadBlock (b b' : IPBlock) : Prop :=
  (BadText P b.cidr b'.cidr ∧ b'.except = b.except) ∨
    (b'.cidr = b.cidr ∧ OneAt (BadText P) b.except b'.except)

def BadPeer (p p' : Peer) : Prop :=
  ∃ b b', p.ipBlock = some b ∧ p' = { p with ipBlock := some b' } ∧ BadBlock P b b'

/-- A port entry: one that is served, and one that is not. -/
def BadPort (p p' : PolicyPort) : Prop := (npCompilePort p).isSome = true ∧ npCompilePort p' = none

def BadRule (r r' : Rule) : Prop :=
  (OneAt BadPort r.ports r'.ports ∧ r'.peers = r.peers) ∨
    (r'.ports = r.ports ∧ OneAt (BadPeer P) r.peers r'.peers)

/-- A policy and the same one with one of its rules replaced. -/
def Changed (R : Rule → Rule → Prop) (np np' : NetworkPolicy) : Prop :=
  (∃ rs, np' = { np with ingress := rs } ∧ OneAt R np.ingress rs) ∨
    ∃ rs rs', np.egress = some rs ∧ np' = { np with egress := some rs' } ∧ OneAt R rs rs'

/-- One entry of the policy does not parse. -/
def Malformed : NetworkPolicy → NetworkPolicy → Prop := Changed (BadRule P)

end Entries

section Replaced

variable {α : Type} {R : α → α → Prop} {xs ys : List α}

theorem OneAt.exists {Q : α → Prop} (h : OneAt R xs ys) (hR : ∀ x y, R x y → Q y → Q x)
    (hq : ∃ y ∈ ys, Q y) : ∃ x ∈ xs, Q x := by
  obtain ⟨before, x, y, after, rfl, rfl, hxy⟩ := h
  obtain ⟨z, hz, hq⟩ := hq
  simp only [List.mem_append, List.mem_cons] at hz
  rcases hz with hz | rfl | hz
  · exact ⟨z, by simp [hz], hq⟩
  · exact ⟨x, by simp, hR x z hxy hq⟩
  · exact ⟨z, by simp [hz], hq⟩

theorem OneAt.flip (h : OneAt R xs ys) : OneAt (fun y x => R x y) ys xs := by
  obtain ⟨before, x, y, after, hx, hy, hr⟩ := h
  exact ⟨before, y, x, after, hy, hx, hr⟩

variable {R : Rule → Rule → Prop}

theorem Changed.flip {np np' : NetworkPolicy} (h : Changed R np np') :
    Changed (fun r' r => R r r') np' np := by
  rcases h with ⟨rs, rfl, hone⟩ | ⟨rs, rs', heg, rfl, hone⟩
  · exact .inl ⟨_, rfl, hone.flip⟩
  · exact .inr ⟨rs', rs, rfl, by rw [← heg], hone.flip⟩

end Replaced

-- ── identity rules

variable {P : Platform} {nss : List Namespace} {reg : Registry} {np np' : NetworkPolicy}

theorem ports_shrink {ports ports' : List PolicyPort} (h : OneAt BadPort ports ports') :
    npCompilePorts ports' ⊆ npCompilePorts ports := by
  obtain ⟨before, x, y, after, rfl, rfl, -, hy⟩ := h
  have hne : ∀ z, (before ++ z :: after).isEmpty = false := by simp
  intro p hp
  simp only [npCompilePorts, hne, Bool.false_eq_true, if_false, List.mem_filterMap, List.mem_append,
    List.mem_cons] at hp ⊢
  obtain ⟨e, he | rfl | he, hep⟩ := hp
  · exact ⟨e, .inl he, hep⟩
  · nomatch hy.symm.trans hep
  · exact ⟨e, .inr (.inr he), hep⟩

/-- A rule with a bad entry names the same peers and fewer ports. -/
theorem ruleRows_shrink {ns : String} {dir : U8} {self : U64} {r r' : Rule} {k : NPAllow}
    (h : BadRule P r r') (hrow : RuleRows P nss reg ns dir self r' (.allow k)) :
    RuleRows P nss reg ns dir self r (.allow k) := by
  obtain ⟨peer, hpeer, p, hp, rfl⟩ := ruleRows_allow hrow
  refine .inl ⟨peer, ?_, p, ?_, rfl⟩
  · rcases h with ⟨-, hpeers⟩ | ⟨-, before, x, y, after, hpeers, hpeers', b, b', hx, rfl, -⟩
    · simpa only [ruleIDs, hpeers] using hpeer
    · simpa [ruleIDs, hpeers, hpeers', hx] using hpeer
  · rcases h with ⟨hports, -⟩ | ⟨hports, -⟩
    · exact ports_shrink hports hp
    · rwa [hports] at hp

theorem Changed.rows {row : NpRow} (h : Changed R np np')
    (hR : ∀ ns dir self r r', R r r' → RuleRows P nss reg ns dir self r' row →
      RuleRows P nss reg ns dir self r row)
    (hrow : PolicyRows P nss reg np' row) : PolicyRows P nss reg np row := by
  obtain ⟨holds, hsel, self, hself, hrow⟩ := hrow
  rcases h with ⟨rs, rfl, hone⟩ | ⟨rs, rs', heg, rfl, hone⟩
  · exact ⟨holds, hsel, self, hself,
      hrow.imp_left (And.imp_right (.imp_right (hone.exists (hR _ _ _))))⟩
  · refine ⟨holds, hsel, self, hself, ?_⟩
    simp only [hasEgress, heg, Option.isSome_some, Option.getD_some] at hrow ⊢
    exact hrow.imp_right (And.imp_right (.imp_right (hone.exists (hR _ _ _))))

theorem Changed.isolated {id : U64} {g : U32} (h : Changed R np np') :
    PolicyRows P nss reg np' (.isolated id g) → PolicyRows P nss reg np (.isolated id g) := by
  refine h.rows fun ns dir self r r' _ hrow => ?_
  rcases hrow with ⟨_, -, _, -, hr⟩ | ⟨_, -, _, -, _, -, hr | ⟨_, -, _, -, hr⟩⟩
  · nomatch hr
  · nomatch hr
  · nomatch hr

-- ── ipBlocks

/-- A block with a bad exception has the others; one with a bad CIDR has no rows. -/
theorem npBlock_loses {b b' : IPBlock} {cidr : IPNet} (dir : U8) (self : U64) (p : NpPort)
    (h : BadBlock P b b') (hcidr : P.parseCIDR b'.cidr = some cidr) :
    P.parseCIDR b.cidr = some cidr ∧
      (npBlock P self dir p cidr b).Loses (npBlock P self dir p cidr b') := by
  rcases h with ⟨⟨-, hbad⟩, -⟩ | ⟨hsame, hone⟩
  · nomatch hbad.symm.trans hcidr
  · refine ⟨hsame ▸ hcidr, rfl, List.map_subset _ fun ex hex => ?_⟩
    rw [List.mem_filterMap] at hex ⊢
    refine hone.exists (fun text text' hbad hparse => ?_) hex
    nomatch hbad.2.symm.trans hparse

/-- A rule with a bad entry leaves blocks of the valid one, less exceptions. -/
theorem ruleBlocks_shrink {dir : U8} {self : U64} {r r' : Rule} {c : Block (8 + 8 + 16 + 64) 128}
    (h : BadRule P r r') (hc : ∃ x ∈ ruleNpBlocks P dir self r', x.Loses c) :
    ∃ x ∈ ruleNpBlocks P dir self r, x.Loses c := by
  obtain ⟨x, ⟨b, hb, cidr, hcidr, p, hp, rfl⟩, hloses⟩ := hc
  rcases h with ⟨hports, hpeers⟩ | ⟨hports, hone⟩
  · obtain ⟨e, he, hep⟩ := List.mem_flatMap.mp hp
    refine ⟨_, ⟨b, ?_, cidr, hcidr, p, List.mem_flatMap.mpr ⟨e, ports_shrink hports he, hep⟩, rfl⟩,
      hloses⟩
    rwa [ruleBlocks, ← hpeers]
  · obtain ⟨peer, hpeer, hblock⟩ := List.mem_filterMap.mp hb
    obtain ⟨peer', hpeer', b', hblock', hcidr', hloses'⟩ := hone.exists
      (Q := fun peer => ∃ b, peer.ipBlock = some b ∧ P.parseCIDR b.cidr = some cidr ∧
        (npBlock P self dir p cidr b).Loses c) (fun y y' hbad hy => by
        obtain ⟨b, b', hy₁, rfl, hbad⟩ := hbad
        obtain ⟨b₁, hb₁, hcidr, hloses⟩ := hy
        cases hb₁
        obtain ⟨hcidr', hless⟩ := npBlock_loses dir self p hbad hcidr
        exact ⟨b, hy₁, hcidr', hless.trans hloses⟩) ⟨peer, hpeer, b, hblock, hcidr, hloses⟩
    exact ⟨_, ⟨b', List.mem_filterMap.mpr ⟨peer', hpeer', hblock'⟩, cidr, hcidr', p, hports ▸ hp, rfl⟩,
      hloses'⟩

theorem Malformed.leaves {c : Block (8 + 8 + 16 + 64) 128} (h : Malformed P np np')
    (hc : ∃ x ∈ policyNpBlocks P reg np', x.Loses c) : ∃ x ∈ policyNpBlocks P reg np, x.Loses c := by
  obtain ⟨x, ⟨holds, hsel, self, hself, hx⟩, hloses⟩ := hc
  have hrules : ∀ dir rs rs', OneAt (BadRule P) rs rs' →
      (∃ rule ∈ rs', x ∈ ruleNpBlocks P dir self rule) →
      ∃ rule ∈ rs, ∃ y ∈ ruleNpBlocks P dir self rule, y.Loses c := by
    rintro dir rs rs' hone ⟨rule, hrule, hx⟩
    exact hone.exists (fun _ _ => ruleBlocks_shrink) ⟨rule, hrule, x, hx, hloses⟩
  rcases h with ⟨rs, rfl, hone⟩ | ⟨rs, rs', heg, rfl, hone⟩
  · rcases hx with ⟨hing, hx⟩ | hx
    · obtain ⟨rule, hrule, y, hy, hless⟩ := hrules _ _ _ hone hx
      exact ⟨y, ⟨holds, hsel, self, hself, .inl ⟨hing, rule, hrule, hy⟩⟩, hless⟩
    · exact ⟨x, ⟨holds, hsel, self, hself, .inr hx⟩, hloses⟩
  · rcases hx with hx | ⟨hegr, hx⟩
    · exact ⟨x, ⟨holds, hsel, self, hself, .inl hx⟩, hloses⟩
    · obtain ⟨rule, hrule, y, hy, hless⟩ := hrules _ _ _ hone hx
      refine ⟨y, ⟨holds, hsel, self, hself, .inr ⟨?_, rule, by rwa [heg], hy⟩⟩, hless⟩
      simpa only [hasEgress, heg, Option.isSome_some] using hegr

/-- **WHAT A MALFORMED ENTRY LEAVES** of the blocks: their ranges, and some of their exceptions. -/
theorem npBlocks_leaves {nps nps' : List NetworkPolicy} (h : OneAt (Malformed P) nps nps') :
    Leaves (npBlocks P reg nps) (npBlocks P reg nps') := by
  rintro c ⟨np', hnp', hc⟩
  obtain ⟨np, hnp, x, hx, hloses⟩ := h.exists (fun _ _ => Malformed.leaves)
    ⟨np', hnp', c, hc, rfl, fun _ h => h⟩
  exact ⟨x, ⟨np, hnp, hx⟩, hloses⟩

theorem eq_of_hasBit {x y : U32} (h : ∀ g, hasBit x g = true ↔ hasBit y g = true) : x = y := by
  refine BitVec.eq_of_getLsbD_eq fun i hi => Bool.eq_iff_iff.mpr ?_
  have hbit : ∀ z : U32, hasBit z (BitVec.twoPow 32 i) = true ↔ z.getLsbD i = true := by
    intro z
    have hpos : BitVec.twoPow 32 i ≠ 0#32 := fun hz => by
      simpa [hi] using congrArg (BitVec.getLsbD · i) hz
    cases hz : z.getLsbD i <;> simp [hasBit, BitVec.and_twoPow, hz, hpos]
  rw [← hbit, ← hbit]
  exact h _

variable {pods : List Pod} {nps nps' : List NetworkPolicy} {c c' : NpCompiled}

/-- **WHAT A MALFORMED ENTRY LEAVES**: the identity rows, and no identity rule it did not have. -/
theorem compiled_shrinks (h : OneAt (Malformed P) nps nps')
    (hc : compileNetworkPolicies P pods nss nps = .ok c)
    (hc' : compileNetworkPolicies P pods nss nps' = .ok c') :
    c'.idents = c.idents ∧ ∀ k ∈ c'.allows, k ∈ c.allows := by
  constructor
  · obtain ⟨work, acc, rows, ha, hi, rfl⟩ := compile_ok hc
    obtain ⟨work', acc', rows', ha', hi', rfl⟩ := compile_ok hc'
    have hflags : acc'.flags = acc.flags := by
      funext id
      refine eq_of_hasBit fun g => ?_
      rw [flags_iff ha', flags_iff ha]
      exact ⟨h.exists fun _ _ hbad => hbad.isolated, h.flip.exists fun _ _ hbad => hbad.flip.isolated⟩
    rw [hflags, hi] at hi'
    rw [Except.ok.inj hi']
  · intro k hk
    obtain ⟨-, -, hallow, -⟩ := compile_rows hc
    obtain ⟨-, -, hallow', -⟩ := compile_rows hc'
    refine (hallow k).mpr (h.exists (fun _ _ hbad => hbad.rows ?_) ((hallow' k).mp hk))
    exact fun _ _ _ _ _ => ruleRows_shrink

theorem npEgressIds_any (m : Maps) (q : NpQuery) (id : U64) :
    npEgressIds m q id =
      (peerNames m npDirEg q.dst).any fun peer => npAllowHit m npDirEg q.proto peer id q.dport := by
  have hdir : npDirEg ≠ npDirIn := by decide
  simp only [npEgressIds, peerNames, podNames, hdir, false_and, if_false]
  cases m.npIdent q.dst <;> cases (m.locals ⟨0#32, q.dst⟩).isSome <;> simp [Bool.or_assoc]

/-- A property of the isolated pods behind an address. -/
def Isolated (v : Option NpIdentVal) (flag : U32) (A : U64 → Prop) : Prop :=
  ∀ x, v = some x → hasBit x.flags flag = true → A x.id

/-- Where nothing is gained otherwise, ranges decide. -/
theorem isolated_imp {v : Option NpIdentVal} {flag : U32} {A A' R R' : U64 → Prop}
    (h : ∀ id, A' id → A id) :
    ((Isolated v flag fun id => A' id ∨ R' id) → Isolated v flag fun id => A id ∨ R id) ↔
      Isolated v flag fun id => R' id ∧ ¬ R id → A id := by
  constructor
  · intro himp x hx hflag hr
    refine (himp (fun y hy _ => ?_) x hx hflag).resolve_right hr.2
    cases hx.symm.trans hy
    exact .inr hr.1
  · intro hcond hold x hx hflag
    rcases hold x hx hflag with ha | hr
    · exact .inl (h _ ha)
    · exact or_iff_not_imp_right.mpr fun hno => hcond x hx hflag ⟨hr, hno⟩

variable {m : Maps}

theorem npIngress_isolated (hguard : m.params cfgNpUpdating = 0#32) (f : Flows) (q : NpQuery) :
    npIngress m f q = true ↔ Isolated (m.npIdent q.dst) npIngIsolated fun id =>
      ((npNodeLocal m q.src = true ∨ npPinCheck f q = true) ∨ npIngressIds m q id = true) ∨
        npCidrCheck m q npDirIn id q.src = true := by
  simp only [npIngress, Isolated, hguard, bne_self_eq_false, Bool.false_eq_true, if_false]
  cases m.npIdent q.dst with
  | none => simp
  | some v =>
    simp only [Option.some.injEq, forall_eq']
    grind

theorem npEgress_isolated (hguard : m.params cfgNpUpdating = 0#32) (f : Flows) (q : NpQuery) :
    npEgress m f q = true ↔ Isolated (m.npIdent q.src) npEgIsolated fun id =>
      (npPinCheck f q = true ∨ npEgressIds m q id = true) ∨ npCidrCheck m q npDirEg id q.dst = true := by
  simp only [npEgress, Isolated, hguard, bne_self_eq_false, Bool.false_eq_true, if_false]
  cases m.npIdent q.src with
  | none => simp
  | some v =>
    simp only [Option.some.injEq, forall_eq']
    grind

section Widening

variable (P : Platform) (nss : List Namespace) (reg : Registry) (q : NpQuery) (dir : U8)

def RuleHit (nps : List NetworkPolicy) (dstId srcId : U64) : Prop :=
  ∃ k, (∃ np ∈ nps, PolicyRows P nss reg np (.allow k)) ∧
    (k.dir = dir ∧ k.proto = q.proto ∧ k.dstID = dstId ∧ k.srcID = srcId) ∧
    Serves k.port k.endPort q.dport

/-- The malformed entry takes an exception with it that decided against the peer, and leaves a range
    open that contains it; or it takes all that was said of the peer at the exact port, which refused
    it, and the entries for every port that are left admit it. -/
def Widens (nps nps' : List NetworkPolicy) (id : U64) (a : Addr) : Prop :=
  let bs := npBlocks P reg nps
  let cs := npBlocks P reg nps'
  let exact := npScope dir q.isV4 q.proto q.dport id
  let every := npScope dir q.isV4 q.proto 0#16 id
  (∃ s, Asked bs exact every a s ∧ Exposed bs cs s a) ∨ Uncovered bs cs exact every a

end Widening

/-- **MALFORMED ENTRIES NEVER WIDEN EXACTLY WHEN** the pod is not isolated, or the entry leaves no
    range open to the peer, or something else of the valid policies admits the flow. -/
theorem malformed_admits_iff {m₁ m₂ : Maps} (h : OneAt (Malformed P) nps nps')
    (hc : compileNetworkPolicies P pods nss nps = .ok c) (hin : applyNetworkPolicy m c = (m₁, none))
    (hc' : compileNetworkPolicies P pods nss nps' = .ok c')
    (hin' : applyNetworkPolicy m c' = (m₂, none)) (f : Flows) (q : NpQuery) :
    ((npIngress m₂ f q = true → npIngress m₁ f q = true) ↔
      Isolated (m₁.npIdent q.dst) npIngIsolated fun id =>
        Widens P (registryOf P pods) q npDirIn nps nps' id q.src →
          (npNodeLocal m q.src = true ∨ npPinCheck f q = true) ∨
            ∃ peer ∈ peerNames m₁ npDirIn q.src,
              RuleHit P nss (registryOf P pods) q npDirIn nps id peer) ∧
    ((npEgress m₂ f q = true → npEgress m₁ f q = true) ↔
      Isolated (m₁.npIdent q.src) npEgIsolated fun id =>
        Widens P (registryOf P pods) q npDirEg nps nps' id q.dst →
          npPinCheck f q = true ∨
            ∃ peer ∈ peerNames m₁ npDirEg q.dst,
              RuleHit P nss (registryOf P pods) q npDirEg nps peer id) := by
  obtain ⟨hidents, hsub⟩ := compiled_shrinks h hc hc'
  have i₁ := applyNetworkPolicy_installed hin
  have i₂ := applyNetworkPolicy_installed hin'
  obtain ⟨-, -, hallow, hcidr, -⟩ := compile_rows hc
  obtain ⟨-, -, -, hcidr', -⟩ := compile_rows hc'
  have hident : m₂.npIdent = m₁.npIdent := by
    obtain ⟨t, ht, heq⟩ := i₁.idents
    obtain ⟨t', ht', heq'⟩ := i₂.idents
    rw [hidents, ht] at ht'
    rw [heq', heq, Except.ok.inj ht']
  have hlocal : ∀ a, npNodeLocal m₁ a = npNodeLocal m a ∧ npNodeLocal m₂ a = npNodeLocal m a := by
    simp only [npNodeLocal, i₁.nodes, i₂.nodes, and_self, implies_true]
  have hnames : ∀ dir a, peerNames m₂ dir a = peerNames m₁ dir a := by
    simp only [peerNames, hident, i₁.nodes, i₂.nodes, i₂.locals, i₁.locals, implies_true]
  have hrule : ∀ dir dst src, npAllowHit m₁ dir q.proto dst src q.dport = true ↔
      RuleHit P nss (registryOf P pods) q dir nps dst src := by
    intro dir dst src
    simp only [npAllowHit_iff i₁, hallow, RuleHit]
  have hless : ∀ dir dst src, npAllowHit m₂ dir q.proto dst src q.dport = true →
      npAllowHit m₁ dir q.proto dst src q.dport = true := by
    intro dir dst src hhit
    rw [npAllowHit_iff i₂] at hhit
    rw [npAllowHit_iff i₁]
    exact hhit.imp fun k hk => ⟨hsub k hk.1, hk.2⟩
  rw [npIngress_isolated i₁.guard, npIngress_isolated i₂.guard, npEgress_isolated i₁.guard,
    npEgress_isolated i₂.guard, hident]
  simp only [npCidrCheck_iff i₁ hcidr, npCidrCheck_iff i₂ hcidr', npIngressIds_any, npEgressIds_any,
    hnames, hlocal, List.any_eq_true]
  rw [isolated_imp, isolated_imp]
  · simp only [hrule, Widens, ← widened_iff (npBlocks_leaves h), and_self]
  · exact fun id => .imp_right (.imp fun _ h => ⟨h.1, hless _ _ _ h.2⟩)
  · exact fun id => .imp_right (.imp fun _ h => ⟨h.1, hless _ _ _ h.2⟩)

def badExcept : NetworkPolicy := blockPolicy "10.0.0.0/8" ["10.1/16"]

theorem except_malformed (after : List NetworkPolicy) :
    OneAt (Malformed demoPlatform) (guardedPolicy :: after) (badExcept :: after) :=
  ⟨[], _, _, after, rfl, rfl, .inl ⟨_, rfl, [], _, _, [], rfl, rfl, .inr ⟨rfl, [], _, _, [], rfl, rfl,
    _, _, rfl, rfl, .inr ⟨rfl, [], _, _, [], rfl, rfl, rfl, rfl⟩⟩⟩⟩

def officeQuery : NpQuery := ⟨exceptedClient.key, webAddr, 80#16, 40000#16, ipprotoTcp, true⟩

/-- The lost exception contains the client, but the /24 of the other policy is longer. -/
theorem office_not_widened (reg : Registry) (id : U64) :
    ¬ Widens demoPlatform reg officeQuery npDirIn [guardedPolicy, officePolicy]
      [badExcept, officePolicy] id exceptedClient.key := by
  have hall : ∀ np ∈ [guardedPolicy, officePolicy], np.podSelector = officePolicy.podSelector ∧
      np.ns = officePolicy.ns ∧ np.egress = none ∧ ∀ rule ∈ np.ingress, rule.ports = [] ∧
        ∀ b ∈ ruleBlocks rule, ∀ text ∈ b.except, text = "10.1.0.0/16" := by decide
  have hunasked : ¬ Mentions (npBlocks demoPlatform reg [guardedPolicy, officePolicy])
      (npScope npDirIn true ipprotoTcp 80#16 id) exceptedClient.key := by
    refine portless_unmentioned (P := demoPlatform) ?_ (by decide)
    rintro x ⟨np, hnp, holds, -, self, -, ⟨-, rule, hr, b, -, cidr, -, p, hp, rfl⟩ | ⟨-, rule, hr, -⟩⟩
    · rw [((hall np hnp).2.2.2 rule hr).1] at hp
      exact ⟨_, _, _, _, p, hp, rfl⟩
    · rw [(hall np hnp).2.2.1] at hr
      nomatch hr
  rintro (⟨s, -, ⟨b, ⟨np, hnp, holds, hsel, self, hself, hb⟩, x, hx, -, hholds, hlonger⟩, -⟩ | hun)
  · obtain ⟨hpods, hns, heg, hrules⟩ := hall np hnp
    rcases hb with ⟨-, rule, hr, blk, hblk, cidr, -, p, hp, rfl⟩ | ⟨-, rule, hr, -⟩
    · obtain ⟨hports, htexts⟩ := hrules rule hr
      obtain ⟨ex, hmem, rfl⟩ := List.mem_map.mp hx
      obtain ⟨text, ht, hex⟩ := List.mem_filterMap.mp hmem
      rw [htexts blk hblk text ht] at hex
      obtain rfl : IPNet.mask4 0x0a010000#32 16 = ex := Option.some.inj hex
      rw [hports] at hp
      have hoffice : npBlock demoPlatform self npDirIn p (.mask4 0x0a010200#32 24)
          ⟨"10.1.2.0/24", []⟩ ∈ npBlocks demoPlatform reg [guardedPolicy, officePolicy] := by
        refine ⟨officePolicy, .tail _ (.head _), holds, hpods ▸ hsel, self, ?_,
          .inl ⟨rfl, _, .head _, _, .head _, _, rfl, p, hp, rfl⟩⟩
        rwa [subjectsOf, ← hns]
      have hscope := (Bool.and_eq_true_iff.mp hholds).1
      have hin : (cidrRange (.mask4 0x0a010200#32 24)).contains exceptedClient.key = true := by decide
      have hlt := hlonger _ hoffice (Bool.and_eq_true_iff.mpr ⟨hscope, hin⟩)
      have hlen : ¬ (cidrRange (.mask4 0x0a010200#32 24)).plen <
          (cidrRange (.mask4 0x0a010000#32 16)).plen := by decide
      exact hlen hlt
    · rw [heg] at hr
      nomatch hr
  · exact hunasked hun.1.1

theorem malformed_admits_office :
    npIngress (ingressMaps [badExcept, officePolicy]) Flows.empty officeQuery = true ∧
      npIngress (ingressMaps [guardedPolicy, officePolicy]) Flows.empty officeQuery = true := by
  refine (and_iff_left_of_imp ?_).mpr (by decide +kernel)
  have hvalid : compileNetworkPolicies demoPlatform [webPod] [] [guardedPolicy, officePolicy] = .ok _ :=
    rfl
  have hbad : compileNetworkPolicies demoPlatform [webPod] [] [badExcept, officePolicy] = .ok _ := rfl
  refine (malformed_admits_iff (except_malformed [officePolicy]) hvalid rfl hbad rfl _ _).1.mpr ?_
  exact fun x _ _ hwidens => absurd hwidens (office_not_widened _ _)

/-- **THE BLOCK IS LEFT FULLY OPEN** where the text that excepts 10.1.0.0/16 does not parse. -/
theorem except_leaves_open :
    OneAt (Malformed demoPlatform) [guardedPolicy] [badExcept] ∧
      npIngress (ingressMaps [guardedPolicy]) Flows.empty
        ⟨exceptedClient.key, webAddr, 80#16, 40000#16, ipprotoTcp, true⟩ = false ∧
      npIngress (ingressMaps [badExcept]) Flows.empty
        ⟨exceptedClient.key, webAddr, 80#16, 40000#16, ipprotoTcp, true⟩ = true :=
  ⟨except_malformed [], by decide +kernel, by decide +kernel⟩

end CozyNpMalformed
