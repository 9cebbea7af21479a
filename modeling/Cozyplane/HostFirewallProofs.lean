import Cozyplane.NpCompileProofs

/-!
# HostFirewall — compiled rules, their installation, and the union they should be

`compileHostFirewalls` expands the rules of the HostFirewalls that select a node into rows, one
direction at a time; `applyHFDirection` installs one direction under a temporary default-deny.
Both directions run the same code over their own rules and map, so the development is over a
`Dir`.
-/

namespace CozyHf

open PrefixTable RangePolicy Accumulate CozyPacket CozyMaps CozyDatapath CozyPolicy CozyCidr
open CozyNpCompile (Labels LabelSelector Protocol)

/-- `HostFirewallPort`. -/
structure HfPort where
  protocol : Protocol
  port : Int
  endPort : Int
  deriving DecidableEq

/-- `HostFirewallPeer`. -/
structure HfPeer where
  cidr : String
  except : List String
  deriving DecidableEq

/-- `HostFirewallRule` (`from`) and `HostFirewallEgressRule` (`to`). -/
structure HfRule where
  peers : List HfPeer
  ports : List HfPort
  deriving DecidableEq

/-- A direction, also as a `HostFirewallPolicyType`. -/
inductive Dir where
  | ingress
  | egress
  deriving DecidableEq

/-- `HostFirewallSpec`. -/
structure HostFirewall where
  nodeSelector : LabelSelector
  policyTypes : List Dir
  ingress : List HfRule
  egress : List HfRule
  deriving DecidableEq

/-- `LabelSelectorAsSelector` with `Matches`, and `net.ParseCIDR`, which reads the two CIDRs the
    compiler itself spells. -/
structure HfPlatform where
  selector : LabelSelector → Option (Labels → Bool)
  parseCIDR : String → Option IPNet
  any4 : parseCIDR "0.0.0.0/0" = some (.mask4 0#32 0)
  any6 : parseCIDR "::/0" = some (.mask16 0#128 0)

def HostFirewall.rules (hf : HostFirewall) : Dir → List HfRule
  | .ingress => hf.ingress
  | .egress => hf.egress

-- ── compilation

def hfProtoNum : Protocol → Option U8
  | .tcp => some 6#8
  | .udp => some 17#8
  | .other _ => none

/-- A protocol and port of a row. -/
structure HfPortRow where
  proto : U8
  port : U16
  deriving DecidableEq

/-- The upper end of a port entry. -/
def HfPort.hi (p : HfPort) : Int := if p.endPort ≠ 0 then p.endPort else p.port

/-- One entry of `hfCompilePorts`; an invalid one is skipped. -/
def hfCompilePort (p : HfPort) : List HfPortRow :=
  match hfProtoNum p.protocol with
  | none => []
  | some proto =>
    if p.port < 0 ∨ 65535 < p.port then []
    else if p.hi < p.port ∨ 65535 < p.hi ∨ (p.port = 0 ∧ p.hi ≠ 0) then []
    else if 64 < p.hi - p.port + 1 then []
    else (List.range' p.port.toNat (p.hi - p.port + 1).toNat).map fun q => ⟨proto, BitVec.ofNat 16 q⟩

/-- `hfCompilePorts`: no entry means every port of both protocols. -/
def hfCompilePorts (ports : List HfPort) : List HfPortRow :=
  if ports.isEmpty then [⟨6#8, 0#16⟩, ⟨17#8, 0#16⟩] else ports.flatMap hfCompilePort

def hfAnyPeers : List HfPeer := [⟨"0.0.0.0/0", []⟩, ⟨"::/0", []⟩]

/-- `hfIsolation`, one direction. -/
def hfIsolation (hf : HostFirewall) (d : Dir) : Bool :=
  if hf.policyTypes.isEmpty then
    match d with
    | .ingress => true
    | .egress => !hf.egress.isEmpty
  else hf.policyTypes.contains d

/-- `datapath.HFAllow`. -/
structure HFAllow where
  proto : U8
  port : U16
  cidr : IPNet
  allow : Bool
  deriving DecidableEq

def HfRule.effectivePeers (rule : HfRule) : List HfPeer :=
  if rule.peers.isEmpty then hfAnyPeers else rule.peers

/-- One peer of `hfCompileRule`. A CIDR or exception that does not parse skips the peer. -/
def hfCompilePeer (P : HfPlatform) (rows : List HfPortRow) (peer : HfPeer) : List HFAllow :=
  match P.parseCIDR peer.cidr with
  | none => []
  | some allowNet =>
    match peer.except.mapM P.parseCIDR with
    | none => []
    | some excepts =>
      rows.flatMap fun row => ⟨row.proto, row.port, allowNet, true⟩ ::
        excepts.map fun exNet => ⟨row.proto, row.port, exNet, false⟩

def hfCompileRule (P : HfPlatform) (rule : HfRule) : List HFAllow :=
  rule.effectivePeers.flatMap (hfCompilePeer P (hfCompilePorts rule.ports))

def policyRowLimit : Nat := 65536
def policyWorkLimit : Nat := 1048576

/-- The rows a port entry is counted as. -/
def countPort (p : HfPort) : Nat :=
  if p.port ≤ p.hi ∧ p.hi - p.port < 64 then (p.hi - p.port + 1).toNat else 0

/-- `count`: the work after the rule, and the rows it may emit. -/
def countRule (rule : HfRule) (work : Nat) : Except String (Nat × Nat) :=
  let exceptions := (rule.peers.map fun p => p.except.length + 1).sum
  let work := work + 1 + rule.ports.length + exceptions
  let portRows := (if rule.ports.isEmpty then 2 else 0) + (rule.ports.map countPort).sum
  let peerRows := (if rule.peers.isEmpty then 2 else 0) + exceptions
  if policyWorkLimit < work ∨ policyRowLimit < portRows ∨ policyWorkLimit < peerRows then
    .error "HostFirewall compilation exceeds input budget"
  else .ok (work, portRows * peerRows)

/-- The counters of `validateHFCompilation`. -/
structure HfBudget where
  rows : Dir → Nat
  work : Nat

/-- The name of a direction in an error text. -/
def Dir.text : Dir → String
  | .ingress => "ingress"
  | .egress => "egress"

def chargeRule (d : Dir) (rule : HfRule) (b : HfBudget) : Except String HfBudget :=
  match countRule rule b.work with
  | .error e => .error e
  | .ok (work, n) =>
    if policyRowLimit < b.rows d + n then
      .error ("HostFirewall " ++ d.text ++ " exceeds 65536 rows")
    else .ok ⟨Function.update b.rows d (b.rows d + n), work⟩

/-- The object selects a node with these labels; a bad selector selects nothing. -/
def selects (P : HfPlatform) (nodeLabels : Labels) (hf : HostFirewall) : Bool :=
  match P.selector hf.nodeSelector with
  | none => false
  | some holds => holds nodeLabels

/-- The preflight: counters against their limits. -/
def validateHFCompilation (P : HfPlatform) (hfs : List HostFirewall) (nodeLabels : Labels) :
    Except String HfBudget :=
  if policyRowLimit < hfs.length then .error "HostFirewall input exceeds 65536 objects"
  else
    forEach hfs (fun hf b =>
      let b : HfBudget := { b with work := b.work + 1 }
      if selects P nodeLabels hf then
        andThen
          (if hfIsolation hf .ingress then forEach hf.ingress (chargeRule .ingress) else .ok)
          (if hfIsolation hf .egress then forEach hf.egress (chargeRule .egress) else .ok) b
      else .ok b) ⟨fun _ => 0, 0⟩

/-- `hfCompiled`: the isolated directions and the rows of each. -/
structure HfCompiled where
  isolated : Dir → Bool
  rows : Dir → List HFAllow

def addHostFirewall (P : HfPlatform) (nodeLabels : Labels) (c : HfCompiled) (hf : HostFirewall) :
    HfCompiled :=
  if selects P nodeLabels hf then
    { isolated := fun d => c.isolated d || hfIsolation hf d
      rows := fun d =>
        c.rows d ++ if hfIsolation hf d then (hf.rules d).flatMap (hfCompileRule P) else [] }
  else c

/-- The selecting objects as rows. -/
def compileHostFirewalls (P : HfPlatform) (hfs : List HostFirewall) (nodeLabels : Labels) :
    Except String HfCompiled :=
  match validateHFCompilation P hfs nodeLabels with
  | .error e => .error e
  | .ok _ => .ok (hfs.foldl (addHostFirewall P nodeLabels) ⟨fun _ => false, fun _ => []⟩)

def Dir.cell : Dir → Nat
  | .ingress => cfgHfEnabled
  | .egress => cfgHfEgEnabled

def Dir.table (m : Maps) : Dir → Table (8 + 8 + 16 + 128) Bool
  | .ingress => m.hfAllow
  | .egress => m.hfEallow

def putTable (m : Maps) (t : Table (8 + 8 + 16 + 128) Bool) : Dir → Maps
  | .ingress => { m with hfAllow := t }
  | .egress => { m with hfEallow := t }

/-- `setHFMode`: the durable cell and its copy. -/
def setHFMode (m : Maps) (index : Nat) (mode : U32) : Maps :=
  { m with hfModes := Function.update m.hfModes (index - cfgHfEnabled) mode
           params := Function.update m.params index mode }

def hfAllowEntries : Nat := 16384

/-- The family byte of a rule key. -/
def hfFamily (isV4 : Bool) : U8 := if isV4 then 4#8 else 6#8

def hfEntry (e : HFAllow) : Entry (8 + 8 + 16 + 128) Bool :=
  ⟨32 + (cidrRange e.cidr).plen,
    e.proto ++ hfFamily (cidrIsV4 e.cidr) ++ e.port ++ (cidrRange e.cidr).addr, e.allow⟩

def syncHFRules (entries : List HFAllow) : Except String (Table (8 + 8 + 16 + 128) Bool) :=
  putRanges hfAllowEntries (entries.map hfEntry)

/-- `applyHFDirection`: the maps it leaves, and its error. -/
def applyHFDirection (m : Maps) (d : Dir) (on : Bool) (entries : List HFAllow) :
    Maps × Option String :=
  let m := setHFMode m d.cell (if on then 2#32 else 0#32)
  match syncHFRules (if on then entries else []) with
  | .error e => (m, some e)
  | .ok t =>
    let m := putTable m t d
    (if on then setHFMode m d.cell 1#32 else m, none)

theorem applyHFDirection_installed {m m' : Maps} {d : Dir} {entries : List HFAllow}
    (h : applyHFDirection m d true entries = (m', none)) :
    syncHFRules entries = .ok (d.table m') ∧ cfg m' d.cell = 1#32 := by
  unfold applyHFDirection at h
  simp only [if_pos] at h
  split at h
  · nomatch (Prod.mk.inj h).2
  rename_i t hs
  cases h
  cases d with
  | ingress | egress => exact ⟨hs, rfl⟩

/-- A port entry admits a port: every port, or the ports from `port` to `endPort`, at most 64
    of them. -/
def PortAdmits (p : HfPort) (proto : U8) (q : U16) : Prop :=
  hfProtoNum p.protocol = some proto ∧
    ((p.port = 0 ∧ p.endPort = 0) ∨
      (1 ≤ p.port ∧ p.port ≤ q.toNat ∧ q.toNat ≤ p.hi ∧ p.hi ≤ 65535 ∧ p.hi - p.port < 64))

/-- The ports of a rule; none listed is every TCP and UDP port. -/
def RuleAdmitsPort (rule : HfRule) (proto : U8) (q : U16) : Prop :=
  if rule.ports = [] then proto = 6#8 ∨ proto = 17#8
  else ∃ p ∈ rule.ports, PortAdmits p proto q

/-- A peer matches an address: in its CIDR and in none of its own exceptions, all of which have
    to be readable. -/
def PeerMatches (P : HfPlatform) (peer : HfPeer) (a : Ip) : Prop :=
  ∃ cidr, P.parseCIDR peer.cidr = some cidr ∧ cidr.contains a = true ∧
    ∀ text ∈ peer.except, ∃ ex, P.parseCIDR text = some ex ∧ ex.contains a = false

def DirRule (P : HfPlatform) (nodeLabels : Labels) (d : Dir) (hf : HostFirewall)
    (rule : HfRule) : Prop :=
  selects P nodeLabels hf = true ∧ hfIsolation hf d = true ∧ rule ∈ hf.rules d

section Meaning

variable (P : HfPlatform) (hfs : List HostFirewall) (nodeLabels : Labels) (d : Dir)

/-- **THE UNION**: some rule admits the port, and names no peers or one that matches. -/
def HfAdmits (proto : U8) (q : U16) (a : Ip) : Prop :=
  ∃ hf ∈ hfs, ∃ rule, DirRule P nodeLabels d hf rule ∧ RuleAdmitsPort rule proto q ∧
    (rule.peers = [] ∨ ∃ peer ∈ rule.peers, PeerMatches P peer a)

/-- Everything of a rule key in front of the address. -/
def hfScope (isV4 : Bool) (proto : U8) (port : U16) : BitVec (8 + 8 + 16) :=
  proto ++ hfFamily isV4 ++ port

def hfRange (row : HfPortRow) (c : IPNet) : ScopedRange (8 + 8 + 16) 128 :=
  ⟨cidrRange c, hfScope (cidrIsV4 c) row.proto row.port⟩

/-- A peer with its own exceptions, for one port row. -/
def hfBlock (row : HfPortRow) (cidr : IPNet) (excepts : List IPNet) : Block (8 + 8 + 16) 128 :=
  ⟨hfRange row cidr, excepts.map (hfRange row)⟩

def peerBlocks (rows : List HfPortRow) (peer : HfPeer) : Set (Block (8 + 8 + 16) 128) :=
  { x | ∃ cidr, P.parseCIDR peer.cidr = some cidr ∧
      ∃ excepts, peer.except.mapM P.parseCIDR = some excepts ∧
        ∃ row ∈ rows, x = hfBlock row cidr excepts }

def hfBlocks : Set (Block (8 + 8 + 16) 128) :=
  { x | ∃ hf ∈ hfs, ∃ rule, DirRule P nodeLabels d hf rule ∧
      ∃ peer ∈ rule.effectivePeers, x ∈ peerBlocks P (hfCompilePorts rule.ports) peer }

end Meaning

theorem mapM_some {α β : Type} {f : α → Option β} {xs : List α} {ys : List β}
    (h : xs.mapM f = some ys) : xs.map f = ys.map some := by
  induction xs generalizing ys with
  | nil =>
    obtain rfl : [] = ys := by simpa using h
    rfl
  | cons x xs ih =>
    rw [List.mapM_cons] at h
    obtain ⟨y, hy, h⟩ := Option.bind_eq_some_iff.mp h
    obtain ⟨zs, hzs, h⟩ := Option.bind_eq_some_iff.mp h
    obtain rfl : y :: zs = ys := by simpa using h
    rw [List.map_cons, List.map_cons, hy, ih hzs]

theorem mapM_some_iff {α β : Type} {f : α → Option β} {xs : List α} {ys : List β}
    (h : xs.mapM f = some ys) :
    (∀ x ∈ xs, ∃ y ∈ ys, f x = some y) ∧ ∀ y ∈ ys, ∃ x ∈ xs, f x = some y := by
  have hmem : ∀ v, (∃ x ∈ xs, f x = v) ↔ ∃ y ∈ ys, some y = v := by
    intro v
    rw [← List.mem_map, ← List.mem_map, mapM_some h]
  refine ⟨fun x hx => ?_, fun y hy => (hmem _).mpr ⟨y, hy, rfl⟩⟩
  obtain ⟨y, hy, hxy⟩ := (hmem _).mp ⟨x, hx, rfl⟩
  exact ⟨y, hy, hxy.symm⟩

theorem exists_mapM {α β : Type} {f : α → Option β} {xs : List α}
    (h : ∀ x ∈ xs, ∃ y, f x = some y) : ∃ ys, xs.mapM f = some ys := by
  induction xs with
  | nil => exact ⟨[], rfl⟩
  | cons x xs ih =>
    obtain ⟨y, hy⟩ := h x (.head _)
    obtain ⟨ys, hys⟩ := ih fun z hz => h z (.tail _ hz)
    exact ⟨y :: ys, by rw [List.mapM_cons, hy, hys]; rfl⟩

variable {P : HfPlatform} {hfs : List HostFirewall} {nodeLabels : Labels}

/-- What compilation has collected: an invariant of the loop over the objects. -/
theorem mem_compiled {c : HfCompiled} (h : compileHostFirewalls P hfs nodeLabels = .ok c) (d : Dir)
    (e : HFAllow) :
    e ∈ c.rows d ↔
      ∃ hf ∈ hfs, ∃ rule, DirRule P nodeLabels d hf rule ∧ e ∈ hfCompileRule P rule := by
  have hstep : ∀ c₀ hf, e ∈ (addHostFirewall P nodeLabels c₀ hf).rows d ↔ e ∈ c₀.rows d ∨
      ∃ rule, DirRule P nodeLabels d hf rule ∧ e ∈ hfCompileRule P rule := by
    intro c₀ hf
    unfold addHostFirewall DirRule
    split
    · rename_i hsel
      by_cases hiso : hfIsolation hf d = true
      · simp [hsel, hiso, List.mem_flatMap]
      · simp [hiso]
    · rename_i hsel
      simp [hsel]
  unfold compileHostFirewalls at h
  split at h
  · nomatch h
  rename_i hok
  obtain rfl := Except.ok.inj h
  clear h hok
  induction hfs using List.reverseRecOn with
  | nil => simp
  | append_singleton hfs hf ih =>
    simp only [List.foldl_append, List.foldl_cons, List.foldl_nil, hstep, ih, List.mem_append,
      List.mem_singleton, or_and_right, exists_or, exists_eq_left]

theorem mem_hfCompilePeer {rows : List HfPortRow} {peer : HfPeer}
    {e : Entry (8 + 8 + 16 + 128) Bool} :
    (∃ r ∈ hfCompilePeer P rows peer, hfEntry r = e) ↔ ∃ x ∈ peerBlocks P rows peer, e ∈ x.rows := by
  unfold hfCompilePeer peerBlocks
  cases hc : P.parseCIDR peer.cidr with
  | none => simp
  | some cidr =>
    cases hm : peer.except.mapM P.parseCIDR with
    | none => simp
    | some excepts =>
      constructor
      · rintro ⟨r, hr, rfl⟩
        obtain ⟨row, hrow, hr⟩ := List.mem_flatMap.mp hr
        refine ⟨hfBlock row cidr excepts, ⟨cidr, rfl, excepts, rfl, row, hrow, rfl⟩, ?_⟩
        rcases List.mem_cons.mp hr with rfl | hr
        · exact .head _
        obtain ⟨ex, hex, rfl⟩ := List.mem_map.mp hr
        exact .tail _ (List.mem_map.mpr
          ⟨hfRange row ex, List.mem_map.mpr ⟨ex, hex, rfl⟩, rfl⟩)
      · rintro ⟨x, ⟨cidr', hc', excepts', hm', row, hrow, rfl⟩, he⟩
        cases hc'
        cases hm'
        rcases List.mem_cons.mp he with rfl | he
        · exact ⟨_, List.mem_flatMap.mpr ⟨row, hrow, .head _⟩, rfl⟩
        obtain ⟨y, hy, rfl⟩ := List.mem_map.mp he
        obtain ⟨ex, hex, rfl⟩ := List.mem_map.mp hy
        exact ⟨_, List.mem_flatMap.mpr ⟨row, hrow, List.mem_cons_of_mem _
          (List.mem_map.mpr ⟨ex, hex, rfl⟩)⟩, rfl⟩

theorem rows_flatten {c : HfCompiled} (h : compileHostFirewalls P hfs nodeLabels = .ok c)
    (d : Dir) : Flattens ((c.rows d).map hfEntry) (hfBlocks P hfs nodeLabels d) := by
  intro e
  rw [List.mem_map]
  constructor
  · rintro ⟨r, hr, he⟩
    obtain ⟨hf, hhf, rule, hrule, hr⟩ := (mem_compiled h d r).mp hr
    obtain ⟨peer, hpeer, hr⟩ := List.mem_flatMap.mp hr
    obtain ⟨x, hx, hex⟩ := mem_hfCompilePeer.mp ⟨r, hr, he⟩
    exact ⟨x, ⟨hf, hhf, rule, hrule, peer, hpeer, hx⟩, hex⟩
  · rintro ⟨x, ⟨hf, hhf, rule, hrule, peer, hpeer, hx⟩, hex⟩
    obtain ⟨r, hr, he⟩ := mem_hfCompilePeer.mpr ⟨x, hx, hex⟩
    exact ⟨r, (mem_compiled h d r).mpr
      ⟨hf, hhf, rule, hrule, List.mem_flatMap.mpr ⟨peer, hpeer, hr⟩⟩, he⟩

theorem hfCompilePort_iff (p : HfPort) (proto : U8) (q : U16) :
    (∃ row ∈ hfCompilePort p, row.proto = proto ∧ (row.port = q ∨ row.port = 0#16)) ↔
      PortAdmits p proto q := by
  unfold hfCompilePort PortAdmits
  cases hproto : hfProtoNum p.protocol with
  | none => simp
  | some pr =>
    simp only [Option.some.injEq]
    have hhi : p.hi = if p.endPort ≠ 0 then p.endPort else p.port := rfl
    have hq := q.isLt
    -- an entry that admits a port is not skipped
    have hvalid : ((p.port = 0 ∧ p.endPort = 0) ∨ (1 ≤ p.port ∧ p.port ≤ q.toNat ∧ q.toNat ≤ p.hi ∧
        p.hi ≤ 65535 ∧ p.hi - p.port < 64)) → 0 ≤ p.port ∧ p.port ≤ p.hi ∧ p.hi ≤ 65535 ∧
        (p.port = 0 → p.hi = 0) ∧ p.hi - p.port < 64 := by
      rintro (⟨hz, hez⟩ | hin)
      · omega
      · omega
    split_ifs with h₁ h₂ h₃
    · exact iff_of_false (by simp) fun h => by omega
    · exact iff_of_false (by simp) fun h => by omega
    · exact iff_of_false (by simp) fun h => by omega
    simp only [List.mem_map, List.mem_range'_1]
    constructor
    · rintro ⟨row, ⟨n, hn, rfl⟩, rfl, hport⟩
      refine ⟨rfl, ?_⟩
      simp only [← BitVec.toNat_inj, BitVec.toNat_ofNat] at hport
      by_cases hez : p.endPort = 0
      · omega
      · rw [if_pos hez] at hhi
        omega
    · rintro ⟨rfl, hin⟩
      rcases hin with ⟨hz, -⟩ | hin
      · exact ⟨⟨pr, 0#16⟩, ⟨0, by omega, rfl⟩, rfl, .inr rfl⟩
      · refine ⟨⟨pr, q⟩, ⟨q.toNat, by omega, ?_⟩, rfl, .inl rfl⟩
        rw [BitVec.ofNat_toNat, BitVec.setWidth_eq]

theorem hfCompilePorts_iff (rule : HfRule) (proto : U8) (q : U16) :
    (∃ row ∈ hfCompilePorts rule.ports, row.proto = proto ∧ (row.port = q ∨ row.port = 0#16)) ↔
      RuleAdmitsPort rule proto q := by
  unfold hfCompilePorts RuleAdmitsPort
  by_cases hnil : rule.ports = []
  · simp [hnil, @eq_comm _ proto]
  rw [if_neg (by simpa using hnil), if_neg hnil]
  simp only [← hfCompilePort_iff, List.mem_flatMap]
  constructor
  · rintro ⟨row, ⟨p, hp, hrow⟩, hrest⟩
    exact ⟨p, hp, row, hrow, hrest⟩
  · rintro ⟨p, hp, row, hrow, hrest⟩
    exact ⟨row, ⟨p, hp, hrow⟩, hrest⟩

theorem hfFamily_inj {a b : Bool} : hfFamily a = hfFamily b ↔ a = b := by
  revert a b
  decide

variable {proto : U8} {a : Ip}

variable {row : HfPortRow}

theorem hfRange_holds {port : U16} {c : IPNet} :
    (hfRange row c).holds (hfScope a.isV4 proto port) a.key = true ↔
      (row.proto = proto ∧ row.port = port) ∧ c.contains a = true := by
  unfold ScopedRange.holds hfRange hfScope
  rw [Bool.and_eq_true, beq_iff_eq, append_inj, append_inj, hfFamily_inj,
    ← cidrRange_contains c a]
  tauto

theorem hfBlock_admits {cidr : IPNet} {excepts : List IPNet} {port : U16} :
    (hfBlock row cidr excepts).admits (hfScope a.isV4 proto port) a.key = true ↔
      (row.proto = proto ∧ row.port = port) ∧ cidr.contains a = true ∧
        ∀ ex ∈ excepts, ex.contains a = false :=
  Block.admits_iff (fun c => hfRange_holds (c := c)) cidr excepts

theorem hfBlock_union {cidr : IPNet} {excepts : List IPNet} {q : U16} :
    (hfBlock row cidr excepts).admits (hfScope a.isV4 proto q) a.key = true ∨
        (hfBlock row cidr excepts).admits (hfScope a.isV4 proto 0#16) a.key = true ↔
      (row.proto = proto ∧ (row.port = q ∨ row.port = 0#16)) ∧ cidr.contains a = true ∧
        ∀ ex ∈ excepts, ex.contains a = false := by
  rw [hfBlock_admits, hfBlock_admits, ← or_and_right, ← and_or_left]

theorem peerMatches_iff {peer : HfPeer} :
    PeerMatches P peer a ↔ ∃ cidr, P.parseCIDR peer.cidr = some cidr ∧ ∃ excepts,
      peer.except.mapM P.parseCIDR = some excepts ∧ cidr.contains a = true ∧
        ∀ ex ∈ excepts, ex.contains a = false := by
  constructor
  · rintro ⟨cidr, hc, hin, hout⟩
    obtain ⟨excepts, hm⟩ := exists_mapM fun text ht =>
      let ⟨ex, hex, _⟩ := hout text ht
      ⟨ex, hex⟩
    refine ⟨cidr, hc, excepts, hm, hin, fun ex hex => ?_⟩
    obtain ⟨text, ht, hte⟩ := (mapM_some_iff hm).2 ex hex
    obtain ⟨ex', hex', ho⟩ := hout text ht
    rw [hte] at hex'
    rwa [Option.some.inj hex']
  · rintro ⟨cidr, hc, excepts, hm, hin, hout⟩
    refine ⟨cidr, hc, hin, fun text ht => ?_⟩
    obtain ⟨ex, hex, hte⟩ := (mapM_some_iff hm).1 text ht
    exact ⟨ex, hte, hout ex hex⟩

theorem effectivePeers_match {rule : HfRule} :
    (∃ peer ∈ rule.effectivePeers, PeerMatches P peer a) ↔
      rule.peers = [] ∨ ∃ peer ∈ rule.peers, PeerMatches P peer a := by
  unfold HfRule.effectivePeers
  by_cases hnil : rule.peers = []
  · rw [if_pos (by simpa using hnil)]
    refine iff_of_true ?_ (.inl hnil)
    cases a with
    | v4 a => exact ⟨_, .head _, _, P.any4, agree_zero _ _, nofun⟩
    | v6 a => exact ⟨_, .tail _ (.head _), _, P.any6, by
        show (normalizedCIDR (.mask16 0#128 0)).contains (.v6 a) = true
        exact agree_zero _ _, nofun⟩
  · rw [if_neg (by simpa using hnil)]
    simp only [hnil, false_or]

/-- **THE UNION OF THE BLOCKS IS THE API'S MEANING.** -/
theorem union_hfAdmits {d : Dir} (proto : U8) (q : U16) (a : Ip) :
    Union (hfBlocks P hfs nodeLabels d) (hfScope a.isV4 proto q) (hfScope a.isV4 proto 0#16) a.key ↔
      HfAdmits P hfs nodeLabels d proto q a := by
  constructor
  · rintro ⟨x, ⟨hf, hhf, rule, hrule, peer, hpeer, cidr, hc, excepts, hm, row, hrow, rfl⟩, hadm⟩
    obtain ⟨hport, hin⟩ := hfBlock_union.mp hadm
    have hmatch : PeerMatches P peer a := peerMatches_iff.mpr ⟨cidr, hc, excepts, hm, hin⟩
    exact ⟨hf, hhf, rule, hrule, (hfCompilePorts_iff rule proto q).mp ⟨row, hrow, hport⟩,
      effectivePeers_match.mp ⟨peer, hpeer, hmatch⟩⟩
  · rintro ⟨hf, hhf, rule, hrule, hports, hpeers⟩
    obtain ⟨row, hrow, hport⟩ := (hfCompilePorts_iff rule proto q).mpr hports
    obtain ⟨peer, hpeer, hmatch⟩ := effectivePeers_match.mpr hpeers
    obtain ⟨cidr, hc, excepts, hm, hin⟩ := peerMatches_iff.mp hmatch
    exact ⟨_, ⟨hf, hhf, rule, hrule, peer, hpeer, cidr, hc, excepts, hm, row, hrow, rfl⟩,
      hfBlock_union.mpr ⟨hport, hin⟩⟩

/-- The direction is isolated, and its rows installed. -/
structure Enforced (P : HfPlatform) (hfs : List HostFirewall) (nodeLabels : Labels) (d : Dir)
    (m m' : Maps) : Prop where
  installed : ∃ c, compileHostFirewalls P hfs nodeLabels = .ok c ∧ c.isolated d = true ∧
    applyHFDirection m d (c.isolated d) (c.rows d) = (m', none)

section Gate

variable {P : HfPlatform} {hfs : List HostFirewall} {nodeLabels : Labels} {d : Dir} {m m' : Maps}

/-- **WHAT THE GATE ANSWERS**: the two-scope question over the peers' blocks. -/
theorem hfGate_iff (h : Enforced P hfs nodeLabels d m m') (proto : U8) (q : U16) (a : Ip) :
    hfGate (d.table m') proto q a.key (!a.isV4) = true ↔
      Decided (hfBlocks P hfs nodeLabels d) (hfScope a.isV4 proto q) (hfScope a.isV4 proto 0#16)
        a.key := by
  obtain ⟨c, hcomp, hiso, happ⟩ := h.installed
  rw [hiso] at happ
  have hsync := (applyHFDirection_installed happ).1
  rw [← twoLevel_blocks hsync (rows_flatten hcomp d)]
  cases a with
  | v4 a | v6 a => rfl

theorem HfAdmits.mono {hfs' : List HostFirewall} {q : U16}
    (hmore : ∀ hf ∈ hfs, ∀ rule, DirRule P nodeLabels d hf rule →
      ∃ hf' ∈ hfs', DirRule P nodeLabels d hf' rule)
    (h : HfAdmits P hfs nodeLabels d proto q a) : HfAdmits P hfs' nodeLabels d proto q a := by
  obtain ⟨hf, hhf, rule, hrule, hadm⟩ := h
  obtain ⟨hf', hhf', hrule'⟩ := hmore hf hhf rule hrule
  exact ⟨hf', hhf', rule, hrule', hadm⟩

/-- **THE VERDICT IS THE UNION EXACTLY WHEN** no CIDR or exception is in the way of another peer's: no
    longer exception of another peer masks the CIDRs that admit the address, none at the exact port
    hides what the any-port rows admit, and no CIDR swallows the exceptions of those around it. Where
    that is so before and after, objects and rules that are added revoke nothing. -/
theorem hfGate_union_iff (h : Enforced P hfs nodeLabels d m m') (proto : U8) (q : U16) (a : Ip) :
    ((hfGate (d.table m') proto q a.key (!a.isV4) = true ↔ HfAdmits P hfs nodeLabels d proto q a) ↔
      Clear (hfBlocks P hfs nodeLabels d) (hfScope a.isV4 proto q) (hfScope a.isV4 proto 0#16)
        a.key) ∧
    ∀ hfs' m₁ m₁', Enforced P hfs' nodeLabels d m₁ m₁' →
      (∀ hf ∈ hfs, ∀ rule, DirRule P nodeLabels d hf rule →
        ∃ hf' ∈ hfs', DirRule P nodeLabels d hf' rule) →
      Clear (hfBlocks P hfs nodeLabels d) (hfScope a.isV4 proto q) (hfScope a.isV4 proto 0#16)
        a.key →
      Clear (hfBlocks P hfs' nodeLabels d) (hfScope a.isV4 proto q) (hfScope a.isV4 proto 0#16)
        a.key →
      hfGate (d.table m') proto q a.key (!a.isV4) = true →
      hfGate (d.table m₁') proto q a.key (!a.isV4) = true := by
  have hexact : ∀ {hfs m m'}, Enforced P hfs nodeLabels d m m' →
      ((hfGate (d.table m') proto q a.key (!a.isV4) = true ↔
          HfAdmits P hfs nodeLabels d proto q a) ↔
        Clear (hfBlocks P hfs nodeLabels d) (hfScope a.isV4 proto q) (hfScope a.isV4 proto 0#16)
          a.key) := by
    intro hfs m m' h
    rw [hfGate_iff h, ← union_hfAdmits, ← union_iff_decided]
    exact iff_comm
  refine ⟨hexact h, fun hfs' m₁ m₁' h' hmore hclear hclear' hpass => ?_⟩
  exact ((hexact h').mpr hclear').mpr (((hexact h).mpr hclear).mp hpass |>.mono hmore)

end Gate

def demoPlatform : HfPlatform where
  selector sel :=
    if sel.matchExpressions.isEmpty then some fun l => sel.matchLabels.all fun kv => l.contains kv
    else none
  parseCIDR text :=
    if text = "0.0.0.0/0" then some (.mask4 0#32 0)
    else if text = "::/0" then some (.mask16 0#128 0)
    else if text = "10.0.0.0/8" then some (.mask4 0x0a000000#32 8)
    else if text = "10.1.0.0/16" then some (.mask4 0x0a010000#32 16)
    else if text = "10.1.2.0/24" then some (.mask4 0x0a010200#32 24)
    else none
  any4 := rfl
  any6 := rfl

/-- SSH from a CIDR, less the exceptions, to every node. -/
def sshFirewall (cidr : String) (except : List String) : HostFirewall :=
  ⟨⟨[], []⟩, [], [⟨[⟨cidr, except⟩], [⟨.tcp, 22, 0⟩]⟩], []⟩

/-- SSH from all of 10.0.0.0/8. -/
def openSsh : HostFirewall := sshFirewall "10.0.0.0/8" []

/-- SSH from 10.0.0.0/8 but 10.1.0.0/16. -/
def guardedSsh : HostFirewall := sshFirewall "10.0.0.0/8" ["10.1.0.0/16"]

/-- SSH from 10.1.2.0/24, a part of what `guardedSsh` excepts. -/
def officeSsh : HostFirewall := sshFirewall "10.1.2.0/24" []

/-- The maps of a node under the given objects. -/
def ingressMaps (hfs : List HostFirewall) : Maps :=
  match compileHostFirewalls demoPlatform hfs [] with
  | .ok c => (applyHFDirection Maps.empty .ingress (c.isolated .ingress) (c.rows .ingress)).1
  | .error _ => Maps.empty

def exceptedClient : Ip := .v4 0x0a010203#32

theorem ssh_enforced {hfs : List HostFirewall}
    (h : hfs = [openSsh] ∨ hfs = [openSsh, guardedSsh] ∨ hfs = [officeSsh] ∨
      hfs = [guardedSsh, officeSsh]) :
    Enforced demoPlatform hfs [] .ingress Maps.empty (ingressMaps hfs) := by
  rcases h with rfl | rfl | rfl | rfl <;> exact ⟨_, rfl, rfl, rfl⟩

/-- Beside objects whose only exception is 10.1.0.0/16, the /24 is the longest at its client. -/
theorem office_clear {hfs : List HostFirewall} (hoffice : officeSsh ∈ hfs)
    (hex : ∀ hf ∈ hfs, ∀ rule ∈ hf.rules .ingress, ∀ peer ∈ rule.effectivePeers,
      ∀ text ∈ peer.except, text = "10.1.0.0/16") :
    Clear (hfBlocks demoPlatform hfs [] .ingress) (hfScope true ipprotoTcp 22#16)
      (hfScope true ipprotoTcp 0#16) exceptedClient.key := by
  have hb : hfBlock ⟨ipprotoTcp, 22#16⟩ (.mask4 0x0a010200#32 24) [] ∈
      hfBlocks demoPlatform hfs [] .ingress :=
    ⟨officeSsh, hoffice, _, ⟨rfl, rfl, .head _⟩, _, .head _, _, rfl, [], rfl, _, .head _, rfl⟩
  have hasked : Mentions (hfBlocks demoPlatform hfs [] .ingress) (hfScope true ipprotoTcp 22#16)
      exceptedClient.key := ⟨_, hb, .inl (by decide)⟩
  refine clear_of_longest ((asked_first hasked).mpr rfl) hb (by decide) ?_
  rintro c ⟨hf, hhf, rule, hrule, peer, hpeer, cidr, -, excepts, hm, row, -, rfl⟩ x hx -
  obtain ⟨ex, hmem, rfl⟩ := List.mem_map.mp hx
  obtain ⟨text, ht, hte⟩ := (mapM_some_iff hm).2 ex hmem
  rw [hex hf hhf rule hrule.2.2 peer hpeer text ht] at hte
  cases hte
  show 96 + 16 ≤ 96 + 24
  decide

theorem hfGate_union_office :
    (hfGate (ingressMaps [guardedSsh, officeSsh]).hfAllow ipprotoTcp 22#16 exceptedClient.key false =
        true ↔
      HfAdmits demoPlatform [guardedSsh, officeSsh] [] .ingress ipprotoTcp 22#16 exceptedClient) ∧
    (hfGate (ingressMaps [officeSsh]).hfAllow ipprotoTcp 22#16 exceptedClient.key false = true →
      hfGate (ingressMaps [guardedSsh, officeSsh]).hfAllow ipprotoTcp 22#16 exceptedClient.key
        false = true) := by
  have hboth : Enforced demoPlatform [guardedSsh, officeSsh] [] .ingress Maps.empty _ :=
    ssh_enforced (.inr (.inr (.inr rfl)))
  have halone : Enforced demoPlatform [officeSsh] [] .ingress Maps.empty _ :=
    ssh_enforced (.inr (.inr (.inl rfl)))
  have hclear : Clear (hfBlocks demoPlatform [guardedSsh, officeSsh] [] .ingress) _ _ _ :=
    office_clear (.tail _ (.head _)) (by decide)
  refine ⟨(hfGate_union_iff hboth ipprotoTcp 22#16 exceptedClient).1.mpr hclear, ?_⟩
  refine (hfGate_union_iff halone ipprotoTcp 22#16 exceptedClient).2 _ _ _ hboth ?_
    (office_clear (.head _) (by decide)) hclear
  exact fun hf hhf rule hrule => ⟨hf, .tail _ hhf, hrule⟩

/-- **ADDING AN OBJECT REVOKES TRAFFIC**: one object admits SSH from 10.0.0.0/8; beside one that
    excepts 10.1.0.0/16, clients of that range are refused. -/
theorem hfGate_revoked_by_other_object :
    (Enforced demoPlatform [openSsh] [] .ingress Maps.empty (ingressMaps [openSsh]) ∧
      hfGate (ingressMaps [openSsh]).hfAllow ipprotoTcp 22#16 exceptedClient.key false = true) ∧
    Enforced demoPlatform [openSsh, guardedSsh] [] .ingress Maps.empty
        (ingressMaps [openSsh, guardedSsh]) ∧
      HfAdmits demoPlatform [openSsh, guardedSsh] [] .ingress ipprotoTcp 22#16 exceptedClient ∧
      hfGate (ingressMaps [openSsh, guardedSsh]).hfAllow ipprotoTcp 22#16 exceptedClient.key false =
        false := by
  refine ⟨⟨ssh_enforced (.inl rfl), by decide +kernel⟩, ssh_enforced (.inr (.inl rfl)), ?_,
    by decide +kernel⟩
  refine ⟨openSsh, .head _, _, ⟨rfl, rfl, .head _⟩, ?_,
    Or.inr ⟨_, .head _, .mask4 0x0a000000#32 8, rfl, by decide, nofun⟩⟩
  exact ⟨⟨.tcp, 22, 0⟩, .head _, rfl, .inr (by decide)⟩

end CozyHf
