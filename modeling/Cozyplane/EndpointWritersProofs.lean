import Cozyplane.CallsProofs
import Cozyplane.VethRecordProofs

/-!
# Endpoint writers — the programs that touch a veth's record and its map entries

The agent and any number of CNI processes write the same three places: the alias of a host veth,
its row in `ports`, and the rows in `locals` that point at it. None of the writers is atomic, and
each kernel call in them may fail. What they share is the bridge lock.

Each writer of the source is one program here, with the same calls in the same order.
-/

namespace CozyEndpointWriters

open Calls CozyPacket CozyMaps CozyDatapath CozyVethRecord
open CozyCidr (addr128 IPNet normalizedCIDR)

/-- A link as netlink reports it. -/
structure Link where
  index : U32
  veth : Bool
  name : String
  aliasText : String
  deriving DecidableEq

/-- `overlayFwdCidrKey`. -/
structure FwdCidrKey where
  prefixlen : Nat
  scopeNet : U32
  family : U32
  addr : Addr
  deriving DecidableEq

abbrev Err := String

/-- The calls of the writers. The last five read routes or write the bridge and neighbour tables
    alone, and are one call each. -/
inductive Request where
  | lock
  | unlock
  | linkByIndex (index : U32)
  | linkList
  | setAlias (index : U32) (text : String)
  | getPort (index : U32)
  | putPort (index : U32) (rawNet : U32)
  | getLocal (key : LocalKey)
  | putLocal (key : LocalKey) (ep : Endpoint)
  | delLocal (key : LocalKey)
  | fwdCidrs
  | putFwdCidr (key : FwdCidrKey)
  | delFwdCidr (key : FwdCidrKey)
  | fabricRouteIP (index : U32)
  | fabricRouteOwned (index : U32) (ip : Addr)
  | addFabricNeigh (fabricIP hostVeth : String) (mac : Mac)
  | setBridge (fabricIP vpcIP hostVeth : String) (net : U32)
  | delOwnedBridge (fabricIP hostVeth : String)

def Answer : Request → Type
  | .lock => Except Err Unit
  | .unlock => Unit
  | .linkByIndex _ => Except Err Link
  | .linkList => Except Err (List Link)
  | .setAlias _ _ => Except Err Unit
  | .getPort _ => Except Err (Option U32)
  | .putPort _ _ => Except Err Unit
  | .getLocal _ => Except Err (Option Endpoint)
  | .putLocal _ _ => Except Err Unit
  | .delLocal _ => Except Err Unit
  | .fwdCidrs => Except Err (List (FwdCidrKey × U8))
  | .putFwdCidr _ => Except Err Unit
  | .delFwdCidr _ => Except Err Unit
  | .fabricRouteIP _ => Except Err String
  | .fabricRouteOwned _ _ => Except Err Bool
  | .addFabricNeigh _ _ _ => Except Err Unit
  | .setBridge _ _ _ _ => Except Err Unit
  | .delOwnedBridge _ _ => Except Err Unit

/-- A program that stops at the first error. -/
abbrev Kernel (ρ : Type) := ExceptT Err (Prog Answer) ρ

def linkByIndex (index : U32) : Kernel Link := .mk (ask (A := Answer) (.linkByIndex index))

def linkList : Kernel (List Link) := .mk (ask (A := Answer) .linkList)

def linkSetAlias (index : U32) (text : String) : Kernel Unit :=
  .mk (ask (A := Answer) (.setAlias index text))

def portsLookup (index : U32) : Kernel (Option U32) := .mk (ask (A := Answer) (.getPort index))

def portsPut (index rawNet : U32) : Kernel Unit := .mk (ask (A := Answer) (.putPort index rawNet))

def localsLookup (key : LocalKey) : Kernel (Option Endpoint) :=
  .mk (ask (A := Answer) (.getLocal key))

def localsPut (key : LocalKey) (ep : Endpoint) : Kernel Unit :=
  .mk (ask (A := Answer) (.putLocal key ep))

def localsDelete (key : LocalKey) : Kernel Unit := .mk (ask (A := Answer) (.delLocal key))

def fwdCidrs : Kernel (List (FwdCidrKey × U8)) := .mk (ask (A := Answer) .fwdCidrs)

def fwdCidrsPut (key : FwdCidrKey) : Kernel Unit := .mk (ask (A := Answer) (.putFwdCidr key))

def fwdCidrsDelete (key : FwdCidrKey) : Kernel Unit := .mk (ask (A := Answer) (.delFwdCidr key))

def fabricRouteIP (index : U32) : Kernel String := .mk (ask (A := Answer) (.fabricRouteIP index))

def fabricRouteOwned (index : U32) (ip : Addr) : Kernel Bool :=
  .mk (ask (A := Answer) (.fabricRouteOwned index ip))

def addFabricNeigh (fabricIP hostVeth : String) (mac : Mac) : Kernel Unit :=
  .mk (ask (A := Answer) (.addFabricNeigh fabricIP hostVeth mac))

def setBridge (fabricIP vpcIP hostVeth : String) (net : U32) : Kernel Unit :=
  .mk (ask (A := Answer) (.setBridge fabricIP vpcIP hostVeth net))

def delOwnedBridge (fabricIP hostVeth : String) : Kernel Unit :=
  .mk (ask (A := Answer) (.delOwnedBridge fabricIP hostVeth))

/-- `if c { return err }`. -/
def refuse (c : Prop) [Decidable c] (e : Err) : Kernel Unit := if c then throw e else pure ()

/-- `if c { x }`. -/
def onlyIf (c : Prop) [Decidable c] (x : Kernel Unit) : Kernel Unit := if c then x else pure ()

def orRefuse {ρ : Type} (v : Option ρ) (e : Err) : Kernel ρ :=
  match v with
  | none => throw e
  | some v => pure v

/-- `fmt.Errorf("…: %w", err)`. -/
def wrap {ρ : Type} (label : String) (x : Kernel ρ) : Kernel ρ := x.adapt (label ++ ·)

/-- If `x` fails, run `cleanup`, drop its result, and fail as `x` did. -/
def onFailure {ρ : Type} (x : Kernel ρ) (cleanup : Kernel Unit) : Kernel ρ := .mk do
  match ← x.run with
  | .ok v => pure (.ok v)
  | .error e =>
    let _ ← cleanup.run
    pure (.error e)

/-- The lock may be refused; once taken it is given back however `fn` ends. -/
def withBridgeLock {ρ : Type} (fn : Kernel ρ) : Kernel ρ := .mk do
  match ← ask (A := Answer) .lock with
  | .error e => pure (.error e)
  | .ok () =>
    let r ← fn.run
    let _ ← ask (A := Answer) .unlock
    pure r

def ifindex (index : U32) : Kernel U32 :=
  if index.toNat < 1 ∨ 2147483647 < index.toNat then
    throw ("invalid interface index " ++ toString index.toNat)
  else pure index

section

variable (X : Texts)

/-- A value other than the quarantine one must be the one the alias carries. -/
def checkPort (index netID : U32) : Kernel Unit :=
  if netID ≠ portQuarantine then do
    let link ← linkByIndex index
    refuse ((parseVethAlias X link.aliasText).any fun r =>
      r.rawNet == portQuarantine || r.rawNet != netID) "port state changed before map update"
  else pure ()

def setPortNet (index netID : U32) : Kernel Unit := do
  let key ← ifindex index
  checkPort X index netID
  wrap "set port net: " (portsPut key netID)

/-- `SetPortNet`. -/
def lockedSetPortNet (index netID : U32) : Kernel Unit := do
  let _ ← ifindex index
  withBridgeLock (setPortNet X index netID)

def getPortState (index : U32) : Kernel (Option U32) := do
  let key ← ifindex index
  wrap "get port net: " (portsLookup key)

def localKey (net : U32) (ip : Addr) : LocalKey := ⟨net, addr128 ip⟩

def getLocal (net : U32) (ip : Addr) : Kernel (Option Endpoint) :=
  wrap "lookup local: " (localsLookup (localKey net ip))

def delLocal (net : U32) (ip : Addr) : Kernel Unit :=
  wrap "del local: " (localsDelete (localKey net ip))

/-- Delete the entry if it points at the link. -/
def delLocalAt (net : U32) (ip : Addr) (index : U32) : Kernel Unit := do
  let found ← getLocal net ip
  onlyIf (found.any fun ep => ep.ifindex == index) (delLocal net ip)

def delLocalIfOwned (net : U32) (ip : Addr) (index : U32) : Kernel Unit :=
  withBridgeLock (delLocalAt net ip index)

/-- The owner digest an entry gets from the alias. -/
def aliasOwner (text : String) : BitVec 256 :=
  CozySgMembers.sgEndpointOwner X.toTexts
    ⟨(vethPortIdentity X text).uid, (vethSandbox X text).1, (vethSandbox X text).2⟩

def setLocal (net : U32) (ip : Addr) (index : U32) : Kernel Unit := do
  let key ← ifindex index
  let link ← wrap "find local endpoint: " (linkByIndex index)
  onlyIf ((vethPortIdentity X link.aliasText).staged = false) do
    refuse ((parseVethAlias X link.aliasText).any fun r =>
      r.rawNet == portQuarantine || portNet r.rawNet != net)
      "local endpoint state changed before map update"
    wrap "set local: " (localsPut (localKey net ip) ⟨key, aliasOwner X link.aliasText⟩)

/-- `SetLocal`. -/
def lockedSetLocal (net : U32) (ip : Addr) (index : U32) : Kernel Unit := do
  let _ ← ifindex index
  withBridgeLock (setLocal X net ip index)

def rebuildFabricLocal (index : U32) (ip : Addr) : Kernel Unit :=
  withBridgeLock do
    let owned ← fabricRouteOwned index ip
    if owned then setLocal X 0#32 ip index else delLocalAt 0#32 ip index

def readsRevoked (text : String) : Bool :=
  (parseVethAlias X text).any fun r => r.rawNet == portQuarantine

def setVethAlias (link : Link) (r : Record) : Kernel Unit := do
  let current ← linkByIndex link.index
  refuse (readsRevoked X current.aliasText = true ∧ r.rawNet ≠ portQuarantine)
    "revoked veth requires a new sandbox"
  wrap "set veth alias: " (linkSetAlias link.index
    (fullAlias X r (vethSandbox X current.aliasText).1 (vethSandbox X current.aliasText).2
      (vethPortIdentity X current.aliasText)))

/-- `SetVethAlias`. -/
def lockedSetVethAlias (link : Link) (r : Record) : Kernel Unit :=
  withBridgeLock (setVethAlias X link r)

/-- The kernel takes no longer alias. -/
def checkLength (text : String) : Kernel Unit :=
  refuse (255 < text.utf8ByteSize) "endpoint alias exceeds Linux limit"

def setVethSandbox (link : Link) (containerID ifName : String) : Kernel Unit :=
  withBridgeLock do
    let current ← linkByIndex link.index
    let r ← orRefuse (parseVethAlias X current.aliasText)
      "cannot record sandbox on invalid veth alias"
    let text := fullAlias X r containerID ifName (vethPortIdentity X current.aliasText)
    checkLength text
    linkSetAlias current.index text

/-- The record of an alias that is valid and not revoked. -/
def activeRecord (text : String) : Option Record :=
  (parseVethAlias X text).filter fun r => r.rawNet != portQuarantine

/-- Refresh the entries of the veth's addresses that are there and point at it. -/
def refreshLocals (r : Record) (index : U32) : Kernel Unit :=
  r.ips.forM fun ip => do
    let found ← getLocal (portNet r.rawNet) ip
    onlyIf (found.any fun ep => ep.ifindex == index) (setLocal X (portNet r.rawNet) ip index)

def adoptVethPortIdentity (index : U32) (expectedAlias : String) (id : PortVethIdentity) :
    Kernel String :=
  withBridgeLock do
    let link ← linkByIndex index
    refuse (link.veth = false ∨ link.aliasText ≠ expectedAlias)
      "endpoint changed before ownership adoption"
    let r ← orRefuse ((activeRecord X expectedAlias).filter fun _ => id.uid != "")
      "invalid endpoint ownership adoption"
    refuse ((vethPortIdentity X expectedAlias).uid ≠ "" ∧
      (vethPortIdentity X expectedAlias).uid ≠ id.uid)
      "endpoint belongs to another Port generation"
    let updated := fullAlias X r (vethSandbox X expectedAlias).1 (vethSandbox X expectedAlias).2 id
    checkLength updated
    linkSetAlias link.index updated
    onlyIf (id.staged = false ∧ portNet r.rawNet ≠ 0#32) (refreshLocals X r index)
    pure updated

def recordLegacyVethSandbox (index : U32) (expectedAlias containerID ifName : String) :
    Kernel Unit := do
  refuse (containerID = "" ∨ ifName = "") "incomplete sandbox witness"
  withBridgeLock do
    let link ← linkByIndex index
    refuse (link.veth = false ∨ link.aliasText ≠ expectedAlias)
      "endpoint changed before sandbox recovery"
    let r ← orRefuse (activeRecord X expectedAlias) "invalid endpoint for sandbox recovery"
    refuse ((vethSandbox X expectedAlias).1 ≠ "" ∨ (vethSandbox X expectedAlias).2 ≠ "")
      "endpoint already records a sandbox"
    let text := fullAlias X r containerID ifName (vethPortIdentity X expectedAlias)
    checkLength text
    linkSetAlias link.index text

def endpointVeth (link : Link) (containerID ifName : String) (id : PortVethIdentity) :
    Kernel Link := do
  let current ← linkByIndex link.index
  refuse (current.veth = false ∨ current.name ≠ link.name) "endpoint link changed"
  refuse (readsRevoked X current.aliasText = true) "revoked veth requires a new sandbox"
  refuse ((vethPortIdentity X current.aliasText).uid ≠ "" ∧
    (vethPortIdentity X current.aliasText).uid ≠ id.uid)
    "endpoint belongs to another Port generation"
  refuse ((vethSandbox X current.aliasText).1 ≠ "" ∧
    ((vethSandbox X current.aliasText).1 ≠ containerID ∨
      (vethSandbox X current.aliasText).2 ≠ ifName))
    "endpoint belongs to another sandbox"
  pure current

/-- Only a verified cutover activates a staged endpoint. -/
def setEndpointVethAlias (link : Link) (r : Record) (containerID ifName : String)
    (id : PortVethIdentity) : Kernel Unit := do
  let current ← endpointVeth X link containerID ifName id
  let text := fullAlias X r containerID ifName
    { id with staged := (vethPortIdentity X current.aliasText).staged || id.staged }
  checkLength text
  linkSetAlias current.index text

/-- `SetEndpointVethAlias`. -/
def lockedSetEndpointVethAlias (link : Link) (r : Record) (containerID ifName : String)
    (id : PortVethIdentity) : Kernel Unit :=
  withBridgeLock (setEndpointVethAlias X link r containerID ifName id)

/-- One link of `SetLocalStaging`. -/
def stageLink (net : U32) (ip : Addr) (uid : String) (staged : Bool) (link : Link) : Kernel Unit :=
  let id := vethPortIdentity X link.aliasText
  if uid = "" ∨ id.uid ≠ uid ∨ link.veth = false then pure ()
  else
    match activeRecord X link.aliasText with
    | none => pure ()
    | some r =>
      if portNet r.rawNet ≠ net ∨ ip ∉ r.ips then pure ()
      else do
        linkSetAlias link.index (fullAlias X r (vethSandbox X link.aliasText).1
          (vethSandbox X link.aliasText).2 { id with staged := staged })
        onlyIf (staged = true) (delLocalAt net ip link.index)

def setLocalStaging (net : U32) (ip : Addr) (uid : String) (staged : Bool) : Kernel Unit :=
  withBridgeLock do
    let links ← linkList
    links.forM (stageLink X net ip uid staged)

/-- The veth carries one of the names the CNI gives, and its alias covers the address. -/
def coversAddr (net : U32) (ip : Addr) (containerID ifName : String) (l : Link) : Bool :=
  ("cph".toList.isPrefixOf l.name.toList || "cpg".toList.isPrefixOf l.name.toList) && l.veth &&
    (containerID == "" || vethSandbox X l.aliasText == (containerID, ifName)) &&
    (parseVethAlias X l.aliasText).any fun r => portNet r.rawNet == net && r.ips.contains ip

def vethForAddr (net : U32) (ip : Addr) (containerID ifName : String) : Kernel (Option U32) := do
  let links ← wrap "list links: " linkList
  match links.filter (coversAddr X net ip containerID ifName) with
  | [] => pure none
  | [l] => pure (some l.index)
  | _ :: _ => throw ("multiple local veths for network " ++ toString net.toNat ++ " address " ++
      X.ipString ip ++ " sandbox " ++ containerID)

/-- The section of `EnsureLocalFromVeth` under the lock. -/
def cutover (net : U32) (ip : Addr) (containerID ifName : String) (portUID : Option String)
    (index : U32) : Kernel Unit := do
  let link ← linkByIndex index
  refuse (portUID.any fun uid => (vethPortIdentity X link.aliasText).uid != "" &&
    (vethPortIdentity X link.aliasText).uid != uid) "veth belongs to another Port generation"
  let r ← orRefuse ((activeRecord X link.aliasText).filter fun r =>
    portNet r.rawNet == net && link.veth) "veth is not active"
  refuse (containerID ≠ "" ∧ ((vethSandbox X link.aliasText).1 ≠ containerID ∨
    (vethSandbox X link.aliasText).2 ≠ ifName)) "sandbox changed before cutover"
  refuse (ip ∉ r.ips) "endpoint address changed before cutover"
  refuse (portUID.isSome = true ∧ (vethPortIdentity X link.aliasText).uid = "" ∧ containerID = "")
    "legacy cutover requires a sandbox witness"
  linkSetAlias link.index (fullAlias X r (vethSandbox X link.aliasText).1
    (vethSandbox X link.aliasText).2 ⟨portUID.getD (vethPortIdentity X link.aliasText).uid, false⟩)
  setLocal X net ip index

def ensureLocalFromVeth (net : U32) (ip : Addr) (containerID ifName : String)
    (portUID : Option String) : Kernel Bool := do
  match ← vethForAddr X net ip containerID ifName with
  | none => pure false
  | some index => do
    withBridgeLock (cutover X net ip containerID ifName portUID index)
    pure true

/-- One address of `rebuildVeth`. -/
def rebuildLocal (l : Link) (index : U32) (rawNet : U32) (ip : Addr) : Kernel Unit :=
  if portNet rawNet = 0#32 then rebuildFabricLocal X index ip
  else if (vethPortIdentity X l.aliasText).staged then pure ()
  else lockedSetLocal X (portNet rawNet) ip index

/-- Only the primary leg of a VPC pod has a fabric route, and with it a bridge. -/
def rebuildBridge (l : Link) (r : Record) (ip : Addr) : Kernel Unit := do
  let fabric ← fabricRouteIP l.index
  onlyIf (fabric ≠ "") do
    addFabricNeigh fabric l.name r.mac
    withBridgeLock (setBridge fabric (X.ipString ip) l.name (portNet r.rawNet))

/-- `rebuildVeth`: `l` and the record were read before the first section. -/
def rebuildVeth (l : Link) (index : U32) (r : Record) : Kernel Unit := do
  lockedSetPortNet X index r.rawNet
  onlyIf (r.rawNet ≠ portQuarantine) do
    r.ips.forM (rebuildLocal X l index r.rawNet)
    match r.ips with
    | [ip] => onlyIf (portNet r.rawNet ≠ 0#32) (rebuildBridge X l r ip)
    | _ => pure ()

-- ── forwarding grants

def fwdCIDRKey (index : U32) (cidr : String) : Except Err FwdCidrKey :=
  match X.parseCIDR cidr with
  | none => .error "invalid forwarding CIDR"
  | some c =>
    match normalizedCIDR c with
    | .v4 a n => .ok ⟨64 + (n.val + 96), index, 4#32, v4To128 a⟩
    | .v6 a n => .ok ⟨64 + n.val, index, 6#32, addr128 a⟩

def clearFwdCidrs (index : U32) : Kernel Unit := do
  let rows ← wrap "iterate fwd_cidrs: " fwdCidrs
  (rows.filter fun kv => kv.1.scopeNet == index).forM fun kv => fwdCidrsDelete kv.1

def setFwdCidr (index : U32) (cidr : String) : Kernel Unit :=
  match fwdCIDRKey X index cidr with
  | .error e => throw e
  | .ok key => fwdCidrsPut key

/-- A value without its forwarding flags. -/
def baseNet (rawNet : U32) : U32 := rawNet &&& ~~~(portFForward ||| portFFwdScoped)

def prepareEndpointHooks (link : Link) (containerID ifName : String) (id : PortVethIdentity) :
    Kernel Unit :=
  withBridgeLock do
    let _ ← endpointVeth X link containerID ifName id
    setPortNet X link.index portQuarantine

def configureEndpoint (link : Link) (r : Record) (containerID ifName : String)
    (id : PortVethIdentity) (cidrs : List String) : Kernel Unit :=
  withBridgeLock do
    let _ ← endpointVeth X link containerID ifName id
    setPortNet X link.index portQuarantine
    setEndpointVethAlias X link { r with rawNet := baseNet r.rawNet } containerID ifName id
    clearFwdCidrs link.index
    onlyIf (hasBit r.rawNet portFFwdScoped = true) (cidrs.forM (setFwdCidr X link.index))
    setVethAlias X link r
    r.ips.forM fun ip => setLocal X (portNet r.rawNet) ip link.index
    setPortNet X link.index r.rawNet

/-- `ForwardingEndpoint`. -/
structure ForwardingEndpoint where
  net : U32
  ifindex : U32
  aliasText : String
  allow : Bool
  cidrs : List String
  deriving DecidableEq

/-- The allowlist of a scoped grant: the first CIDR that does not parse ends the loop. -/
def wantedCidrs (d : ForwardingEndpoint) : Except Err (List FwdCidrKey) :=
  if d.allow then (d.cidrs.mapM (fwdCIDRKey X d.ifindex)).map List.dedup else .ok []

def desiredNet (d : ForwardingEndpoint) (base : U32) : U32 :=
  if d.allow then base ||| portFForward ||| (if d.cidrs = [] then 0#32 else portFFwdScoped)
  else base

/-- `maps.Equal` of the programmed rows and the wanted ones. -/
def sameCidrs (rows : List (FwdCidrKey × U8)) (want : List FwdCidrKey) : Bool :=
  rows.length == want.length && rows.all fun kv => want.contains kv.1 && kv.2 == 1#8

def unchanged (d : ForwardingEndpoint) (snapshot : Except Err (List (FwdCidrKey × U8)))
    (rawNet aliasNet : U32) : Bool :=
  match snapshot, wantedCidrs X d with
  | .ok rows, .ok want =>
    rawNet == desiredNet d (baseNet rawNet) && aliasNet == desiredNet d (baseNet rawNet) &&
      sameCidrs (rows.filter fun kv => kv.1.scopeNet == d.ifindex) want
  | _, _ => false

/-- The rows are brought to the wanted ones while the grant is off. -/
def syncCidrs (rows : List (FwdCidrKey × U8)) (want : List FwdCidrKey) : Kernel Unit := do
  (rows.filter fun kv => !want.contains kv.1).forM fun kv => fwdCidrsDelete kv.1
  (want.filter fun key => !rows.contains (key, 1#8)).forM fwdCidrsPut

/-- Take the grant away, change the allowlist, give it back. -/
def regrant (d : ForwardingEndpoint) (snapshot : Except Err (List (FwdCidrKey × U8)))
    (rawNet : U32) (link : Link) (r : Record) : Kernel Unit := do
  onFailure (setVethAlias X link { r with rawNet := baseNet rawNet })
    (setPortNet X d.ifindex (baseNet rawNet))
  setPortNet X d.ifindex (baseNet rawNet)
  let want ← ExceptT.mk (pure (wantedCidrs X d))
  let rows ← ExceptT.mk (pure snapshot)
  syncCidrs (rows.filter fun kv => kv.1.scopeNet == d.ifindex) want
  setVethAlias X link { r with rawNet := desiredNet d (baseNet rawNet) }
  setPortNet X d.ifindex (desiredNet d (baseNet rawNet))

/-- `syncVethForwarding`, from the link on. -/
def syncLink (d : ForwardingEndpoint) (snapshot : Except Err (List (FwdCidrKey × U8)))
    (rawNet : U32) : Kernel Unit := do
  let link ← linkByIndex d.ifindex
  onlyIf (link.veth = true ∧ link.aliasText = d.aliasText) do
    let r ← orRefuse ((activeRecord X link.aliasText).filter fun r => portNet r.rawNet == d.net)
      ("invalid rebuild record for forwarding leg " ++ toString d.ifindex.toNat)
    onlyIf (unchanged X d snapshot rawNet r.rawNet = false) (regrant X d snapshot rawNet link r)

def syncVethForwarding (d : ForwardingEndpoint) (snapshot : Except Err (List (FwdCidrKey × U8))) :
    Kernel Unit := do
  match ← getPortState d.ifindex with
  | none => pure ()
  | some rawNet =>
    onlyIf (rawNet ≠ portQuarantine ∧ portNet rawNet = d.net ∧ hasBit rawNet portFGateway = false)
      (syncLink X d snapshot rawNet)

/-- The entries one after the other; the errors are collected. -/
def syncEntries (snapshot : Except Err (List (FwdCidrKey × U8))) :
    List ForwardingEndpoint → Prog Answer (List Err)
  | [] => pure []
  | d :: ds => do
    match ← (syncVethForwarding X d snapshot).run with
    | .ok () => syncEntries snapshot ds
    | .error e =>
      let es ← syncEntries snapshot ds
      pure (("forwarding endpoint " ++ toString d.ifindex.toNat ++ ": " ++ e) :: es)

/-- `errors.Join`. -/
def joinErrors : List Err → Except Err Unit
  | [] => .ok ()
  | e :: es => .error ("\n".intercalate (e :: es))

def syncEndpointForwarding (entries : List ForwardingEndpoint) : Kernel Unit :=
  onlyIf (entries ≠ []) (withBridgeLock (.mk do
    let snapshot ← fwdCidrs.run
    let es ← syncEntries X snapshot entries
    pure (joinErrors es)))

/-- The section of `SeverVethIfOwned` that revokes: the alias first, then the port. -/
def sever (index : U32) (expectedAlias : String) : Kernel (Option Link) := do
  let link ← linkByIndex index
  if link.veth = false ∨ link.aliasText ≠ expectedAlias then pure none
  else do
    onFailure (setVethAlias X link ⟨portQuarantine, [], []⟩) (setPortNet X index portQuarantine)
    setPortNet X index portQuarantine
    pure (some link)

/-- Sever the port, then its bridge and local rows. -/
def severVethIfOwned (net : U32) (vpcIP : Addr) (index : U32) (expectedAlias fabricIP : String) :
    Kernel Bool := do
  match ← withBridgeLock (sever X index expectedAlias) with
  | none => pure false
  | some link => do
    let address ← wrap "resolve revoked bridge: " (fabricRouteIP link.index)
    let fabric := if address ≠ "" then address else fabricIP
    onlyIf (fabric ≠ "")
      (wrap "remove revoked bridge: " (withBridgeLock (delOwnedBridge fabric link.name)))
    wrap "remove local: " (delLocalIfOwned net vpcIP index)
    (((parseVethAlias X expectedAlias).elim [] Record.ips).filter (· ≠ vpcIP)).forM fun ip =>
      wrap "remove additional local: " (delLocalIfOwned net ip index)
    pure true

/-- A call of one of the writers. -/
inductive Writer where
  | setVethAlias (link : Link) (r : Record)
  | setVethSandbox (link : Link) (containerID ifName : String)
  | adoptVethPortIdentity (index : U32) (expectedAlias : String) (id : PortVethIdentity)
  | recordLegacyVethSandbox (index : U32) (expectedAlias containerID ifName : String)
  | setEndpointVethAlias (link : Link) (r : Record) (containerID ifName : String)
      (id : PortVethIdentity)
  | setLocalStaging (net : U32) (ip : Addr) (uid : String) (staged : Bool)
  | ensureLocalFromVeth (net : U32) (ip : Addr) (containerID ifName : String)
      (portUID : Option String)
  | rebuildVeth (l : Link) (index : U32) (r : Record)
  | setPortNet (index netID : U32)
  | setLocal (net : U32) (ip : Addr) (index : U32)
  | delLocalIfOwned (net : U32) (ip : Addr) (index : U32)
  | prepareEndpointHooks (link : Link) (containerID ifName : String) (id : PortVethIdentity)
  | configureEndpoint (link : Link) (r : Record) (containerID ifName : String)
      (id : PortVethIdentity) (cidrs : List String)
  | syncEndpointForwarding (entries : List ForwardingEndpoint)
  | severVethIfOwned (net : U32) (vpcIP : Addr) (index : U32) (expectedAlias fabricIP : String)

/-- The call, its result dropped. -/
def Writer.run : Writer → Kernel Unit
  | .setVethAlias link r => lockedSetVethAlias X link r
  | .setVethSandbox link cid iface => CozyEndpointWriters.setVethSandbox X link cid iface
  | .adoptVethPortIdentity index text id => do
    let _ ← CozyEndpointWriters.adoptVethPortIdentity X index text id
  | .recordLegacyVethSandbox index text cid iface =>
    CozyEndpointWriters.recordLegacyVethSandbox X index text cid iface
  | .setEndpointVethAlias link r cid iface id => lockedSetEndpointVethAlias X link r cid iface id
  | .setLocalStaging net ip uid staged =>
    CozyEndpointWriters.setLocalStaging X net ip uid staged
  | .ensureLocalFromVeth net ip cid iface portUID => do
    let _ ← CozyEndpointWriters.ensureLocalFromVeth X net ip cid iface portUID
  | .rebuildVeth l index r => CozyEndpointWriters.rebuildVeth X l index r
  | .setPortNet index netID => lockedSetPortNet X index netID
  | .setLocal net ip index => lockedSetLocal X net ip index
  | .delLocalIfOwned net ip index => CozyEndpointWriters.delLocalIfOwned net ip index
  | .prepareEndpointHooks link cid iface id =>
    CozyEndpointWriters.prepareEndpointHooks X link cid iface id
  | .configureEndpoint link r cid iface id cidrs =>
    CozyEndpointWriters.configureEndpoint X link r cid iface id cidrs
  | .syncEndpointForwarding entries =>
    CozyEndpointWriters.syncEndpointForwarding X entries
  | .severVethIfOwned net vpcIP index text fabric => do
    let _ ← CozyEndpointWriters.severVethIfOwned X net vpcIP index text fabric

/-- A process: its calls one after the other. -/
def runAll : List Writer → Prog Answer Unit
  | [] => pure ()
  | c :: cs => do
    let _ ← (c.run X).run
    runAll cs

end

end CozyEndpointWriters
