import Cozyplane.ServiceProofs

/-!
# Steering — the node-local resolver and the organisation Gateway

Two platform services a VPC pod may reach although they live outside its VPC: the
split-horizon resolver (`dns_steer` / `dns_return`) and its organisation's Gateway
(`gw_steer` / `gw_return`). Both re-source the flow to the pod's fabric address, which is
what makes the reply findable: `bridges` maps it back to the pod.
-/

namespace CozySteer

open CozyPacket CozyMaps CozyDatapath CozyPolicy CozyNat CozyService

/-- `dns_destination`: the cluster DNS address of the family, or any cluster-internal
    address while one is configured. -/
def dnsDestination (m : Maps) (p : Pkt) : Bool :=
  m.dnsIps p.isV6 != 0#128 && (m.dnsIps p.isV6 == p.dst || isInternal m p.dst)

/-- The configured resolver port, 0 when steering is off. -/
def resolverPort (m : Maps) : U16 := (cfg m cfgResolverPort).setWidth 16

/-- `dns_steer`. The destination is recorded before the node address is known, so a late miss leaves
    the record behind. -/
def dnsSteer (m : Maps) (f : Flows) (skb : Skb) (p : Pkt) (srcnet : U32) : Attempt :=
  if resolverPort m = 0#16 then .miss f
  else
    match svcPorts skb.frame p with
    | none => .miss f
    | some (sport, dport) =>
      if dport ≠ 53#16 ∨ dnsDestination m p = false then .miss f
      else
        match m.fabricOf ⟨srcnet, p.src⟩ with
        | none => .miss f
        | some fab =>
          let f' := { f with
            dnsCt := Function.update f.dnsCt ⟨p.proto, sport, fab⟩ (some p.dst) }
          let node := if p.isV6 then m.nodeIp6 else v4To128 (cfg m cfgNodeIp)
          let unset := if p.isV6 then m.nodeIp6 == 0#128 else cfg m cfgNodeIp == 0#32
          if unset then .miss f'
          else
            .done (okOut f' { skb with
              frame := ((skb.frame.setSrc fab).setDst node).setDport (resolverPort m) })

/-- `dns_return`; `none` is `DNS_MISS`. -/
def dnsReturn (m : Maps) (f : Flows) (skb : Skb) (p : Pkt) : Option Out :=
  if resolverPort m = 0#16 then none
  else
    match svcPorts skb.frame p with
    | none => none
    | some (sport, dport) =>
      let fromNode :=
        if p.isV6 then m.nodeIp6 != 0#128 && m.nodeIp6 == p.src
        else v4Of128 p.src == cfg m cfgNodeIp
      if sport ≠ resolverPort m ∨ fromNode = false then none
      else
        match bridgeOf m p.dst with
        | none => none
        | some be =>
          let answer (orig : Addr) : Out :=
            okOut f { skb with
              frame := ((skb.frame.setSrc orig).setDst be.vpcIp).setSport 53#16 }
          match f.dnsCt ⟨p.proto, dport, p.dst⟩ with
          | some orig => some (answer orig)
          | none => if m.dnsIps p.isV6 = 0#128 then none else some (answer (m.dnsIps p.isV6))

def orgGwPort (port : U16) : Bool := port == 80#16 || port == 443#16

/-- `gw_steer`, for an IPv4 TCP packet; `none` is `GW_MISS`. -/
def gwSteer (m : Maps) (f : Flows) (skb : Skb) (p : Pkt) (srcnet : U32) (foreign : Bool) :
    Option Out :=
  if ihlNot5 skb.frame then none
  else
    match l4Ports skb.frame with
    | none => none
    | some (sport, dport) =>
      if !orgGwPort dport || !m.orgGw ⟨srcnet, p.dst⟩ then none
      else if foreign then some (shotOut f skb)
      else if !nsEgressOk m skb.frame srcnet false ipprotoTcp p.src p.dst then
        some (shotOut f skb)
      else
        match m.fabricOf ⟨srcnet, p.src⟩ with
        | none => some (shotOut f skb)
        | some fab =>
          let f' := { f with
            orgGwCt := Function.update f.orgGwCt ⟨fab, p.dst, sport, dport⟩ (some srcnet) }
          some ⟨f', { skb with frame := skb.frame.setSrc fab }, .next⟩

/-- `gw_return`: the rewritten frame, or `none` when the packet is not a recorded reply. -/
def gwReturn (m : Maps) (f : Flows) (skb : Skb) (p : Pkt) : Option Skb :=
  if p.isV6 || p.proto != ipprotoTcp || ihlNot5 skb.frame then none
  else
    match l4Ports skb.frame with
    | none => none
    | some (sport, dport) =>
      let deliver (net : U32) (fr : Frame) : Option Skb :=
        match bridgeOf m p.dst with
        | none => none
        | some be =>
          if be.net ≠ net then none else some { skb with frame := fr.setDst be.vpcIp }
      -- the direct form first, then a programmed proxy endpoint
      match (if orgGwPort sport then f.orgGwCt ⟨p.dst, p.src, dport, sport⟩ else none) with
      | some net => deliver net skb.frame
      | none =>
        match m.orgGwBe ⟨p.src, sport⟩ with
        | none => none
        | some proxied =>
          match f.orgGwCt ⟨p.dst, proxied.addr, dport, proxied.port⟩ with
          | none => none
          | some net => deliver net (snatTo skb.frame proxied.addr sport proxied.port)

end CozySteer
