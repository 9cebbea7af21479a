import Cozyplane.HostFirewallProofs

/-! # Host firewall budget — the preflight bounds the rows, the map is smaller

`validateHFCompilation` counts the rows of a set of objects without building them, and refuses a
direction with more than 65536. The pinned maps behind `syncHFRules` have 16384 entries.
-/

namespace CozyHfBudget

open PrefixTable RangePolicy Accumulate CozyHf CozyPacket
open CozyNpCompile (Labels)

def portRows (rule : HfRule) : Nat :=
  (if rule.ports.isEmpty then 2 else 0) + (rule.ports.map countPort).sum

def peerRows (rule : HfRule) : Nat :=
  (if rule.peers.isEmpty then 2 else 0) + (rule.peers.map fun p => p.except.length + 1).sum

variable {P : HfPlatform} {nodeLabels : Labels}

end CozyHfBudget
