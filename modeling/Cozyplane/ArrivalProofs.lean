import Cozyplane.DecapIsolationProofs

/-!
# Arrival — from one node's verdict to another pod's doorstep

A program's verdict is not the end of a packet: a redirect runs `to_pod` at the veth it
names, a tunnel runs `from_overlay` on another node, which may deliver or tunnel again.

A frame handed to the host stack does not arrive: the stack does not forward link-local
sources, and what it forwards comes back through the hooks as a new packet.
-/

namespace CozyArrival

open CozyPacket CozyMaps CozyDatapath CozyNat CozyService
open CozyFromPod CozyReceive

variable {m m' : Maps} {f : Flows} {skb : Skb} {p : Pkt}

/-- What a receiver's link exemption goes by: the source, and whether the frame may be one of its
    messages. -/
structure Face where
  src : Addr
  control : Bool

/-- RA, NS or NA with hop limit 255 and code 0, or UDP from port 547. -/
def mayControl (h : Ip6) (l : List U8) : Bool :=
  (h.nexthdr == ipprotoIcmpv6 && h.hopLimit == 255#8 && (load8 l 1).getD 0#8 == 0#8 &&
      ((load8 l 0).getD 0#8 == 134#8 || (load8 l 0).getD 0#8 == 135#8 ||
        (load8 l 0).getD 0#8 == 136#8)) ||
    (h.nexthdr == ipprotoUdp && (load16 l 0).getD 0#16 == 547#16)

/-- The face of a v6 frame. -/
def face : Frame → Option Face
  | .ip6 h l => some ⟨h.saddr, mayControl h l⟩
  | _ => none

/-- The frame may be a link control message. -/
def controlFrame (fr : Frame) : Bool := (face fr).any Face.control

variable {out : Out}

/-- Only a redirect or a tunnel leads to an arrival. -/
def carried : Act → Bool
  | .deliver .. => true
  | .tunnel .. => true
  | _ => false

end CozyArrival
