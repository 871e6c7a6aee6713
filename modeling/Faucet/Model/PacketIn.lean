import Faucet.Model.Valve

/-! # Packet-ins

`parse_pkt_meta` turns an OpenFlow packet-in into the packet's metadata or drops it: a stopped
DP, a foreign cookie, a reason other than an output action, no input port, no data, a header that
does not parse, an unknown VLAN, a multicast or all-zero source, or, on a stacked DP, a non-stack
port sending on a VLAN that is not one of its own. `rate_limit_packet_ins` counts the packet-ins
since `now` last changed and refuses every `ignore_learn_ins`-th for learning.
-/

namespace Faucet

/-- The Ethernet and VLAN header `valve_packet.parse_packet_in_pkt` finds. -/
structure EthHeader where
  ethSrc : Mac
  ethDst : Mac
  ethType : ℕ
  vlanVid : Option Vid
deriving DecidableEq, Repr

/-- `valve_packet.parse_packet_in_pkt(data, max_len)` on the first `MAX_PACKET_IN_BYTES` bytes
of a packet-in, `none` when no Ethernet header parses: `valve_packet.py` is not part of the
repository. -/
abbrev ParsePacketInPkt := List ℕ → Option EthHeader

/-- The fields of an OpenFlow packet-in that `parse_pkt_meta` reads. -/
structure PacketInMsg where
  cookie : ℕ
  reason : ℕ
  /-- `msg.match['in_port']`; `none` for a packet-in without a match. -/
  inPort : Option PortNo
  data : List ℕ
deriving DecidableEq, Repr

/-- The `PacketMeta` fields `valve.py` fills in. -/
structure PacketMeta where
  port : PortConfig
  vlan : Option VlanConfig
  ethSrc : Mac
  ethDst : Mac
  ethType : ℕ
deriving DecidableEq, Repr

/-- `valve_packet.int_from_mac(mac)`: an address is already its integer. -/
def intFromMac (mac : Mac) : ℕ := mac

/-- Modelled from the spec: `valve_packet.mac_addr_is_unicast(mac)` (in `valve_packet.py`)
holds when the group bit, the low bit of the first octet, is clear. -/
def macAddrIsUnicast (mac : Mac) : Bool := mac / 2 ^ 40 % 2 = 0

/-- Modelled from the spec: `valve_packet.mac_addr_all_zeros(mac)` (in `valve_packet.py`). -/
def macAddrAllZeros (mac : Mac) : Bool := mac = 0

namespace Valve

/-- `rate_limit_packet_ins(now)`: whether this packet-in is refused for learning. -/
def rateLimitPacketIns (v : Valve) (now : Time) : Valve × Bool :=
  let reset := if v.lastPacketInSec ≠ now then { v with lastPacketInSec := now, packetInCountSec := 0 }
    else v
  let counted := { reset with packetInCountSec := reset.packetInCountSec + 1 }
  if counted.dp.ignoreLearnIns ≠ 0 ∧ counted.packetInCountSec % counted.dp.ignoreLearnIns = 0 then
    (counted.incVar .ofIgnoredPacketIns, true)
  else (counted, false)

/-- `parse_rcv_packet(in_port, vlan_vid, ...)`: the packet's port and VLAN; a packet on the
global VLAN names its VLAN in its destination address and is delivered to that VLAN's router
address. -/
def parseRcvPacket (v : Valve) (port : PortConfig) (header : EthHeader) : PacketMeta :=
  if header.vlanVid = some v.dp.globalVlan then
    let vlan := v.dp.vlan? (intFromMac header.ethDst)
    ⟨port, vlan, header.ethSrc, (vlan.map (·.faucetMac)).getD header.ethDst, header.ethType⟩
  else ⟨port, header.vlanVid.bind v.dp.vlan?, header.ethSrc, header.ethDst, header.ethType⟩

/-- `parse_pkt_meta(msg)`: the packet's metadata, or `none` when the packet-in is dropped. -/
def parsePktMeta (v : Valve) (parsePacketInPkt : ParsePacketInPkt) (msg : PacketInMsg) :
    Option PacketMeta :=
  if !v.dyn.dynRunning then none
  else if v.dp.strictPacketInCookie ∧ v.dp.cookie ≠ msg.cookie then none
  else if msg.reason ≠ ofprAction then none
  else match msg.inPort with
  | none => none
  | some inPort =>
    match v.dp.port? inPort with
    | none => none
    | some port =>
      if inPort = 0 ∨ msg.data = [] then none
      else match parsePacketInPkt msg.data with
      | none => none
      | some header =>
        if header.vlanVid.any fun vid => vid ∉ v.dp.vlans.map (·.vid) ∧ vid ≠ v.dp.globalVlan then
          none
        else
          let pktMeta := v.parseRcvPacket port header
          if !macAddrIsUnicast pktMeta.ethSrc then none
          else if macAddrAllZeros pktMeta.ethSrc then none
          else if v.dp.stack ∧ pktMeta.port.stack = none ∧
              pktMeta.vlan.any (fun vlan => vlan.vid ∉ pktMeta.port.taggedVlans ∧
                some vlan.vid ≠ pktMeta.port.nativeVlan) then none
          else some pktMeta

end Valve

end Faucet
