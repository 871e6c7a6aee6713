import Faucet.Model.Lacp
import Faucet.Model.StackLink
import Faucet.Model.PacketIn
import Faucet.Model.Metrics

/-! # Receiving a packet

`rcv_packet` hands a packet-in without a VLAN to `lacp_handler` on an LACP port and, unless that
returned messages for some Valve, to `lldp_handler`. A packet on a VLAN goes first to the host
manager's ban rules. If none apply, then with `stack_route_learning` (and past the filter on
packets from a running stack peer) every stacked other Valve with the VLAN and a stack port
toward this DP handles the packet as if it had arrived on that port, and then this Valve handles
it: each learns the source and routes the packet. The host manager, the flood manager's
`edge_learn_port`, the route managers and `dp.shortest_path_port` are not part of the repository:
what they answer is a parameter. Of what they do, a learn ban's count on the VLAN or the port and
`vlan.add_cache_host` change a Valve.
-/

namespace Faucet

/-- What a route manager (`valve_route.py`) answers `router_rcv_packet` for a packet. -/
structure RouteAnswers where
  active : Bool
  /-- Whether `pkt_meta.reparse_ip()` leaves an L3 packet. -/
  l3Pkt : Bool
  controlPlaneHandler : List OfMsg
  addHostFibRouteFromPkt : List OfMsg
  resolveGateways : List OfMsg
  resolveExpireHosts : List OfMsg

/-- The learn ban counter a learn the host manager suppresses counts: the VLAN's
(`vlan.dyn_learn_ban_count`) or the learn port's (`port.dyn_learn_ban_count`), both of which
`update_metrics` exports. -/
inductive LearnBan where
  | vlan
  | port
deriving DecidableEq, Repr

/-- What `host_manager.learn_host_on_vlan_ports(now, port, vlan, eth_src, ...)` returns, the
flows, the port the host was on and whether to update the cache, and the learn ban it counts
when it suppresses the learn. -/
structure LearnAnswer where
  flows : List OfMsg
  previousPort : Option PortConfig
  updateCache : Bool
  ban : Option LearnBan

/-- What `rcv_packet` asks of code outside `valve.py`, for the Valve that asks. -/
structure RcvManagers where
  /-- `host_manager.ban_rules(pkt_meta)`. -/
  banRules : Valve → PacketMeta → List OfMsg
  /-- `flood_manager.edge_learn_port(stacked_valves, pkt_meta)`. -/
  edgeLearnPort : Valve → List Valve → PacketMeta → Option PortConfig
  /-- `host_manager.learn_host_on_vlan_ports(now, port, vlan, eth_src, last_dp_coldstart_time)`. -/
  learnHostOnVlanPorts : Valve → Time → PortConfig → VlanConfig → Mac → LearnAnswer
  /-- `host_manager.learn_host_intervlan_routing_flows(port, vlan, eth_src, eth_dst)`. -/
  learnHostIntervlanRoutingFlows : Valve → PortConfig → VlanConfig → Mac → Mac → List OfMsg
  /-- The route manager `_route_manager_by_eth_type` holds for the packet's `eth_type`, if any,
  with its answers for the packet. -/
  routeManager : Valve → Time → PacketMeta → Option RouteAnswers
  /-- `dp.shortest_path_port(dp_name)`: the stack port toward the named DP. -/
  shortestPathPort : DPConfig → String → Option PortConfig

/-- `port.stack['dp'].dyn_running`: the peer DP is the DP of the Valve of `other_valves` with its
id, and a DP no Valve there has is taken as not running. -/
def peerDpRunning (others : List Valve) (peer : StackPeer) : Bool :=
  (others.find? (·.dp.dpId = peer.dpId)).any (·.dyn.dynRunning)

namespace Valve

/-- Modelled from the spec: `vlan.add_cache_host(eth_src, port, cache_time)` (in `vlan.py`)
caches the host on the port at the time in place of any entry for its address, and marks stale
the stats of the port and of the port the host was cached on. -/
def addCacheHost (v : Valve) (vid : Vid) (ethSrc : Mac) (port : PortConfig) (cacheTime : Time) :
    Valve :=
  let hostCache := (v.dyn.vlan vid).hostCache
  v.hostsChanged vid
    (hostCache.filter (·.ethSrcInt ≠ intFromMac ethSrc) ++
      [⟨intFromMac ethSrc, port.number, cacheTime⟩])
    (port.number :: (hostCache.filter (·.ethSrcInt = intFromMac ethSrc)).map (·.port))

/-- Modelled from the spec: a learn the learn ban suppresses increments the VLAN's or the learn
port's ban counter. -/
def countLearnBan (v : Valve) (vid : Vid) (port : PortConfig) : Option LearnBan → Valve
  | none => v
  | some .vlan => { v with dyn := v.dyn.setVlan vid ({ v.dyn.vlan vid with
      dynLearnBanCount := (v.dyn.vlan vid).dynLearnBanCount + 1 }) }
  | some .port => v.setPortDyn port.number
      { v.dyn.port port.number with dynLearnBanCount := (v.dyn.port port.number).dynLearnBanCount + 1 }

/-- `router_learn_host(pkt_meta)`: the routing flows for a host talking to the VLAN's router. -/
def routerLearnHost (v : Valve) (managers : RcvManagers) (pktMeta : PacketMeta)
    (vlan : VlanConfig) : List OfMsg :=
  if pktMeta.ethSrc = vlan.faucetMac then
    managers.learnHostIntervlanRoutingFlows v pktMeta.port vlan pktMeta.ethSrc pktMeta.ethDst
  else if pktMeta.ethDst = vlan.faucetMac then
    managers.learnHostIntervlanRoutingFlows v pktMeta.port vlan pktMeta.ethDst pktMeta.ethSrc
  else []

/-- `_control_plane_handler(now, pkt_meta, route_manager)`: the route manager answers a packet
to the VLAN's router or to a group address. -/
def controlPlaneHandler (pktMeta : PacketMeta) (vlan : VlanConfig) (route : RouteAnswers) :
    List OfMsg :=
  if pktMeta.ethDst = vlan.faucetMac ∨ !macAddrIsUnicast pktMeta.ethDst then
    route.controlPlaneHandler
  else []

/-- `router_rcv_packet(now, pkt_meta)`: on a VLAN with router addresses, the control plane's
answer, or else the host's FIB route and a resolver pass. -/
def routerRcvPacket (v : Valve) (managers : RcvManagers) (now : Time) (pktMeta : PacketMeta)
    (vlan : VlanConfig) : List OfMsg :=
  if !vlan.faucetVips then []
  else match managers.routeManager v now pktMeta with
    | none => []
    | some route =>
      if !route.active then []
      else if !route.l3Pkt then []
      else
        let controlPlaneOfmsgs := controlPlaneHandler pktMeta vlan route
        if controlPlaneOfmsgs ≠ [] then controlPlaneOfmsgs
        else route.addHostFibRouteFromPkt ++ route.resolveGateways ++ route.resolveExpireHosts

/-- `learn_host(now, pkt_meta, other_valves)` for a packet on `vlan`: learn the source on the
port the flood manager picks, which may count a learn ban, and cache it there when the host
manager says so. -/
def learnHost (v : Valve) (managers : RcvManagers) (now : Time) (pktMeta : PacketMeta)
    (vlan : VlanConfig) (others : List Valve) : Valve × List OfMsg :=
  match managers.edgeLearnPort v (stackedValves others) pktMeta with
  | none => (v, [])
  | some learnPort =>
    let learned := managers.learnHostOnVlanPorts v now learnPort vlan pktMeta.ethSrc
    let counted := v.countLearnBan vlan.vid learnPort learned.ban
    if learned.updateCache then (counted.addCacheHost vlan.vid pktMeta.ethSrc learnPort now, learned.flows)
    else (counted, learned.flows)

/-- `handle_pkt(valve, now, pkt_meta, other_valves)` of this Valve's `_vlan_rcv_packet`: learn
and route the packet on `valve`, and learn the router's hosts there when this Valve's DP (not
`valve`'s) does stack route learning and is not the stack root. -/
def handlePkt (self valve : Valve) (managers : RcvManagers) (now : Time) (pktMeta : PacketMeta)
    (vlan : VlanConfig) (others : List Valve) : Valve × List OfMsg :=
  let learned := valve.learnHost managers now pktMeta vlan others
  (learned.1, learned.2 ++ learned.1.routerRcvPacket managers now pktMeta vlan ++
    if self.dp.stackRouteLearning ∧ !self.dp.isStackRoot then
      learned.1.routerLearnHost managers pktMeta vlan
    else [])

/-- For a Valve of `other_valves` that is stacked, has a stack port toward this DP and has the
VLAN: the port and its VLAN, `stack_port` and `valve_vlan`. -/
def stackPortAndVlan? (self : Valve) (managers : RcvManagers) (vlan : VlanConfig) (valve : Valve) :
    Option (PortConfig × VlanConfig) :=
  if valve.dp.hasStackRootName then
    match managers.shortestPathPort valve.dp self.dp.name, valve.dp.vlan? vlan.vid with
    | some stackPort, some valveVlan => some (stackPort, valveVlan)
    | _, _ => none
  else none

/-- The loop of `_vlan_rcv_packet` over `stacked_other_valves` (a set, visited here in the order
of `other_valves`), with the Valves already visited and those still to visit: a stacked Valve
with the VLAN and a stack port toward this DP handles the packet as arriving on that port, with
this Valve and the other stacked Valves as its others. Returns the other Valves and the messages
by Valve. -/
def stackLearnLoop (self : Valve) (managers : RcvManagers) (now : Time) (pktMeta : PacketMeta)
    (vlan : VlanConfig) : List Valve → List Valve → OfmsgsByValve → List Valve × OfmsgsByValve
  | done, [], byValve => (done, byValve)
  | done, valve :: todo, byValve =>
    match self.stackPortAndVlan? managers vlan valve with
    | some (stackPort, valveVlan) =>
      let handled := self.handlePkt valve managers now
        { pktMeta with vlan := some valveVlan, port := stackPort } valveVlan
        (self :: stackedValves (done ++ todo))
      stackLearnLoop self managers now pktMeta vlan (done ++ [handled.1]) todo
        (byValve.extend valve.dp.dpId handled.2)
    | none => stackLearnLoop self managers now pktMeta vlan (done ++ [valve]) todo byValve

/-- `_vlan_rcv_packet(now, other_valves, pkt_meta)` for a packet on `vlan`: this Valve, the other
Valves, and the messages by Valve. -/
def vlanRcvPacket (v : Valve) (managers : RcvManagers) (now : Time) (others : List Valve)
    (pktMeta : PacketMeta) (vlan : VlanConfig) : Valve × List Valve × OfmsgsByValve :=
  let counted := v.incVar .ofVlanPacketIns
  let banRules := managers.banRules counted pktMeta
  if banRules ≠ [] then (counted, others, [(counted.dp.dpId, banRules)])
  else
    let faucetMacs := vlan.faucetMac :: (counted :: stackedValves others).map (·.dp.faucetDpMac)
    if counted.dp.stackRouteLearning ∧ pktMeta.port.stack.any (peerDpRunning others) ∧
        pktMeta.ethSrc ∉ faucetMacs then (counted, others, [])
    else
      let peers := if counted.dp.stackRouteLearning then
          counted.stackLearnLoop managers now pktMeta vlan [] others []
        else (others, [])
      let handled := counted.handlePkt counted managers now pktMeta vlan peers.1
      (handled.1, peers.1, peers.2.extend counted.dp.dpId handled.2)

/-- `_non_vlan_rcv_packet(now, other_valves, pkt_meta)`: `lacp_handler` on an LACP port, then
`lldp_handler` unless that returned messages for some Valve. `lacpPkt` and `lldp` are the
packet's parses, as `lacp_handler` and `lldp_handler` take them. -/
def nonVlanRcvPacket (v : Valve) (now : Time) (others : List Valve) (pktMeta : PacketMeta)
    (lacpPkt : Option LacpPdu) (lldp : Option FaucetLldp) : Valve × List StackCall × OfmsgsByValve :=
  let counted := v.incVar .ofNonVlanPacketIns
  let lacp := if pktMeta.port.lacp ≠ 0 then
      counted.lacpHandler now pktMeta.port pktMeta.ethDst pktMeta.ethType lacpPkt
    else (counted, [])
  if lacp.2 ≠ [] then (lacp.1, [], lacp.2)
  else lacp.1.lldpHandler now pktMeta.port pktMeta.ethType lldp others

/-- `rcv_packet(now, other_valves, pkt_meta)`: this Valve, the other Valves, the calls on stacked
Valves' flood managers, and the messages by Valve. -/
def rcvPacket (v : Valve) (managers : RcvManagers) (now : Time) (others : List Valve)
    (pktMeta : PacketMeta) (lacpPkt : Option LacpPdu) (lldp : Option FaucetLldp) :
    Valve × List Valve × List StackCall × OfmsgsByValve :=
  match pktMeta.vlan with
  | none =>
    let received := v.nonVlanRcvPacket now others pktMeta lacpPkt lldp
    (received.1, others, received.2.1, received.2.2)
  | some vlan =>
    let received := v.vlanRcvPacket managers now others pktMeta vlan
    (received.1, received.2.1, [], received.2.2)

/-- Modelled from the spec: the packet a packet-in gives `rcv_packet`, if any; the controller
(`faucet.py`) drops a packet-in that `rate_limit_packet_ins` refuses or `parse_pkt_meta`
rejects. -/
def received? (v : Valve) (parsePacketInPkt : ParsePacketInPkt) (now : Time) (msg : PacketInMsg) :
    Option PacketMeta :=
  if (v.rateLimitPacketIns now).2 then none
  else (v.rateLimitPacketIns now).1.parsePktMeta parsePacketInPkt msg

/-- Modelled from the spec: the controller's handling of a packet-in on this Valve's DP, with
the other Valves; `lacpPkt` and `lldp` are the parses of its data. -/
def packetIn (v : Valve) (managers : RcvManagers) (parsePacketInPkt : ParsePacketInPkt)
    (now : Time) (msg : PacketInMsg) (lacpPkt : Option LacpPdu) (lldp : Option FaucetLldp)
    (others : List Valve) : Valve × List Valve × List StackCall × OfmsgsByValve :=
  match v.received? parsePacketInPkt now msg with
  | none => ((v.rateLimitPacketIns now).1, others, [], [])
  | some pktMeta => (v.rateLimitPacketIns now).1.rcvPacket managers now others pktMeta lacpPkt lldp

end Valve

end Faucet
