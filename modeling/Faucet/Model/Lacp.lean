import Faucet.Model.Valve

/-! # LACP

Each LACP port keeps `dyn_lacp_up` (0 or 1, `None` before any PDU), the last PDU it processed,
the time it processed it, and the time it last answered. `lacp_handler` moves the port with the
actor state of every PDU it parses; `lacp_down` and `lacp_up` program the port and reset or set
that state; `_lacp_state_expire` forces down every up port whose last PDU is too old.
-/

namespace Faucet

/-- Modelled from the spec: `valve_packet.lacp_actor_up(lacp_pkt)` (in `valve_packet.py`) is 1
when the partner's actor is synchronised, collecting and distributing, else 0. -/
def lacpActorUp (pdu : LacpPdu) : ℕ :=
  if pdu.actorStateSynchronization ≠ 0 ∧ pdu.actorStateCollecting ≠ 0 ∧
      pdu.actorStateDistributing ≠ 0 then 1 else 0

namespace Valve

/-- `lacp_down(port, cold_start)`: reset the port's LACP state, and (unless cold starting)
delete its hosts and reflood its VLANs, then drop its input and punt its LACP to the
controller. -/
def lacpDown (v : Valve) (port : PortConfig) (coldStart : Bool := false) : Valve × List OfMsg :=
  let down := { v.dyn.port port.number with
    dynLacpUp := some 0, dynLastLacpPkt := none, dynLacpUpdatedTime := none,
    dynLacpLastRespTime := none }
  let hostsAndFlood : List OfMsg :=
    if coldStart then []
    else .ext v.dp.dpId (.delPort .host port.number) ::
      port.vlans.map fun vid => .ext v.dp.dpId (.addVlan .flood vid)
  ((v.setPortDyn port.number down).setVar (.portLacpStatus port.number) 0,
    hostsAndFlood ++
      [.flowdrop .vlan { inPort := some port.number } v.dp.highPriority,
       .flowcontroller .vlan
        { inPort := some port.number, ethType := some ethTypeSlow,
          ethDst := some slowProtocolMulticast } v.dp.highestPriority lacpSize])

/-- `lacp_up(port)`: mark the port's LACP up and, where this DP forwards for the LAG, remove its
input drop and reflood its VLANs. -/
def lacpUp (v : Valve) (port : PortConfig) : Valve × List OfMsg :=
  ((v.setPortDyn port.number { v.dyn.port port.number with dynLacpUp := some 1 }).setVar
      (.portLacpStatus port.number) 1,
    if v.dp.lacpForwarding port then
      .flowdel .vlan { inPort := some port.number } (some v.dp.highPriority) true ::
        port.vlans.map fun vid => .ext v.dp.dpId (.addVlan .flood vid)
    else [])

/-- The state `lacp_down` leaves, which does not depend on `cold_start`. -/
theorem lacpDown_fst (v : Valve) (port : PortConfig) (coldStart : Bool) :
    (v.lacpDown port coldStart).1 = (v.setPortDyn port.number { v.dyn.port port.number with
      dynLacpUp := some 0, dynLastLacpPkt := none, dynLacpUpdatedTime := none,
      dynLacpLastRespTime := none }).setVar (.portLacpStatus port.number) 0 := rfl

theorem lacpUp_fst (v : Valve) (port : PortConfig) :
    (v.lacpUp port).1 = (v.setPortDyn port.number
      { v.dyn.port port.number with dynLacpUp := some 1 }).setVar (.portLacpStatus port.number) 1 :=
  rfl

/-- `_lacp_actions(lacp_pkt, port)`: our LACP PDU for the port, answering `lacp_pkt` if given,
unless a passthrough peer's LACP is not up. -/
def lacpActions (v : Valve) (lacpPkt : Option LacpPdu) (port : PortConfig) : List OfMsg :=
  if port.lacpPassthrough.any fun peer => !truthyNat (v.dyn.port peer).dynLacpUp then []
  else
    let forwarding := v.dp.lacpForwarding port
    [.packetout port.number
      (.lacpReqreply port.lacp port.number port.lacpActive forwarding forwarding lacpPkt)]

/-- The part of `lacp_handler` that runs on a parsed PDU: move the port to the PDU's actor
state, answer when the PDU changed or the last answer is older than `lacp_resp_interval`, and
record the PDU and the time. -/
def lacpReceive (v : Valve) (now : Time) (port : PortConfig) (pdu : LacpPdu) :
    Valve × OfmsgsByValve :=
  let dyn := v.dyn.port port.number
  let age := if truthyTime dyn.dynLacpLastRespTime then dyn.dynLacpLastRespTime.map (now - ·) else none
  let actorUp := lacpActorUp pdu
  let lacpStateChange := dyn.dynLacpUp ≠ some actorUp
  let lacpPktChange := dyn.dynLastLacpPkt ≠ some pdu
  let changed : Valve × OfmsgsByValve :=
    if lacpStateChange then
      let moved := if actorUp ≠ 0 then v.lacpUp port else v.lacpDown port
      (moved.1, DefaultList.extend [] v.dp.dpId moved.2)
    else (v, [])
  let answered : Valve × OfmsgsByValve :=
    if lacpPktChange ∨ age.any (· > port.lacpRespInterval) then
      (changed.1.setPortDyn port.number
          { changed.1.dyn.port port.number with dynLacpLastRespTime := some now },
        changed.2.extend v.dp.dpId (changed.1.lacpActions (some pdu) port))
    else changed
  (answered.1.setPortDyn port.number
      { answered.1.dyn.port port.number with
        dynLastLacpPkt := some pdu, dynLacpUpdatedTime := some now },
    answered.2)

/-- `lacp_handler(now, pkt_meta)` for a packet-in on `port` to `ethDst` of type `ethType`;
`lacpPkt` is `valve_packet.parse_lacp_pkt` of its first `LACP_SIZE` bytes. -/
def lacpHandler (v : Valve) (now : Time) (port : PortConfig) (ethDst : Mac) (ethType : ℕ)
    (lacpPkt : Option LacpPdu) : Valve × OfmsgsByValve :=
  if ethDst = slowProtocolMulticast ∧ ethType = ethTypeSlow ∧ port.lacp ≠ 0 then
    match lacpPkt with
    | some pdu => v.lacpReceive now port pdu
    | none => (v, [])
  else (v, [])

/-- One port of `_lacp_state_expire`: `none` where the code evaluates `now - None`. -/
def lacpExpirePort (now : Time) (acc : Valve × OfmsgsByValve) (port : PortConfig) :
    Option (Valve × OfmsgsByValve) :=
  match (acc.1.dyn.port port.number).dynLacpUpdatedTime with
  | none => none
  | some updated =>
    if now - updated > acc.1.dp.lacpTimeout then
      let down := acc.1.lacpDown port
      some (down.1, acc.2.extend acc.1.dp.dpId down.2)
    else some acc

/-- `_lacp_state_expire(now)`: force down the up ports of each LAG whose last PDU is older than
`lacp_timeout`; `none` if it raises. -/
def lacpStateExpire (v : Valve) (now : Time) : Option (Valve × OfmsgsByValve) :=
  ((v.dp.lagsUp v.dyn).flatMap (·.2)).foldlM (lacpExpirePort now) (v, [])

/-- `state_expire(now)` on the LACP state and, for each VLAN, the host and neighbour expiry of
the host and route managers. -/
def stateExpire (v : Valve) (now : Time) : Option (Valve × OfmsgsByValve) :=
  if v.dyn.dynRunning then
    (v.lacpStateExpire now).map fun expired =>
      (expired.1, expired.2.extend v.dp.dpId (v.dp.vlans.flatMap fun vlan =>
        .ext v.dp.dpId (.expireHostsFromVlan vlan.vid !v.dp.idleDst) ::
          v.dp.routeIpvs.map fun ipv => .ext v.dp.dpId (.resolveExpireHosts ipv vlan.vid)))
  else some (v, [])

/-- `fast_advertise(now)`: once per `fast_advertise_interval`, our LACP PDU on every running
active LACP port and an LLDP beacon on each port `dp.lldp_beacon_send_ports(now)` returns. -/
def fastAdvertise (v : Valve) (now : Time) (beaconPorts : List PortConfig) :
    Valve × OfmsgsByValve :=
  if v.dp.fastAdvertiseInterval = 0 ∨ now - v.lastFastAdvertiseSec < v.dp.fastAdvertiseInterval then
    (v, [])
  else
    let v := { v with lastFastAdvertiseSec := now }
    let lacp := v.dp.lacpActivePorts.flatMap fun port =>
      if port.running (v.dyn.port port.number) then
        v.lacpActions (v.dyn.port port.number).dynLastLacpPkt port
      else []
    let beaconTtl := v.dp.lldpBeaconSendInterval.getD v.dp.defaultLldpSendInterval * 3
    let ttl : Time := if 2 ^ 16 - 1 < beaconTtl then 2 ^ 16 - 1 else beaconTtl
    let beacons := beaconPorts.map fun port => OfMsg.packetout port.number (.lldpBeacon port.number ttl)
    let v' := beaconPorts.foldl (fun v port =>
      v.setPortDyn port.number { v.dyn.port port.number with dynLastLldpBeaconTime := some now }) v
    if lacp ++ beacons = [] then (v', []) else (v', [(v.dp.dpId, lacp ++ beacons)])

end Valve

end Faucet
