import Faucet.Model.Valve

/-! # Stack link probes and the topology fan-out

Each stack port runs the probe state machine of `_next_stack_link_state` over its last recorded
LLDP probe. `_update_stack_link_state` applies it to a list of ports and, when any port changed,
fans the new topology out to every stacked Valve, this one included. The calls on the stacked
Valves' flood managers and tunnel ACLs are returned as a log in call order, and
`Valve.applyStackCalls` makes them on a Valve: they change its record of the topology and its
tunnel flags. The controller makes every event's calls on every Valve they name.
-/

namespace Faucet

/-- `_next_stack_link_state`: the transition to make on a stack port at `now`, if any.
Only stack ports are evaluated (`dp.stack_ports`, or a port `_verify_stack_lldp` checked), so
`port.stack` is always set where the code reads it. -/
def nextStackLinkState (port : PortConfig) (dyn : PortDyn) (now : Time) : Option StackState :=
  if dyn.dynStackCurrentState = .adminDown then none
  else match dyn.dynStackProbeInfo, port.stack with
    | none, _ => if dyn.dynStackCurrentState = .down then some .init else none
    | some _, none => none
    | some info, some peer =>
      let timeSinceLldpSeen := now - info.lastSeenLldpTime
      let numLostLldp := timeSinceLldpSeen / peer.sendInterval
      if !info.stackCorrect then
        if dyn.dynStackCurrentState ≠ .down then some .down else none
      else if ¬ numLostLldp < port.maxLldpLost then
        if dyn.dynStackCurrentState ≠ .down ∧ timeSinceLldpSeen ≠ 0 then some .down else none
      else if dyn.dynStackCurrentState ≠ .up then some .up else none

/-- A call `_update_stack_link_state` makes on a stacked Valve, in order. -/
inductive StackCall where
  /-- `valve.flood_manager.update_stack_topo(port_stack_up, dp, port)`. -/
  | updateStackTopo (valve : DpId) (portStackUp : Bool) (dp : DpId) (port : PortNo)
  /-- `valve.update_tunnel_flowrules()`. -/
  | updateTunnelFlowrules (valve : DpId)
deriving DecidableEq, Repr

/-- The port loop of `_update_stack_link_state`: each port's transition, then the topology
update on the flood manager of each of the `stacked` Valves. Returns the new dynamic state,
`stack_changes`, and the calls. -/
def stackLinkLoop (dp : DpId) (stacked : List DpId) (now : Time) :
    List PortConfig → DPDyn → DPDyn × ℕ × List StackCall
  | [], dyn => (dyn, 0, [])
  | port :: ports, dyn =>
    match nextStackLinkState port (dyn.port port.number) now with
    | none => stackLinkLoop dp stacked now ports dyn
    | some next =>
      let dyn' := dyn.setPort port.number { dyn.port port.number with dynStackCurrentState := next }
      let rest := stackLinkLoop dp stacked now ports dyn'
      if next = .up ∨ next = .down ∨ next = .init then
        (rest.1, rest.2.1 + 1,
          stacked.map (fun valve => .updateStackTopo valve (next = .up) dp port.number) ++ rest.2.2)
      else rest

/-- Whether a DP's `stack_root_name` is set (a non-empty name). -/
def DPConfig.hasStackRootName (dp : DPConfig) : Bool := dp.stackRootName.getD "" != ""

/-- `_stacked_valves`: the Valves whose DP names a stack root. -/
def stackedValves (valves : List Valve) : List Valve := valves.filter (·.dp.hasStackRootName)

/-- `tunnel_acl.update_tunnel_acl_conf(dp)` (in `acl.py`, not part of the repository): whether the
path of a tunnel of the Valve's DP changed, as the Valve's state determines it. -/
abbrev UpdateTunnelAclConf := Valve → ℕ → Bool

/-- `update_tunnel_flowrules()`: mark updated each tunnel whose ACL's path changed. -/
def Valve.updateTunnelFlowrules (conf : UpdateTunnelAclConf) (v : Valve) : Valve :=
  v.dp.tunnelAcls.foldl (fun w tunnelId =>
    if conf w tunnelId then
      { w with tunnelUpdatedFlags := Function.update w.tunnelUpdatedFlags tunnelId true }
    else w) v

/-- A call of `_update_stack_link_state` made on the Valve it names: the flood manager records
the topology change, or the Valve updates its tunnels. It leaves any other Valve alone. -/
def Valve.applyStackCall (conf : UpdateTunnelAclConf) (v : Valve) : StackCall → Valve
  | .updateStackTopo valve portStackUp dp port =>
    if valve = v.dp.dpId then { v with stackTopo := v.stackTopo ++ [(portStackUp, dp, port)] }
    else v
  | .updateTunnelFlowrules valve =>
    if valve = v.dp.dpId then v.updateTunnelFlowrules conf else v

/-- The calls of a run of `_update_stack_link_state`, in order, as they reach one Valve. -/
def Valve.applyStackCalls (conf : UpdateTunnelAclConf) (v : Valve) (calls : List StackCall) :
    Valve :=
  calls.foldl (applyStackCall conf) v

/-- `get_tunnel_flowmods`. -/
def Valve.getTunnelFlowmods (v : Valve) : List OfMsg :=
  if v.dp.hasAcls then [.ext v.dp.dpId .aclCreateTunnel] else []

/-- The messages the fan-out sends a running Valve: its tunnel flows, the flooding of each of
its VLANs, and the host state of each of its stack ports. -/
def Valve.stackFanoutMsgs (v : Valve) : List OfMsg :=
  v.getTunnelFlowmods ++ v.dp.vlans.map (fun vlan => .ext v.dp.dpId (.addVlan .flood vlan.vid)) ++
    v.dp.stackPorts.map (fun port => .ext v.dp.dpId (.delPort .host port.number))

@[simp] theorem Valve.stackFanoutMsgs_dyn (v : Valve) (dyn : DPDyn) :
    { v with dyn := dyn }.stackFanoutMsgs = v.stackFanoutMsgs := rfl

/-- The fan-out loop of `_update_stack_link_state` over the stacked Valves. -/
def stackFanout : List Valve → OfmsgsByValve → List StackCall × OfmsgsByValve
  | [], byValve => ([], byValve)
  | valve :: valves, byValve =>
    let byValve' :=
      if !valve.dyn.dynRunning then byValve
      else
        let withTunnels := byValve.extend valve.dp.dpId valve.getTunnelFlowmods
        let withVlans := valve.dp.vlans.foldl (fun acc vlan =>
          acc.extend valve.dp.dpId [.ext valve.dp.dpId (.addVlan .flood vlan.vid)]) withTunnels
        valve.dp.stackPorts.foldl (fun acc port =>
          acc.extend valve.dp.dpId [.ext valve.dp.dpId (.delPort .host port.number)]) withVlans
    let rest := stackFanout valves byValve'
    (.updateTunnelFlowrules valve.dp.dpId :: rest.1, rest.2)

/-- `_update_stack_link_state(ports, now, other_valves)`, where `other_valves` holds each Valve
other than this one once. Returns this Valve after the transitions, the calls made on the
stacked Valves, and the messages by Valve. -/
def Valve.updateStackLinkState (self : Valve) (ports : List PortConfig) (now : Time)
    (others : List Valve) : Valve × List StackCall × OfmsgsByValve :=
  let stacked := self :: stackedValves others
  let loop := stackLinkLoop self.dp.dpId (stacked.map (·.dp.dpId)) now ports self.dyn
  let self' := { self with dyn := loop.1 }
  if loop.2.1 = 0 then (self', loop.2.2, [])
  else
    let fanout := stackFanout (self' :: stackedValves others) []
    (self', loop.2.2 ++ fanout.1, fanout.2)

/-- `_verify_stack_lldp`: record the probe on a stack port, whether it names the expected peer,
and evaluate the port. -/
def Valve.verifyStackLldp (self : Valve) (port : PortConfig) (now : Time) (others : List Valve)
    (remoteDpId : DpId) (remoteDpName : Option String) (remotePortId : PortNo)
    (remotePortState : Option ℕ) : Valve × List StackCall × OfmsgsByValve :=
  match port.stack with
  | none => (self, [], [])
  | some peer =>
    let stackCorrect :=
      remoteDpId = peer.dpId ∧ remoteDpName = some peer.dpName ∧ remotePortId = peer.portNumber
    let info : StackProbeInfo := ⟨now, stackCorrect, remoteDpId, remoteDpName, remotePortId,
      remotePortState⟩
    let recorded := { self.dyn.port port.number with dynStackProbeInfo := some info }
    let self' := { self with dyn := self.dyn.setPort port.number recorded }
    self'.updateStackLinkState [port] now others

/-- The FAUCET TLVs `valve_packet.parse_faucet_lldp` finds in an LLDP packet, `None` when absent. -/
structure FaucetLldp where
  remoteDpId : Option DpId
  remoteDpName : Option String
  remotePortId : Option PortNo
  remotePortState : Option ℕ
deriving DecidableEq, Repr

/-- The remote DP and port of a FAUCET LLDP packet, when both are set and non-zero. -/
def FaucetLldp.remote? (lldp : FaucetLldp) : Option (DpId × PortNo) :=
  match lldp.remoteDpId, lldp.remotePortId with
  | some dpId, some portId => if dpId ≠ 0 ∧ portId ≠ 0 then some (dpId, portId) else none
  | _, _ => none

/-- `lldp_handler` for an LLDP packet-in on `port`: `lldp` is `valve_packet.parse_lldp` and
`parse_faucet_lldp` of the packet, `none` when it does not parse. -/
def Valve.lldpHandler (self : Valve) (now : Time) (port : PortConfig) (ethType : ℕ)
    (lldp : Option FaucetLldp) (others : List Valve) : Valve × List StackCall × OfmsgsByValve :=
  if ethType ≠ ethTypeLldp then (self, [], [])
  else match lldp with
    | none => (self, [], [])
    | some tlvs =>
      let received := { self.dyn.port port.number with
        dynLldpBeaconRecvTime := some now, dynLldpBeaconRecvState := tlvs.remotePortState }
      let self' := { self with dyn := self.dyn.setPort port.number received }
      match tlvs.remote? with
      | some (remoteDpId, remotePortId) =>
        self'.verifyStackLldp port now others remoteDpId tlvs.remoteDpName remotePortId
          tlvs.remotePortState
      | none => (self', [], [])

/-- The LLDP beacon expiry of `fast_state_expire` on one port; `none` where its beacon state is
truthy and it has no receive time, so that `now - None` raises. -/
def lldpBeaconExpire (sendInterval : Time) (now : Time) (dyn : PortDyn) : Option PortDyn :=
  if truthyNat dyn.dynLldpBeaconRecvState then
    dyn.dynLldpBeaconRecvTime.map fun recvTime =>
      if now - recvTime > sendInterval * 3 then { dyn with dynLldpBeaconRecvState := none } else dyn
  else some dyn

/-- The LLDP beacon expiry of `fast_state_expire` over the ports of a DP; `none` if it raises. -/
def expireLldpBeacons (sendInterval : Time) (now : Time) (ports : List PortConfig)
    (dyn : DPDyn) : Option DPDyn :=
  ports.foldlM (fun dyn port =>
    (lldpBeaconExpire sendInterval now (dyn.port port.number)).map (dyn.setPort port.number)) dyn

/-- The LLDP beacon expiry of `fast_state_expire`, when `dp.lldp_beacon` is set; `none` if it
raises. -/
def Valve.expireBeacons (self : Valve) (now : Time) : Option Valve :=
  match self.dp.lldpBeaconSendInterval with
  | none => some self
  | some sendInterval =>
    (expireLldpBeacons sendInterval now self.dp.ports self.dyn).map fun dyn => { self with dyn := dyn }

/-- `fast_state_expire`: expire stale LLDP beacons, then evaluate every stack port; `none` where
the beacon expiry raises. -/
def Valve.fastStateExpire (self : Valve) (now : Time) (others : List Valve) :
    Option (Valve × List StackCall × OfmsgsByValve) :=
  (self.expireBeacons now).map fun self' => self'.updateStackLinkState self'.dp.stackPorts now others

end Faucet
