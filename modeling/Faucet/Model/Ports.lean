import Faucet.Model.Lacp

/-! # Ports, port status and the cold start

`ports_add` and `ports_delete` program ports into and out of the pipeline and set their
physical up flag; `port_status_handler` records the link state a port-status message reports
in `dp.dyn_up_port_nos`, then adds or deletes the port as the message's reason says.
`datapath_connect` installs the default flows (for a table-features class, the pipeline, which
it remembers as `_last_pipeline_flows`), then adds every configured port that is up.
-/

namespace Faucet

/-- `tfm_pipeline.load_tables(dp, valve, ...)` with the class constants of the Valve, as the
`str` of each table's features: `tfm_pipeline.py` is not part of the repository. -/
abbrev LoadTables := DPConfig → ValveClass → List String

/-- `valve_of.port_status_from_state(state)`, the link state port-status bits report:
`valve_of.py` is not part of the repository. -/
abbrev PortStatusFromState := ℕ → Bool

namespace Valve

section Flows

variable (v : Valve)

/-- `_find_forwarding_table(vlan)`. -/
def findForwardingTable (vlan : VlanConfig) : Table :=
  if vlan.aclsIn then .vlanAcl else .classification

/-- `_port_add_vlan_rules(port, vlan, mirror_act, push_vlan)`: admit the port's traffic to
`vlan`, tagged, or untagged and pushed to `vlan`. -/
def portAddVlanRules (port : PortConfig) (vlan : VlanConfig) (mirrorAct : List Action)
    (pushVlan : Bool := true) : OfMsg :=
  let actions := mirrorAct ++ (if pushVlan then [.pushVlan vlan.vid] else []) ++
    (if v.dp.hasExternals then
      [if port.loopProtectExternal then .setNoExternalForwardingRequested
       else .setExternalForwardingRequested]
     else [])
  .flowmod .vlan
    { inPort := some port.number, vlan := some (if pushVlan then .null else .vid vlan.vid) }
    v.dp.lowPriority [.applyActions actions, .goto (findForwardingTable vlan)]

/-- `_port_add_vlans(port, mirror_act)`: the port's tagged VLANs, and the VLAN its untagged
traffic is pushed to, its 802.1X VLAN if one is assigned, else its native VLAN. The VIDs are
looked up among the VLANs of the DP. -/
def portAddVlans (port : PortConfig) (mirrorAct : List Action) : List OfMsg :=
  (port.taggedVlans.filterMap v.dp.vlan?).map (v.portAddVlanRules port · mirrorAct false) ++
    (match (v.dyn.port port.number).dynDot1xNativeVlan, port.nativeVlan with
     | some vid, _ => ((v.dp.vlan? vid).map (v.portAddVlanRules port · mirrorAct)).toList
     | none, some vid => ((v.dp.vlan? vid).map (v.portAddVlanRules port · mirrorAct)).toList
     | none, none => [])

/-- `_coprocessor_flows(port)`. -/
def coprocessorFlows (port : PortConfig) (copro : Coprocessor) : List OfMsg :=
  .flowmod .vlan { inPort := some port.number } v.dp.lowPriority [.goto .copro] ::
    v.dp.ports.map fun dpPort =>
      .flowmod .copro { vlan := some (.vid (copro.vlanVidBase.getD 0 + dpPort.number)) }
        v.dp.highPriority [.applyActions [.popVlan, .output dpPort.number]]

/-- `_delete_all_port_match_flows(port)`. -/
def deleteAllPortMatchFlows (port : PortConfig) : List OfMsg :=
  if v.dp.dpAcls then
    (v.dp.inPortTables.filter (· ≠ "port_acl")).map fun table =>
      .flowdel (.named table) { inPort := some port.number } none false
  else [.flowdel .wildcard { inPort := some port.number } none false]

/-- `_port_delete_flows_state(port)`. -/
def portDeleteFlowsState (port : PortConfig) : List OfMsg :=
  v.dp.routeIpvs.map (fun ipv => .ext v.dp.dpId (.expirePortNexthops ipv port.number)) ++
    v.deleteAllPortMatchFlows port ++
    v.dp.managers.map fun manager => .ext v.dp.dpId (.delPort manager port.number)

end Flows

/-- One port of `ports_add`: the Valve after it, its messages, and the VLANs whose flooding
the port joins. -/
def portAddOne (v : Valve) (coldStart : Bool) (portNum : PortNo) :
    Valve × List OfMsg × List Vid :=
  match v.dp.port? portNum with
  | none => (v, [], [])
  | some port =>
    let v := v.setPortDyn port.number { v.dyn.port port.number with dynPhysUp := true }
    if !port.running (v.dyn.port port.number) then (v, [], [])
    else
      let managers := v.dp.managers.map fun manager =>
        OfMsg.ext v.dp.dpId (.addPort manager port.number)
      match port.coprocessor with
      | some copro => (v, managers ++ v.coprocessorFlows port copro, [])
      | none =>
        let dot1x : List OfMsg := match v.dp.dot1x with
          | none => []
          | some nfvSwPort =>
            if port.number = nfvSwPort then [.ext v.dp.dpId .dot1xNfvSwPortUp]
            else if port.dot1x then [.ext v.dp.dpId (.dot1xPortUp port.number)] else []
        if port.outputOnly then
          (v, managers ++ dot1x ++
            [.flowdrop .vlan { inPort := some port.number } v.dp.highestPriority], [])
        else
          let lldp : List OfMsg :=
            if port.receiveLldp then
              [.flowcontroller .vlan
                { inPort := some port.number, ethDst := some lldpMacNearestBridge,
                  ethDstMask := some bridgeGroupMask, ethType := some ethTypeLldp }
                v.dp.highestPriority 128]
            else []
          let lacp : Valve × List OfMsg :=
            if port.lacp ≠ 0 then
              let down := v.lacpDown port coldStart
              (down.1, down.2 ++ if port.lacpActive then
                down.1.lacpActions (down.1.dyn.port port.number).dynLastLacpPkt port else [])
            else (v, [])
          match port.stack with
          | some _ =>
            (lacp.1, managers ++ dot1x ++ lldp ++ lacp.2 ++
              [.flowdrop .vlan { inPort := some port.number, vlan := some .null }
                (v.dp.lowPriority + 1),
               .flowmod .vlan { inPort := some port.number } v.dp.lowPriority
                [.acceptToClassification]],
              v.dp.vlans.map (·.vid))
          | none =>
            (lacp.1, managers ++ dot1x ++ lldp ++ lacp.2 ++
              lacp.1.portAddVlans port port.mirrorActions, port.vlans)

/-- `ports_add(port_nums, cold_start)`; the flooding of the VLANs the ports joined is updated
unless cold starting. -/
def portsAdd (v : Valve) (portNums : List PortNo) (coldStart : Bool := false) :
    Valve × List OfMsg :=
  let added := portNums.foldl (fun (acc : Valve × List OfMsg × List Vid) portNum =>
    let one := acc.1.portAddOne coldStart portNum
    (one.1, acc.2.1 ++ one.2.1, acc.2.2 ++ one.2.2)) (v, [], [])
  (added.1, added.2.1 ++
    if coldStart then []
    else (setOrder added.2.2).map fun vid => .ext v.dp.dpId (.addVlan .flood vid))

/-- One port of `ports_delete`. -/
def portDeleteOne (v : Valve) (portNum : PortNo) : Valve × List OfMsg × List Vid :=
  match v.dp.port? portNum with
  | none => (v, [], [])
  | some port =>
    let v := v.setPortDyn port.number { v.dyn.port port.number with dynPhysUp := false }
    if port.outputOnly then (v, [], [])
    else
      let dot1x : List OfMsg :=
        if port.dot1x then [.ext v.dp.dpId (.dot1xPortDown port.number)] else []
      if port.lacp ≠ 0 then
        let down := v.lacpDown port
        (down.1, dot1x ++ down.2, port.vlans)
      else (v, dot1x ++ v.portDeleteFlowsState port, port.vlans)

/-- `ports_delete(port_nums)`, then the flooding of the VLANs the ports left. -/
def portsDelete (v : Valve) (portNums : List PortNo) : Valve × List OfMsg :=
  let deleted := portNums.foldl (fun (acc : Valve × List OfMsg × List Vid) portNum =>
    let one := acc.1.portDeleteOne portNum
    (one.1, acc.2.1 ++ one.2.1, acc.2.2 ++ one.2.2)) (v, [], [])
  (deleted.1, deleted.2.1 ++
    (setOrder deleted.2.2).map fun vid => .ext v.dp.dpId (.floodUpdateVlan (some vid)))

/-- `port_add(port_num)`. -/
def portAdd (v : Valve) (portNum : PortNo) : Valve × List OfMsg := v.portsAdd [portNum]

/-- `port_delete(port_num)`. -/
def portDelete (v : Valve) (portNum : PortNo) : Valve × List OfMsg := v.portsDelete [portNum]

/-- `_set_port_status(port_no, port_status)`: record the link state in `dyn_up_port_nos`, and
export it for a configured port. -/
def setPortStatus (v : Valve) (portNo : PortNo) (portStatus : Bool) : Valve :=
  let v' := { v with dyn := { v.dyn with
    dynUpPortNos :=
      if portStatus then insert portNo v.dyn.dynUpPortNos else v.dyn.dynUpPortNos.erase portNo } }
  match v.dp.port? portNo with
  | none => v'
  | some port => v'.setVar (.portStatus port.number) (if portStatus then 1 else 0)

/-- `port_status_handler(port_no, reason, state)`. -/
def portStatusHandler (v : Valve) (portStatusFromState : PortStatusFromState) (portNo : PortNo)
    (reason state : ℕ) : Valve × OfmsgsByValve :=
  let portStatus := portStatusFromState state
  let v := v.setPortStatus portNo portStatus
  match v.dp.port? portNo with
  | none => (v, [])
  | some port =>
    if !port.opstatusReconf then (v, [])
    else if reason ∉ [ofpprAdd, ofpprDelete, ofpprModify] then (v, [])
    else if reason = ofpprAdd ∨ (reason = ofpprModify ∧ portStatus = true) then
      let deleted := if (v.dyn.port portNo).dynPhysUp then v.portDelete portNo else (v, [])
      let added := deleted.1.portAdd portNo
      (added.1, [(v.dp.dpId, deleted.2 ++ added.2)])
    else
      let deleted := v.portDelete portNo
      (deleted.1, [(v.dp.dpId, deleted.2)])

/-- `_get_all_configured_port_nos()`: the non-VLAN ports and the ports of every VLAN. -/
def getAllConfiguredPortNos (dp : DPConfig) : List PortNo :=
  setOrder (dp.nonVlanPorts ++ dp.vlans.flatMap (·.ports))

/-- `_get_ports_status(discovered_up_port_nos, all_configured_port_nos)`. -/
def getPortsStatus (discoveredUpPortNos allConfiguredPortNos : List PortNo) :
    List (PortNo × Bool) × List PortNo :=
  (allConfiguredPortNos.map fun portNo => (portNo, decide (portNo ∈ discoveredUpPortNos)),
    allConfiguredPortNos.filter (· ∈ discoveredUpPortNos))

/-- `_add_vlan(vlan)`. -/
def addVlan (v : Valve) (vlan : VlanConfig) : Valve × List OfMsg :=
  ({ v with dyn := v.dyn.setVlan vlan.vid (v.dyn.vlan vlan.vid).resetCaches },
    v.dp.managers.map fun manager => .ext v.dp.dpId (.addVlan manager vlan.vid))

/-- `_add_vlans(vlans)`. -/
def addVlans (v : Valve) (vlans : List VlanConfig) : Valve × List OfMsg :=
  vlans.foldl (fun (acc : Valve × List OfMsg) vlan =>
    let one := acc.1.addVlan vlan
    (one.1, acc.2 ++ one.2)) (v, [])

/-- `_del_vlan(vlan)`. -/
def delVlan (vlan : VlanConfig) : OfMsg := .flowdel .wildcard { vlan := some (.vid vlan.vid) } none false

/-- The ports that ignore their reported status, `always_up_port_nos`. -/
def alwaysUpPortNos (dp : DPConfig) : List PortNo :=
  (dp.ports.filter (!·.opstatusReconf)).map (·.number)

/-- `_add_ports_and_vlans(discovered_up_port_nos)`: record every configured port's status, then
add the configured ports that are up or always up, then every VLAN. -/
def addPortsAndVlans (v : Valve) (discoveredUpPortNos : List PortNo) : Valve × List OfMsg :=
  let status := getPortsStatus (discoveredUpPortNos ++ alwaysUpPortNos v.dp)
    (getAllConfiguredPortNos v.dp)
  let v := status.1.foldl (fun v entry => v.setPortStatus entry.1 entry.2) v
  let added := v.portsAdd status.2 true
  let vlans := added.1.addVlans added.1.dp.vlans
  (vlans.1, added.2 ++ vlans.2)

section DefaultFlows

variable (v : Valve)

/-- `_delete_all_valve_flows()`; the Aruba class also deletes every group. -/
def deleteAllValveFlows : List OfMsg :=
  [.flowdel .wildcard {} none false] ++ (if v.dp.meters = [] then [] else [.meterdel]) ++
    (if v.dp.groupTable then [.ext v.dp.dpId .groupsDeleteAll] else []) ++
    (if v.cls = .arubaValve then [.ext v.dp.dpId .groupsDeleteAll] else [])

/-- `_add_packetin_meter()`. -/
def addPacketinMeter : List OfMsg :=
  if v.dp.packetinPps = 0 then []
  else [.controllerPpsMeterdel, .controllerPpsMeteradd v.dp.packetinPps]

/-- `_add_default_drop_flows()`: each table's miss goes to its `miss_goto` table, else drops. -/
def addDefaultDropFlows : List OfMsg :=
  v.dp.tables.map fun table =>
    match table.missGoto with
    | some missTable =>
      .flowmod (.named table.name) {} v.dp.lowestPriority [.gotoMiss (.named missTable)]
    | none => .flowdrop (.named table.name) {} v.dp.lowestPriority

/-- `_pipeline_flows()`: the table-features message of a table-features class, as its body. -/
def pipelineFlows (loadTables : LoadTables) : List (List String) :=
  if v.cls.isTfm then [loadTables v.dp v.cls] else []

/-- `_add_default_flows()`; a table-features class first sends its pipeline and keeps a copy in
`_last_pipeline_flows`. -/
def addDefaultFlows (loadTables : LoadTables) : Valve × List OfMsg :=
  let base := v.deleteAllValveFlows ++ v.addPacketinMeter ++ v.dp.meters.map .meterEntry ++
    v.addDefaultDropFlows
  if v.cls.isTfm then
    ({ v with lastPipelineFlows := v.pipelineFlows loadTables },
      (v.pipelineFlows loadTables).map .tableFeatures ++ base)
  else (v, base)

end DefaultFlows

/-- `datapath_connect(now, discovered_up_ports)`: the cold start. -/
def datapathConnect (v : Valve) (loadTables : LoadTables) (now : Time)
    (discoveredUpPorts : List PortNo) : Valve × List OfMsg :=
  let defaults := v.addDefaultFlows loadTables
  let tables := defaults.1.dp.managers.map fun manager =>
    OfMsg.ext defaults.1.dp.dpId (.initialiseTables manager)
  let added := defaults.1.addPortsAndVlans discoveredUpPorts
  let running := { added.1 with dyn := { added.1.dyn with
    dynLastColdstartTime := some now, dynRunning := true } }
  ((running.incVar .ofDpConnections).resetDpStatus,
    defaults.2 ++ tables ++ added.2 ++ [.faucetAsync true true running.dp.useIdleTimeout])

/-- `datapath_disconnect()`. -/
def datapathDisconnect (v : Valve) : Valve :=
  ({ v with dyn := { v.dyn with dynRunning := false } }.incVar .ofDpDisconnections).resetDpStatus

end Valve

end Faucet
