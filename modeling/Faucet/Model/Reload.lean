import Faucet.Model.Ports

/-! # Configuration reloads and 802.1X VLANs

`reload_config` applies the differences `dp.get_config_changes` reports. A changed pipeline or a
change of every port forces a cold start; otherwise the warm path deletes the removed and changed
ports and VLANs, swaps in the new DP (which takes over the dynamic state), and re-adds the changed
VLANs and the changed ports that were up. An 802.1X authentication moves a port's untagged
traffic to a dynamic VLAN, which recomputes that VLAN's 802.1X members.
-/

namespace Faucet

/-- `dp.get_config_changes(logger, new_dp)`: the differences between the running and the new
configuration, as `dp.py` (not part of the repository) reports them; each set as a list. -/
structure ConfigChanges where
  deletedPorts : List PortNo
  changedPorts : List PortNo
  changedAclPorts : List PortNo
  deletedVids : List Vid
  changedVids : List Vid
  allPortsChanged : Bool
deriving DecidableEq, Repr

namespace Valve

/-- `_pipeline_change()`: whether the last pipeline sent differs, as a set of table bodies, from
the one `_pipeline_flows()` builds from the current DP; `none` where `_pipeline_flows()[0]`
raises. -/
def pipelineChange (v : Valve) (loadTables : LoadTables) : Option Bool :=
  match v.lastPipelineFlows with
  | [] => some false
  | last :: _ =>
    match v.pipelineFlows loadTables with
    | current :: _ => some (decide (last.toFinset ≠ current.toFinset))
    | [] => none

/-- The warm path of `_apply_config_changes`, which re-adds the ports `all_up_port_nos` with
`ports_add`; `none` where a VID or port number the changes name is not in the DP (a
`KeyError`). -/
def applyWarmChanges (v : Valve) (newDp : DPConfig) (changes : ConfigChanges)
    (allUpPortNos : List PortNo) : Option (Valve × Bool × List OfMsg) :=
  let deletedPorts :=
    if changes.deletedPorts = [] then (v, []) else v.portsDelete changes.deletedPorts
  match changes.deletedVids.mapM v.dp.vlan? with
  | none => none
  | some deletedVlans =>
    let changedPorts :=
      if changes.changedPorts = [] then (deletedPorts.1, [])
      else deletedPorts.1.portsDelete changes.changedPorts
    let swapped := changedPorts.1.dpInit (some newDp)
    match changes.changedVids.mapM swapped.dp.vlan? with
    | none => none
    | some changedVlans =>
      let vlans := swapped.addVlans changedVlans
      let added := if changes.changedPorts = [] then (vlans.1, []) else vlans.1.portsAdd allUpPortNos
      match (if added.1.dp.hasAcls then changes.changedAclPorts.mapM added.1.dp.port?
             else some []) with
      | none => none
      | some aclPorts =>
        some (added.1, false,
          deletedPorts.2 ++ deletedVlans.map delVlan ++ changedPorts.2 ++
            changedVlans.map delVlan ++ vlans.2 ++ added.2 ++
            aclPorts.map fun port => .ext added.1.dp.dpId (.aclColdStartPort port.number))

/-- `_apply_config_changes(new_dp, changes)`: the Valve after it, `cold_start`, and the messages;
`none` where it raises. -/
def applyConfigChanges (v : Valve) (loadTables : LoadTables) (newDp : DPConfig)
    (changes : ConfigChanges) : Option (Valve × Bool × List OfMsg) :=
  match v.pipelineChange loadTables with
  | none => none
  | some true => some (v.dpInit (some newDp), true, [])
  | some false =>
    if changes.allPortsChanged then some (v.dpInit (some newDp), true, [])
    else v.applyWarmChanges newDp changes (changes.changedPorts.filter (· ∈ v.dyn.dynUpPortNos))

/-- `reload_config(now, new_dp)`: the messages of a warm restart, `none` to force a reconnection,
or no messages. -/
def reloadConfig (v : Valve) (loadTables : LoadTables) (newDp : DPConfig)
    (changes : ConfigChanges) : Option (Valve × Option (List OfMsg)) :=
  (v.applyConfigChanges loadTables newDp changes).map fun applied =>
    if applied.2.1 then
      (applied.1.incVar .faucetConfigReloadCold,
        if applied.1.dyn.dynRunning then none else some applied.2.2)
    else if applied.1.dyn.dynRunning ∧ applied.2.2 ≠ [] then
      (applied.1.incVar .faucetConfigReloadWarm, some applied.2.2)
    else (applied.1, some [])

/-- Modelled from the spec: `vlan.reset_ports(dp.ports.values())` (in `vlan.py`) recomputes the
VLAN's 802.1X members, the ports whose 802.1X VLAN it is, in the order of `dp.ports`. -/
def resetPorts (v : Valve) (vid : Vid) : Valve :=
  { v with dyn := v.dyn.setVlan vid { v.dyn.vlan vid with
    dot1xPorts := (v.dp.ports.filter fun port =>
      (v.dyn.port port.number).dynDot1xNativeVlan = some vid).map (·.number) } }

/-- `_del_native_vlan(port)`. -/
def delNativeVlan (v : Valve) (port : PortConfig) : List OfMsg :=
  [.flowdel .vlan { inPort := some port.number, vlan := port.nativeVlan.map .vid }
    (some v.dp.lowPriority) false]

/-- `_warm_reconfig_port_vlans(port, vlans)`. -/
def warmReconfigPortVlans (v : Valve) (port : PortConfig) (vlans : List (Option Vid)) :
    List OfMsg :=
  .ext v.dp.dpId (.delPort .host port.number) :: v.portAddVlans port port.mirrorActions ++
    vlans.map fun vid => .ext v.dp.dpId (.floodUpdateVlan vid)

/-- `add_dot1x_native_vlan(port_num, vlan_name)`: move the port's untagged traffic to the first
VLAN with that name; `none` where the port is not in the DP. -/
def addDot1xNativeVlan (v : Valve) (portNum : PortNo) (vlanName : String) :
    Option (Valve × List OfMsg) :=
  (v.dp.port? portNum).map fun port =>
    match v.dp.vlans.filter (·.name = vlanName) with
    | [] => (v, [])
    | vlan :: _ =>
      let assigned := (v.setPortDyn port.number
        { v.dyn.port port.number with dynDot1xNativeVlan := some vlan.vid }).resetPorts vlan.vid
      (assigned, assigned.delNativeVlan port ++
        assigned.warmReconfigPortVlans port [some vlan.vid, port.nativeVlan])

/-- `del_dot1x_native_vlan(port_num)`: return the port's untagged traffic to its native VLAN;
`none` where the port is not in the DP. -/
def delDot1xNativeVlan (v : Valve) (portNum : PortNo) : Option (Valve × List OfMsg) :=
  (v.dp.port? portNum).map fun port =>
    match (v.dyn.port port.number).dynDot1xNativeVlan with
    | none => (v, [])
    | some dynVid =>
      let removed := (v.setPortDyn port.number
        { v.dyn.port port.number with dynDot1xNativeVlan := none }).resetPorts dynVid
      (removed, .flowdel .vlan { inPort := some port.number, vlan := some .null }
          (some v.dp.lowPriority) false ::
        removed.warmReconfigPortVlans port [some dynVid, port.nativeVlan])

end Valve

end Faucet
