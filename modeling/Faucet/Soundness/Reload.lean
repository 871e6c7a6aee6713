import Faucet.Soundness.Ports

/-! # The pipeline check of a reload looks at the running DP

`_pipeline_change` compares the pipeline last sent with `_pipeline_flows()`, which it builds from
`self.dp`; `_apply_config_changes` calls it before swapping in the new DP. Right after the cold
start the two are built from the same DP, so the check never fires, whatever pipeline the new DP
needs: a reload then goes warm unless every port changed. The pipeline last sent is kept across
the warm reload, so the next reload compares it with the new DP's pipeline: the change is seen
one reload late.
-/

namespace Faucet

namespace Valve

section Reload

variable (v : Valve) (loadTables : LoadTables) (newDp : DPConfig) (changes : ConfigChanges)

@[simp] theorem dpInit_dp (newDp : Option DPConfig) : (v.dpInit newDp).dp = newDp.getD v.dp := rfl
@[simp] theorem dpInit_cls (newDp : Option DPConfig) : (v.dpInit newDp).cls = v.cls := rfl

theorem deleteIfAny_portFrame (w : Valve) (portNums : List PortNo) :
    w.PortFrame (if portNums = [] then (w, []) else w.portsDelete portNums).1 := by
  split; exacts [.refl _, portsDelete_portFrame _ _]

theorem addIfAny_portFrame (w : Valve) (vlans : List VlanConfig) (changed upPorts : List PortNo) :
    w.PortFrame (if changed = [] then ((w.addVlans vlans).1, [])
      else (w.addVlans vlans).1.portsAdd upPorts).1 := by
  split
  exacts [addVlans_portFrame _ _, (addVlans_portFrame _ _).trans (portsAdd_portFrame _ _ _)]

/-- The warm path ends on the new DP, keeps the class and the pipeline last sent, and never asks
for a cold start. -/
theorem applyWarmChanges_some (upPorts : List PortNo) {result : Valve × Bool × List OfMsg}
    (applied : v.applyWarmChanges newDp changes upPorts = some result) :
    result.1.dp = newDp ∧ result.1.cls = v.cls ∧
      result.1.lastPipelineFlows = v.lastPipelineFlows ∧ result.2.1 = false := by
  unfold applyWarmChanges at applied
  dsimp only at applied
  split at applied
  · cases applied
  · split at applied
    · cases applied
    · split at applied
      · cases applied
      · cases applied
        have deleted := (deleteIfAny_portFrame v changes.deletedPorts).trans
          (deleteIfAny_portFrame _ changes.changedPorts)
        have added := addIfAny_portFrame
          ((if changes.changedPorts = [] then
            ((if changes.deletedPorts = [] then (v, []) else v.portsDelete changes.deletedPorts).1, [])
            else (if changes.deletedPorts = [] then (v, [])
              else v.portsDelete changes.deletedPorts).1.portsDelete changes.changedPorts).1.dpInit
            (some newDp)) ‹_› changes.changedPorts upPorts
        exact ⟨added.dp, added.cls.trans deleted.cls,
          added.lastPipelineFlows.trans deleted.lastPipelineFlows, rfl⟩

/-- With the pipeline unchanged and not every port changed, the reload takes the warm path. -/
theorem applyConfigChanges_of_pipelineChange (unchanged : v.pipelineChange loadTables = some false)
    (notAll : changes.allPortsChanged = false) :
    v.applyConfigChanges loadTables newDp changes =
      v.applyWarmChanges newDp changes (changes.changedPorts.filter (· ∈ v.dyn.dynUpPortNos)) := by
  simp [applyConfigChanges, unchanged, notAll]

end Reload

/-- Right after the cold start of a table-features class, the pipeline check finds no change. -/
theorem datapathConnect_pipelineChange (v : Valve) (tfm : v.cls.isTfm = true)
    (loadTables : LoadTables) (now : Time) (discovered : List PortNo) :
    (v.datapathConnect loadTables now discovered).1.pipelineChange loadTables = some false := by
  rw [pipelineChange, datapathConnect_lastPipelineFlows, if_pos tfm]
  simp [pipelineFlows, tfm]

end Valve

/-- After the cold start of a table-features class, `_apply_config_changes` takes the warm path,
and so never returns `cold_start`, for every new DP and every change set that does not change
every port: whatever pipeline the new DP needs. -/
theorem tfmReload_after_connect_warm (v : Valve) (tfm : v.cls.isTfm = true)
    (loadTables : LoadTables) (now : Time) (discovered : List PortNo) (newDp : DPConfig)
    (changes : ConfigChanges) (notAll : changes.allPortsChanged = false) :
    (v.datapathConnect loadTables now discovered).1.applyConfigChanges loadTables newDp changes =
        (v.datapathConnect loadTables now discovered).1.applyWarmChanges newDp changes
          (changes.changedPorts.filter
            (· ∈ (v.datapathConnect loadTables now discovered).1.dyn.dynUpPortNos)) ∧
      ∀ upPorts result, (v.datapathConnect loadTables now discovered).1.applyWarmChanges newDp
        changes upPorts = some result → result.2.1 = false :=
  ⟨Valve.applyConfigChanges_of_pipelineChange _ _ _ _
      (Valve.datapathConnect_pipelineChange v tfm loadTables now discovered) notAll,
    fun upPorts _ applied => (Valve.applyWarmChanges_some _ _ _ upPorts applied).2.2.2⟩

/-- A pipeline as the names of its tables. -/
def tableNames : LoadTables := fun dp _ => dp.tables.map (·.name)

/-- A DP with a VLAN table and a source-address table. -/
def twoTableDp : DPConfig :=
  { dpId := 1, name := "sw1", ports := [], ports_nodup := List.nodup_nil, vlans := [],
    vlans_nodup := List.nodup_nil, tables := [⟨"vlan", none⟩, ⟨"eth_src", none⟩] }

/-- `twoTableDp` with a VLAN ACL table added. -/
def threeTableDp : DPConfig :=
  { twoTableDp with tables := [⟨"vlan", none⟩, ⟨"vlan_acl", none⟩, ⟨"eth_src", none⟩] }

/-- An Open vSwitch TFM Valve on `twoTableDp`, before its cold start. -/
def twoTableValve : Valve where
  cls := .ovsTfmValve
  dp := twoTableDp
  dyn := ⟨fun _ => {}, fun _ => {}, ∅, false, none⟩
  lastPipelineFlows := []
  packetInCountSec := 0
  lastPacketInSec := 0
  lastAdvertiseSec := 0
  lastFastAdvertiseSec := 0
  portHighwater := fun _ _ => 0
  metrics := fun _ => none

theorem twoTableValve_reload_warm :
    (twoTableValve.datapathConnect tableNames 0 []).1.applyConfigChanges tableNames threeTableDp
        ⟨[], [], [], [], [], false⟩ =
      (twoTableValve.datapathConnect tableNames 0 []).1.applyWarmChanges threeTableDp
        ⟨[], [], [], [], [], false⟩ (([] : List PortNo).filter
          (· ∈ (twoTableValve.datapathConnect tableNames 0 []).1.dyn.dynUpPortNos)) ∧
    ∀ upPorts result, (twoTableValve.datapathConnect tableNames 0 []).1.applyWarmChanges
        threeTableDp ⟨[], [], [], [], [], false⟩ upPorts = some result → result.2.1 = false :=
  tfmReload_after_connect_warm twoTableValve rfl tableNames 0 [] threeTableDp _ rfl

/-- Reloading an Open vSwitch TFM Valve from a two-table to a three-table pipeline, right after
its cold start, with no port or VLAN changed: the pipelines differ, yet the reload is warm. -/
theorem tfmReload_misses_new_table :
    (twoTableValve.datapathConnect tableNames 0 []).1.lastPipelineFlows = [["vlan", "eth_src"]] ∧
      (tableNames threeTableDp .ovsTfmValve).toFinset ≠ ["vlan", "eth_src"].toFinset ∧
      ((twoTableValve.datapathConnect tableNames 0 []).1.applyConfigChanges tableNames threeTableDp
        ⟨[], [], [], [], [], false⟩).map (·.2.1) = some false := by
  refine ⟨by rw [Valve.datapathConnect_lastPipelineFlows]; rfl, by decide, ?_⟩
  rw [Valve.applyConfigChanges_of_pipelineChange _ _ _ _
    (Valve.datapathConnect_pipelineChange twoTableValve rfl tableNames 0 []) rfl]
  rfl

/-- After the cold start of a table-features class and a warm reload to a new DP, the pipeline
check of the next reload compares the pipeline of the cold start's DP with the new DP's: a
pipeline change is detected one reload late. -/
theorem tfmReload_next_sees_change (v : Valve) (tfm : v.cls.isTfm = true) (loadTables : LoadTables)
    (now : Time) (discovered : List PortNo) (newDp : DPConfig) (changes : ConfigChanges)
    (notAll : changes.allPortsChanged = false) {result : Valve × Bool × List OfMsg}
    (applied : (v.datapathConnect loadTables now discovered).1.applyConfigChanges loadTables newDp
      changes = some result) :
    result.1.pipelineChange loadTables =
      some (decide ((loadTables v.dp v.cls).toFinset ≠ (loadTables newDp v.cls).toFinset)) := by
  rw [Valve.applyConfigChanges_of_pipelineChange _ _ _ _
    (Valve.datapathConnect_pipelineChange v tfm loadTables now discovered) notAll] at applied
  obtain ⟨dp, cls, flows, -⟩ := Valve.applyWarmChanges_some _ _ _ _ applied
  rw [Valve.datapathConnect_cls] at cls
  rw [Valve.pipelineChange, flows, Valve.datapathConnect_lastPipelineFlows, if_pos tfm]
  simp [Valve.pipelineFlows, cls, dp, tfm]

theorem twoTableValve_next_reload_cold :
    ∃ result, (twoTableValve.datapathConnect tableNames 0 []).1.applyConfigChanges tableNames
        threeTableDp ⟨[], [], [], [], [], false⟩ = some result ∧
      result.1.pipelineChange tableNames = some true :=
  ⟨_, rfl, (tfmReload_next_sees_change twoTableValve rfl tableNames 0 [] threeTableDp
    ⟨[], [], [], [], [], false⟩ rfl rfl).trans (by decide)⟩

end Faucet
