import Faucet.Soundness.Reload

/-! # The up ports follow the reported link state

`_set_port_status` records in `dp.dyn_up_port_nos` the link state every port-status message
reports, before the handler looks at the port or the reason; `ports_add` and `ports_delete`,
which the handler runs by the reason and `opstatus_reconf`, leave it alone. So after the cold
start and any port-status messages, a port is up exactly when the last message for it reported
its link up (with no message, when the cold start found it up), whatever was programmed; and a
warm reload re-adds exactly the changed ports so reported. A message adding a port whose link is
down leaves it programmed but not up.
-/

namespace Faucet

/-- A port-status message: `port_status_handler(port_no, reason, state)`. -/
structure PortStatusEvent where
  portNo : PortNo
  reason : ℕ
  state : ℕ
deriving DecidableEq, Repr

/-- The Valve after a run of port-status messages. -/
def portStatusRun (portStatusFromState : PortStatusFromState) (v : Valve)
    (events : List PortStatusEvent) : Valve :=
  events.foldl (fun v e => (v.portStatusHandler portStatusFromState e.portNo e.reason e.state).1) v

/-- The link state the last message of a run for the port reported, if any. -/
def lastPortStatus (portStatusFromState : PortStatusFromState) (portNo : PortNo) :
    List PortStatusEvent → Option Bool
  | [] => none
  | e :: events => (lastPortStatus portStatusFromState portNo events).or
      (if e.portNo = portNo then some (portStatusFromState e.state) else none)

namespace Valve

variable (v : Valve) (portStatusFromState : PortStatusFromState) (portNo : PortNo) (reason state : ℕ)

/-- The port-status handler changes, beyond the status it records, only what adding or deleting
the port changes. -/
theorem portStatusHandler_portFrame :
    (v.setPortStatus portNo (portStatusFromState state)).PortFrame
      (v.portStatusHandler portStatusFromState portNo reason state).1 ∧
    (v.setPortStatus portNo (portStatusFromState state)).LacpKept
      (v.portStatusHandler portStatusFromState portNo reason state).1 := by
  unfold portStatusHandler
  dsimp only
  split
  · exact ⟨.refl _, .refl _⟩
  · split_ifs <;> dsimp only
    · exact ⟨.refl _, .refl _⟩
    · exact ⟨(portDelete_portFrame _ _).trans (portAdd_portFrame _ _),
        (portDelete_lacpKept _ _).trans (portAdd_lacpKept _ _)⟩
    · exact ⟨portAdd_portFrame _ _, portAdd_lacpKept _ _⟩
    · exact ⟨portDelete_portFrame _ _, portDelete_lacpKept _ _⟩
    · exact ⟨.refl _, .refl _⟩

theorem portStatusHandler_dynUpPortNos :
    (v.portStatusHandler portStatusFromState portNo reason state).1.dyn.dynUpPortNos =
      if portStatusFromState state then insert portNo v.dyn.dynUpPortNos
      else v.dyn.dynUpPortNos.erase portNo := by
  rw [(portStatusHandler_portFrame v portStatusFromState portNo reason state).1.dynUpPortNos,
    setPortStatus_dynUpPortNos]

@[simp] theorem portStatusHandler_dp :
    (v.portStatusHandler portStatusFromState portNo reason state).1.dp = v.dp := by
  rw [(portStatusHandler_portFrame v portStatusFromState portNo reason state).1.dp,
    setPortStatus_dp]

/-- A message adding a port of the DP that ignores no status brings the port physically up:
the handler ran `ports_add` on it last. -/
theorem portStatusHandler_add_physUp {port : PortConfig} (found : v.dp.port? portNo = some port)
    (reconf : port.opstatusReconf = true) :
    ((v.portStatusHandler portStatusFromState portNo ofpprAdd state).1.dyn.port portNo).dynPhysUp =
      true := by
  unfold portStatusHandler
  dsimp only
  rw [setPortStatus_dp, found]
  simp only [reconf, Bool.not_true, Bool.false_eq_true, if_false, true_or, if_true,
    show ofpprAdd ∈ [ofpprAdd, ofpprDelete, ofpprModify] from List.mem_cons_self _ _,
    not_true_eq_false]
  split
  · exact portAdd_physUp _ (by rwa [(portDelete_portFrame _ _).dp, setPortStatus_dp])
  · exact portAdd_physUp _ (by rwa [setPortStatus_dp])

end Valve

@[simp] theorem portStatusRun_dp (portStatusFromState : PortStatusFromState) :
    ∀ (events : List PortStatusEvent) (v : Valve),
      (portStatusRun portStatusFromState v events).dp = v.dp
  | [], _ => rfl
  | e :: events, v => by
    rw [portStatusRun, List.foldl_cons, ← portStatusRun, portStatusRun_dp _ events,
      Valve.portStatusHandler_dp]

/-- Over a run of port-status messages, a port is up exactly when the last message for it
reported its link up, or, with none, when it was up before. -/
theorem portStatusRun_dynUpPortNos (portStatusFromState : PortStatusFromState) (portNo : PortNo) :
    ∀ (events : List PortStatusEvent) (v : Valve),
      portNo ∈ (portStatusRun portStatusFromState v events).dyn.dynUpPortNos ↔
        match lastPortStatus portStatusFromState portNo events with
        | some up => up = true
        | none => portNo ∈ v.dyn.dynUpPortNos
  | [], _ => Iff.rfl
  | e :: events, v => by
    rw [portStatusRun, List.foldl_cons, ← portStatusRun,
      portStatusRun_dynUpPortNos portStatusFromState portNo events, lastPortStatus]
    cases lastPortStatus portStatusFromState portNo events with
    | some up => rfl
    | none =>
      rw [Option.none_or, Valve.portStatusHandler_dynUpPortNos]
      by_cases here : e.portNo = portNo
      · subst here
        cases portStatusFromState e.state <;> simp
      · cases portStatusFromState e.state <;> simp [here, Ne.symm here]

/-- Whether a port's link was last reported up: by the last port-status message for it, or, with
none, by the cold start, which takes a configured port as up when it was discovered up or is
always up. -/
def reportedUp (v : Valve) (discovered : List PortNo) (portStatusFromState : PortStatusFromState)
    (events : List PortStatusEvent) (portNo : PortNo) : Bool :=
  match lastPortStatus portStatusFromState portNo events with
  | some up => up
  | none =>
    if portNo ∈ Valve.getAllConfiguredPortNos v.dp then
      decide (portNo ∈ discovered ∨ portNo ∈ Valve.alwaysUpPortNos v.dp)
    else decide (portNo ∈ v.dyn.dynUpPortNos)

/-- After the cold start of `v` and any port-status messages, with any reasons and state bits,
a port is in `dyn_up_port_nos` exactly when its link was last reported up; so a following warm
reload passes to `ports_add` exactly the changed ports whose link was last reported up. -/
theorem dynUpPortNos_last_reported (v : Valve) (loadTables : LoadTables) (now : Time)
    (discovered : List PortNo) (portStatusFromState : PortStatusFromState)
    (events : List PortStatusEvent) :
    (∀ portNo, portNo ∈ (portStatusRun portStatusFromState
        (v.datapathConnect loadTables now discovered).1 events).dyn.dynUpPortNos ↔
      reportedUp v discovered portStatusFromState events portNo = true) ∧
    ∀ (loadTables' : LoadTables) (newDp : DPConfig) (changes : ConfigChanges),
      (portStatusRun portStatusFromState (v.datapathConnect loadTables now discovered).1
        events).pipelineChange loadTables' = some false →
      changes.allPortsChanged = false →
      (portStatusRun portStatusFromState (v.datapathConnect loadTables now discovered).1
          events).applyConfigChanges loadTables' newDp changes =
        (portStatusRun portStatusFromState (v.datapathConnect loadTables now discovered).1
          events).applyWarmChanges newDp changes
          (changes.changedPorts.filter (reportedUp v discovered portStatusFromState events)) := by
  have mem : ∀ portNo, portNo ∈ (portStatusRun portStatusFromState
      (v.datapathConnect loadTables now discovered).1 events).dyn.dynUpPortNos ↔
      reportedUp v discovered portStatusFromState events portNo = true := by
    intro portNo
    rw [portStatusRun_dynUpPortNos, reportedUp]
    cases lastPortStatus portStatusFromState portNo events with
    | some up => rfl
    | none =>
      rw [Valve.datapathConnect_dynUpPortNos]
      split <;> simp
  refine ⟨mem, fun loadTables' newDp changes unchanged notAll => ?_⟩
  rw [Valve.applyConfigChanges_of_pipelineChange _ _ _ _ unchanged notAll]
  exact congrArg _ (List.filter_congr fun portNo _ => by simp [mem])

/-- DP 1 with port 1, untagged on VLAN 100, before its cold start. -/
def oneVlanPortValve : Valve where
  cls := .valve
  dp := { dpId := 1, name := "sw1", ports := [{ number := 1, nativeVlan := some 100 }],
          ports_nodup := by decide, vlans := [{ vid := 100, name := "office", ports := [1] }],
          vlans_nodup := by decide }
  dyn := ⟨fun _ => {}, fun _ => {}, ∅, false, none⟩
  lastPipelineFlows := []
  packetInCountSec := 0
  lastPacketInSec := 0
  lastAdvertiseSec := 0
  lastFastAdvertiseSec := 0
  portHighwater := fun _ _ => 0
  metrics := fun _ => none

/-- A decoding of the port-status bits that reads bit 0, `OFPPS_LINK_DOWN`, as the link down. -/
def linkDownBit : PortStatusFromState := fun state => state % 2 = 0

/-- After the cold start with port 1 up, a message adding port 1 with its link down runs
`ports_add` on it (it is physically up again) but takes it out of `dyn_up_port_nos`. -/
theorem portStatus_add_link_down :
    1 ∈ Valve.getAllConfiguredPortNos oneVlanPortValve.dp ∧
      1 ∉ (portStatusRun linkDownBit (oneVlanPortValve.datapathConnect (fun _ _ => []) 0 [1]).1
        [⟨1, ofpprAdd, 1⟩]).dyn.dynUpPortNos ∧
      ((portStatusRun linkDownBit (oneVlanPortValve.datapathConnect (fun _ _ => []) 0 [1]).1
        [⟨1, ofpprAdd, 1⟩]).dyn.port 1).dynPhysUp = true := by
  refine ⟨by decide, ?_, ?_⟩
  · simp [portStatusRun, Valve.portStatusHandler_dynUpPortNos, linkDownBit]
  · exact Valve.portStatusHandler_add_physUp _ _ _ _ (by rw [Valve.datapathConnect_dp]; rfl) rfl

end Faucet
