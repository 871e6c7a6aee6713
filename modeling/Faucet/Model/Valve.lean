import Faucet.Model.Datapath

/-! # Valves and their hardware classes

`SUPPORTED_HARDWARE` maps a DP's `hardware` name to a subclass of `Valve`; the subclasses differ
only in class constants and, for the table-features classes, in how they build the pipeline.
A `Valve` holds its DP and the counters and marks `dp_init` resets. The gauges it exports are
kept as the values the metrics sink holds for them.
-/

namespace Faucet

/-- The subclasses of `Valve` in `valve.py`. -/
inductive ValveClass where
  | valve
  | tfmValve
  | ovsValve
  | ovsTfmValve
  | arubaValve
  | ciscoC9KValve
  | alliedTelesis
  | noviFlowValve
deriving DecidableEq, Repr

namespace ValveClass

/-- Whether the class derives from `TfmValve`, which sends a table-features message. -/
def isTfm : ValveClass → Bool
  | tfmValve | ovsTfmValve | arubaValve | ciscoC9KValve => true
  | _ => false

/-- `DEC_TTL`. -/
def decTtl : ValveClass → Bool
  | arubaValve | alliedTelesis => false
  | _ => true

/-- `USE_BARRIERS`. -/
def useBarriers : ValveClass → Bool
  | ovsValve | ovsTfmValve | alliedTelesis => false
  | _ => true

/-- `STATIC_TABLE_IDS`. -/
def staticTableIds : ValveClass → Bool
  | noviFlowValve => true
  | _ => false

/-- The class constants `TfmValve._pipeline_flows` passes to `tfm_pipeline.load_tables`. -/
structure TfmParams where
  maxTableId : ℕ
  minMaxFlows : ℕ
  useOxmIds : Bool
  fillReq : Bool
deriving DecidableEq, Repr

/-- `MAX_TABLE_ID`, `MIN_MAX_FLOWS`, `USE_OXM_IDS` and `FILL_REQ` of a `TfmValve` class. -/
def tfmParams : ValveClass → TfmParams
  | ovsTfmValve => ⟨253, 1000000, false, true⟩
  | arubaValve => ⟨0, 0, true, false⟩
  | _ => ⟨0, 0, true, true⟩

end ValveClass

/-- `SUPPORTED_HARDWARE`. -/
def supportedHardware : List (String × ValveClass) :=
  [("Generic", .valve), ("GenericTFM", .tfmValve), ("Allied-Telesis", .alliedTelesis),
   ("Aruba", .arubaValve), ("CiscoC9K", .ciscoC9KValve), ("Lagopus", .ovsValve),
   ("Netronome", .ovsValve), ("NoviFlow", .noviFlowValve), ("Open vSwitch", .ovsValve),
   ("Open vSwitch TFM", .ovsTfmValve), ("ZodiacFX", .ovsValve), ("ZodiacGX", .ovsValve)]

/-- `valve_factory`: the class for a DP's `hardware`, if it is supported. -/
def valveFactory (hardware : String) : Option ValveClass :=
  (supportedHardware.find? (·.1 = hardware)).map (·.2)

/-- A gauge or counter series with its labels (the DP's own labels are the same for every
series). -/
inductive Series where
  | dpStatus
  | ofDpConnections
  | ofDpDisconnections
  | ofIgnoredPacketIns
  | ofNonVlanPacketIns
  | ofVlanPacketIns
  | faucetConfigReloadCold
  | faucetConfigReloadWarm
  | portStatus (port : PortNo)
  | portLacpStatus (port : PortNo)
  | vlanHostsLearned (vid : Vid)
  | vlanLearnBans (vid : Vid)
  | vlanNeighbors (vid : Vid) (ipv : ℕ)
  | portLearnBans (port : PortNo)
  | portVlanHostsLearned (port : PortNo) (vid : Vid)
  | learnedMacs (port : PortNo) (vid : Vid) (n : ℕ)
deriving DecidableEq, Repr

/-- A Valve: its class, its DP with the DP's dynamic state, and its own counters. -/
structure Valve where
  cls : ValveClass
  dp : DPConfig
  dyn : DPDyn
  /-- `_last_pipeline_flows`: the table-features messages of the last cold start, each as the
  `str` of its tables. -/
  lastPipelineFlows : List (List String)
  packetInCountSec : ℕ
  lastPacketInSec : Time
  lastAdvertiseSec : Time
  lastFastAdvertiseSec : Time
  /-- `_port_highwater[vid][port_number]`. -/
  portHighwater : Vid → PortNo → ℕ
  /-- The values of this Valve's gauges in the metrics sink; `none` for a series never set. -/
  metrics : Series → Option ℕ
  /-- The `update_stack_topo(port_stack_up, dp, port)` calls made on the flood manager since the
  DP was loaded, oldest first, each as the port's new state (`UP` or not), the DP and the port:
  `valve_flood.py` and the stack graph it changes are not part of the repository, so the
  topology is kept as the calls that changed it. -/
  stackTopo : List (Bool × DpId × PortNo) := []
  /-- `dp.tunnel_updated_flags`: the tunnels `update_tunnel_flowrules` marked updated. -/
  tunnelUpdatedFlags : ℕ → Bool := fun _ => false

namespace Valve

/-- Modelled from the spec: `new_dp.clone_dyn_state(self.dp)` (in `dp.py`) carries the outgoing
DP's dynamic state, kept by port number and VID, over to the new DP. -/
def cloneDynState (v : Valve) : DPDyn := v.dyn

/-- `dp_init`: adopt `new_dp` (cloning the dynamic state) if given, and reset the per-DP
counters and the MAC export high-water marks. A new DP comes with its own stack graph and tunnel
flags, which no call has changed yet. -/
def dpInit (v : Valve) (newDp : Option DPConfig) : Valve :=
  { v with
    dp := newDp.getD v.dp
    dyn := v.cloneDynState
    packetInCountSec := 0
    lastPacketInSec := 0
    lastAdvertiseSec := 0
    lastFastAdvertiseSec := 0
    portHighwater := fun _ _ => 0
    stackTopo := if newDp.isSome then [] else v.stackTopo
    tunnelUpdatedFlags := if newDp.isSome then fun _ => false else v.tunnelUpdatedFlags }

/-- `self._set_var(var, val, labels)`. -/
def setVar (v : Valve) (series : Series) (val : ℕ) : Valve :=
  { v with metrics := Function.update v.metrics series (some val) }

/-- `self._inc_var(var)`. -/
def incVar (v : Valve) (series : Series) : Valve :=
  v.setVar series ((v.metrics series).getD 0 + 1)

/-- Assign to a port's dynamic attributes. -/
def setPortDyn (v : Valve) (portNo : PortNo) (portDyn : PortDyn) : Valve :=
  { v with dyn := v.dyn.setPort portNo portDyn }

/-- `_reset_dp_status`. -/
def resetDpStatus (v : Valve) : Valve := v.setVar .dpStatus (if v.dyn.dynRunning then 1 else 0)

section Frame

variable (v : Valve) (series : Series) (val : ℕ) (portNo : PortNo) (portDyn : PortDyn)

@[simp] theorem setVar_dp : (v.setVar series val).dp = v.dp := rfl
@[simp] theorem setVar_dyn : (v.setVar series val).dyn = v.dyn := rfl
@[simp] theorem setVar_cls : (v.setVar series val).cls = v.cls := rfl
@[simp] theorem setVar_lastPipelineFlows :
    (v.setVar series val).lastPipelineFlows = v.lastPipelineFlows := rfl
@[simp] theorem setVar_portHighwater : (v.setVar series val).portHighwater = v.portHighwater := rfl
@[simp] theorem incVar_dp : (v.incVar series).dp = v.dp := rfl
@[simp] theorem incVar_dyn : (v.incVar series).dyn = v.dyn := rfl
@[simp] theorem incVar_lastPipelineFlows :
    (v.incVar series).lastPipelineFlows = v.lastPipelineFlows := rfl
@[simp] theorem resetDpStatus_dp : v.resetDpStatus.dp = v.dp := rfl
@[simp] theorem resetDpStatus_dyn : v.resetDpStatus.dyn = v.dyn := rfl
@[simp] theorem resetDpStatus_lastPipelineFlows :
    v.resetDpStatus.lastPipelineFlows = v.lastPipelineFlows := rfl
@[simp] theorem setPortDyn_dp : (v.setPortDyn portNo portDyn).dp = v.dp := rfl
@[simp] theorem setPortDyn_dyn : (v.setPortDyn portNo portDyn).dyn = v.dyn.setPort portNo portDyn :=
  rfl
@[simp] theorem setPortDyn_metrics : (v.setPortDyn portNo portDyn).metrics = v.metrics := rfl
@[simp] theorem setPortDyn_lastPipelineFlows :
    (v.setPortDyn portNo portDyn).lastPipelineFlows = v.lastPipelineFlows := rfl
@[simp] theorem setPortDyn_portHighwater :
    (v.setPortDyn portNo portDyn).portHighwater = v.portHighwater := rfl

end Frame

@[simp] theorem dpInit_lastPipelineFlows (v : Valve) (newDp : Option DPConfig) :
    (v.dpInit newDp).lastPipelineFlows = v.lastPipelineFlows := rfl

@[simp] theorem dpInit_dyn (v : Valve) (newDp : Option DPConfig) :
    (v.dpInit newDp).dyn = v.dyn := rfl

end Valve

end Faucet
