import Faucet.Model.OpenFlow
import Mathlib.Data.Finset.Basic
import Mathlib.Data.List.Sort

/-! # Ports, VLANs and datapaths

The configuration a Valve consumes and the dynamic state it keeps. `dp.py`, `port.py` and
`vlan.py` are not part of the repository: their objects appear here with the attributes
`valve.py` reads, split as the spec's design notes split them into an immutable configuration
(`PortConfig`, `VlanConfig`, `DPConfig`) and the dynamic `dyn_*` state, kept per port number
and per VID (`PortDyn`, `VlanDyn`, `DPDyn`). A `DPConfig` is a dictionary of ports and one of
VLANs, so it carries the uniqueness of their keys.
-/

namespace Faucet

/-- Python truthiness of an optional count: set and non-zero. -/
def truthyNat : Option ℕ → Bool
  | some n => n ≠ 0
  | none => false

/-- Python truthiness of an optional time: set and non-zero. -/
def truthyTime : Option Time → Bool
  | some t => t ≠ 0
  | none => false

/-- The order a loop visits a Python `set` of port numbers or VIDs in, taken as ascending. -/
def setOrder (items : List ℕ) : List ℕ := items.dedup.insertionSort (· ≤ ·)

@[simp] theorem mem_setOrder {items : List ℕ} {x : ℕ} : x ∈ setOrder items ↔ x ∈ items := by
  simp [setOrder, (List.perm_insertionSort _ _).mem_iff]

/-- `port.py`'s stack states, as `dyn_stack_current_state` holds them. -/
inductive StackState where
  | adminDown
  | init
  | down
  | up
deriving DecidableEq, Repr

/-- The peer named by a stack port's `port.stack`: `{'dp': remote_dp, 'port': remote_port}`. -/
structure StackPeer where
  dpId : DpId
  dpName : String
  portNumber : PortNo
  /-- `remote_dp.lldp_beacon.get('send_interval')`. -/
  lldpSendInterval : Option Time
  /-- `remote_dp.DEFAULT_LLDP_SEND_INTERVAL`. -/
  defaultLldpSendInterval : Time
deriving DecidableEq, Repr

/-- The beacon interval `_next_stack_link_state` divides by. -/
def StackPeer.sendInterval (peer : StackPeer) : Time :=
  peer.lldpSendInterval.getD peer.defaultLldpSendInterval

/-- `port.dyn_stack_probe_info` as `_verify_stack_lldp` records it. -/
structure StackProbeInfo where
  lastSeenLldpTime : Time
  stackCorrect : Bool
  remoteDpId : DpId
  remoteDpName : Option String
  remotePortId : PortNo
  remotePortState : Option ℕ
deriving DecidableEq, Repr

/-- `port.coprocessor` when it is set. -/
structure Coprocessor where
  vlanVidBase : Option ℕ
deriving DecidableEq, Repr

/-- The configured attributes of a port that `valve.py` reads. -/
structure PortConfig where
  number : PortNo
  enabled : Bool := true
  opstatusReconf : Bool := true
  outputOnly : Bool := false
  coprocessor : Option Coprocessor := none
  receiveLldp : Bool := false
  /-- The LAG id; `0` when the port is not an LACP port. -/
  lacp : ℕ := 0
  lacpActive : Bool := false
  lacpPassthrough : List PortNo := []
  lacpRespInterval : Time := 1
  stack : Option StackPeer := none
  maxLldpLost : ℕ := 3
  dot1x : Bool := false
  taggedVlans : List Vid := []
  nativeVlan : Option Vid := none
  mirror : List PortNo := []
  loopProtectExternal : Bool := false
deriving DecidableEq, Repr

/-- Modelled from the spec: `port.vlans()` (in `port.py`), the port's tagged VLANs then its
native VLAN. -/
def PortConfig.vlans (port : PortConfig) : List Vid :=
  port.taggedVlans ++ port.nativeVlan.toList

/-- Modelled from the spec: `port.mirror_actions()` (in `port.py`), an output to each mirror
port. -/
def PortConfig.mirrorActions (port : PortConfig) : List Action :=
  port.mirror.map .output

/-- The dynamic state of a port. -/
structure PortDyn where
  dynPhysUp : Bool := false
  dynLacpUp : Option ℕ := none
  dynLastLacpPkt : Option LacpPdu := none
  dynLacpUpdatedTime : Option Time := none
  dynLacpLastRespTime : Option Time := none
  dynStackCurrentState : StackState := .down
  dynStackProbeInfo : Option StackProbeInfo := none
  dynDot1xNativeVlan : Option Vid := none
  dynLldpBeaconRecvState : Option ℕ := none
  dynLldpBeaconRecvTime : Option Time := none
  dynLastLldpBeaconTime : Option Time := none
  dynLearnBanCount : ℕ := 0
deriving DecidableEq, Repr

/-- Modelled from the spec: `port.running()` (in `port.py`), an enabled port that is up. -/
def PortConfig.running (port : PortConfig) (dyn : PortDyn) : Bool :=
  port.enabled && dyn.dynPhysUp

/-- A learned host: `HostCacheEntry` of `vlan.py`. -/
structure HostCacheEntry where
  ethSrcInt : ℕ
  port : PortNo
  cacheTime : Time
deriving DecidableEq, Repr

/-- The configured attributes of a VLAN that `valve.py` reads. -/
structure VlanConfig where
  vid : Vid
  name : String
  /-- `vlan.get_ports()`. -/
  ports : List PortNo
  /-- Whether `vlan.acls_in` is set. -/
  aclsIn : Bool := false
  /-- `vlan.ipvs()`. -/
  ipvs : List ℕ := []
  /-- Whether `vlan.faucet_vips` is set. -/
  faucetVips : Bool := false
  faucetMac : Mac := 0
deriving DecidableEq, Repr

/-- The dynamic state of a VLAN. -/
structure VlanDyn where
  /-- The ports with this VLAN as their 802.1X native VLAN, as `vlan.reset_ports` last
  recomputed them. -/
  dot1xPorts : List PortNo := []
  hostCache : List HostCacheEntry := []
  /-- `vlan.dyn_host_cache_stats_stale`, a dictionary by port number. -/
  hostCacheStatsStale : PortNo → Option Bool := fun _ => none
  dynLastUpdatedMetricsSec : Option Time := none
  dynLearnBanCount : ℕ := 0
  /-- `vlan.neigh_cache_count_by_ipv(ipv)`. -/
  neighCacheCount : ℕ → ℕ := fun _ => 0

/-- Modelled from the spec: `vlan.reset_caches()` (in `vlan.py`) empties the VLAN's host and
neighbour caches. -/
def VlanDyn.resetCaches (vlanDyn : VlanDyn) : VlanDyn :=
  { vlanDyn with hostCache := [], neighCacheCount := fun _ => 0 }

/-- A table of `dp.tables` with its `table_config.miss_goto`. -/
structure TableConfig where
  name : String
  missGoto : Option String
deriving DecidableEq, Repr

/-- The configured attributes of a datapath that `valve.py` reads. `dp.ports` and `dp.vlans`
are dictionaries keyed by port number and by VID. -/
structure DPConfig where
  dpId : DpId
  name : String
  ports : List PortConfig
  ports_nodup : (ports.map (·.number)).Nodup
  vlans : List VlanConfig
  vlans_nodup : (vlans.map (·.vid)).Nodup
  tables : List TableConfig := []
  /-- `dp.in_port_tables()`. -/
  inPortTables : List String := []
  /-- `dp.non_vlan_ports()`, as port numbers. -/
  nonVlanPorts : List PortNo := []
  /-- Whether `dp.stack` is set. -/
  stack : Bool := false
  stackRootName : Option String := none
  /-- `dp.is_stack_root()`. -/
  isStackRoot : Bool := false
  lowestPriority : ℕ := 0
  lowPriority : ℕ := 0
  highPriority : ℕ := 0
  highestPriority : ℕ := 0
  hasExternals : Bool := false
  /-- `dp.dot1x['nfv_sw_port']`, when `dp.dot1x` is set. -/
  dot1x : Option PortNo := none
  /-- `dp.has_acls`: the Valve has an ACL manager. -/
  hasAcls : Bool := false
  /-- Whether `dp.dp_acls` is set. -/
  dpAcls : Bool := false
  /-- Whether `ipv4_fib` and `ipv6_fib` are in `dp.tables`: a route manager for each. -/
  ipv4Fib : Bool := false
  ipv6Fib : Bool := false
  tunnelAcls : List ℕ := []
  lacpTimeout : Time := 30
  ignoreLearnIns : ℕ := 0
  metricsRateLimitSec : Time := 0
  strictPacketInCookie : Bool := true
  cookie : ℕ := 0
  globalVlan : Vid := 0
  useIdleTimeout : Bool := false
  /-- `dp.lldp_beacon['send_interval']`, when `dp.lldp_beacon` is set. -/
  lldpBeaconSendInterval : Option Time := none
  /-- `DP.DEFAULT_LLDP_SEND_INTERVAL`. -/
  defaultLldpSendInterval : Time := 5
  /-- `dp.fast_advertise_interval`; `0` disables `fast_advertise`. -/
  fastAdvertiseInterval : Time := 0
  /-- `dp.advertise_interval`; `0` disables `advertise`. -/
  advertiseInterval : Time := 0
  idleDst : Bool := false
  meters : List ℕ := []
  packetinPps : ℕ := 0
  groupTable : Bool := false
  stackRouteLearning : Bool := false
  faucetDpMac : Mac := 0x0e0000000001

/-- In a list whose keys are distinct, looking up an element's key finds the element. -/
theorem find?_key_of_mem {α κ : Type} [DecidableEq κ] {key : α → κ} {l : List α}
    (distinct : (l.map key).Nodup) {x : α} (mem : x ∈ l) : l.find? (key · = key x) = some x := by
  obtain ⟨found, hfound⟩ := Option.isSome_iff_exists.mp
    (List.find?_isSome.mpr ⟨x, mem, by simp⟩ : (l.find? (key · = key x)).isSome)
  rw [hfound, List.inj_on_of_nodup_map distinct (List.mem_of_find?_eq_some hfound) mem
    (by simpa using List.find?_some hfound)]

namespace DPConfig

variable (dp : DPConfig)

/-- `dp.port_no_valid(port_no)`: the port number is a key of `dp.ports`. -/
def portNoValid (portNo : PortNo) : Bool := dp.ports.any (·.number = portNo)

/-- `dp.ports[port_no]`. -/
def port? (portNo : PortNo) : Option PortConfig := dp.ports.find? (·.number = portNo)

/-- `dp.vlans[vid]`. -/
def vlan? (vid : Vid) : Option VlanConfig := dp.vlans.find? (·.vid = vid)

/-- Modelled from the spec: `dp.stack_ports` (in `dp.py`), the ports with a stack peer. -/
def stackPorts : List PortConfig := dp.ports.filter (·.stack.isSome)

/-- Modelled from the spec: `dp.lacp_active_ports` (in `dp.py`). -/
def lacpActivePorts : List PortConfig := dp.ports.filter fun port => port.lacp ≠ 0 && port.lacpActive

/-- Modelled from the spec: `dp.lacp_forwarding(port)` (in `dp.py`) holds on a DP that is not
stacked or is the stack root. -/
def lacpForwarding (_port : PortConfig) : Bool := !dp.stack || dp.isStackRoot

/-- `_get_managers`: pipeline, host, the route managers of the FIB tables present, flood, and
the ACL manager when there are ACLs. -/
def managers : List Manager :=
  [.pipeline, .host] ++ (if dp.ipv4Fib then [.route 4] else []) ++
    (if dp.ipv6Fib then [.route 6] else []) ++ [.flood] ++ (if dp.hasAcls then [.acl] else [])

/-- The route managers, `_route_manager_by_ipv.values()`. -/
def routeIpvs : List ℕ := (if dp.ipv4Fib then [4] else []) ++ (if dp.ipv6Fib then [6] else [])

/-- Two ports of a DP with the same number are the same port. -/
theorem port_eq_of_number {q r : PortConfig} (memQ : q ∈ dp.ports) (memR : r ∈ dp.ports)
    (same : q.number = r.number) : q = r :=
  List.inj_on_of_nodup_map dp.ports_nodup memQ memR same

theorem port?_of_mem {port : PortConfig} (mem : port ∈ dp.ports) :
    dp.port? port.number = some port :=
  find?_key_of_mem dp.ports_nodup mem

theorem vlan?_of_mem {vlan : VlanConfig} (mem : vlan ∈ dp.vlans) :
    dp.vlan? vlan.vid = some vlan :=
  find?_key_of_mem dp.vlans_nodup mem

theorem port?_eq_some {portNo : PortNo} {port : PortConfig} (found : dp.port? portNo = some port) :
    port ∈ dp.ports ∧ port.number = portNo :=
  ⟨List.mem_of_find?_eq_some found, by simpa using List.find?_some found⟩

theorem vlan?_eq_some {vid : Vid} {vlan : VlanConfig} (found : dp.vlan? vid = some vlan) :
    vlan ∈ dp.vlans ∧ vlan.vid = vid :=
  ⟨List.mem_of_find?_eq_some found, by simpa using List.find?_some found⟩

theorem mem_ports_of_mem_stackPorts {port : PortConfig} (mem : port ∈ dp.stackPorts) :
    port ∈ dp.ports :=
  (List.mem_filter.mp mem).1

end DPConfig

/-- The dynamic state of a datapath: its own, and that of each port and VLAN. -/
structure DPDyn where
  port : PortNo → PortDyn
  vlan : Vid → VlanDyn
  dynUpPortNos : Finset PortNo
  dynRunning : Bool
  dynLastColdstartTime : Option Time

namespace DPDyn

/-- Assign to a port's dynamic attributes. -/
def setPort (dyn : DPDyn) (portNo : PortNo) (portDyn : PortDyn) : DPDyn :=
  { dyn with port := Function.update dyn.port portNo portDyn }

/-- Assign to a VLAN's dynamic attributes. -/
def setVlan (dyn : DPDyn) (vid : Vid) (vlanDyn : VlanDyn) : DPDyn :=
  { dyn with vlan := Function.update dyn.vlan vid vlanDyn }

variable (dyn : DPDyn) (portNo other : PortNo) (portDyn : PortDyn)

@[simp] theorem setPort_port_self : (dyn.setPort portNo portDyn).port portNo = portDyn :=
  Function.update_same _ _ _

@[simp] theorem setPort_port_ne (ne : other ≠ portNo) :
    (dyn.setPort portNo portDyn).port other = dyn.port other :=
  Function.update_noteq ne _ _

@[simp] theorem setPort_self : dyn.setPort portNo (dyn.port portNo) = dyn := by
  simp [setPort]

@[simp] theorem setPort_vlan : (dyn.setPort portNo portDyn).vlan = dyn.vlan := rfl
@[simp] theorem setPort_dynUpPortNos :
    (dyn.setPort portNo portDyn).dynUpPortNos = dyn.dynUpPortNos := rfl
@[simp] theorem setPort_dynRunning : (dyn.setPort portNo portDyn).dynRunning = dyn.dynRunning := rfl

variable (vid otherVid : Vid) (vlanDyn : VlanDyn)

@[simp] theorem setVlan_vlan_self : (dyn.setVlan vid vlanDyn).vlan vid = vlanDyn :=
  Function.update_same _ _ _

@[simp] theorem setVlan_vlan_ne (ne : otherVid ≠ vid) :
    (dyn.setVlan vid vlanDyn).vlan otherVid = dyn.vlan otherVid :=
  Function.update_noteq ne _ _

@[simp] theorem setVlan_port : (dyn.setVlan vid vlanDyn).port = dyn.port := rfl
@[simp] theorem setVlan_dynUpPortNos :
    (dyn.setVlan vid vlanDyn).dynUpPortNos = dyn.dynUpPortNos := rfl

end DPDyn

/-- Modelled from the spec: `dp.lags_up()` (in `dp.py`), the LACP ports whose LACP is up (1),
grouped by LAG in a `defaultdict(list)`. -/
def DPConfig.lagsUp (dp : DPConfig) (dyn : DPDyn) : DefaultList ℕ PortConfig :=
  dp.ports.foldl (fun lags port =>
    if port.lacp ≠ 0 ∧ (dyn.port port.number).dynLacpUp = some 1 then lags.extend port.lacp [port]
    else lags) []

/-- The ports of `lags_up()`, in their order, are the up LACP ports of the DP. -/
theorem DPConfig.lagsUp_perm (dp : DPConfig) (dyn : DPDyn) :
    List.Perm ((dp.lagsUp dyn).flatMap (·.2))
      (dp.ports.filter fun port => port.lacp ≠ 0 ∧ (dyn.port port.number).dynLacpUp = some 1) := by
  simpa using (DefaultList.foldl_group_perm (·.lacp)
    (fun port => port.lacp ≠ 0 ∧ (dyn.port port.number).dynLacpUp = some 1) dp.ports [] List.nodup_nil).2

theorem DPConfig.mem_lagsUp (dp : DPConfig) (dyn : DPDyn) {port : PortConfig} :
    port ∈ (dp.lagsUp dyn).flatMap (·.2) ↔
      port ∈ dp.ports ∧ port.lacp ≠ 0 ∧ (dyn.port port.number).dynLacpUp = some 1 := by
  simp [(dp.lagsUp_perm dyn).mem_iff]

/-- `lags_up()` visits each port once. -/
theorem DPConfig.lagsUp_numbers_nodup (dp : DPConfig) (dyn : DPDyn) :
    (((dp.lagsUp dyn).flatMap (·.2)).map (·.number)).Nodup :=
  ((dp.lagsUp_perm dyn).map _).nodup_iff.mpr
    (dp.ports_nodup.sublist (List.filter_sublist _ |>.map _))

end Faucet
