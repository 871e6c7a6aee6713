import Faucet.Soundness.StackLink
import Faucet.Soundness.Lacp
import Faucet.Soundness.Dot1x
import Faucet.Soundness.Metrics
import Faucet.Soundness.PacketIn

/-! # The handlers interleaved

Each soundness module follows one group of handlers: the LACP and port handlers with the expiry
keep every up LACP port holding its last PDU (`LacpRecorded`); `lldp_handler` and
`fast_state_expire` keep every stack port that is `UP` holding a probe (`StackInv`) and every
truthy beacon state with its receive time (`BeaconsTimed`), so that the tick never raises;
`update_metrics` and the host-cache changes keep every (VLAN, port) pair's `learned_macs`
consistent (`PairView.Inv`). Each group leaves alone what the others keep: the LACP and port
handlers and the 802.1X calls never touch a port's stack state or beacon, the stack handlers
never touch its LACP state, and only `update_metrics` writes the series, the high water or the
stale flags, while the cold start only empties host caches. So the invariants hold together
over any interleaving of these handlers with the cold start, the disconnect and the packet-in
rate limit; and such a run never raises where every 802.1X call names a port of the DP. No
event of such a run changes the DP.
-/

namespace Faucet

/-- Emptying a pair's hosts keeps its invariant: the export below a high water of zero is
vacuous. -/
theorem PairView.Inv.clearHosts {lt : HostCacheEntry → HostCacheEntry → Bool} {view : PairView}
    (inv : view.Inv lt) : { view with hosts := [] }.Inv lt :=
  ⟨inv.zeroAbove, fun _ empty i below => absurd (lt_of_lt_of_eq below empty) (Nat.not_lt_zero i)⟩

namespace Valve

/-- Every port keeps the part `part` of its dynamic state. -/
def PortPartKept {α : Type} (part : PortDyn → α) (v w : Valve) : Prop :=
  ∀ portNo, part (w.dyn.port portNo) = part (v.dyn.port portNo)

section PortPart

variable {α : Type} (part : PortDyn → α) {u v w : Valve}

theorem PortPartKept.refl (v : Valve) : v.PortPartKept part v := fun _ => rfl

theorem PortPartKept.trans (first : u.PortPartKept part v) (second : v.PortPartKept part w) :
    u.PortPartKept part w :=
  fun portNo => (second portNo).trans (first portNo)

theorem PortPartKept.of_port (same : w.dyn.port = v.dyn.port) : v.PortPartKept part w :=
  fun portNo => by rw [same]

/-- Writing a port's dynamic state keeps a part it does not change. -/
theorem setPortDyn_portPartKept (v : Valve) (portNo : PortNo) (portDyn : PortDyn)
    (kept : part portDyn = part (v.dyn.port portNo)) :
    v.PortPartKept part (v.setPortDyn portNo portDyn) := by
  intro n
  by_cases here : n = portNo
  · subst here
    rwa [setPortDyn_dyn, DPDyn.setPort_port_self]
  · rw [setPortDyn_dyn, DPDyn.setPort_port_ne _ _ _ _ here]

/-- A loop of steps that each keep a part keeps it. -/
theorem foldl_portPartKept {β : Type} (f : Valve → β → Valve)
    (step : ∀ (w : Valve) item, w.PortPartKept part (f w item)) (items : List β) (v : Valve) :
    v.PortPartKept part (items.foldl f v) :=
  foldl_rel _ (PortPartKept.refl part) (PortPartKept.trans part) f step items v

end PortPart

theorem LacpKept.of_lacpPart {v w : Valve} (kept : v.PortPartKept PortDyn.lacpPart w) :
    v.LacpKept w :=
  fun portNo _ => kept portNo

/-! ## What the LACP and port handlers keep: the LLDP state and the pairs -/

section LacpSide

variable (v : Valve)

theorem lacpDown_lldpKept (port : PortConfig) (coldStart : Bool) :
    v.PortPartKept PortDyn.lldpPart (v.lacpDown port coldStart).1 :=
  setPortDyn_portPartKept _ v _ _ rfl

theorem lacpReceive_lldpKept (now : Time) (port : PortConfig) (pdu : LacpPdu) :
    v.PortPartKept PortDyn.lldpPart (v.lacpReceive now port pdu).1 := by
  intro n
  by_cases here : n = port.number
  · subst here
    simp only [lacpReceive, setPortDyn_dyn, DPDyn.setPort_port_self, apply_ite Prod.fst,
      apply_ite Valve.dyn, apply_ite DPDyn.port, ite_apply, lacpUp_fst, lacpDown_fst, setVar_dyn,
      PortDyn.lldpPart, PortDyn.stackPart, PortDyn.beaconPart,
      apply_ite PortDyn.dynStackCurrentState, apply_ite PortDyn.dynStackProbeInfo,
      apply_ite PortDyn.dynLldpBeaconRecvState, apply_ite PortDyn.dynLldpBeaconRecvTime, ite_self]
  · rw [lacpReceive_port_ne _ _ _ _ here]

theorem lacpHandler_lldpKept (now : Time) (port : PortConfig) (ethDst : Mac) (ethType : ℕ)
    (lacpPkt : Option LacpPdu) :
    v.PortPartKept PortDyn.lldpPart (v.lacpHandler now port ethDst ethType lacpPkt).1 := by
  unfold lacpHandler
  split
  · split
    · exact lacpReceive_lldpKept v now port _
    · exact .refl _ _
  · exact .refl _ _

theorem portAddState_lldpKept (coldStart : Bool) (port : PortConfig) :
    v.PortPartKept PortDyn.lldpPart (v.portAddState coldStart port) := by
  have up := setPortDyn_portPartKept PortDyn.lldpPart v port.number
    { v.dyn.port port.number with dynPhysUp := true } rfl
  unfold portAddState; split
  · exact up.trans _ (lacpDown_lldpKept _ _ _)
  · exact up

theorem portDeleteState_lldpKept (port : PortConfig) :
    v.PortPartKept PortDyn.lldpPart (v.portDeleteState port) := by
  have down := setPortDyn_portPartKept PortDyn.lldpPart v port.number
    { v.dyn.port port.number with dynPhysUp := false } rfl
  unfold portDeleteState; split
  · exact down.trans _ (lacpDown_lldpKept _ _ _)
  · exact down

theorem portsAdd_lldpKept (portNums : List PortNo) (coldStart : Bool) :
    v.PortPartKept PortDyn.lldpPart (v.portsAdd portNums coldStart).1 := by
  rw [portsAdd_fst]
  refine foldl_portPartKept _ _ (fun w portNum => ?_) _ _
  rw [portAddOne_fst]; split
  exacts [.refl _ _, portAddState_lldpKept _ _ _]

theorem portsDelete_lldpKept (portNums : List PortNo) :
    v.PortPartKept PortDyn.lldpPart (v.portsDelete portNums).1 := by
  rw [portsDelete_fst]
  refine foldl_portPartKept _ _ (fun w portNum => ?_) _ _
  rw [portDeleteOne_fst]; split
  exacts [.refl _ _, portDeleteState_lldpKept _ _]

theorem portStatusHandler_lldpKept (portStatusFromState : PortStatusFromState) (portNo : PortNo)
    (reason state : ℕ) :
    v.PortPartKept PortDyn.lldpPart
      (v.portStatusHandler portStatusFromState portNo reason state).1 := by
  have status : v.PortPartKept PortDyn.lldpPart
      (v.setPortStatus portNo (portStatusFromState state)) :=
    .of_port _ (setPortStatus_port _ _ _)
  unfold portStatusHandler
  dsimp only
  split
  · exact status
  · split_ifs <;> dsimp only
    · exact status
    · exact (status.trans _ (portsDelete_lldpKept _ _)).trans _ (portsAdd_lldpKept _ _ _)
    · exact status.trans _ (portsAdd_lldpKept _ _ _)
    · exact status.trans _ (portsDelete_lldpKept _ _)
    · exact status

theorem fastAdvertise_lldpKept (now : Time) (beaconPorts : List PortConfig) :
    v.PortPartKept PortDyn.lldpPart (v.fastAdvertise now beaconPorts).1 := by
  rw [fastAdvertise_fst]
  split
  · exact .refl _ _
  · exact (PortPartKept.of_port _ rfl).trans _
      (foldl_portPartKept _ _ (fun w port => setPortDyn_portPartKept _ w _ _ (by rfl)) _ _)

theorem lacpDownEach_lldpKept (ports : List PortConfig) :
    v.PortPartKept PortDyn.lldpPart (lacpDownEach ports (v, [])).1 := by
  rw [lacpDownEach_fst]
  exact foldl_portPartKept _ _ (fun w port => lacpDown_lldpKept w port _) _ _

end LacpSide

section Pairs

variable (v : Valve)

/-- A loop of steps that each keep every pair keeps them. -/
theorem foldl_pairView {β : Type} (f : Valve → β → Valve)
    (step : ∀ (w : Valve) item, (f w item).pairView = w.pairView) (items : List β) (v : Valve) :
    (items.foldl f v).pairView = v.pairView :=
  foldl_rel (fun a b => b.pairView = a.pairView) (fun _ => rfl) (fun first second => second.trans first)
    f step items v

@[simp] theorem setPortDyn_pairView (portNo : PortNo) (portDyn : PortDyn) :
    (v.setPortDyn portNo portDyn).pairView = v.pairView := rfl

/-- Writing a series other than `learned_macs` leaves every pair alone. -/
theorem setVar_pairView {series : Series} (notLearned : ∀ p vid n, .learnedMacs p vid n ≠ series)
    (val : ℕ) : (v.setVar series val).pairView = v.pairView := by
  funext vid portNo
  simp only [pairView, setVar_dyn, setVar_portHighwater, PairView.mk.injEq, true_and]
  exact funext fun n => Function.update_noteq (notLearned portNo vid n) _ _

theorem lacpDown_pairView (port : PortConfig) (coldStart : Bool) :
    (v.lacpDown port coldStart).1.pairView = v.pairView :=
  setVar_pairView _ (by intro _ _ _ same; cases same) _

theorem lacpUp_pairView (port : PortConfig) : (v.lacpUp port).1.pairView = v.pairView :=
  setVar_pairView _ (by intro _ _ _ same; cases same) _

theorem lacpReceive_pairView (now : Time) (port : PortConfig) (pdu : LacpPdu) :
    (v.lacpReceive now port pdu).1.pairView = v.pairView := by
  simp only [lacpReceive, setPortDyn_pairView, apply_ite Prod.fst, apply_ite Valve.pairView,
    lacpUp_pairView, lacpDown_pairView, ite_self]

theorem lacpHandler_pairView (now : Time) (port : PortConfig) (ethDst : Mac) (ethType : ℕ)
    (lacpPkt : Option LacpPdu) :
    (v.lacpHandler now port ethDst ethType lacpPkt).1.pairView = v.pairView := by
  unfold lacpHandler
  split
  · split
    · exact lacpReceive_pairView v now port _
    · rfl
  · rfl

theorem portsAdd_pairView (portNums : List PortNo) (coldStart : Bool) :
    (v.portsAdd portNums coldStart).1.pairView = v.pairView := by
  rw [portsAdd_fst]
  refine foldl_pairView _ (fun w portNum => ?_) _ _
  rw [portAddOne_fst]; split
  · rfl
  · unfold portAddState; split
    · rw [lacpDown_pairView]; rfl
    · rfl

theorem portsDelete_pairView (portNums : List PortNo) :
    (v.portsDelete portNums).1.pairView = v.pairView := by
  rw [portsDelete_fst]
  refine foldl_pairView _ (fun w portNum => ?_) _ _
  rw [portDeleteOne_fst]; split
  · rfl
  · unfold portDeleteState; split
    · rw [lacpDown_pairView]; rfl
    · rfl

theorem setPortStatus_pairView (portNo : PortNo) (portStatus : Bool) :
    (v.setPortStatus portNo portStatus).pairView = v.pairView := by
  unfold setPortStatus
  cases v.dp.port? portNo
  · rfl
  · exact setVar_pairView _ (by intro _ _ _ same; cases same) _

theorem portStatusHandler_pairView (portStatusFromState : PortStatusFromState) (portNo : PortNo)
    (reason state : ℕ) :
    (v.portStatusHandler portStatusFromState portNo reason state).1.pairView = v.pairView := by
  have status := setPortStatus_pairView v portNo (portStatusFromState state)
  unfold portStatusHandler
  dsimp only
  split
  · exact status
  · split_ifs <;> dsimp only
    · exact status
    · rw [portAdd, portsAdd_pairView, portDelete, portsDelete_pairView, status]
    · rw [portAdd, portsAdd_pairView, status]
    · rw [portDelete, portsDelete_pairView, status]
    · exact status

theorem fastAdvertise_pairView (now : Time) (beaconPorts : List PortConfig) :
    (v.fastAdvertise now beaconPorts).1.pairView = v.pairView := by
  rw [fastAdvertise_fst]
  split
  · rfl
  · refine (foldl_pairView _ (fun w port => ?_) _ _).trans rfl
    rfl

theorem lacpDownEach_pairView (ports : List PortConfig) :
    (lacpDownEach ports (v, [])).1.pairView = v.pairView := by
  rw [lacpDownEach_fst]
  exact foldl_pairView _ (fun w port => lacpDown_pairView w port _) _ _

end Pairs

/-! ## What the stack handlers keep: the LACP state and the pairs -/

section StackSide

theorem stackApply_lacpPart (port : PortConfig) (now : Time) (dyn : PortDyn) :
    (stackApply port now dyn).lacpPart = dyn.lacpPart := by
  unfold stackApply; split <;> rfl

variable (v : Valve) (now : Time) (others : List Valve)

theorem updateStackLinkState_frame (ports : List PortConfig) :
    v.PortPartKept PortDyn.lacpPart (v.updateStackLinkState ports now others).1 ∧
      (v.updateStackLinkState ports now others).1.pairView = v.pairView := by
  rw [Valve.updateStackLinkState_fst]
  obtain ⟨lacp, vlan⟩ :=
    stackLinkLoop_keeps v.dp.dpId _ now PortDyn.lacpPart (stackApply_lacpPart · now) ports v.dyn
  refine ⟨lacp, ?_⟩
  funext vid portNo
  simp only [pairView, vlan]

theorem verifyStackLldp_frame (port : PortConfig) (remoteDpId : DpId)
    (remoteDpName : Option String) (remotePortId : PortNo) (remotePortState : Option ℕ) :
    v.PortPartKept PortDyn.lacpPart (v.verifyStackLldp port now others remoteDpId remoteDpName
      remotePortId remotePortState).1 ∧
    (v.verifyStackLldp port now others remoteDpId remoteDpName remotePortId
      remotePortState).1.pairView = v.pairView := by
  unfold Valve.verifyStackLldp
  split
  · exact ⟨.refl _ _, rfl⟩
  · dsimp only
    exact ⟨(setPortDyn_portPartKept _ v _ _ (by rfl)).trans _
      (updateStackLinkState_frame _ now others [port]).1,
      (updateStackLinkState_frame _ now others [port]).2⟩

theorem lldpHandler_frame (port : PortConfig) (ethType : ℕ) (lldp : Option FaucetLldp) :
    v.PortPartKept PortDyn.lacpPart (v.lldpHandler now port ethType lldp others).1 ∧
      (v.lldpHandler now port ethType lldp others).1.pairView = v.pairView := by
  unfold Valve.lldpHandler
  split
  · exact ⟨.refl _ _, rfl⟩
  · split
    · exact ⟨.refl _ _, rfl⟩
    · dsimp only
      split
      · exact ⟨(setPortDyn_portPartKept _ v _ _ (by rfl)).trans _
          (verifyStackLldp_frame _ now others port _ _ _ _).1,
          (verifyStackLldp_frame _ now others port _ _ _ _).2⟩
      · exact ⟨setPortDyn_portPartKept _ v _ _ (by rfl), rfl⟩

theorem fastStateExpire_frame {r : Valve × List StackCall × OfmsgsByValve}
    (expired : v.fastStateExpire now others = some r) :
    v.PortPartKept PortDyn.lacpPart r.1 ∧ r.1.pairView = v.pairView := by
  obtain ⟨w, beacons, rfl⟩ := Option.map_eq_some'.mp expired
  obtain ⟨dyn, rfl, expiredLacp, vlan⟩ :=
    expireBeacons_keeps v now PortDyn.lacpPart (fun _ => rfl) beacons
  obtain ⟨lacp, pairs⟩ := updateStackLinkState_frame { v with dyn := dyn } now others _
  have expired' : v.PortPartKept PortDyn.lacpPart { v with dyn := dyn } := expiredLacp
  refine ⟨expired'.trans _ lacp, pairs.trans ?_⟩
  funext vid portNo
  simp only [pairView, vlan]

/-- An LLDP packet-in or a tick keeps every port's LACP state and every pair. -/
theorem stackStep_frame {e : StackEvent} {w : Valve} (step : stackStep v e = some w) :
    v.PortPartKept PortDyn.lacpPart w ∧ w.pairView = v.pairView := by
  cases e with
  | lldp now portNo ethType lldp others =>
    rw [stackStep_lldp, Option.some.injEq] at step
    subst step
    split
    · exact lldpHandler_frame v now others _ ethType lldp
    · exact ⟨.refl _ _, rfl⟩
  | fastStateExpire now others =>
    rw [stackStep_fastStateExpire] at step
    obtain ⟨r, expired, rfl⟩ := Option.map_eq_some'.mp step
    exact fastStateExpire_frame v now others expired

end StackSide

/-! ## The 802.1X calls, the metrics, the rate limit, the cold start and the disconnect -/

/-- A loop over pairs whose steps each keep a relation on the Valve keeps it. -/
theorem foldl_fst_rel {β γ : Type} (rel : Valve → Valve → Prop) (refl : ∀ v, rel v v)
    (trans : ∀ {a b c}, rel a b → rel b c → rel a c) (f : Valve × γ → β → Valve × γ)
    (step : ∀ acc item, rel acc.1 (f acc item).1) :
    ∀ (items : List β) (acc : Valve × γ), rel acc.1 (items.foldl f acc).1
  | [], _ => refl _
  | item :: items, acc => trans (step acc item) (foldl_fst_rel rel refl trans f step items _)

/-- Every pair whose export was consistent stays so. -/
def MetricsKept (lt : HostCacheEntry → HostCacheEntry → Bool) (v w : Valve) : Prop :=
  ∀ vid portNo, (v.pairView vid portNo).Inv lt → (w.pairView vid portNo).Inv lt

theorem MetricsKept.of_pairView {lt : HostCacheEntry → HostCacheEntry → Bool} {v w : Valve}
    (same : w.pairView = v.pairView) : v.MetricsKept lt w :=
  fun vid portNo inv => by rwa [same]

section Others

variable (v : Valve)

theorem incVar_pairView {series : Series} (notLearned : ∀ p vid n, .learnedMacs p vid n ≠ series) :
    (v.incVar series).pairView = v.pairView :=
  setVar_pairView v notLearned _

theorem resetPorts_pairView (vid : Vid) : (v.resetPorts vid).pairView = v.pairView := by
  funext vid' portNo
  by_cases same : vid' = vid
  · subst same
    simp [pairView, resetPorts, portVlanHosts]
  · simp [pairView, resetPorts, same]

/-- An 802.1X call on a port of the DP returns, and changes only the port's 802.1X VLAN and the
VLANs' 802.1X member lists. -/
theorem dot1xStep_frame {portNum : PortNo} {port : PortConfig}
    (found : v.dp.port? portNum = some port) (e : Dot1xEvent) :
    ∃ w, (dot1xStep portNum v e).map (·.1) = some w ∧ w.dp = v.dp ∧
      v.PortPartKept PortDyn.lldpPart w ∧ v.PortPartKept PortDyn.lacpPart w ∧
      w.pairView = v.pairView := by
  have reassigned : ∀ (vid : Vid) (native : Option Vid),
      let w := (v.setPortDyn port.number
        { v.dyn.port port.number with dynDot1xNativeVlan := native }).resetPorts vid
      w.dp = v.dp ∧ v.PortPartKept PortDyn.lldpPart w ∧ v.PortPartKept PortDyn.lacpPart w ∧
        w.pairView = v.pairView := fun vid native =>
    ⟨rfl, (setPortDyn_portPartKept _ v _ _ (by rfl)).trans _ (.of_port _ rfl),
      (setPortDyn_portPartKept _ v _ _ (by rfl)).trans _ (.of_port _ rfl),
      resetPorts_pairView _ vid⟩
  cases e with
  | add vlanName =>
    simp only [dot1xStep, addDot1xNativeVlan, found, Option.map_some']
    refine ⟨_, rfl, ?_⟩
    split
    · exact ⟨rfl, .refl _ _, .refl _ _, rfl⟩
    · exact reassigned _ _
  | del =>
    simp only [dot1xStep, delDot1xNativeVlan, found, Option.map_some']
    refine ⟨_, rfl, ?_⟩
    split
    · exact ⟨rfl, .refl _ _, .refl _ _, rfl⟩
    · exact reassigned _ _

/-- `update_metrics` writes only counters, the high water and the VLANs' stats: it keeps the DP
and every port's dynamic state. -/
theorem updateMetrics_frame (lt : HostCacheEntry → HostCacheEntry → Bool) (now : Time)
    (updatedPort : Option PortConfig) (rateLimited : Bool) :
    (v.updateMetrics lt now updatedPort rateLimited).1.dp = v.dp ∧
      (v.updateMetrics lt now updatedPort rateLimited).1.dyn.port = v.dyn.port := by
  let rel : Valve → Valve → Prop := fun a b => b.dp = a.dp ∧ b.dyn.port = a.dyn.port
  have trans : ∀ {a b c}, rel a b → rel b c → rel a c :=
    fun first second => ⟨second.1.trans first.1, second.2.trans first.2⟩
  have vlanStep : ∀ (w : Valve) (vlan : VlanConfig), rel w (w.updateVlan vlan now rateLimited).1 := by
    intro w vlan
    unfold updateVlan
    dsimp only
    split
    · exact ⟨rfl, rfl⟩
    · refine trans (by exact ⟨rfl, rfl⟩) (foldl_rel rel (fun _ => ⟨rfl, rfl⟩) trans _
        (fun _ _ => ?_) _ _)
      exact ⟨rfl, rfl⟩
  have portStep : ∀ (w : Valve) (vlan : VlanConfig) (port : PortConfig),
      rel w (w.updatePort lt vlan port) := by
    intro w vlan port
    refine ⟨updatePort_dp w lt vlan port, ?_⟩
    unfold updatePort
    dsimp only
    split_ifs <;> simp
  have marked : ∀ (w : Valve) (vid : Vid), rel w (w.setLastUpdatedMetrics vid now) :=
    fun _ _ => ⟨rfl, rfl⟩
  unfold updateMetrics
  split
  · refine foldl_fst_rel rel (fun _ => ⟨rfl, rfl⟩) trans _ (fun acc vlan => ?_) _ _
    dsimp only
    split
    · exact trans (vlanStep _ _) (trans (portStep _ _ _) (marked _ _))
    · exact vlanStep _ _
  · refine foldl_fst_rel rel (fun _ => ⟨rfl, rfl⟩) trans _ (fun acc vlan => ?_) _ _
    dsimp only
    split
    · exact trans (vlanStep _ _) (trans (foldl_rel rel (fun _ => ⟨rfl, rfl⟩) trans _
        (fun w port => portStep w vlan port) _ _) (marked _ _))
    · exact vlanStep _ _

theorem metricsStep_frame (lt : HostCacheEntry → HostCacheEntry → Bool) (e : MetricsEvent) :
    (metricsStep lt v e).dp = v.dp ∧ (metricsStep lt v e).dyn.port = v.dyn.port := by
  cases e with
  | updateMetrics now updatedPort rateLimited => exact updateMetrics_frame v lt now updatedPort rateLimited
  | hostsChanged vid hostCache marked => exact ⟨rfl, rfl⟩

/-- `rate_limit_packet_ins` writes only its counters. -/
theorem rateLimitPacketIns_frame (now : Time) :
    (v.rateLimitPacketIns now).1.dyn = v.dyn ∧ (v.rateLimitPacketIns now).1.pairView = v.pairView := by
  unfold rateLimitPacketIns
  dsimp only
  split_ifs
  · exact ⟨rfl, (incVar_pairView _ (by intro _ _ _ same; cases same)).trans rfl⟩
  · exact ⟨rfl, rfl⟩
  · exact ⟨rfl, (incVar_pairView _ (by intro _ _ _ same; cases same)).trans rfl⟩
  · exact ⟨rfl, rfl⟩

theorem datapathDisconnect_pairView : v.datapathDisconnect.pairView = v.pairView :=
  (setVar_pairView _ (by intro _ _ _ same; cases same) _).trans
    ((incVar_pairView _ (by intro _ _ _ same; cases same)).trans rfl)

theorem addVlan_metricsKept (lt : HostCacheEntry → HostCacheEntry → Bool) (vlan : VlanConfig) :
    v.MetricsKept lt (v.addVlan vlan).1 := by
  intro vid portNo inv
  by_cases same : vid = vlan.vid
  · subst same
    have cleared : (v.addVlan vlan).1.pairView vlan.vid portNo =
        { v.pairView vlan.vid portNo with hosts := [] } := by
      simp [addVlan, pairView, VlanDyn.resetCaches, portVlanHosts]
    rw [cleared]
    exact inv.clearHosts
  · have kept : (v.addVlan vlan).1.pairView vid portNo = v.pairView vid portNo := by
      simp [addVlan, pairView, same]
    rwa [kept]

theorem addVlans_metricsKept (lt : HostCacheEntry → HostCacheEntry → Bool) (vlans : List VlanConfig) :
    v.MetricsKept lt (v.addVlans vlans).1 := by
  unfold addVlans
  refine foldl_fst_rel (MetricsKept lt) (fun _ _ _ inv => inv)
    (fun first second vid portNo inv => second vid portNo (first vid portNo inv)) _
    (fun acc vlan => ?_) vlans (v, [])
  exact addVlan_metricsKept _ lt vlan

theorem addPortsAndVlans_frame (lt : HostCacheEntry → HostCacheEntry → Bool)
    (discovered : List PortNo) :
    v.PortPartKept PortDyn.lldpPart (v.addPortsAndVlans discovered).1 ∧
      v.MetricsKept lt (v.addPortsAndVlans discovered).1 := by
  obtain ⟨-, -, -, -, port, -⟩ := foldl_setPortStatus
    (fun q => decide (q ∈ discovered ++ alwaysUpPortNos v.dp)) 0 (getAllConfiguredPortNos v.dp) v
  have status := foldl_pairView _ (fun w (entry : PortNo × Bool) => setPortStatus_pairView w
    entry.1 entry.2) ((getAllConfiguredPortNos v.dp).map
      fun q => (q, decide (q ∈ discovered ++ alwaysUpPortNos v.dp))) v
  unfold addPortsAndVlans getPortsStatus
  dsimp only
  refine ⟨((PortPartKept.of_port _ port).trans _ (portsAdd_lldpKept _ _ _)).trans _
    (.of_port _ (addVlans_port _ _)), fun vid portNo inv => addVlans_metricsKept _ lt _ vid portNo ?_⟩
  rwa [portsAdd_pairView, status]

/-- The cold start never touches a port's stack state, and only empties host caches. -/
theorem datapathConnect_frame (lt : HostCacheEntry → HostCacheEntry → Bool) (loadTables : LoadTables)
    (now : Time) (discovered : List PortNo) :
    v.PortPartKept PortDyn.lldpPart (v.datapathConnect loadTables now discovered).1 ∧
      v.MetricsKept lt (v.datapathConnect loadTables now discovered).1 := by
  have defaults : (v.addDefaultFlows loadTables).1.dyn = v.dyn ∧
      (v.addDefaultFlows loadTables).1.pairView = v.pairView := by
    rw [addDefaultFlows_fst]; split <;> exact ⟨rfl, rfl⟩
  obtain ⟨stack, metrics⟩ := addPortsAndVlans_frame (v.addDefaultFlows loadTables).1 lt discovered
  unfold datapathConnect
  dsimp only
  generalize ((v.addDefaultFlows loadTables).1.addPortsAndVlans discovered).1 = added at stack metrics ⊢
  refine ⟨((PortPartKept.of_port _ (congrArg DPDyn.port defaults.1)).trans _ stack).trans _
    (.of_port _ rfl), fun vid portNo inv => ?_⟩
  rw [resetDpStatus, setVar_pairView _ (by intro _ _ _ same; cases same), incVar,
    setVar_pairView _ (by intro _ _ _ same; cases same)]
  exact metrics vid portNo (by rwa [defaults.2])

end Others

/-- An LACP or port event, where every up LACP port holds a time, keeps every port's stack state
and every pair. -/
theorem lacpStep_frame (portStatusFromState : PortStatusFromState) {v w : Valve}
    (timed : ∀ port ∈ v.dp.ports, port.lacp ≠ 0 → (v.dyn.port port.number).dynLacpUp = some 1 →
      (v.dyn.port port.number).dynLacpUpdatedTime.isSome)
    {e : LacpEvent} (step : lacpStep portStatusFromState v e = some w) :
    v.PortPartKept PortDyn.lldpPart w ∧ w.pairView = v.pairView := by
  cases e with
  | lacpPacket now portNo ethDst ethType lacpPkt =>
    simp only [lacpStep, Option.some.injEq] at step
    subst step
    split
    · exact ⟨lacpHandler_lldpKept _ _ _ _ _ _, lacpHandler_pairView _ _ _ _ _ _⟩
    · exact ⟨.refl _ _, rfl⟩
  | portStatus portNo reason state =>
    simp only [lacpStep, Option.some.injEq] at step
    subst step
    exact ⟨portStatusHandler_lldpKept _ _ _ _ _, portStatusHandler_pairView _ _ _ _ _⟩
  | portsAdd portNums coldStart =>
    simp only [lacpStep, Option.some.injEq] at step
    subst step
    exact ⟨portsAdd_lldpKept _ _ _, portsAdd_pairView _ _ _⟩
  | portsDelete portNums =>
    simp only [lacpStep, Option.some.injEq] at step
    subst step
    exact ⟨portsDelete_lldpKept _ _, portsDelete_pairView _ _⟩
  | fastAdvertise now beaconPorts =>
    simp only [lacpStep, Option.some.injEq] at step
    subst step
    exact ⟨fastAdvertise_lldpKept _ _ _, fastAdvertise_pairView _ _ _⟩
  | stateExpire now =>
    simp only [lacpStep] at step
    rw [stateExpire_fst v now timed, Option.some.injEq] at step
    subst step
    split
    · exact ⟨lacpDownEach_lldpKept _ _, lacpDownEach_pairView _ _⟩
    · exact ⟨.refl _ _, rfl⟩

end Valve

/-- An operation that keeps the DP and every port's LLDP state keeps the stack invariant. -/
theorem StackInv.of_frame {v w : Valve} (inv : StackInv v) (sameDp : w.dp = v.dp)
    (kept : v.PortPartKept PortDyn.lldpPart w) : StackInv w := by
  intro port mem noProbe
  rw [sameDp] at mem
  have part := congrArg Prod.fst (kept port.number)
  simp only [PortDyn.lldpPart, PortDyn.stackPart, Prod.mk.injEq] at part
  rw [part.1]
  exact inv port mem (part.2 ▸ noProbe)

/-- An operation that keeps every port's LLDP state keeps every beacon timed. -/
theorem BeaconsTimed.of_frame {v w : Valve} (timed : BeaconsTimed v)
    (kept : v.PortPartKept PortDyn.lldpPart w) : BeaconsTimed w :=
  fun portNo => (timed portNo).of_beaconPart (congrArg Prod.snd (kept portNo))

/-- What the Valve runs between reloads: the cold start and the disconnect, an LACP or port event,
an LLDP packet-in or a tick, an 802.1X call on a port, a metrics export or a host-cache change,
and the rate limit of a packet-in. -/
inductive ValveEvent
  | datapathConnect (now : Time) (discoveredUpPorts : List PortNo)
  | datapathDisconnect
  | lacp (e : LacpEvent)
  | stack (e : StackEvent)
  | dot1x (portNum : PortNo) (e : Dot1xEvent)
  | metrics (e : MetricsEvent)
  | rateLimit (now : Time)

/-- The LACP or port event an event is, if any. -/
def ValveEvent.lacpHistory : ValveEvent → List LacpEvent
  | .lacp e => [e]
  | _ => []

/-- The LACP and port events of a run, in order. -/
def lacpEvents (events : List ValveEvent) : List LacpEvent := events.flatMap ValveEvent.lacpHistory

/-- The invariants of the three groups of handlers: every up LACP port holds the last PDU
processed for it and the time, no stack port is `UP` without a probe, every (VLAN, port) pair
exports consistently, and every truthy beacon state has its receive time. -/
structure ValveInv (lt : HostCacheEntry → HostCacheEntry → Bool) (v : Valve)
    (history : List LacpEvent) : Prop where
  lacp : LacpRecorded v history
  stack : StackInv v
  metrics : ∀ vid portNo, (v.pairView vid portNo).Inv lt
  beacons : BeaconsTimed v

namespace ValveInv

variable {lt : HostCacheEntry → HostCacheEntry → Bool} {v w : Valve} {history : List LacpEvent}

/-- An operation that keeps the DP, every port's LACP and LLDP state, and every consistent pair,
keeps the invariants. -/
theorem of_parts (inv : ValveInv lt v history) (sameDp : w.dp = v.dp)
    (lacp : v.PortPartKept PortDyn.lacpPart w) (lldp : v.PortPartKept PortDyn.lldpPart w)
    (metrics : v.MetricsKept lt w) : ValveInv lt w history :=
  ⟨inv.lacp.of_frame sameDp (.of_lacpPart lacp), inv.stack.of_frame sameDp lldp,
    fun vid portNo => metrics vid portNo (inv.metrics vid portNo), inv.beacons.of_frame lldp⟩

/-- An operation that keeps the DP and every port's dynamic state, and every consistent pair,
keeps the invariants. -/
theorem of_frame (inv : ValveInv lt v history) (sameDp : w.dp = v.dp)
    (port : w.dyn.port = v.dyn.port) (metrics : v.MetricsKept lt w) : ValveInv lt w history :=
  inv.of_parts sameDp (.of_port _ port) (.of_port _ port) metrics

/-- An LLDP packet-in or a tick never raises, keeps the DP, and keeps the invariants. -/
theorem of_stackStep (inv : ValveInv lt v history) (e : StackEvent) :
    ∃ w, stackStep v e = some w ∧ w.dp = v.dp ∧ ValveInv lt w history := by
  obtain ⟨w, step, sameDp, stack, beacons⟩ := stackStep_invs inv.stack inv.beacons e
  have frame := Valve.stackStep_frame v step
  exact ⟨w, step, sameDp, inv.lacp.of_frame sameDp (.of_lacpPart frame.1), stack,
    fun vid portNo => by rw [frame.2]; exact inv.metrics vid portNo, beacons⟩

/-- An LACP or port event never raises, keeps the DP, and keeps the invariants with the event
recorded. -/
theorem of_lacpStep (portStatusFromState : PortStatusFromState) (inv : ValveInv lt v history)
    (e : LacpEvent) :
    ∃ w, lacpStep portStatusFromState v e = some w ∧ w.dp = v.dp ∧ ValveInv lt w (history ++ [e]) := by
  obtain ⟨w, step, sameDp, recorded⟩ := inv.lacp.step portStatusFromState e
  obtain ⟨lldp, pairs⟩ := Valve.lacpStep_frame portStatusFromState inv.lacp.timed step
  exact ⟨w, step, sameDp, recorded, inv.stack.of_frame sameDp lldp,
    fun vid portNo => by rw [pairs]; exact inv.metrics vid portNo, inv.beacons.of_frame lldp⟩

/-- `rate_limit_packet_ins` keeps the invariants. -/
theorem of_rateLimit (inv : ValveInv lt v history) (now : Time) :
    ValveInv lt (v.rateLimitPacketIns now).1 history :=
  have frame := v.rateLimitPacketIns_frame now
  inv.of_frame (Valve.rateLimitPacketIns_dp v now) (congrArg DPDyn.port frame.1)
    (.of_pairView frame.2)

/-- After `dp_init` with no LACP port up, no stack port `UP` without a probe, every beacon
timed and no `learned_macs` series, the invariants hold with no event recorded. -/
theorem of_dpInit (lt : HostCacheEntry → HostCacheEntry → Bool) {v : Valve} {newDp : Option DPConfig}
    (noneUp : ∀ port ∈ (newDp.getD v.dp).ports, port.lacp ≠ 0 →
      (v.dyn.port port.number).dynLacpUp ≠ some 1)
    (stack : StackInv (v.dpInit newDp)) (beacons : BeaconsTimed (v.dpInit newDp))
    (noSeries : ∀ portNo vid n, v.metrics (.learnedMacs portNo vid n) = none) :
    ValveInv lt (v.dpInit newDp) [] :=
  ⟨fun port mem lacp up => absurd up (noneUp port mem lacp), stack,
    fun vid portNo => ⟨fun n _ => by simp [Valve.pairView, Valve.dpInit, noSeries],
      fun _ _ _ below => absurd below (Nat.not_lt_zero _)⟩, beacons⟩

end ValveInv

section Run

variable (portStatusFromState : PortStatusFromState) (loadTables : LoadTables)
  (lt : HostCacheEntry → HostCacheEntry → Bool)

/-- One event; `none` where the code raises. -/
def valveStep (v : Valve) : ValveEvent → Option Valve
  | .datapathConnect now discovered => some (v.datapathConnect loadTables now discovered).1
  | .datapathDisconnect => some v.datapathDisconnect
  | .lacp e => lacpStep portStatusFromState v e
  | .stack e => stackStep v e
  | .dot1x portNum e => (dot1xStep portNum v e).map (·.1)
  | .metrics e => some (metricsStep lt v e)
  | .rateLimit now => some (v.rateLimitPacketIns now).1

/-- A run of events; `none` if one raises. -/
def valveRun (v : Valve) (events : List ValveEvent) : Option Valve :=
  events.foldlM (valveStep portStatusFromState loadTables lt) v

/-- What a run assumes of an event: an 802.1X call names a port of the DP, and a host-cache
change marks stale every port whose hosts on the VLAN it changes. -/
def ValveEvent.Allowed (v : Valve) : ValveEvent → Prop
  | .dot1x portNum _ => portNum ∈ v.dp.ports.map (·.number)
  | .metrics e => ∀ vid portNo, MarksChange vid portNo v e
  | _ => True

/-- Every event of a run is allowed in the state it runs in. -/
def AllowedRun : Valve → List ValveEvent → Prop
  | _, [] => True
  | v, e :: events => e.Allowed v ∧
    ∀ w, valveStep portStatusFromState loadTables lt v e = some w → AllowedRun w events

/-- An allowed event never raises, keeps the DP, and keeps the three invariants. -/
theorem ValveInv.step {v : Valve} {history : List LacpEvent} (inv : ValveInv lt v history)
    (e : ValveEvent) (allowed : e.Allowed v) :
    ∃ w, valveStep portStatusFromState loadTables lt v e = some w ∧ w.dp = v.dp ∧
      ValveInv lt w (history ++ e.lacpHistory) := by
  cases e with
  | datapathConnect now discovered =>
    obtain ⟨lldp, metrics⟩ := v.datapathConnect_frame lt loadTables now discovered
    have sameDp := Valve.datapathConnect_dp v loadTables now discovered
    refine ⟨_, rfl, sameDp, ?_⟩
    simp only [ValveEvent.lacpHistory, List.append_nil]
    exact ⟨inv.lacp.of_frame sameDp (Valve.datapathConnect_lacpKept _ _ _ _),
      inv.stack.of_frame sameDp lldp, fun vid portNo => metrics vid portNo (inv.metrics vid portNo),
      inv.beacons.of_frame lldp⟩
  | datapathDisconnect =>
    refine ⟨_, rfl, rfl, ?_⟩
    simp only [ValveEvent.lacpHistory, List.append_nil]
    exact inv.of_frame rfl rfl (.of_pairView (Valve.datapathDisconnect_pairView v))
  | lacp e => exact inv.of_lacpStep portStatusFromState e
  | stack e =>
    simp only [ValveEvent.lacpHistory, List.append_nil]
    exact inv.of_stackStep e
  | dot1x portNum e =>
    obtain ⟨port, mem, rfl⟩ := List.mem_map.mp allowed
    obtain ⟨w, step, sameDp, lldp, lacp, pairs⟩ := v.dot1xStep_frame (v.dp.port?_of_mem mem) e
    refine ⟨w, step, sameDp, ?_⟩
    simp only [ValveEvent.lacpHistory, List.append_nil]
    exact ⟨inv.lacp.of_frame sameDp (.of_lacpPart lacp), inv.stack.of_frame sameDp lldp,
      fun vid portNo => by rw [pairs]; exact inv.metrics vid portNo, inv.beacons.of_frame lldp⟩
  | metrics e =>
    obtain ⟨sameDp, port⟩ := v.metricsStep_frame lt e
    refine ⟨_, rfl, sameDp, ?_⟩
    simp only [ValveEvent.lacpHistory, List.append_nil]
    refine inv.of_frame sameDp port fun vid portNo pairInv => ?_
    cases e with
    | updateMetrics now updatedPort rateLimited =>
      exact (Valve.updateMetrics_keeps lt vid portNo v now updatedPort rateLimited pairInv).1
    | hostsChanged vid' hostCache marked =>
      exact Valve.hostsChanged_inv v vid portNo pairInv (allowed vid portNo)
  | rateLimit now =>
    refine ⟨_, rfl, Valve.rateLimitPacketIns_dp v now, ?_⟩
    simp only [ValveEvent.lacpHistory, List.append_nil]
    exact inv.of_rateLimit now

/-- An allowed run never raises, keeps the DP, and keeps the three invariants. -/
theorem valveRun_inv : ∀ (events : List ValveEvent) (v : Valve) (history : List LacpEvent),
    ValveInv lt v history → AllowedRun portStatusFromState loadTables lt v events →
    ∃ w, valveRun portStatusFromState loadTables lt v events = some w ∧ w.dp = v.dp ∧
      ValveInv lt w (history ++ lacpEvents events)
  | [], v, history, inv, _ => ⟨v, rfl, rfl, by rw [lacpEvents, List.flatMap_nil, List.append_nil]; exact inv⟩
  | e :: events, v, history, inv, allowed => by
    obtain ⟨w, step, sameDp, inv'⟩ := inv.step portStatusFromState loadTables lt e allowed.1
    obtain ⟨u, run, sameDp', inv''⟩ :=
      valveRun_inv events w _ inv' (allowed.2 w step)
    refine ⟨u, ?_, sameDp'.trans sameDp, ?_⟩
    · rw [valveRun, List.foldlM_cons, step]
      exact run
    · rw [lacpEvents, List.flatMap_cons, ← List.append_assoc]
      exact inv''

end Run

/-- `lacpPortValve` with port 2 a stack port toward port 2 of DP 2. -/
def lacpStackValve : Valve :=
  { lacpPortValve with
    dp := { lacpPortValve.dp with
      ports := [{ number := 1, lacp := 1, nativeVlan := some 100 },
        { number := 2, stack := some ⟨2, "sw2", 2, some 1, 30⟩ }]
      ports_nodup := by decide
      stack := true } }

/-- A host learned on port 1 of VLAN 100, which marks port 1 stale; VLAN 100 assigned to port 1 by
802.1X; the cold start with ports 1 and 2 up; the partner's PDU on port 1 at time 1; a probe from
port 2 of DP 2 on port 2 at time 1; a tick at time 2; a metrics export at time 3; and
`state_expire` at time 40. -/
def mixedRun : List ValveEvent :=
  [.metrics (.hostsChanged 100 [⟨5, 1, 0⟩] [1]), .dot1x 1 (.add "office"),
    .datapathConnect 0 [1, 2],
    .lacp (.lacpPacket 1 1 slowProtocolMulticast ethTypeSlow (some lacpUpPdu)),
    .stack (.lldp 1 2 ethTypeLldp (some ⟨some 2, some "sw2", some 2, some 1⟩) []),
    .stack (.fastStateExpire 2 []), .metrics (.updateMetrics 3 none false), .lacp (.stateExpire 40)]

end Faucet
