import Faucet.Model.Receive
import Faucet.Soundness.Interleaving

/-! # What receiving a packet changes

A packet-in without a VLAN goes by its EtherType: an LLDP frame to `lldp_handler`, any other
frame to `lacp_handler` on an LACP port. The check of `lacp_handler`'s answer before
`lldp_handler` runs never passes an LACP frame on to any effect (`nonVlanRcvPacket_dispatch`).
A packet on a VLAN changes a Valve only by its counter, by the learn ban count of the port or
VLAN that refused the host, and by `vlan.add_cache_host` of the packet's source on the packet's
VLAN, which marks stale every port whose hosts it changes: on this Valve, and with
`stack_route_learning` on the stacked Valves that learn the packet too (`vlanRcvPacket_cached`);
an unstacked Valve is never touched. So the invariants of the handlers hold across packet-ins, on
the Valve that receives one and on every other.
-/

namespace Faucet

namespace Valve

/-! ## Caching a host -/

/-- Caching a host on port `q` leaves the hosts of any other port that the host was not cached
on. -/
theorem portVlanHosts_cacheHost (vlanDyn : VlanDyn) (e : ℕ) (portNo q : PortNo) (t : Time)
    (other : portNo ≠ q) (absent : ∀ h ∈ vlanDyn.hostCache, h.ethSrcInt = e → h.port ≠ portNo) :
    portVlanHosts { vlanDyn with
      hostCache := vlanDyn.hostCache.filter (·.ethSrcInt ≠ e) ++ [⟨e, q, t⟩] } portNo =
      portVlanHosts vlanDyn portNo := by
  simp only [portVlanHosts, List.filter_append, List.filter_filter]
  simp only [List.filter_singleton, Ne.symm other, decide_False, cond_false, List.append_nil]
  exact List.filter_congr fun h mem => by
    by_cases here : h.port = portNo
    · simp [here, mt (absent h mem) (not_not.mpr here)]
    · simp [here]

section CacheHost

variable (v : Valve) (vid : Vid) (ethSrc : Mac) (port : PortConfig) (cacheTime : Time)

@[simp] theorem addCacheHost_dp : (v.addCacheHost vid ethSrc port cacheTime).dp = v.dp := rfl

@[simp] theorem addCacheHost_port :
    (v.addCacheHost vid ethSrc port cacheTime).dyn.port = v.dyn.port := rfl

/-- Caching a host keeps every pair's export consistent: it marks stale the ports whose hosts
it changes. -/
theorem addCacheHost_metricsKept (lt : HostCacheEntry → HostCacheEntry → Bool) :
    v.MetricsKept lt (v.addCacheHost vid ethSrc port cacheTime) := by
  intro vid' portNo inv
  refine hostsChanged_inv v vid' portNo inv fun same changed => ?_
  subst same
  by_contra unmarked
  simp only [List.mem_cons, List.mem_map, List.mem_filter, decide_eq_true_eq, not_or, not_exists,
    not_and] at unmarked
  exact changed (portVlanHosts_cacheHost _ _ _ _ _ unmarked.1 fun h mem same =>
    unmarked.2 h ⟨mem, same⟩)

end CacheHost

section LearnBan

variable (v : Valve) (vid : Vid) (port : PortConfig) (ban : Option LearnBan)

@[simp] theorem countLearnBan_dp : (v.countLearnBan vid port ban).dp = v.dp := by
  unfold countLearnBan; split <;> rfl

/-- Counting a learn ban keeps every part of a port's state other than its ban count. -/
theorem countLearnBan_portPartKept {α : Type} (part : PortDyn → α)
    (kept : ∀ (dyn : PortDyn) n, part { dyn with dynLearnBanCount := n } = part dyn) :
    v.PortPartKept part (v.countLearnBan vid port ban) := by
  unfold countLearnBan
  split
  · exact .refl _ _
  · exact .of_port _ rfl
  · exact setPortDyn_portPartKept _ v _ _ (kept _ _)

/-- Counting a learn ban leaves every pair alone: `update_metrics` reads the ban counts, but no
pair holds them. -/
theorem countLearnBan_pairView : (v.countLearnBan vid port ban).pairView = v.pairView := by
  unfold countLearnBan
  split
  · rfl
  · funext vid' portNo
    by_cases same : vid' = vid
    · subst same
      simp [pairView, portVlanHosts]
    · simp [pairView, same]
  · rfl

end LearnBan

end Valve

/-- `w` is `v`, or `v` after `learn_host` learned the source on the VLAN on some port at the
time: the learn ban counted if the learn was banned, then the host cached if the cache was
updated. -/
def Cached (vid : Vid) (ethSrc : Mac) (now : Time) (v w : Valve) : Prop :=
  w = v ∨ ∃ port ban, w = v.countLearnBan vid port ban ∨
    w = (v.countLearnBan vid port ban).addCacheHost vid ethSrc port now

namespace Cached

variable {vid : Vid} {ethSrc : Mac} {now : Time} {v w : Valve}

theorem dp (cached : Cached vid ethSrc now v w) : w.dp = v.dp := by
  obtain rfl | ⟨_, _, rfl | rfl⟩ := cached <;> simp

/-- A learn keeps every part of a port's state other than its ban count. -/
theorem portPartKept {α : Type} (part : PortDyn → α)
    (kept : ∀ (dyn : PortDyn) n, part { dyn with dynLearnBanCount := n } = part dyn)
    (cached : Cached vid ethSrc now v w) : v.PortPartKept part w := by
  obtain rfl | ⟨port, ban, rfl | rfl⟩ := cached
  · exact .refl _ _
  · exact v.countLearnBan_portPartKept vid port ban part kept
  · exact (v.countLearnBan_portPartKept vid port ban part kept).trans _ (.of_port _ rfl)

theorem metricsKept (lt : HostCacheEntry → HostCacheEntry → Bool)
    (cached : Cached vid ethSrc now v w) : v.MetricsKept lt w := by
  obtain rfl | ⟨port, ban, rfl | rfl⟩ := cached
  · exact fun _ _ => id
  · exact .of_pairView (v.countLearnBan_pairView vid port ban)
  · exact fun vid' portNo inv => (v.countLearnBan vid port ban).addCacheHost_metricsKept vid ethSrc
      port now lt vid' portNo (by rwa [Valve.countLearnBan_pairView])

end Cached

namespace ValveInv

variable {lt : HostCacheEntry → HostCacheEntry → Bool} {v w : Valve} {history : List LacpEvent}

theorem of_cached {vid : Vid} {ethSrc : Mac} {now : Time} (inv : ValveInv lt v history)
    (cached : Cached vid ethSrc now v w) : ValveInv lt w history :=
  inv.of_parts cached.dp (cached.portPartKept _ fun _ _ => rfl)
    (cached.portPartKept _ fun _ _ => rfl) (cached.metricsKept lt)

theorem of_incVar (inv : ValveInv lt v history) {series : Series}
    (notLearned : ∀ p vid n, .learnedMacs p vid n ≠ series) : ValveInv lt (v.incVar series) history :=
  inv.of_frame rfl rfl (.of_pairView (v.incVar_pairView notLearned))

/-- Recording an LACP packet-in that processes no PDU keeps the invariants. -/
theorem of_ignored {now : Time} {portNo : PortNo} {ethDst : Mac} {ethType : ℕ}
    {lacpPkt : Option LacpPdu} (inv : ValveInv lt v history)
    (ignored : ∀ portNo', (LacpEvent.lacpPacket now portNo ethDst ethType lacpPkt).processed v.dp
      portNo' = none) :
    ValveInv lt v (history ++ [.lacpPacket now portNo ethDst ethType lacpPkt]) :=
  ⟨inv.lacp.of_ignored ignored, inv.stack, inv.metrics, inv.beacons⟩

end ValveInv

/-! ## A packet on a VLAN -/

namespace Valve

section Learning

variable (managers : RcvManagers) (now : Time) (pktMeta : PacketMeta) (vlan : VlanConfig)

theorem learnHost_cached (v : Valve) (others : List Valve) :
    Cached vlan.vid pktMeta.ethSrc now v (v.learnHost managers now pktMeta vlan others).1 := by
  unfold learnHost
  split
  · exact .inl rfl
  · dsimp only
    split
    · exact .inr ⟨_, _, .inr rfl⟩
    · exact .inr ⟨_, _, .inl rfl⟩

variable {managers vlan} in
theorem stackPortAndVlan?_vid {self valve : Valve} {stackPort : PortConfig} {valveVlan : VlanConfig}
    (found : self.stackPortAndVlan? managers vlan valve = some (stackPort, valveVlan)) :
    valveVlan.vid = vlan.vid := by
  unfold stackPortAndVlan? at found
  split at found
  · split at found
    · rename_i hasVlan
      cases found
      exact (valve.dp.vlan?_eq_some hasVlan).2
    · cases found
  · cases found

variable {managers vlan} in
theorem stackPortAndVlan?_stacked {self valve : Valve} {found : PortConfig × VlanConfig}
    (answered : self.stackPortAndVlan? managers vlan valve = some found) :
    valve.dp.hasStackRootName = true := by
  unfold stackPortAndVlan? at answered
  split at answered
  · assumption
  · cases answered

theorem stackPortAndVlan?_isSome {self valve : Valve} (stacked : valve.dp.hasStackRootName = true)
    (path : (managers.shortestPathPort valve.dp self.dp.name).isSome)
    (hasVlan : (valve.dp.vlan? vlan.vid).isSome) :
    (self.stackPortAndVlan? managers vlan valve).isSome := by
  obtain ⟨stackPort, pathIs⟩ := Option.isSome_iff_exists.mp path
  obtain ⟨valveVlan, vlanIs⟩ := Option.isSome_iff_exists.mp hasVlan
  simp [stackPortAndVlan?, stacked, pathIs, vlanIs]

/-- The loop over the stacked Valves leaves those visited and changes each still to visit at
most by a learn of the source on the VLAN, and only if its DP names a stack root. -/
theorem stackLearnLoop_cached (self : Valve) :
    ∀ (done todo : List Valve) (byValve : OfmsgsByValve), ∃ todo',
      (self.stackLearnLoop managers now pktMeta vlan done todo byValve).1 = done ++ todo' ∧
        List.Forall₂ (fun u u' => Cached vlan.vid pktMeta.ethSrc now u u' ∧
          (u.dp.hasStackRootName = false → u' = u)) todo todo'
  | done, [], byValve => ⟨[], by simp [stackLearnLoop], .nil⟩
  | done, valve :: todo, byValve => by
    simp only [stackLearnLoop]
    split
    · rename_i stackPort valveVlan found
      obtain ⟨todo', loop, rest⟩ := stackLearnLoop_cached self (done ++ [_]) todo _
      refine ⟨_ :: todo', by rw [loop, List.append_assoc, List.singleton_append], .cons ⟨?_,
        fun unstacked => absurd (stackPortAndVlan?_stacked found) (by simp [unstacked])⟩ rest⟩
      have cached := learnHost_cached managers now
        { pktMeta with vlan := some valveVlan, port := stackPort } valveVlan valve
        (self :: stackedValves (done ++ todo))
      rwa [stackPortAndVlan?_vid found] at cached
    · obtain ⟨todo', loop, rest⟩ := stackLearnLoop_cached self (done ++ [valve]) todo byValve
      exact ⟨_ :: todo', by rw [loop, List.append_assoc, List.singleton_append],
        .cons ⟨.inl rfl, fun _ => rfl⟩ rest⟩

/-- The loop answers every Valve answered before it, and every stacked Valve it visits with the
VLAN and a stack port toward this DP. -/
theorem stackLearnLoop_answers (self : Valve) :
    ∀ (done todo : List Valve) (byValve : OfmsgsByValve),
      (∀ key ∈ byValve.map (·.1),
        key ∈ (self.stackLearnLoop managers now pktMeta vlan done todo byValve).2.map (·.1)) ∧
      ∀ w ∈ todo, (self.stackPortAndVlan? managers vlan w).isSome →
        w.dp.dpId ∈ (self.stackLearnLoop managers now pktMeta vlan done todo byValve).2.map (·.1)
  | done, [], byValve => ⟨fun _ => id, fun _ mem => absurd mem (List.not_mem_nil _)⟩
  | done, valve :: todo, byValve => by
    simp only [stackLearnLoop]
    split
    · obtain ⟨kept, answered⟩ := stackLearnLoop_answers self (done ++ [_]) todo
        (byValve.extend valve.dp.dpId _)
      refine ⟨fun key mem => kept key ((DefaultList.mem_keys_extend _).mpr (.inl mem)),
        fun w mem found => ?_⟩
      rcases List.mem_cons.mp mem with rfl | mem
      · exact kept _ ((DefaultList.mem_keys_extend _).mpr (.inr rfl))
      · exact answered w mem found
    · rename_i none
      obtain ⟨kept, answered⟩ := stackLearnLoop_answers self (done ++ [valve]) todo byValve
      refine ⟨kept, fun w mem found => ?_⟩
      rcases List.mem_cons.mp mem with rfl | mem
      · rw [none] at found
        cases found
      · exact answered w mem found

/-- A packet on a VLAN changes this Valve by its counter and at most by a learn of the source on
the VLAN at the time, and each other Valve at most by the same learn, and only if its DP names a
stack root; without `stack_route_learning` no other Valve changes. -/
theorem vlanRcvPacket_cached (v : Valve) (others : List Valve) :
    Cached vlan.vid pktMeta.ethSrc now (v.incVar .ofVlanPacketIns)
      (v.vlanRcvPacket managers now others pktMeta vlan).1 ∧
    List.Forall₂ (fun u u' => Cached vlan.vid pktMeta.ethSrc now u u' ∧
        (u.dp.hasStackRootName = false → u' = u)) others
      (v.vlanRcvPacket managers now others pktMeta vlan).2.1 ∧
    (v.dp.stackRouteLearning = false → (v.vlanRcvPacket managers now others pktMeta vlan).2.1 = others) := by
  have unchanged : List.Forall₂ (fun u u' => Cached vlan.vid pktMeta.ethSrc now u u' ∧
      (u.dp.hasStackRootName = false → u' = u)) others others :=
    List.forall₂_same.mpr fun _ _ => ⟨.inl rfl, fun _ => rfl⟩
  unfold vlanRcvPacket
  dsimp only
  split_ifs with ban filtered learning
  · exact ⟨.inl rfl, unchanged, fun _ => rfl⟩
  · exact ⟨.inl rfl, unchanged, fun _ => rfl⟩
  · obtain ⟨todo', loop, rest⟩ := stackLearnLoop_cached managers now pktMeta vlan
      (v.incVar .ofVlanPacketIns) [] others []
    rw [List.nil_append] at loop
    exact ⟨learnHost_cached managers now pktMeta vlan _ _, loop ▸ rest,
      fun off => absurd learning (by simp [off])⟩
  · exact ⟨learnHost_cached managers now pktMeta vlan _ _, unchanged, fun _ => rfl⟩

/-- With `stack_route_learning`, a packet on a VLAN that no ban rule matches, and that comes from
one of the FAUCET addresses if it comes from a running stack peer, is answered for this Valve
and for every stacked other Valve with the VLAN and a stack port toward this DP, whether or not
this DP is the stack root. -/
theorem vlanRcvPacket_answers_stacked (v : Valve) (others : List Valve)
    (learning : v.dp.stackRouteLearning = true)
    (noBan : managers.banRules (v.incVar .ofVlanPacketIns) pktMeta = [])
    (passes : pktMeta.port.stack.any (peerDpRunning others) = true →
      pktMeta.ethSrc ∈ vlan.faucetMac :: v.dp.faucetDpMac :: (stackedValves others).map (·.dp.faucetDpMac))
    (w : Valve) (mem : w ∈ others) (stacked : w.dp.hasStackRootName = true)
    (path : (managers.shortestPathPort w.dp v.dp.name).isSome)
    (hasVlan : (w.dp.vlan? vlan.vid).isSome) :
    v.dp.dpId ∈ (v.vlanRcvPacket managers now others pktMeta vlan).2.2.map (·.1) ∧
      w.dp.dpId ∈ (v.vlanRcvPacket managers now others pktMeta vlan).2.2.map (·.1) := by
  have notFiltered : ¬((v.incVar .ofVlanPacketIns).dp.stackRouteLearning = true ∧
      pktMeta.port.stack.any (peerDpRunning others) = true ∧
      pktMeta.ethSrc ∉ vlan.faucetMac ::
        (v.incVar .ofVlanPacketIns :: stackedValves others).map (·.dp.faucetDpMac)) :=
    fun ⟨_, running, absent⟩ => absent (by simpa using passes running)
  have answered := (stackLearnLoop_answers managers now pktMeta vlan (v.incVar .ofVlanPacketIns)
    [] others []).2 w mem (stackPortAndVlan?_isSome managers vlan stacked path hasVlan)
  unfold vlanRcvPacket
  dsimp only
  rw [if_neg (by simp [noBan]), if_neg notFiltered, if_pos (by simpa using learning)]
  exact ⟨(DefaultList.mem_keys_extend _).mpr (.inr rfl),
    (DefaultList.mem_keys_extend _).mpr (.inl answered)⟩

end Learning

end Valve

/-- Port 2 of `stackRootValve`, toward port 3 of DP 2. -/
def rootStackPort : PortConfig := { number := 2, stack := some ⟨2, "sw2", 3, none, 5⟩ }

/-- `stackValve`, with a stack port toward DP 2, as the stack root learning stack routes. -/
def stackRootValve : Valve :=
  { stackValve with
    dp := { stackValve.dp with
      ports := stackValve.dp.ports ++ [rootStackPort]
      ports_nodup := by decide
      stackRootName := some "sw1"
      isStackRoot := true
      stackRouteLearning := true } }

/-- DP 2, stacked under the root DP 1 through its port 3, with VLAN 100. -/
def stackPeerValve : Valve :=
  { stackValve with
    dp := { dpId := 2, name := "sw2", ports := [{ number := 3, stack := some ⟨1, "sw1", 2, none, 5⟩ }],
            ports_nodup := by decide, vlans := [{ vid := 100, name := "office", ports := [3] }],
            vlans_nodup := by decide, stack := true, stackRootName := some "sw1" } }

/-- Managers with no ban rules that learn a packet's source on the port it arrives on, route
nothing, and reach every DP through the first stack port. -/
def learnAllManagers : RcvManagers where
  banRules := fun _ _ => []
  edgeLearnPort := fun _ _ pktMeta => some pktMeta.port
  learnHostOnVlanPorts := fun _ _ _ _ _ => ⟨[], none, true, none⟩
  learnHostIntervlanRoutingFlows := fun _ _ _ _ _ => []
  routeManager := fun _ _ _ => none
  shortestPathPort := fun dp _ => dp.stackPorts.head?

/-- VLAN 100 of DP 1. -/
def officeVlan : VlanConfig := { vid := 100, name := "office", ports := [1] }

/-- A packet from host 2 on port 1 of DP 1, on VLAN 100. -/
def officePacket : PacketMeta := ⟨{ number := 1, nativeVlan := some 100 }, some officeVlan, 2, 1, 0x0800⟩

/-- On the stack root, a host's packet on VLAN 100 is answered for DP 2 too. -/
theorem stackRootValve_peer_answered :
    stackRootValve.dp.isStackRoot = true ∧
      stackPeerValve.dp.dpId ∈ (stackRootValve.vlanRcvPacket learnAllManagers 0 [stackPeerValve]
        officePacket officeVlan).2.2.map (·.1) :=
  ⟨rfl, (Valve.vlanRcvPacket_answers_stacked learnAllManagers 0 officePacket officeVlan stackRootValve
    [stackPeerValve] rfl rfl nofun stackPeerValve (List.mem_singleton_self _) rfl rfl rfl).2⟩

namespace Valve

/-! ## A packet without a VLAN -/

section Dispatch

variable (v : Valve) (now : Time) (port : PortConfig) (ethDst : Mac) {ethType : ℕ}

theorem lacpHandler_of_ne_slow (lacpPkt : Option LacpPdu) (other : ethType ≠ ethTypeSlow) :
    v.lacpHandler now port ethDst ethType lacpPkt = (v, []) := by
  simp [lacpHandler, other]

theorem lldpHandler_of_ne_lldp (lldp : Option FaucetLldp) (others : List Valve)
    (other : ethType ≠ ethTypeLldp) : v.lldpHandler now port ethType lldp others = (v, [], []) := by
  simp [lldpHandler, other]

/-- `_non_vlan_rcv_packet` dispatches by EtherType: an LLDP frame goes to `lldp_handler`, any
other frame on an LACP port to `lacp_handler`, and the rest only counts. -/
theorem nonVlanRcvPacket_dispatch (others : List Valve) (pktMeta : PacketMeta)
    (lacpPkt : Option LacpPdu) (lldp : Option FaucetLldp) :
    v.nonVlanRcvPacket now others pktMeta lacpPkt lldp =
      if pktMeta.ethType = ethTypeLldp then
        (v.incVar .ofNonVlanPacketIns).lldpHandler now pktMeta.port pktMeta.ethType lldp others
      else if pktMeta.port.lacp ≠ 0 then
        (((v.incVar .ofNonVlanPacketIns).lacpHandler now pktMeta.port pktMeta.ethDst
            pktMeta.ethType lacpPkt).1, [],
          ((v.incVar .ofNonVlanPacketIns).lacpHandler now pktMeta.port pktMeta.ethDst
            pktMeta.ethType lacpPkt).2)
      else (v.incVar .ofNonVlanPacketIns, [], []) := by
  unfold nonVlanRcvPacket
  by_cases lldpFrame : pktMeta.ethType = ethTypeLldp
  · have notSlow : pktMeta.ethType ≠ ethTypeSlow := by rw [lldpFrame]; decide
    simp only [if_pos lldpFrame, lacpHandler_of_ne_slow _ _ _ _ _ notSlow, ite_self, ne_eq,
      not_true_eq_false, if_false]
  · simp only [if_neg lldpFrame]
    split_ifs with lacp answered answered
    · rfl
    · rw [lldpHandler_of_ne_lldp _ _ _ _ _ lldpFrame, not_not.mp answered]
    · exact absurd rfl answered
    · exact lldpHandler_of_ne_lldp _ _ _ _ _ lldpFrame

end Dispatch

end Valve

/-- The Valve after a packet-in without a VLAN from a port of the DP is the Valve after the
counter and one event of its own runs: an LLDP packet-in for an LLDP frame, an LACP packet-in for
any other. The answer is `lldp_handler`'s for an LLDP frame, and for any other `lacp_handler`'s
messages with no stack calls. -/
theorem nonVlanRcvPacket_steps (portStatusFromState : PortStatusFromState)
    (loadTables : LoadTables) (lt : HostCacheEntry → HostCacheEntry → Bool) (v : Valve)
    (now : Time) (others : List Valve) (pktMeta : PacketMeta) (lacpPkt : Option LacpPdu)
    (lldp : Option FaucetLldp) (found : v.dp.port? pktMeta.port.number = some pktMeta.port) :
    valveStep portStatusFromState loadTables lt (v.incVar .ofNonVlanPacketIns)
        (if pktMeta.ethType = ethTypeLldp then
          .stack (.lldp now pktMeta.port.number pktMeta.ethType lldp others)
        else .lacp (.lacpPacket now pktMeta.port.number pktMeta.ethDst pktMeta.ethType lacpPkt)) =
      some (v.nonVlanRcvPacket now others pktMeta lacpPkt lldp).1 ∧
    (v.nonVlanRcvPacket now others pktMeta lacpPkt lldp).2 =
      if pktMeta.ethType = ethTypeLldp then
        ((v.incVar .ofNonVlanPacketIns).lldpHandler now pktMeta.port pktMeta.ethType lldp others).2
      else ([], ((v.incVar .ofNonVlanPacketIns).lacpHandler now pktMeta.port pktMeta.ethDst
        pktMeta.ethType lacpPkt).2) := by
  rw [Valve.nonVlanRcvPacket_dispatch]
  split_ifs with lldpFrame lacp
  · simp [valveStep, stackStep_lldp, found]
  · simp [valveStep, lacpStep, found]
  · simp [valveStep, lacpStep, found, Valve.lacpHandler, lacp]

/-- A packet-in on port 1, the LACP port of `lacpPortValve`, carrying a slow-protocol frame. -/
def lacpPortPacket : PacketMeta :=
  ⟨{ number := 1, lacp := 1, nativeVlan := some 100 }, none, 2, slowProtocolMulticast, ethTypeSlow⟩

theorem lacpPortValve_pdu_steps :
    valveStep linkDownBit (fun _ _ => []) byAddress (lacpPortValve.incVar .ofNonVlanPacketIns)
        (if lacpPortPacket.ethType = ethTypeLldp then
          .stack (.lldp 1 lacpPortPacket.port.number lacpPortPacket.ethType none [])
        else .lacp (.lacpPacket 1 lacpPortPacket.port.number lacpPortPacket.ethDst
          lacpPortPacket.ethType (some lacpUpPdu))) =
      some (lacpPortValve.nonVlanRcvPacket 1 [] lacpPortPacket (some lacpUpPdu) none).1 ∧
    (lacpPortValve.nonVlanRcvPacket 1 [] lacpPortPacket (some lacpUpPdu) none).2 =
      if lacpPortPacket.ethType = ethTypeLldp then
        ((lacpPortValve.incVar .ofNonVlanPacketIns).lldpHandler 1 lacpPortPacket.port
          lacpPortPacket.ethType none []).2
      else ([], ((lacpPortValve.incVar .ofNonVlanPacketIns).lacpHandler 1 lacpPortPacket.port
        lacpPortPacket.ethDst lacpPortPacket.ethType (some lacpUpPdu)).2) :=
  nonVlanRcvPacket_steps linkDownBit (fun _ _ => []) byAddress lacpPortValve 1 [] lacpPortPacket
    (some lacpUpPdu) none rfl

namespace Valve

/-! ## A packet-in -/

section PacketIn

variable (v : Valve) (parsePacketInPkt : ParsePacketInPkt) (now : Time) (msg : PacketInMsg)

theorem parseRcvPacket_port (port : PortConfig) (header : EthHeader) :
    (v.parseRcvPacket port header).port = port := by
  unfold parseRcvPacket
  split <;> rfl

/-- `parse_pkt_meta` gives the packet the DP's port it came in on. -/
theorem parsePktMeta_port {pktMeta : PacketMeta}
    (parsed : v.parsePktMeta parsePacketInPkt msg = some pktMeta) :
    v.dp.port? pktMeta.port.number = some pktMeta.port := by
  unfold parsePktMeta at parsed
  simp only [Option.ite_none_left_eq_some] at parsed
  obtain ⟨-, -, -, parsed⟩ := parsed
  split at parsed
  · cases parsed
  split at parsed
  · cases parsed
  rename_i port found
  simp only [Option.ite_none_left_eq_some] at parsed
  obtain ⟨-, parsed⟩ := parsed
  split at parsed
  · cases parsed
  simp only [Option.ite_none_left_eq_some, Option.some.injEq] at parsed
  obtain ⟨-, -, -, -, rfl⟩ := parsed
  obtain ⟨-, rfl⟩ := v.dp.port?_eq_some found
  rwa [parseRcvPacket_port]

theorem received?_port {pktMeta : PacketMeta}
    (received : v.received? parsePacketInPkt now msg = some pktMeta) :
    v.dp.port? pktMeta.port.number = some pktMeta.port := by
  unfold received? at received
  split at received
  · cases received
  · simpa using parsePktMeta_port _ parsePacketInPkt msg received

/-- The LACP packet-in a packet-in is to the LACP handlers: one that reaches `rcv_packet` without
a VLAN. -/
def packetInLacpHistory (lacpPkt : Option LacpPdu) : List LacpEvent :=
  match v.received? parsePacketInPkt now msg with
  | some pktMeta =>
    match pktMeta.vlan with
    | none => [.lacpPacket now pktMeta.port.number pktMeta.ethDst pktMeta.ethType lacpPkt]
    | some _ => []
  | none => []

end PacketIn

end Valve

/-- `w` is `v`, or `v` with some source cached on some VLAN at some time. -/
def Learned (v w : Valve) : Prop := ∃ vid ethSrc now, Cached vid ethSrc now v w

/-- A packet-in changes the other Valves at most by a learn, and only those whose DP names a
stack root. -/
theorem packetIn_others (v : Valve) (managers : RcvManagers) (parsePacketInPkt : ParsePacketInPkt)
    (now : Time) (msg : PacketInMsg) (lacpPkt : Option LacpPdu) (lldp : Option FaucetLldp)
    (others : List Valve) :
    List.Forall₂ (fun u u' => Learned u u' ∧ (u.dp.hasStackRootName = false → u' = u)) others
      (v.packetIn managers parsePacketInPkt now msg lacpPkt lldp others).2.1 := by
  have unchanged : List.Forall₂ (fun u u' => Learned u u' ∧
      (u.dp.hasStackRootName = false → u' = u)) others others :=
    List.forall₂_same.mpr fun _ _ => ⟨⟨0, 0, 0, .inl rfl⟩, fun _ => rfl⟩
  unfold Valve.packetIn
  split
  · exact unchanged
  · unfold Valve.rcvPacket
    split
    · exact unchanged
    · exact (Valve.vlanRcvPacket_cached managers now _ _ _ others).2.1.imp
        fun _ _ ⟨cached, unstacked⟩ => ⟨⟨_, _, _, cached⟩, unstacked⟩

/-- A packet-in calls only the flood managers of its own Valve and of the stacked others. -/
theorem packetIn_named (v : Valve) (managers : RcvManagers) (parsePacketInPkt : ParsePacketInPkt)
    (now : Time) (msg : PacketInMsg) (lacpPkt : Option LacpPdu) (lldp : Option FaucetLldp)
    (others : List Valve) :
    ∀ c ∈ (v.packetIn managers parsePacketInPkt now msg lacpPkt lldp others).2.2.1,
      c.valve ∈ (v :: stackedValves others).map (·.dp.dpId) := by
  intro c mem
  unfold Valve.packetIn at mem
  split at mem
  · exact absurd mem (List.not_mem_nil _)
  · unfold Valve.rcvPacket at mem
    split at mem
    · dsimp only at mem
      rw [Valve.nonVlanRcvPacket_dispatch] at mem
      split_ifs at mem
      · have named := lldpHandler_named now others _ _ _ lldp c mem
        rwa [List.map_cons, Valve.incVar_dp, Valve.rateLimitPacketIns_dp] at named
      · exact absurd mem (List.not_mem_nil _)
      · exact absurd mem (List.not_mem_nil _)
    · exact absurd mem (List.not_mem_nil _)

/-- A packet-in gives the flood managers of its own Valve and of each stacked other the same
topology records. -/
theorem packetIn_agree (v : Valve) (managers : RcvManagers) (parsePacketInPkt : ParsePacketInPkt)
    (now : Time) (msg : PacketInMsg) (lacpPkt : Option LacpPdu) (lldp : Option FaucetLldp)
    (others : List Valve) (nodup : ((v :: stackedValves others).map (·.dp.dpId)).Nodup) :
    ∃ topo, ∀ d ∈ (v :: stackedValves others).map (·.dp.dpId),
      (v.packetIn managers parsePacketInPkt now msg lacpPkt lldp others).2.2.1.filterMap
        (·.topoFor d) = topo := by
  unfold Valve.packetIn
  split
  · exact ⟨[], fun _ _ => rfl⟩
  · unfold Valve.rcvPacket
    split
    · dsimp only
      rw [Valve.nonVlanRcvPacket_dispatch]
      split_ifs
      · exact lldpHandler_agree now others _ _ _ lldp
          (by rw [List.map_cons, Valve.incVar_dp, Valve.rateLimitPacketIns_dp]; rfl) nodup
      · exact ⟨[], fun _ _ => rfl⟩
      · exact ⟨[], fun _ _ => rfl⟩
    · exact ⟨[], fun _ _ => rfl⟩

namespace ValveInv

variable {lt : HostCacheEntry → HostCacheEntry → Bool} {v w : Valve} {history : List LacpEvent}

theorem of_learned (inv : ValveInv lt v history) (learned : Learned v w) : ValveInv lt w history :=
  have ⟨_, _, _, cached⟩ := learned
  inv.of_cached cached

/-- A packet without a VLAN from a port of the DP keeps the invariants, with the LACP packet-in
recorded. -/
theorem of_nonVlanRcvPacket (inv : ValveInv lt v history) (now : Time) (others : List Valve)
    {pktMeta : PacketMeta} (lacpPkt : Option LacpPdu) (lldp : Option FaucetLldp)
    (found : v.dp.port? pktMeta.port.number = some pktMeta.port) :
    (v.nonVlanRcvPacket now others pktMeta lacpPkt lldp).1.dp = v.dp ∧
      ValveInv lt (v.nonVlanRcvPacket now others pktMeta lacpPkt lldp).1
        (history ++ [.lacpPacket now pktMeta.port.number pktMeta.ethDst pktMeta.ethType lacpPkt]) := by
  have counted : ValveInv lt (v.incVar .ofNonVlanPacketIns) history :=
    inv.of_incVar (by intro _ _ _ same; cases same)
  rw [Valve.nonVlanRcvPacket_dispatch]
  split_ifs with lldpFrame lacp
  · obtain ⟨w, step, sameDp, inv'⟩ :=
      counted.of_stackStep (.lldp now pktMeta.port.number pktMeta.ethType lldp others)
    simp only [stackStep_lldp, Valve.incVar_dp, found, Option.some.injEq] at step
    subst step
    refine ⟨sameDp, inv'.of_ignored fun _ => ?_⟩
    simp [LacpEvent.processed, lldpFrame, ethTypeLldp, ethTypeSlow]
  · obtain ⟨w, step, sameDp, inv'⟩ := counted.of_lacpStep (fun _ => false)
      (.lacpPacket now pktMeta.port.number pktMeta.ethDst pktMeta.ethType lacpPkt)
    simp only [lacpStep, Valve.incVar_dp, found, Option.some.injEq] at step
    subst step
    exact ⟨sameDp, inv'⟩
  · exact ⟨rfl, counted.of_ignored fun _ => by simp [LacpEvent.processed, found, lacp]⟩

/-- A packet-in keeps the DP of the Valve it arrives on and its invariants, with the LACP
packet-in it is recorded. -/
theorem of_packetIn (inv : ValveInv lt v history) (managers : RcvManagers)
    (parsePacketInPkt : ParsePacketInPkt) (now : Time) (msg : PacketInMsg)
    (lacpPkt : Option LacpPdu) (lldp : Option FaucetLldp) (others : List Valve) :
    (v.packetIn managers parsePacketInPkt now msg lacpPkt lldp others).1.dp = v.dp ∧
      ValveInv lt (v.packetIn managers parsePacketInPkt now msg lacpPkt lldp others).1
        (history ++ v.packetInLacpHistory parsePacketInPkt now msg lacpPkt) := by
  have limited := inv.of_rateLimit now
  unfold Valve.packetIn Valve.packetInLacpHistory
  cases received : v.received? parsePacketInPkt now msg with
  | none => exact ⟨Valve.rateLimitPacketIns_dp v now, by rw [List.append_nil]; exact limited⟩
  | some pktMeta =>
    have found := Valve.received?_port v parsePacketInPkt now msg received
    unfold Valve.rcvPacket
    dsimp only
    cases vlanIs : pktMeta.vlan with
    | none =>
      obtain ⟨sameDp, inv'⟩ := limited.of_nonVlanRcvPacket now others lacpPkt lldp
        (by simpa using found)
      exact ⟨sameDp.trans (Valve.rateLimitPacketIns_dp v now), inv'⟩
    | some vlan =>
      have cached := (Valve.vlanRcvPacket_cached managers now pktMeta vlan
        (v.rateLimitPacketIns now).1 others).1
      exact ⟨cached.dp.trans (Valve.rateLimitPacketIns_dp v now), by
        rw [List.append_nil]
        exact (limited.of_incVar (by intro _ _ _ same; cases same)).of_cached cached⟩

end ValveInv

end Faucet
