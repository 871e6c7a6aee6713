import Faucet.Model.StackLink
import Mathlib.Algebra.Order.Field.Rat
import Mathlib.Data.List.Chain

/-! # Stack ports follow their probes

A stack port that is not administratively down is, after every evaluation, in the state its
last probe and the time fix (`stackStateOf`), whatever state it was in, provided no port starts
`UP` without a probe. So a second evaluation at the same time changes nothing, and without a
new probe a port moves at most once more, from `UP` to `DOWN`. `_update_stack_link_state`
reports a topology change to every stacked Valve for exactly the ports it changed, and fans out
to the running ones only when a port changed. Its calls name only this Valve and the stacked
others, and give each of them the same topology records, once per transition.
-/

namespace Faucet

/-- The state a stack port's last probe and the time fix: `INIT` with no probe, `UP` for a
correct probe fewer than `max_lldp_lost` beacon intervals old, `DOWN` otherwise. -/
def stackStateOf (peer : StackPeer) (maxLldpLost : ℕ) (probe : Option StackProbeInfo)
    (now : Time) : StackState :=
  match probe with
  | none => .init
  | some info =>
    if info.stackCorrect ∧ (now - info.lastSeenLldpTime) / peer.sendInterval < maxLldpLost
    then .up else .down

/-- A port's dynamic state after `_update_stack_link_state` evaluates it at `now`. -/
def stackApply (port : PortConfig) (now : Time) (dyn : PortDyn) : PortDyn :=
  match nextStackLinkState port dyn now with
  | none => dyn
  | some next => { dyn with dynStackCurrentState := next }

/-- Two states of a port in time order: the same, or `UP` then `DOWN`. -/
def StackState.NoReturn (earlier later : StackState) : Prop :=
  earlier = later ∨ (earlier = .up ∧ later = .down)

section Transition

variable {port : PortConfig} {dyn : PortDyn} {now : Time}

/-- A transition always leaves the current state, and never for `ADMIN_DOWN`. -/
theorem nextStackLinkState_some {next : StackState}
    (transition : nextStackLinkState port dyn now = some next) :
    dyn.dynStackCurrentState ≠ next ∧ next ≠ .adminDown := by
  unfold nextStackLinkState at transition
  dsimp only at transition
  repeat' split at transition
  all_goals cases transition <;> simp_all

@[simp] theorem stackApply_probe :
    (stackApply port now dyn).dynStackProbeInfo = dyn.dynStackProbeInfo := by
  unfold stackApply; split <;> rfl

/-- Evaluating a port twice at the same time is evaluating it once. -/
theorem nextStackLinkState_stackApply :
    nextStackLinkState port (stackApply port now dyn) now = none := by
  unfold stackApply
  split
  · assumption
  · rename_i next transition
    unfold nextStackLinkState at transition ⊢
    dsimp only at transition ⊢
    repeat' split at transition
    all_goals cases transition <;> simp_all

/-- After an evaluation, a port that is not administratively down is in the state its probe and
the time fix, unless it was `UP` without a probe. -/
theorem stackApply_state {peer : StackPeer} (stack : port.stack = some peer)
    (lost : 0 < port.maxLldpLost)
    (notAdmin : dyn.dynStackCurrentState ≠ .adminDown)
    (probed : dyn.dynStackProbeInfo = none → dyn.dynStackCurrentState ≠ .up) :
    (stackApply port now dyn).dynStackCurrentState =
      stackStateOf peer port.maxLldpLost dyn.dynStackProbeInfo now := by
  unfold stackApply nextStackLinkState stackStateOf
  rcases probe : dyn.dynStackProbeInfo with _ | info
  · cases state : dyn.dynStackCurrentState <;> simp_all
  · have elapsed : ¬(now - info.lastSeenLldpTime) / peer.sendInterval < port.maxLldpLost →
        now - info.lastSeenLldpTime ≠ 0 := by
      intro stale zero
      rw [zero, zero_div] at stale
      exact stale (Nat.cast_pos.mpr lost)
    by_cases fresh : (now - info.lastSeenLldpTime) / peer.sendInterval < port.maxLldpLost
    · cases correct : info.stackCorrect <;> cases state : dyn.dynStackCurrentState <;> simp_all
    · have moved := elapsed fresh
      cases correct : info.stackCorrect <;> cases state : dyn.dynStackCurrentState <;>
        simp only [fresh, moved] <;> simp_all

theorem stackApply_of_none (fixed : nextStackLinkState port dyn now = none) :
    stackApply port now dyn = dyn := by
  simp [stackApply, fixed]

/-- Later evaluations of the same probe record move a port at most once, from `UP` to `DOWN`. -/
theorem stackStateOf_noReturn {peer : StackPeer} (interval : 0 < peer.sendInterval)
    (maxLldpLost : ℕ) (probe : Option StackProbeInfo) {earlier later : Time}
    (le : earlier ≤ later) :
    (stackStateOf peer maxLldpLost probe earlier).NoReturn
      (stackStateOf peer maxLldpLost probe later) := by
  cases probe with
  | none => exact .inl rfl
  | some info =>
    simp only [stackStateOf, StackState.NoReturn]
    have aged : (earlier - info.lastSeenLldpTime) / peer.sendInterval ≤
        (later - info.lastSeenLldpTime) / peer.sendInterval :=
      div_le_div_of_nonneg_right (sub_le_sub_right le _) interval.le
    by_cases stillFresh : info.stackCorrect ∧
        (later - info.lastSeenLldpTime) / peer.sendInterval < maxLldpLost
    · have wasFresh : info.stackCorrect ∧
          (earlier - info.lastSeenLldpTime) / peer.sendInterval < maxLldpLost :=
        ⟨stillFresh.1, aged.trans_lt stillFresh.2⟩
      exact .inl (by rw [if_pos wasFresh, if_pos stillFresh])
    · rw [if_neg stillFresh]
      split_ifs
      · exact .inr ⟨rfl, rfl⟩
      · exact .inl rfl

end Transition

section Loop

variable (dp : DpId) (stacked : List DpId) (now : Time)

/-- One step of the port loop: the port is evaluated, and a transition counts and is reported
to every stacked Valve. -/
theorem stackLinkLoop_cons (port : PortConfig) (ports : List PortConfig) (dyn : DPDyn) :
    stackLinkLoop dp stacked now (port :: ports) dyn =
      if nextStackLinkState port (dyn.port port.number) now = none then
        stackLinkLoop dp stacked now ports
          (dyn.setPort port.number (stackApply port now (dyn.port port.number)))
      else
        ((stackLinkLoop dp stacked now ports
            (dyn.setPort port.number (stackApply port now (dyn.port port.number)))).1,
          (stackLinkLoop dp stacked now ports
            (dyn.setPort port.number (stackApply port now (dyn.port port.number)))).2.1 + 1,
          stacked.map (fun valve => .updateStackTopo valve
            ((stackApply port now (dyn.port port.number)).dynStackCurrentState = .up) dp
              port.number) ++
          (stackLinkLoop dp stacked now ports
            (dyn.setPort port.number (stackApply port now (dyn.port port.number)))).2.2) := by
  rw [stackLinkLoop]
  cases transition : nextStackLinkState port (dyn.port port.number) now with
  | none => simp [stackApply, transition]
  | some next =>
    obtain ⟨-, notAdmin⟩ := nextStackLinkState_some transition
    cases next <;> simp_all [stackApply]

theorem stackLinkLoop_frame {portNo : PortNo} :
    ∀ (ports : List PortConfig) (dyn : DPDyn), (∀ q ∈ ports, q.number ≠ portNo) →
      (stackLinkLoop dp stacked now ports dyn).1.port portNo = dyn.port portNo
  | [], _, _ => rfl
  | q :: ports, dyn, other => by
    rw [stackLinkLoop_cons]
    have rest := stackLinkLoop_frame ports
      (dyn.setPort q.number (stackApply q now (dyn.port q.number)))
      (fun r mem => other r (List.mem_cons_of_mem _ mem))
    have ne := other q (List.mem_cons_self _ _)
    split <;> simp only [rest, DPDyn.setPort_port_ne _ _ _ _ ne.symm]

/-- A port at a fixed point stays there through the rest of the loop. -/
theorem stackLinkLoop_fixed {port : PortConfig} :
    ∀ (ports : List PortConfig) (dyn : DPDyn),
      nextStackLinkState port (dyn.port port.number) now = none →
      (∀ q ∈ ports, q.number = port.number → q = port) →
      (stackLinkLoop dp stacked now ports dyn).1.port port.number = dyn.port port.number
  | [], _, _, _ => rfl
  | q :: ports, dyn, fixed, same => by
    rw [stackLinkLoop_cons]
    by_cases here : q = port
    · subst here
      simp only [fixed, if_true, stackApply_of_none fixed, DPDyn.setPort_self]
      exact stackLinkLoop_fixed ports dyn fixed (fun r mem => same r (List.mem_cons_of_mem _ mem))
    · have ne : port.number ≠ q.number :=
        fun eq => here (same q (List.mem_cons_self _ _) eq.symm)
      have rest := stackLinkLoop_fixed ports
        (dyn.setPort q.number (stackApply q now (dyn.port q.number)))
        (by rwa [DPDyn.setPort_port_ne _ _ _ _ ne])
        (fun r mem => same r (List.mem_cons_of_mem _ mem))
      rw [DPDyn.setPort_port_ne _ _ _ _ ne] at rest
      split <;> exact rest

/-- The loop evaluates each of its ports, once in effect even when listed twice. -/
theorem stackLinkLoop_port {port : PortConfig} :
    ∀ (ports : List PortConfig) (dyn : DPDyn), port ∈ ports →
      (∀ q ∈ ports, q.number = port.number → q = port) →
      (stackLinkLoop dp stacked now ports dyn).1.port port.number =
        stackApply port now (dyn.port port.number)
  | q :: ports, dyn, mem, same => by
    rw [stackLinkLoop_cons]
    have same' := fun r mem => same r (List.mem_cons_of_mem _ mem)
    by_cases here : q = port
    · subst here
      have fixed := stackLinkLoop_fixed dp stacked now ports
        (dyn.setPort q.number (stackApply q now (dyn.port q.number)))
        (by simpa using nextStackLinkState_stackApply) same'
      simp only [DPDyn.setPort_port_self] at fixed
      split <;> exact fixed
    · have ne : port.number ≠ q.number :=
        fun eq => here (same q (List.mem_cons_self _ _) eq.symm)
      have rest := stackLinkLoop_port ports
        (dyn.setPort q.number (stackApply q now (dyn.port q.number)))
        ((List.mem_cons.mp mem).resolve_left (Ne.symm here)) same'
      rw [DPDyn.setPort_port_ne _ _ _ _ ne] at rest
      split <;> exact rest

/-- The loop reports to every stacked Valve exactly the ports it changed, each once and in list
order, and counts them. -/
theorem stackLinkLoop_changed :
    ∀ (ports : List PortConfig) (dyn : DPDyn),
      (∀ q ∈ ports, ∀ r ∈ ports, q.number = r.number → q = r) →
      ∃ changed : List PortConfig, changed.Sublist ports ∧ changed.Nodup ∧
        (∀ q, q ∈ changed ↔ q ∈ ports ∧
          ((stackLinkLoop dp stacked now ports dyn).1.port q.number).dynStackCurrentState ≠
            (dyn.port q.number).dynStackCurrentState) ∧
        (stackLinkLoop dp stacked now ports dyn).2.1 = changed.length ∧
        (stackLinkLoop dp stacked now ports dyn).2.2 = changed.flatMap fun q =>
          stacked.map fun valve => .updateStackTopo valve
            (((stackLinkLoop dp stacked now ports dyn).1.port q.number).dynStackCurrentState = .up)
            dp q.number
  | [], _, _ => ⟨[], .slnil, List.nodup_nil, by simp, rfl, rfl⟩
  | q :: ports, dyn, coherent => by
    have coherent' := fun r mem r' mem' => coherent r (List.mem_cons_of_mem _ mem) r'
      (List.mem_cons_of_mem _ mem')
    have same : ∀ r ∈ ports, r.number = q.number → r = q :=
      fun r mem eq => coherent r (List.mem_cons_of_mem _ mem) q (List.mem_cons_self _ _) eq
    rw [stackLinkLoop_cons]
    generalize applied : dyn.setPort q.number (stackApply q now (dyn.port q.number)) = dyn'
    obtain ⟨changed, sub, nodup, iff, count, log⟩ := stackLinkLoop_changed ports dyn' coherent'
    have atQ : dyn'.port q.number = stackApply q now (dyn.port q.number) := by
      rw [← applied, DPDyn.setPort_port_self]
    have kept := stackLinkLoop_fixed dp stacked now ports dyn'
      (by rw [atQ]; exact nextStackLinkState_stackApply) same
    have others : ∀ r ∈ ports, r ≠ q → dyn'.port r.number = dyn.port r.number := by
      intro r mem ne
      rw [← applied]
      exact DPDyn.setPort_port_ne _ _ _ _ (fun eq => ne (same r mem eq))
    by_cases transition : nextStackLinkState q (dyn.port q.number) now = none
    · have unchanged : dyn' = dyn := by
        rw [← applied, stackApply_of_none transition, DPDyn.setPort_self]
      subst unchanged
      rw [if_pos transition]
      refine ⟨changed, sub.cons _, nodup, fun r => ?_, count, log⟩
      rw [iff]
      by_cases here : r = q
      · subst here
        simp [kept]
      · simp [here]
    · rw [if_neg transition]
      obtain ⟨next, moved⟩ := Option.ne_none_iff_exists'.mp transition
      have left := (nextStackLinkState_some moved).1
      have movedState : (stackApply q now (dyn.port q.number)).dynStackCurrentState = next := by
        simp [stackApply, moved]
      have notMem : q ∉ changed := fun mem => ((iff q).mp mem).2 (by rw [kept])
      refine ⟨q :: changed, sub.cons₂ _, List.nodup_cons.mpr ⟨notMem, nodup⟩, fun r => ?_,
        by rw [count]; rfl, by rw [log, List.flatMap_cons, kept, atQ]⟩
      by_cases here : r = q
      · subst here
        simp only [List.mem_cons_self, true_and, true_iff, kept, atQ, movedState]
        exact Ne.symm left
      · simp only [List.mem_cons, here, false_or, iff]
        exact and_congr_right fun mem => by rw [others r mem here]

theorem stackLinkLoop_dynRunning :
    ∀ (ports : List PortConfig) (dyn : DPDyn),
      (stackLinkLoop dp stacked now ports dyn).1.dynRunning = dyn.dynRunning
  | [], _ => rfl
  | q :: ports, dyn => by
    rw [stackLinkLoop_cons]
    split <;> simp only [stackLinkLoop_dynRunning ports, DPDyn.setPort_dynRunning]

/-- The loop keeps every VLAN, and every part of a port's dynamic state that an evaluation
keeps. -/
theorem stackLinkLoop_keeps {α : Type} (part : PortDyn → α)
    (kept : ∀ q dyn, part (stackApply q now dyn) = part dyn) :
    ∀ (ports : List PortConfig) (dyn : DPDyn),
      (∀ portNo, part ((stackLinkLoop dp stacked now ports dyn).1.port portNo) =
        part (dyn.port portNo)) ∧ (stackLinkLoop dp stacked now ports dyn).1.vlan = dyn.vlan
  | [], _ => ⟨fun _ => rfl, rfl⟩
  | q :: ports, dyn => by
    obtain ⟨parts, vlan⟩ := stackLinkLoop_keeps part kept ports
      (dyn.setPort q.number (stackApply q now (dyn.port q.number)))
    have here : ∀ portNo,
        part ((dyn.setPort q.number (stackApply q now (dyn.port q.number))).port portNo) =
          part (dyn.port portNo) := by
      intro portNo
      by_cases same : portNo = q.number
      · subst same; rw [DPDyn.setPort_port_self, kept]
      · rw [DPDyn.setPort_port_ne _ _ _ _ same]
    rw [stackLinkLoop_cons]
    split <;> exact ⟨fun portNo => (parts portNo).trans (here portNo), vlan⟩

end Loop

/-- The fan-out over distinct Valves sends each running one its messages under its own key, in
order, after calling `update_tunnel_flowrules` on every one. -/
theorem stackFanout_eq :
    ∀ (valves : List Valve) (byValve : OfmsgsByValve), (valves.map (·.dp.dpId)).Nodup →
      (∀ v ∈ valves, v.dp.dpId ∉ byValve.map (·.1)) →
      stackFanout valves byValve =
        (valves.map fun v => .updateTunnelFlowrules v.dp.dpId,
          byValve ++ (valves.filter (·.dyn.dynRunning)).map fun v => (v.dp.dpId, v.stackFanoutMsgs))
  | [], _, _, _ => by simp [stackFanout]
  | v :: valves, byValve, distinct, fresh => by
    rw [List.map_cons, List.nodup_cons] at distinct
    obtain ⟨notLater, distinct'⟩ := distinct
    have freshV := fresh v (List.mem_cons_self _ _)
    rw [stackFanout]
    by_cases running : v.dyn.dynRunning
    · have sent : (v.dp.stackPorts.foldl (fun acc port =>
            acc.extend v.dp.dpId [.ext v.dp.dpId (.delPort .host port.number)])
          (v.dp.vlans.foldl (fun acc vlan =>
            acc.extend v.dp.dpId [.ext v.dp.dpId (.addVlan .flood vlan.vid)])
            (byValve.extend v.dp.dpId v.getTunnelFlowmods))) =
          byValve ++ [(v.dp.dpId, v.stackFanoutMsgs)] := by
        rw [DefaultList.extend_fresh freshV, DefaultList.foldl_extend_last freshV,
          DefaultList.foldl_extend_last freshV, Valve.stackFanoutMsgs, List.map_eq_flatMap,
          List.map_eq_flatMap]
      simp only [running, Bool.not_true, Bool.false_eq_true, if_false, sent]
      rw [stackFanout_eq valves _ distinct' (fun w mem => ?_)]
      · simp [running]
      · simp only [List.map_append, List.map_cons, List.map_nil, List.mem_append,
          List.mem_singleton, not_or]
        exact ⟨fresh w (List.mem_cons_of_mem _ mem),
          fun same => notLater (List.mem_map.mpr ⟨w, mem, same⟩)⟩
    · simp only [running, Bool.not_false, if_true]
      rw [stackFanout_eq valves _ distinct' (fun w mem => fresh w (List.mem_cons_of_mem _ mem))]
      simp [running]

theorem Valve.updateStackLinkState_fst (self : Valve) (ports : List PortConfig) (now : Time)
    (others : List Valve) :
    (self.updateStackLinkState ports now others).1 = { self with dyn := (stackLinkLoop self.dp.dpId
      ((self :: stackedValves others).map (·.dp.dpId)) now ports self.dyn).1 } := by
  unfold Valve.updateStackLinkState; dsimp only; split <;> rfl

/-- `_update_stack_link_state` on a list of this DP's stack ports, with `other_valves` each
other Valve once. Let `S` be this Valve and the others that name a stack root. The ports whose
state it changes form a sublist of `ports` without repeats. It reports each of them once, in
order, to the flood manager of every Valve of `S`, and no other port. If none changed, it calls
nothing more and sends nothing; otherwise it calls `update_tunnel_flowrules` on every Valve of
`S` and sends each running Valve of `S`, under its own key, its tunnel flows, the flooding of
its VLANs and the host deletion of its stack ports. -/
theorem updateStackLinkState_fanout (self : Valve) (ports : List PortConfig) (now : Time)
    (others : List Valve) (stackPorts : ∀ q ∈ ports, q ∈ self.dp.stackPorts)
    (distinct : (self.dp.dpId :: others.map (·.dp.dpId)).Nodup) :
    ∃ changed : List PortConfig, changed.Sublist ports ∧ changed.Nodup ∧
      (∀ q, q ∈ changed ↔ q ∈ ports ∧
        ((self.updateStackLinkState ports now others).1.dyn.port q.number).dynStackCurrentState ≠
          (self.dyn.port q.number).dynStackCurrentState) ∧
      (changed = [] → (self.updateStackLinkState ports now others).2 = ([], [])) ∧
      (changed ≠ [] →
        (self.updateStackLinkState ports now others).2.1 =
          (changed.flatMap fun q => (self :: stackedValves others).map fun v =>
            .updateStackTopo v.dp.dpId (((self.updateStackLinkState ports now others).1.dyn.port
              q.number).dynStackCurrentState = .up) self.dp.dpId q.number) ++
          (self :: stackedValves others).map (fun v => .updateTunnelFlowrules v.dp.dpId) ∧
        (self.updateStackLinkState ports now others).2.2 =
          ((self :: stackedValves others).filter (·.dyn.dynRunning)).map
            fun v => (v.dp.dpId, v.stackFanoutMsgs)) := by
  have coherent : ∀ q ∈ ports, ∀ r ∈ ports, q.number = r.number → q = r :=
    fun q memQ r memR => self.dp.port_eq_of_number
      (self.dp.mem_ports_of_mem_stackPorts (stackPorts q memQ))
      (self.dp.mem_ports_of_mem_stackPorts (stackPorts r memR))
  obtain ⟨changed, sub, nodup, iff, count, log⟩ := stackLinkLoop_changed self.dp.dpId
    ((self :: stackedValves others).map (·.dp.dpId)) now ports self.dyn coherent
  have distinctStacked : ((self :: stackedValves others).map (·.dp.dpId)).Nodup :=
    distinct.sublist (((List.filter_sublist others).map _).cons₂ _)
  simp only [Valve.updateStackLinkState_fst]
  refine ⟨changed, sub, nodup, iff, fun none => ?_, fun some => ?_⟩
  · unfold Valve.updateStackLinkState
    dsimp only
    rw [count, if_pos (by simp [none]), log, none]
    rfl
  · have moved : changed.length ≠ 0 := fun zero => some (List.length_eq_zero.mp zero)
    unfold Valve.updateStackLinkState
    dsimp only
    rw [count, if_neg moved, stackFanout_eq (_ :: stackedValves others) [] ?_ (by simp), log]
    · by_cases running : self.dyn.dynRunning <;>
        simp [running, List.map_map, Function.comp_def, List.filter_cons, stackLinkLoop_dynRunning]
    · exact distinctStacked

/-- The stack port 1 of `oneStackPortValve`, towards port 2 of DP 2, which beacons every
second. -/
def oneStackPort : PortConfig := { number := 1, stack := some ⟨2, "sw2", 2, some 1, 30⟩ }

/-- DP 1 with the one stack port `oneStackPort`, no port probed yet and every port `DOWN`. -/
def oneStackPortValve : Valve where
  cls := .valve
  dp := { dpId := 1, name := "sw1", ports := [oneStackPort], ports_nodup := by decide,
          vlans := [], vlans_nodup := List.nodup_nil, stack := true }
  dyn := ⟨fun _ => {}, fun _ => {}, ∅, true, none⟩
  lastPipelineFlows := []
  packetInCountSec := 0
  lastPacketInSec := 0
  lastAdvertiseSec := 0
  lastFastAdvertiseSec := 0
  portHighwater := fun _ _ => 0
  metrics := fun _ => none

/-- DP 2, running and stacked under the root `sw1`, with VLAN 100. -/
def oneStackPortPeer : Valve where
  cls := .valve
  dp := { dpId := 2, name := "sw2", ports := [], ports_nodup := List.nodup_nil,
          vlans := [{ vid := 100, name := "office", ports := [] }], vlans_nodup := by decide,
          stack := true, stackRootName := some "sw1" }
  dyn := ⟨fun _ => {}, fun _ => {}, ∅, true, none⟩
  lastPipelineFlows := []
  packetInCountSec := 0
  lastPacketInSec := 0
  lastAdvertiseSec := 0
  lastFastAdvertiseSec := 0
  portHighwater := fun _ _ => 0
  metrics := fun _ => none

/-- A tick at time 0 moves `oneStackPort` from `DOWN` to `INIT`, so it is the port changed. Its
topology change reaches the Valve and the stacked peer, both update their tunnels, and each, being
running, gets its messages: the host deletion of the Valve's stack port, the flooding of the
peer's VLAN. -/
theorem oneStackPortValve_fanout :
    ((oneStackPortValve.updateStackLinkState [oneStackPort] 0 [oneStackPortPeer]).1.dyn.port
        oneStackPort.number).dynStackCurrentState = .init ∧
      (oneStackPortValve.updateStackLinkState [oneStackPort] 0 [oneStackPortPeer]).2 =
        ([.updateStackTopo 1 false 1 1, .updateStackTopo 2 false 1 1, .updateTunnelFlowrules 1,
            .updateTunnelFlowrules 2],
          [(1, [.ext 1 (.delPort .host 1)]), (2, [.ext 2 (.addVlan .flood 100)])]) ∧
      ∃ changed : List PortConfig, changed.Sublist [oneStackPort] ∧ changed.Nodup ∧
        (∀ q, q ∈ changed ↔ q ∈ [oneStackPort] ∧
          ((oneStackPortValve.updateStackLinkState [oneStackPort] 0 [oneStackPortPeer]).1.dyn.port
            q.number).dynStackCurrentState ≠
              (oneStackPortValve.dyn.port q.number).dynStackCurrentState) ∧
        (changed = [] →
          (oneStackPortValve.updateStackLinkState [oneStackPort] 0 [oneStackPortPeer]).2 =
            ([], [])) ∧
        (changed ≠ [] →
          (oneStackPortValve.updateStackLinkState [oneStackPort] 0 [oneStackPortPeer]).2.1 =
            (changed.flatMap fun q => (oneStackPortValve :: stackedValves [oneStackPortPeer]).map
              fun v => .updateStackTopo v.dp.dpId (((oneStackPortValve.updateStackLinkState
                [oneStackPort] 0 [oneStackPortPeer]).1.dyn.port q.number).dynStackCurrentState =
                  .up) oneStackPortValve.dp.dpId q.number) ++
            (oneStackPortValve :: stackedValves [oneStackPortPeer]).map
              (fun v => .updateTunnelFlowrules v.dp.dpId) ∧
          (oneStackPortValve.updateStackLinkState [oneStackPort] 0 [oneStackPortPeer]).2.2 =
            ((oneStackPortValve :: stackedValves [oneStackPortPeer]).filter
              (·.dyn.dynRunning)).map fun v => (v.dp.dpId, v.stackFanoutMsgs)) :=
  ⟨by decide, by decide, updateStackLinkState_fanout oneStackPortValve [oneStackPort] 0
    [oneStackPortPeer] (fun _ mem => by rw [List.mem_singleton.mp mem]; exact List.mem_singleton_self _)
    (by decide)⟩

/-! ## Runs of probes and ticks -/

/-- The stack attributes of a port's dynamic state. -/
def PortDyn.stackPart (dyn : PortDyn) : StackState × Option StackProbeInfo :=
  (dyn.dynStackCurrentState, dyn.dynStackProbeInfo)

/-- The LLDP beacon attributes of a port's dynamic state: the state and the receive time of the
last beacon. -/
def PortDyn.beaconPart (dyn : PortDyn) : Option ℕ × Option Time :=
  (dyn.dynLldpBeaconRecvState, dyn.dynLldpBeaconRecvTime)

/-- What the LLDP handlers own of a port's dynamic state: its stack attributes and its beacon. -/
def PortDyn.lldpPart (dyn : PortDyn) :
    (StackState × Option StackProbeInfo) × (Option ℕ × Option Time) :=
  (dyn.stackPart, dyn.beaconPart)

/-- A port's beacon state, when truthy, comes with the time the beacon was received. -/
def PortDyn.BeaconTimed (dyn : PortDyn) : Prop :=
  truthyNat dyn.dynLldpBeaconRecvState → dyn.dynLldpBeaconRecvTime.isSome

/-- Every port's beacon is timed, so the beacon expiry of `fast_state_expire` never evaluates
`now - None`. -/
def BeaconsTimed (v : Valve) : Prop := ∀ portNo, (v.dyn.port portNo).BeaconTimed

theorem PortDyn.BeaconTimed.of_beaconPart {dyn dyn' : PortDyn} (timed : dyn.BeaconTimed)
    (same : dyn'.beaconPart = dyn.beaconPart) : dyn'.BeaconTimed := by
  obtain ⟨state, time⟩ := Prod.mk.inj same
  unfold PortDyn.BeaconTimed; rw [state, time]; exact timed

/-- A Valve with no beacon received has every beacon timed. -/
theorem beaconsTimed_of_none {v : Valve}
    (none : ∀ portNo, (v.dyn.port portNo).dynLldpBeaconRecvState = none) : BeaconsTimed v :=
  fun portNo truthy => absurd truthy (by rw [none portNo]; decide)

/-- What moves a Valve's stack ports: an LLDP packet-in on a port (`lldp_handler` on the port
`parse_pkt_meta` looked up), or a `fast_state_expire` tick. -/
inductive StackEvent where
  | lldp (now : Time) (portNo : PortNo) (ethType : ℕ) (lldp : Option FaucetLldp)
      (others : List Valve)
  | fastStateExpire (now : Time) (others : List Valve)

namespace StackEvent

def now : StackEvent → Time
  | lldp now .. => now
  | fastStateExpire now _ => now

/-- The event records a probe on the port: an LLDP packet on a stack port, naming a remote DP
and port, reaches `_verify_stack_lldp`. -/
def Probes (dp : DPConfig) (portNo : PortNo) : StackEvent → Prop
  | lldp _ n ethType parsed _ => n = portNo ∧ ethType = ethTypeLldp ∧
      (∃ tlvs, parsed = some tlvs ∧ tlvs.remote?.isSome) ∧
      ∃ port, dp.port? n = some port ∧ port.stack.isSome
  | fastStateExpire .. => False

/-- `_update_stack_link_state` evaluates the port during the event. -/
def Evaluates (dp : DPConfig) (portNo : PortNo) (e : StackEvent) : Prop :=
  match e with
  | lldp .. => e.Probes dp portNo
  | fastStateExpire .. => portNo ∈ dp.stackPorts.map (·.number)

end StackEvent

/-- One event: the Valve after it and the calls it made on the stacked Valves' flood managers;
`none` where the tick raises. -/
def stackHandle (v : Valve) : StackEvent → Option (Valve × List StackCall)
  | .lldp now portNo ethType lldp others =>
    some (match v.dp.port? portNo with
      | some port => ((v.lldpHandler now port ethType lldp others).1,
          (v.lldpHandler now port ethType lldp others).2.1)
      | none => (v, []))
  | .fastStateExpire now others => (v.fastStateExpire now others).map fun r => (r.1, r.2.1)

/-- The Valve after one event; `none` where the tick raises. -/
def stackStep (v : Valve) (e : StackEvent) : Option Valve := (stackHandle v e).map (·.1)

theorem stackStep_lldp (v : Valve) (now : Time) (portNo : PortNo) (ethType : ℕ)
    (lldp : Option FaucetLldp) (others : List Valve) :
    stackStep v (.lldp now portNo ethType lldp others) =
      some (match v.dp.port? portNo with
        | some port => (v.lldpHandler now port ethType lldp others).1
        | none => v) := by
  simp only [stackStep, stackHandle, Option.map_some']
  split <;> rfl

theorem stackStep_fastStateExpire (v : Valve) (now : Time) (others : List Valve) :
    stackStep v (.fastStateExpire now others) = (v.fastStateExpire now others).map (·.1) := by
  simp only [stackStep, stackHandle, Option.map_map]
  rfl

/-- No stack port is `UP` without a recorded probe. -/
def StackInv (v : Valve) : Prop :=
  ∀ port ∈ v.dp.stackPorts, (v.dyn.port port.number).dynStackProbeInfo = none →
    (v.dyn.port port.number).dynStackCurrentState ≠ .up

section Effects

variable (v : Valve) (now : Time) (others : List Valve)

@[simp] theorem Valve.updateStackLinkState_dp (ports : List PortConfig) :
    (v.updateStackLinkState ports now others).1.dp = v.dp := by
  rw [Valve.updateStackLinkState_fst]

@[simp] theorem Valve.lldpHandler_dp (port : PortConfig) (ethType : ℕ) (lldp : Option FaucetLldp) :
    (v.lldpHandler now port ethType lldp others).1.dp = v.dp := by
  unfold Valve.lldpHandler Valve.verifyStackLldp
  repeat' split
  all_goals simp

theorem updateStackLinkState_port_ne (ports : List PortConfig) {portNo : PortNo}
    (other : ∀ q ∈ ports, q.number ≠ portNo) :
    (v.updateStackLinkState ports now others).1.dyn.port portNo = v.dyn.port portNo := by
  rw [Valve.updateStackLinkState_fst]
  exact stackLinkLoop_frame _ _ _ ports _ other

theorem updateStackLinkState_single (port : PortConfig) :
    (v.updateStackLinkState [port] now others).1.dyn.port port.number =
      stackApply port now (v.dyn.port port.number) := by
  rw [Valve.updateStackLinkState_fst]
  exact stackLinkLoop_port _ _ _ [port] _ (List.mem_singleton_self _) (by simp)

/-- An LLDP packet on one port leaves every other port as it was. -/
theorem lldpHandler_port_ne (port : PortConfig) (ethType : ℕ) (lldp : Option FaucetLldp)
    {portNo : PortNo} (ne : portNo ≠ port.number) :
    (v.lldpHandler now port ethType lldp others).1.dyn.port portNo = v.dyn.port portNo := by
  unfold Valve.lldpHandler Valve.verifyStackLldp
  repeat' split
  all_goals simp [updateStackLinkState_port_ne, ne, Ne.symm ne]

/-- An LLDP packet that does not name a remote DP and port on a stack port leaves the port's
stack state and probe as they were. -/
theorem lldpHandler_stackPart_of_not_probe (port : PortConfig) (ethType : ℕ)
    (lldp : Option FaucetLldp)
    (noProbe : ¬(ethType = ethTypeLldp ∧ (∃ tlvs, lldp = some tlvs ∧ tlvs.remote?.isSome) ∧
      port.stack.isSome)) :
    ((v.lldpHandler now port ethType lldp others).1.dyn.port port.number).stackPart =
      (v.dyn.port port.number).stackPart := by
  unfold Valve.lldpHandler Valve.verifyStackLldp
  repeat' split
  all_goals simp_all [PortDyn.stackPart]

/-- An LLDP packet naming a remote DP and port on a stack port records a probe there and
evaluates the port. -/
theorem lldpHandler_probe (port : PortConfig) (ethType : ℕ) (lldp : Option FaucetLldp)
    (probe : ethType = ethTypeLldp ∧ (∃ tlvs, lldp = some tlvs ∧ tlvs.remote?.isSome) ∧
      port.stack.isSome) :
    ∃ dyn : PortDyn, dyn.dynStackCurrentState = (v.dyn.port port.number).dynStackCurrentState ∧
      dyn.dynStackProbeInfo.isSome ∧
      (v.lldpHandler now port ethType lldp others).1.dyn.port port.number =
        stackApply port now dyn := by
  obtain ⟨lldpType, ⟨tlvs, rfl, remote⟩, stacked⟩ := probe
  obtain ⟨⟨remoteDpId, remotePortId⟩, named⟩ := Option.isSome_iff_exists.mp remote
  obtain ⟨peer, peered⟩ := Option.isSome_iff_exists.mp stacked
  unfold Valve.lldpHandler Valve.verifyStackLldp
  simp only [lldpType, ne_eq, not_true_eq_false, if_false, named, peered]
  rw [updateStackLinkState_single]
  exact ⟨_, by simp, by simp, rfl⟩

/-- `_update_stack_link_state` changes no beacon. -/
theorem updateStackLinkState_beaconPart (ports : List PortConfig) (portNo : PortNo) :
    ((v.updateStackLinkState ports now others).1.dyn.port portNo).beaconPart =
      (v.dyn.port portNo).beaconPart := by
  rw [Valve.updateStackLinkState_fst]
  exact (stackLinkLoop_keeps _ _ now PortDyn.beaconPart (fun q dyn => by
    unfold stackApply; split <;> rfl) ports v.dyn).1 portNo

/-- An LLDP packet leaves every port's beacon timed: it times the beacon it records. -/
theorem lldpHandler_beaconsTimed (timed : BeaconsTimed v) (port : PortConfig) (ethType : ℕ)
    (lldp : Option FaucetLldp) : BeaconsTimed (v.lldpHandler now port ethType lldp others).1 := by
  intro portNo
  unfold Valve.lldpHandler
  split
  · exact timed portNo
  · cases lldp with
    | none => exact timed portNo
    | some tlvs =>
      have received : (({ v with dyn := v.dyn.setPort port.number { v.dyn.port port.number with
          dynLldpBeaconRecvTime := some now, dynLldpBeaconRecvState := tlvs.remotePortState } } :
            Valve).dyn.port portNo).BeaconTimed := by
        by_cases here : portNo = port.number
        · subst here; simp [PortDyn.BeaconTimed]
        · rw [DPDyn.setPort_port_ne _ _ _ _ here]; exact timed portNo
      dsimp only
      split
      · unfold Valve.verifyStackLldp
        split
        · exact received
        · refine received.of_beaconPart ((updateStackLinkState_beaconPart _ now others _ portNo).trans ?_)
          by_cases here : portNo = port.number
          · subst here; simp [PortDyn.beaconPart]
          · simp [DPDyn.setPort_port_ne _ _ _ _ here]
      · exact received

theorem expireLldpBeacons_cons (sendInterval : Time) (q : PortConfig) (ports : List PortConfig)
    (dyn : DPDyn) :
    expireLldpBeacons sendInterval now (q :: ports) dyn =
      ((lldpBeaconExpire sendInterval now (dyn.port q.number)).map (dyn.setPort q.number)).bind
        (expireLldpBeacons sendInterval now ports) := rfl

section Beacons

variable (sendInterval : Time) {α : Type} (part : PortDyn → α)
  (kept : ∀ dyn : PortDyn, part { dyn with dynLldpBeaconRecvState := none } = part dyn)
include kept

/-- The beacon expiry of one port changes at most its beacon state. -/
theorem lldpBeaconExpire_keeps {dyn dyn' : PortDyn}
    (expired : lldpBeaconExpire sendInterval now dyn = some dyn') : part dyn' = part dyn := by
  unfold lldpBeaconExpire at expired
  split_ifs at expired
  · obtain ⟨_, -, rfl⟩ := Option.map_eq_some'.mp expired
    split_ifs
    exacts [kept dyn, rfl]
  · cases expired; rfl

/-- Over the ports of the DP, the beacon expiry changes at most beacon states. -/
theorem expireLldpBeacons_keeps :
    ∀ (ports : List PortConfig) {dyn dyn' : DPDyn},
      expireLldpBeacons sendInterval now ports dyn = some dyn' →
      (∀ portNo, part (dyn'.port portNo) = part (dyn.port portNo)) ∧ dyn'.vlan = dyn.vlan
  | [], _, _, expired => by cases expired; exact ⟨fun _ => rfl, rfl⟩
  | q :: ports, dyn, _, expired => by
    rw [expireLldpBeacons_cons] at expired
    obtain ⟨_, one, rest⟩ := Option.bind_eq_some.mp expired
    obtain ⟨d, expiredQ, rfl⟩ := Option.map_eq_some'.mp one
    obtain ⟨parts, vlan⟩ := expireLldpBeacons_keeps ports rest
    refine ⟨fun portNo => (parts portNo).trans ?_, vlan⟩
    by_cases here : portNo = q.number
    · subst here; rw [DPDyn.setPort_port_self, lldpBeaconExpire_keeps now sendInterval part kept expiredQ]
    · rw [DPDyn.setPort_port_ne _ _ _ _ here]

/-- The beacon expiry of `fast_state_expire` changes at most beacon states. -/
theorem expireBeacons_keeps {w : Valve} (expired : v.expireBeacons now = some w) :
    ∃ dyn : DPDyn, w = { v with dyn := dyn } ∧
      (∀ portNo, part (dyn.port portNo) = part (v.dyn.port portNo)) ∧ dyn.vlan = v.dyn.vlan := by
  unfold Valve.expireBeacons at expired
  split at expired
  · cases expired; exact ⟨v.dyn, rfl, fun _ => rfl, rfl⟩
  · obtain ⟨dyn, expiredDyn, rfl⟩ := Option.map_eq_some'.mp expired
    exact ⟨dyn, rfl, expireLldpBeacons_keeps now _ part kept _ expiredDyn⟩

end Beacons

/-- The beacon expiry of one port does not raise on a timed beacon, and keeps it timed. -/
theorem lldpBeaconExpire_timed (sendInterval : Time) {dyn : PortDyn} (timed : dyn.BeaconTimed) :
    ∃ dyn', lldpBeaconExpire sendInterval now dyn = some dyn' ∧ dyn'.BeaconTimed := by
  unfold lldpBeaconExpire
  by_cases truthy : truthyNat dyn.dynLldpBeaconRecvState
  · obtain ⟨recvTime, received⟩ := Option.isSome_iff_exists.mp (timed truthy)
    simp only [truthy, if_true, received, Option.map_some', Option.some.injEq, exists_eq_left']
    split_ifs
    · exact fun none => by simp [truthyNat] at none
    · exact timed
  · exact ⟨dyn, if_neg truthy, timed⟩

theorem expireLldpBeacons_timed (sendInterval : Time) :
    ∀ (ports : List PortConfig) (dyn : DPDyn), (∀ portNo, (dyn.port portNo).BeaconTimed) →
      ∃ dyn', expireLldpBeacons sendInterval now ports dyn = some dyn' ∧
        ∀ portNo, (dyn'.port portNo).BeaconTimed
  | [], dyn, timed => ⟨dyn, rfl, timed⟩
  | q :: ports, dyn, timed => by
    obtain ⟨d, expired, timedD⟩ := lldpBeaconExpire_timed now sendInterval (timed q.number)
    obtain ⟨dyn', rest, timed'⟩ := expireLldpBeacons_timed sendInterval ports (dyn.setPort q.number d)
      fun portNo => by
        by_cases here : portNo = q.number
        · subst here; rw [DPDyn.setPort_port_self]; exact timedD
        · rw [DPDyn.setPort_port_ne _ _ _ _ here]; exact timed portNo
    exact ⟨dyn', by rw [expireLldpBeacons_cons, expired]; exact rest, timed'⟩

/-- The beacon expiry of `fast_state_expire` does not raise when every beacon is timed, and keeps
every beacon timed. -/
theorem expireBeacons_timed (timed : BeaconsTimed v) :
    ∃ w, v.expireBeacons now = some w ∧ BeaconsTimed w := by
  unfold Valve.expireBeacons
  split
  · exact ⟨v, rfl, timed⟩
  · rename_i sendInterval _
    obtain ⟨dyn', expired, timed'⟩ := expireLldpBeacons_timed now sendInterval v.dp.ports v.dyn timed
    exact ⟨{ v with dyn := dyn' }, by rw [expired]; rfl, timed'⟩

/-- A tick that does not raise evaluates every stack port, after a beacon expiry that leaves
stack state alone. -/
theorem fastStateExpire_port {r : Valve × List StackCall × OfmsgsByValve}
    (expired : v.fastStateExpire now others = some r) {port : PortConfig}
    (mem : port ∈ v.dp.stackPorts) :
    ∃ dyn : PortDyn, dyn.stackPart = (v.dyn.port port.number).stackPart ∧
      r.1.dyn.port port.number = stackApply port now dyn := by
  obtain ⟨w, beacons, rfl⟩ := Option.map_eq_some'.mp expired
  obtain ⟨dyn, rfl, parts, -⟩ := expireBeacons_keeps v now PortDyn.stackPart (fun _ => rfl) beacons
  have coherent : ∀ q ∈ v.dp.stackPorts, q.number = port.number → q = port :=
    fun q memQ => v.dp.port_eq_of_number (v.dp.mem_ports_of_mem_stackPorts memQ)
      (v.dp.mem_ports_of_mem_stackPorts mem)
  exact ⟨_, parts port.number, by
    rw [Valve.updateStackLinkState_fst]; exact stackLinkLoop_port _ _ _ _ _ mem coherent⟩

/-- A tick that does not raise keeps every beacon timed: it only clears beacon states. -/
theorem fastStateExpire_beaconsTimed (timed : BeaconsTimed v)
    {r : Valve × List StackCall × OfmsgsByValve} (expired : v.fastStateExpire now others = some r) :
    BeaconsTimed r.1 := by
  obtain ⟨w, beacons, rfl⟩ := Option.map_eq_some'.mp expired
  obtain ⟨u, beacons', timedU⟩ := expireBeacons_timed v now timed
  obtain rfl : w = u := Option.some.inj (beacons.symm.trans beacons')
  exact fun portNo => (timedU portNo).of_beaconPart
    (updateStackLinkState_beaconPart w now others _ portNo)

theorem stackStep_dp (e : StackEvent) {w : Valve} (step : stackStep v e = some w) :
    w.dp = v.dp := by
  cases e with
  | lldp =>
    rw [stackStep_lldp, Option.some.injEq] at step
    subst step
    split <;> simp
  | fastStateExpire now others =>
    rw [stackStep_fastStateExpire] at step
    obtain ⟨r, expired, rfl⟩ := Option.map_eq_some'.mp step
    obtain ⟨w, beacons, rfl⟩ := Option.map_eq_some'.mp expired
    obtain ⟨dyn, rfl, -⟩ := expireBeacons_keeps v now (fun _ => ()) (fun _ => rfl) beacons
    simp

/-- An event never raises when every beacon is timed. -/
theorem stackStep_some (timed : BeaconsTimed v) (e : StackEvent) : ∃ w, stackStep v e = some w := by
  cases e with
  | lldp => exact ⟨_, rfl⟩
  | fastStateExpire now others =>
    obtain ⟨w, beacons, -⟩ := expireBeacons_timed v now timed
    exact ⟨_, by rw [stackStep_fastStateExpire, Valve.fastStateExpire, beacons]; rfl⟩

/-- Every event keeps every beacon timed. -/
theorem stackStep_beaconsTimed (timed : BeaconsTimed v) (e : StackEvent) {w : Valve}
    (step : stackStep v e = some w) : BeaconsTimed w := by
  cases e with
  | lldp now portNo ethType lldp others =>
    rw [stackStep_lldp, Option.some.injEq] at step
    subst step
    split
    · exact lldpHandler_beaconsTimed v now others timed _ _ _
    · exact timed
  | fastStateExpire now others =>
    rw [stackStep_fastStateExpire] at step
    obtain ⟨r, expired, rfl⟩ := Option.map_eq_some'.mp step
    exact fastStateExpire_beaconsTimed v now others timed expired

end Effects

@[simp] theorem stackApply_stackPart (port : PortConfig) (now : Time) (dyn : PortDyn) :
    (stackApply port now dyn).stackPart =
      ((stackApply port now dyn).dynStackCurrentState, dyn.dynStackProbeInfo) := by
  simp [PortDyn.stackPart]

/-- `_next_stack_link_state` reads only a port's stack state and probe. -/
theorem nextStackLinkState_congr (port : PortConfig) (now : Time) {dyn dyn' : PortDyn}
    (same : dyn.stackPart = dyn'.stackPart) :
    nextStackLinkState port dyn now = nextStackLinkState port dyn' now := by
  obtain ⟨state, probe⟩ := Prod.mk.inj same
  unfold nextStackLinkState; rw [state, probe]

theorem stackApply_congr (port : PortConfig) (now : Time) {dyn dyn' : PortDyn}
    (same : dyn.stackPart = dyn'.stackPart) :
    (stackApply port now dyn).stackPart = (stackApply port now dyn').stackPart := by
  obtain ⟨state, probe⟩ := Prod.mk.inj same
  unfold stackApply
  rw [nextStackLinkState_congr port now same]
  split <;> simp [PortDyn.stackPart, state, probe]

theorem stackApply_not_up {port : PortConfig} {now : Time} {dyn : PortDyn}
    (noProbe : dyn.dynStackProbeInfo = none) (notUp : dyn.dynStackCurrentState ≠ .up) :
    (stackApply port now dyn).dynStackCurrentState ≠ .up := by
  unfold stackApply nextStackLinkState
  simp only [noProbe]
  split_ifs <;> simp_all

theorem stackApply_adminDown {port : PortConfig} {now : Time} {dyn : PortDyn} :
    (stackApply port now dyn).dynStackCurrentState = .adminDown ↔
      dyn.dynStackCurrentState = .adminDown := by
  unfold stackApply
  split
  · rfl
  · rename_i next transition
    obtain ⟨left, notAdmin⟩ := nextStackLinkState_some transition
    simp only [notAdmin, false_iff]
    intro admin
    simp [nextStackLinkState, admin] at transition

section Step

variable {v w : Valve} {e : StackEvent} (step : stackStep v e = some w) {port : PortConfig}
  (mem : port ∈ v.dp.stackPorts)
include step mem

/-- One event on a stack port: from a state with the port's `UP`/`DOWN`/`INIT` state, and its
probe unless the event records one, the port is evaluated if the event evaluates it and is left
alone otherwise. -/
theorem stackStep_port :
    ∃ dyn : PortDyn,
      dyn.dynStackCurrentState = (v.dyn.port port.number).dynStackCurrentState ∧
      (¬e.Probes v.dp port.number →
        dyn.dynStackProbeInfo = (v.dyn.port port.number).dynStackProbeInfo) ∧
      (e.Probes v.dp port.number → dyn.dynStackProbeInfo.isSome) ∧
      (e.Evaluates v.dp port.number →
        (w.dyn.port port.number).stackPart = (stackApply port e.now dyn).stackPart) ∧
      (¬e.Evaluates v.dp port.number → (w.dyn.port port.number).stackPart = dyn.stackPart) := by
  have inPorts := v.dp.mem_ports_of_mem_stackPorts mem
  cases e with
  | fastStateExpire now others =>
    rw [stackStep_fastStateExpire] at step
    obtain ⟨r, expired, rfl⟩ := Option.map_eq_some'.mp step
    obtain ⟨dyn, same, after⟩ := fastStateExpire_port v now others expired mem
    obtain ⟨state, probe⟩ := Prod.mk.inj same
    refine ⟨dyn, state, fun _ => probe, False.elim, fun _ => by rw [after]; rfl, ?_⟩
    exact fun notEvaluated => absurd (List.mem_map_of_mem _ mem) notEvaluated
  | lldp now portNo ethType lldp others =>
    rw [stackStep_lldp, Option.some.injEq] at step
    subst step
    by_cases here : portNo = port.number
    · subst here
      have found := v.dp.port?_of_mem inPorts
      have probes : StackEvent.Probes v.dp port.number (.lldp now port.number ethType lldp others) ↔
          (ethType = ethTypeLldp ∧ (∃ tlvs, lldp = some tlvs ∧ tlvs.remote?.isSome) ∧
            port.stack.isSome) := by
        simp [StackEvent.Probes, found]
      simp only [StackEvent.Evaluates, found, StackEvent.now, probes]
      by_cases probe : ethType = ethTypeLldp ∧ (∃ tlvs, lldp = some tlvs ∧ tlvs.remote?.isSome) ∧
          port.stack.isSome
      · obtain ⟨dyn, state, recorded, after⟩ := lldpHandler_probe v now others port ethType lldp probe
        exact ⟨dyn, state, fun no => absurd probe no, fun _ => recorded, fun _ => by rw [after],
          fun no => absurd probe no⟩
      · exact ⟨v.dyn.port port.number, rfl, fun _ => rfl, fun yes => absurd yes probe,
          fun yes => absurd yes probe,
          fun _ => lldpHandler_stackPart_of_not_probe v now others port ethType lldp probe⟩
    · have notProbe : ¬StackEvent.Probes v.dp port.number (.lldp now portNo ethType lldp others) :=
        fun probes => here probes.1
      refine ⟨v.dyn.port port.number, rfl, fun _ => rfl, fun yes => absurd yes notProbe,
        fun yes => absurd yes notProbe, fun _ => ?_⟩
      split
      · rename_i q found
        rw [lldpHandler_port_ne v now others q ethType lldp
          (by rw [(v.dp.port?_eq_some found).2]; exact Ne.symm here)]
      · rfl

/-- Under `StackInv`, the state an event evaluates a stack port from is not `UP` without a
probe. -/
theorem stackStep_port_of_inv (inv : StackInv v) :
    ∃ dyn : PortDyn, (dyn.dynStackProbeInfo = none → dyn.dynStackCurrentState ≠ .up) ∧
      (e.Evaluates v.dp port.number →
        (w.dyn.port port.number).stackPart = (stackApply port e.now dyn).stackPart) ∧
      (¬e.Evaluates v.dp port.number → (w.dyn.port port.number).stackPart = dyn.stackPart) := by
  obtain ⟨dyn, state, keptProbe, recorded, evaluated, skipped⟩ := stackStep_port step mem
  refine ⟨dyn, fun none => ?_, evaluated, skipped⟩
  have notProbe : ¬e.Probes v.dp port.number := fun yes => by simpa [none] using recorded yes
  rw [state]
  exact inv port mem (by rw [← keptProbe notProbe, none])

/-- Right after an event evaluates a stack port that is not administratively down, the port is
in the state its probe record and the time fix, and evaluating it again changes nothing. -/
theorem stackStep_evaluated (inv : StackInv v) {peer : StackPeer} (stack : port.stack = some peer)
    (lost : 0 < port.maxLldpLost) (evaluates : e.Evaluates v.dp port.number)
    (notAdmin : (w.dyn.port port.number).dynStackCurrentState ≠ .adminDown) :
    (w.dyn.port port.number).dynStackCurrentState =
        stackStateOf peer port.maxLldpLost (w.dyn.port port.number).dynStackProbeInfo e.now ∧
      nextStackLinkState port (w.dyn.port port.number) e.now = none := by
  obtain ⟨dyn, unprobed, evaluated, -⟩ := stackStep_port_of_inv step mem inv
  have after := evaluated evaluates
  obtain ⟨stateAfter, probeAfter⟩ := Prod.mk.inj (after.trans (stackApply_stackPart _ _ _))
  have notAdmin' : dyn.dynStackCurrentState ≠ .adminDown :=
    fun admin => notAdmin (by rw [stateAfter]; exact stackApply_adminDown.mpr admin)
  refine ⟨?_, ?_⟩
  · rw [stateAfter, probeAfter]
    exact stackApply_state stack lost notAdmin' unprobed
  · rw [nextStackLinkState_congr port e.now after]
    exact nextStackLinkState_stackApply

/-- An event that records no probe on a stack port keeps its probe, and evaluates the port from
its own state or leaves it. -/
theorem stackStep_unprobed (notProbe : ¬e.Probes v.dp port.number) :
    (w.dyn.port port.number).dynStackProbeInfo = (v.dyn.port port.number).dynStackProbeInfo ∧
      (e.Evaluates v.dp port.number → (w.dyn.port port.number).dynStackCurrentState =
        (stackApply port e.now (v.dyn.port port.number)).dynStackCurrentState) ∧
      (¬e.Evaluates v.dp port.number → (w.dyn.port port.number).dynStackCurrentState =
        (v.dyn.port port.number).dynStackCurrentState) := by
  obtain ⟨dyn, state, keptProbe, -, evaluated, skipped⟩ := stackStep_port step mem
  have same : dyn.stackPart = (v.dyn.port port.number).stackPart := by
    simp only [PortDyn.stackPart, state, keptProbe notProbe]
  by_cases evaluates : e.Evaluates v.dp port.number
  · have after := (evaluated evaluates).trans (stackApply_congr port e.now same)
    simp only [PortDyn.stackPart, stackApply_probe, Prod.mk.injEq] at after
    exact ⟨after.2, fun _ => after.1, fun no => absurd evaluates no⟩
  · have after := (skipped evaluates).trans same
    simp only [PortDyn.stackPart, Prod.mk.injEq] at after
    exact ⟨after.2, fun yes => absurd yes evaluates, fun _ => after.1⟩

end Step

/-- Every event keeps stack ports from being `UP` without a probe. -/
theorem stackStep_inv {v w : Valve} (inv : StackInv v) {e : StackEvent}
    (step : stackStep v e = some w) : StackInv w := by
  intro port mem noProbe
  rw [stackStep_dp v e step] at mem
  obtain ⟨dyn, unprobed, evaluated, skipped⟩ := stackStep_port_of_inv step mem inv
  by_cases evaluates : e.Evaluates v.dp port.number
  · obtain ⟨stateAfter, probeAfter⟩ :=
      Prod.mk.inj ((evaluated evaluates).trans (stackApply_stackPart _ _ _))
    rw [probeAfter] at noProbe
    rw [stateAfter]
    exact stackApply_not_up noProbe (unprobed noProbe)
  · obtain ⟨stateAfter, probeAfter⟩ := Prod.mk.inj (skipped evaluates)
    rw [probeAfter] at noProbe
    rw [stateAfter]
    exact unprobed noProbe

/-- From a Valve with no stack port `UP` without a probe and every beacon timed, an event does
not raise, keeps the DP, and keeps both. -/
theorem stackStep_invs {v : Valve} (inv : StackInv v) (timed : BeaconsTimed v) (e : StackEvent) :
    ∃ w, stackStep v e = some w ∧ w.dp = v.dp ∧ StackInv w ∧ BeaconsTimed w := by
  obtain ⟨w, step⟩ := stackStep_some v timed e
  exact ⟨w, step, stackStep_dp v e step, stackStep_inv inv step,
    stackStep_beaconsTimed v timed e step⟩

/-- The Valve after a run of events; `none` if an event raises. -/
def stackRun (v : Valve) (run : List StackEvent) : Option Valve := run.foldlM stackStep v

/-- The Valves a run of events passes through, from the first; `none` if an event raises. -/
def stackTrace (v : Valve) : List StackEvent → Option (List Valve)
  | [] => some [v]
  | e :: run => (stackStep v e).bind fun w => (stackTrace w run).map (v :: ·)

theorem stackRun_invs : ∀ (run : List StackEvent) {v : Valve}, StackInv v → BeaconsTimed v →
    ∃ w, stackRun v run = some w ∧ w.dp = v.dp ∧ StackInv w ∧ BeaconsTimed w
  | [], v, inv, timed => ⟨v, rfl, rfl, inv, timed⟩
  | e :: run, v, inv, timed => by
    obtain ⟨w, step, dp, inv', timed'⟩ := stackStep_invs inv timed e
    obtain ⟨u, rest, dp', inv'', timed''⟩ := stackRun_invs run inv' timed'
    exact ⟨u, by rw [stackRun, List.foldlM_cons, step]; exact rest, dp'.trans dp, inv'', timed''⟩

section Later

variable {port : PortConfig} {peer : StackPeer} (stack : port.stack = some peer)
  (lost : 0 < port.maxLldpLost)
include stack lost

/-- Along events that record no probe on a stack port, at times from `t` on, the run does not
raise and the port's states are those its fixed probe record gives at non-decreasing times from
`t`. -/
theorem stackTrace_states_of_unprobed :
    ∀ (later : List StackEvent) (w : Valve) (t : Time), StackInv w → BeaconsTimed w →
      port ∈ w.dp.stackPorts →
      (w.dyn.port port.number).dynStackCurrentState ≠ .adminDown →
      (w.dyn.port port.number).dynStackCurrentState =
        stackStateOf peer port.maxLldpLost (w.dyn.port port.number).dynStackProbeInfo t →
      (∀ e ∈ later, ¬e.Probes w.dp port.number) →
      List.Chain (· ≤ ·) t (later.map StackEvent.now) →
      ∃ trace times, stackTrace w later = some trace ∧ (t :: times).Pairwise (· ≤ ·) ∧
        trace.map (fun u => (u.dyn.port port.number).dynStackCurrentState) =
          (t :: times).map
            (stackStateOf peer port.maxLldpLost (w.dyn.port port.number).dynStackProbeInfo)
  | [], w, t, _, _, _, _, state, _, _ => ⟨[w], [], rfl, List.pairwise_singleton _ _, by simp [state]⟩
  | e :: later, w, t, inv, timed, mem, notAdmin, state, unprobed, chain => by
    obtain ⟨le, chain⟩ := List.chain_cons.mp chain
    obtain ⟨u, step, dpU, invU, timedU⟩ := stackStep_invs inv timed e
    obtain ⟨probe, evaluated, skipped⟩ :=
      stackStep_unprobed step mem (unprobed e (List.mem_cons_self _ _))
    have next : ∃ t', t ≤ t' ∧ t' ≤ e.now ∧
        (u.dyn.port port.number).dynStackCurrentState ≠ .adminDown ∧
        (u.dyn.port port.number).dynStackCurrentState =
          stackStateOf peer port.maxLldpLost (w.dyn.port port.number).dynStackProbeInfo t' := by
      by_cases evaluates : e.Evaluates w.dp port.number
      · rw [evaluated evaluates]
        exact ⟨e.now, le, le_refl _, fun admin => notAdmin (stackApply_adminDown.mp admin),
          stackApply_state stack lost notAdmin (inv port mem)⟩
      · rw [skipped evaluates]
        exact ⟨t, le_refl _, le, notAdmin, state⟩
    obtain ⟨t', later', early, notAdmin', state'⟩ := next
    obtain ⟨trace, times, traced, sorted, states⟩ := stackTrace_states_of_unprobed later u t'
      invU timedU (by rwa [dpU]) notAdmin' (by rw [probe]; exact state')
      (by rw [dpU]; exact fun e' mem' => unprobed e' (List.mem_cons_of_mem _ mem'))
      (List.Chain'.imp_head (fun step => early.trans step) chain)
    refine ⟨w :: trace, t' :: times, by simp only [stackTrace, step, Option.some_bind, traced,
      Option.map_some'], List.Pairwise.cons (fun s mem' => ?_) sorted, ?_⟩
    · rcases List.mem_cons.mp mem' with rfl | mem'
      · exact later'
      · exact later'.trans (List.rel_of_pairwise_cons sorted mem')
    · rw [List.map_cons, states, probe, state]
      rfl

end Later

/-- From a Valve where no stack port is `UP` without a probe and every beacon is timed, any run
of LLDP packet-ins and ticks, and an event after it that evaluates a stack port, do not raise;
the event leaves the port, unless it is administratively down, in the state its probe record and
the event's time alone fix, and evaluating it again at that time changes nothing. Later events
at non-decreasing times that record no new probe on it do not raise either, and the port's state
changes at most once more, from `UP` to `DOWN`. -/
theorem stackLink_follows_probe {v : Valve} (start : StackInv v) (beacons : BeaconsTimed v)
    (run : List StackEvent) (e : StackEvent) {port : PortConfig} (mem : port ∈ v.dp.stackPorts)
    {peer : StackPeer} (stack : port.stack = some peer) (interval : 0 < peer.sendInterval)
    (lost : 0 < port.maxLldpLost) (evaluates : e.Evaluates v.dp port.number) :
    ∃ w, (stackRun v run).bind (stackStep · e) = some w ∧
      ((w.dyn.port port.number).dynStackCurrentState ≠ .adminDown →
        (w.dyn.port port.number).dynStackCurrentState =
            stackStateOf peer port.maxLldpLost (w.dyn.port port.number).dynStackProbeInfo e.now ∧
          nextStackLinkState port (w.dyn.port port.number) e.now = none ∧
          ∀ later : List StackEvent, (∀ e' ∈ later, ¬e'.Probes v.dp port.number) →
            List.Chain (· ≤ ·) e.now (later.map StackEvent.now) →
            ∃ trace, stackTrace w later = some trace ∧
              (trace.map fun u => (u.dyn.port port.number).dynStackCurrentState).Pairwise
                StackState.NoReturn) := by
  obtain ⟨u, ran, dpU, invU, timedU⟩ := stackRun_invs run start beacons
  obtain ⟨w, step, dpW, invW, timedW⟩ := stackStep_invs invU timedU e
  refine ⟨w, by rw [ran]; exact step, fun notAdmin => ?_⟩
  obtain ⟨fixed, idle⟩ :=
    stackStep_evaluated step (by rwa [dpU]) invU stack lost (by rwa [dpU]) notAdmin
  refine ⟨fixed, idle, fun later unprobed chain => ?_⟩
  obtain ⟨trace, times, traced, sorted, states⟩ := stackTrace_states_of_unprobed stack lost later w
    e.now invW timedW (by rwa [dpW, dpU]) notAdmin fixed (by rwa [dpW, dpU]) chain
  exact ⟨trace, traced, by
    rw [states]; exact sorted.map _ fun _ _ le => stackStateOf_noReturn interval _ _ le⟩

/-- A tick on `oneStackPortValve` takes its unprobed stack port to `INIT` for good. -/
theorem oneStackPortValve_tick :
    ∃ w, (stackRun oneStackPortValve []).bind (stackStep · (.fastStateExpire 0 [])) = some w ∧
      ((w.dyn.port oneStackPort.number).dynStackCurrentState ≠ .adminDown →
        (w.dyn.port oneStackPort.number).dynStackCurrentState =
            stackStateOf ⟨2, "sw2", 2, some 1, 30⟩ oneStackPort.maxLldpLost
              (w.dyn.port oneStackPort.number).dynStackProbeInfo 0 ∧
          nextStackLinkState oneStackPort (w.dyn.port oneStackPort.number) 0 = none ∧
          ∀ later : List StackEvent,
            (∀ e' ∈ later, ¬e'.Probes oneStackPortValve.dp oneStackPort.number) →
            List.Chain (· ≤ ·) 0 (later.map StackEvent.now) →
            ∃ trace, stackTrace w later = some trace ∧
              (trace.map fun u => (u.dyn.port oneStackPort.number).dynStackCurrentState).Pairwise
                StackState.NoReturn) :=
  stackLink_follows_probe (fun _ _ _ => show StackState.down ≠ .up by decide)
    (beaconsTimed_of_none fun _ => rfl) []
    (.fastStateExpire 0 []) (List.mem_singleton_self _) rfl (by decide) (by decide)
    (show 1 ∈ [1] by decide)

/-! ## The Valves the calls reach -/

/-- The Valve a call is made on. -/
def StackCall.valve : StackCall → DpId
  | .updateStackTopo valve .. => valve
  | .updateTunnelFlowrules valve => valve

/-- The record a call adds to the topology of the flood manager of DP `d`'s Valve, if any. -/
def StackCall.topoFor (d : DpId) : StackCall → Option (Bool × DpId × PortNo)
  | .updateStackTopo valve portStackUp dp port =>
    if valve = d then some (portStackUp, dp, port) else none
  | .updateTunnelFlowrules _ => none

section Named

variable (now : Time) (others : List Valve)

/-- The port loop calls only the `stacked` Valves. -/
theorem stackLinkLoop_named (dp : DpId) (stacked : List DpId) :
    ∀ (ports : List PortConfig) (dyn : DPDyn),
      ∀ c ∈ (stackLinkLoop dp stacked now ports dyn).2.2, c.valve ∈ stacked
  | [], _, _, mem => absurd mem (List.not_mem_nil _)
  | q :: ports, dyn, c, mem => by
    rw [stackLinkLoop_cons] at mem
    split at mem
    · exact stackLinkLoop_named dp stacked ports _ c mem
    · rcases List.mem_append.mp mem with here | later
      · obtain ⟨valve, memValve, rfl⟩ := List.mem_map.mp here
        exact memValve
      · exact stackLinkLoop_named dp stacked ports _ c later

/-- The fan-out calls only the Valves it visits. -/
theorem stackFanout_named :
    ∀ (valves : List Valve) (byValve : OfmsgsByValve),
      ∀ c ∈ (stackFanout valves byValve).1, c.valve ∈ valves.map (·.dp.dpId)
  | [], _, _, mem => absurd mem (List.not_mem_nil _)
  | v :: valves, byValve, c, mem => by
    rw [stackFanout, List.mem_cons] at mem
    rcases mem with rfl | later
    · exact List.mem_cons_self _ _
    · exact List.mem_cons_of_mem _ (stackFanout_named valves _ c later)

/-- `_update_stack_link_state` calls only this Valve and the stacked others. -/
theorem updateStackLinkState_named (self : Valve) (ports : List PortConfig) :
    ∀ c ∈ (self.updateStackLinkState ports now others).2.1,
      c.valve ∈ (self :: stackedValves others).map (·.dp.dpId) := by
  intro c mem
  unfold Valve.updateStackLinkState at mem
  dsimp only at mem
  split at mem
  · exact stackLinkLoop_named now _ _ ports _ c mem
  · rcases List.mem_append.mp mem with loop | fanout
    · exact stackLinkLoop_named now _ _ ports _ c loop
    · have named := stackFanout_named _ [] c fanout
      exact named

/-- `lldp_handler` calls only this Valve and the stacked others. -/
theorem lldpHandler_named (v : Valve) (port : PortConfig) (ethType : ℕ) (lldp : Option FaucetLldp) :
    ∀ c ∈ (v.lldpHandler now port ethType lldp others).2.1,
      c.valve ∈ (v :: stackedValves others).map (·.dp.dpId) := by
  intro c mem
  unfold Valve.lldpHandler at mem
  split at mem
  · exact absurd mem (List.not_mem_nil _)
  · cases lldp with
    | none => exact absurd mem (List.not_mem_nil _)
    | some tlvs =>
      dsimp only at mem
      split at mem
      · unfold Valve.verifyStackLldp at mem
        split at mem
        · exact absurd mem (List.not_mem_nil _)
        · dsimp only at mem
          have named := updateStackLinkState_named now others _ [port] c mem
          exact named
      · exact absurd mem (List.not_mem_nil _)

/-- A tick calls only this Valve and the stacked others. -/
theorem fastStateExpire_named (v : Valve) {r : Valve × List StackCall × OfmsgsByValve}
    (expired : v.fastStateExpire now others = some r) :
    ∀ c ∈ r.2.1, c.valve ∈ (v :: stackedValves others).map (·.dp.dpId) := by
  obtain ⟨w, beacons, rfl⟩ := Option.map_eq_some'.mp expired
  obtain ⟨dyn, rfl, -⟩ := expireBeacons_keeps v now (fun _ => ()) (fun _ => rfl) beacons
  exact updateStackLinkState_named now others _ _

/-! ### Every stacked Valve gets the same records

Each transition of the port loop calls `update_stack_topo` once on every Valve of `stacked`, and
the fan-out adds no record, so every Valve of a `stacked` list without repeats receives the same
records, one per transition, in order. -/

/-- One transition reaches each Valve of `stacked` exactly once. -/
theorem topoFor_transition (b : Bool) (dp : DpId) (port : PortNo) {d : DpId} :
    ∀ {stacked : List DpId}, stacked.Nodup → d ∈ stacked →
      (stacked.map fun valve => StackCall.updateStackTopo valve b dp port).filterMap
        (·.topoFor d) = [(b, dp, port)]
  | [], _, mem => absurd mem (List.not_mem_nil _)
  | x :: xs, nodup, mem => by
    obtain ⟨fresh, nodup⟩ := List.nodup_cons.mp nodup
    by_cases here : x = d
    · subst here
      have rest : (xs.map fun valve => StackCall.updateStackTopo valve b dp port).filterMap
          (·.topoFor x) = [] :=
        List.filterMap_eq_nil_iff.mpr fun c memC => by
          obtain ⟨valve, memValve, rfl⟩ := List.mem_map.mp memC
          exact if_neg fun (same : valve = x) => fresh (same ▸ memValve)
      simp only [List.map_cons, List.filterMap_cons, StackCall.topoFor, if_pos]
      exact congrArg _ rest
    · simp only [List.map_cons, List.filterMap_cons, StackCall.topoFor, if_neg here]
      exact topoFor_transition b dp port nodup ((List.mem_cons.mp mem).resolve_left (Ne.symm here))

section Records

variable (now : Time) (others : List Valve)

theorem stackLinkLoop_agree (dp : DpId) {stacked : List DpId} (nodup : stacked.Nodup) :
    ∀ (ports : List PortConfig) (dyn : DPDyn), ∃ topo, ∀ d ∈ stacked,
      (stackLinkLoop dp stacked now ports dyn).2.2.filterMap (·.topoFor d) = topo
  | [], _ => ⟨[], fun _ _ => rfl⟩
  | q :: ports, dyn => by
    obtain ⟨topo, rest⟩ := stackLinkLoop_agree dp nodup ports
      (dyn.setPort q.number (stackApply q now (dyn.port q.number)))
    rw [stackLinkLoop_cons]
    split
    · exact ⟨topo, rest⟩
    · refine ⟨((stackApply q now (dyn.port q.number)).dynStackCurrentState = .up, dp, q.number) ::
        topo, fun d mem => ?_⟩
      rw [List.filterMap_append, topoFor_transition _ _ _ nodup mem, rest d mem]
      rfl

theorem stackFanout_topoFor (d : DpId) :
    ∀ (valves : List Valve) (byValve : OfmsgsByValve),
      (stackFanout valves byValve).1.filterMap (·.topoFor d) = []
  | [], _ => rfl
  | _ :: valves, _ => stackFanout_topoFor d valves _

/-- `_update_stack_link_state` gives this Valve and each stacked other the same records. -/
theorem updateStackLinkState_agree (self : Valve) (ports : List PortConfig) {stacked : List DpId}
    (named : (self :: stackedValves others).map (·.dp.dpId) = stacked) (nodup : stacked.Nodup) :
    ∃ topo, ∀ d ∈ stacked,
      (self.updateStackLinkState ports now others).2.1.filterMap (·.topoFor d) = topo := by
  subst named
  obtain ⟨topo, loop⟩ := stackLinkLoop_agree now self.dp.dpId nodup ports self.dyn
  refine ⟨topo, fun d mem => ?_⟩
  unfold Valve.updateStackLinkState
  dsimp only
  split
  · exact loop d mem
  · rw [List.filterMap_append, loop d mem, stackFanout_topoFor, List.append_nil]

/-- `lldp_handler` gives this Valve and each stacked other the same records. -/
theorem lldpHandler_agree (v : Valve) (port : PortConfig) (ethType : ℕ)
    (lldp : Option FaucetLldp) {stacked : List DpId}
    (named : (v :: stackedValves others).map (·.dp.dpId) = stacked) (nodup : stacked.Nodup) :
    ∃ topo, ∀ d ∈ stacked,
      (v.lldpHandler now port ethType lldp others).2.1.filterMap (·.topoFor d) = topo := by
  subst named
  unfold Valve.lldpHandler
  split
  · exact ⟨[], fun _ _ => rfl⟩
  · cases lldp with
    | none => exact ⟨[], fun _ _ => rfl⟩
    | some tlvs =>
      dsimp only
      split
      · unfold Valve.verifyStackLldp
        split
        · exact ⟨[], fun _ _ => rfl⟩
        · exact updateStackLinkState_agree now others _ [port] rfl nodup
      · exact ⟨[], fun _ _ => rfl⟩

/-- A tick gives this Valve and each stacked other the same records. -/
theorem fastStateExpire_agree (v : Valve) {r : Valve × List StackCall × OfmsgsByValve}
    (expired : v.fastStateExpire now others = some r)
    (nodup : ((v :: stackedValves others).map (·.dp.dpId)).Nodup) :
    ∃ topo, ∀ d ∈ (v :: stackedValves others).map (·.dp.dpId),
      r.2.1.filterMap (·.topoFor d) = topo := by
  obtain ⟨w, beacons, rfl⟩ := Option.map_eq_some'.mp expired
  obtain ⟨dyn, rfl, -⟩ := expireBeacons_keeps v now (fun _ => ()) (fun _ => rfl) beacons
  exact updateStackLinkState_agree now others _ _ rfl nodup

end Records

end Named

end Faucet
