import Faucet.Soundness.PortStatus

/-! # 802.1X VLAN assignment

`add_dot1x_native_vlan` points a port's untagged traffic at a VLAN found by name and recomputes
that VLAN's 802.1X members (`vlan.reset_ports`); `del_dot1x_native_vlan` clears the assignment and
recomputes the VLAN it had. Each floods the VLAN it assigns or clears and the port's native VLAN.
So when a port logs off before it is assigned again, the only VLAN whose 802.1X members include
the port is the one it is assigned to, and each call floods every VLAN the port's untagged
traffic joins or leaves. Assigning a port that already has a VLAN to another one recomputes only
the new VLAN: the port stays among the old VLAN's members, whose flooding is not updated.
-/

namespace Faucet

/-- The VLANs of the `flood_manager.update_vlan` calls among some messages, in order. -/
def floodUpdates (msgs : List OfMsg) : List (Option Vid) :=
  msgs.filterMap fun
    | .ext _ (.floodUpdateVlan vid) => some vid
    | _ => none

@[simp] theorem floodUpdates_append (first second : List OfMsg) :
    floodUpdates (first ++ second) = floodUpdates first ++ floodUpdates second :=
  List.filterMap_append _ _ _

theorem floodUpdates_cons (msg : OfMsg) (msgs : List OfMsg) :
    floodUpdates (msg :: msgs) = floodUpdates [msg] ++ floodUpdates msgs :=
  floodUpdates_append [msg] msgs

namespace Valve

section Dot1x

variable (v : Valve) (port : PortConfig) (vid : Vid)

@[simp] theorem resetPorts_dp : (v.resetPorts vid).dp = v.dp := rfl
@[simp] theorem resetPorts_port : (v.resetPorts vid).dyn.port = v.dyn.port := rfl

/-- After `vlan.reset_ports`, a port of the DP is among the VLAN's 802.1X members exactly when
the VLAN is its 802.1X VLAN; the other VLANs keep their members. -/
theorem mem_resetPorts_dot1xPorts {portNo : PortNo} (found : v.dp.port? portNo = some port)
    (other : Vid) :
    portNo ∈ ((v.resetPorts vid).dyn.vlan other).dot1xPorts ↔
      if other = vid then (v.dyn.port portNo).dynDot1xNativeVlan = some vid
      else portNo ∈ (v.dyn.vlan other).dot1xPorts := by
  obtain ⟨mem, rfl⟩ := v.dp.port?_eq_some found
  unfold resetPorts
  split
  · subst other
    simp only [DPDyn.setVlan_vlan_self, List.mem_map, List.mem_filter, decide_eq_true_eq]
    constructor
    · rintro ⟨q, ⟨-, assigned⟩, same⟩
      rwa [← same]
    · exact fun assigned => ⟨port, ⟨mem, assigned⟩, rfl⟩
  · rw [DPDyn.setVlan_vlan_ne _ _ _ _ ‹_›]

theorem floodUpdates_delNativeVlan : floodUpdates (v.delNativeVlan port) = [] := rfl

theorem floodUpdates_portAddVlans (mirrorAct : List Action) :
    floodUpdates (v.portAddVlans port mirrorAct) = [] := by
  have rules : ∀ (vlans : List VlanConfig) (push : Bool),
      floodUpdates (vlans.map (v.portAddVlanRules port · mirrorAct push)) = [] := fun _ _ => by
    simp [floodUpdates, portAddVlanRules, Function.comp_def]
  have lookup : ∀ found : Option VlanConfig, (found.map (v.portAddVlanRules port · mirrorAct)).toList =
      found.toList.map (v.portAddVlanRules port · mirrorAct) := fun found => by cases found <;> rfl
  unfold portAddVlans
  rw [floodUpdates_append, rules]
  split <;> first | rfl | simp only [lookup, rules, List.nil_append]

/-- `_warm_reconfig_port_vlans(port, vlans)` floods exactly the VLANs it is given. -/
theorem floodUpdates_warmReconfigPortVlans (vlans : List (Option Vid)) :
    floodUpdates (v.warmReconfigPortVlans port vlans) = vlans := by
  unfold warmReconfigPortVlans
  rw [List.cons_append, floodUpdates, List.filterMap_cons, ← floodUpdates, floodUpdates_append,
    floodUpdates_portAddVlans]
  simp [floodUpdates, List.filterMap_map, Function.comp_def]

/-- `add_dot1x_native_vlan` on a port of the DP and a name some VLAN has: the first such VLAN
becomes the port's 802.1X VLAN, it alone is recomputed, and the call floods it and the native
VLAN. -/
theorem addDot1xNativeVlan_spec {portNum : PortNo} {vlanName : String} {vlan : VlanConfig}
    {rest : List VlanConfig} (found : v.dp.port? portNum = some port)
    (first : v.dp.vlans.filter (·.name = vlanName) = vlan :: rest) :
    ∃ w, v.addDot1xNativeVlan portNum vlanName = some w ∧ w.1.dp = v.dp ∧
      (w.1.dyn.port portNum).dynDot1xNativeVlan = some vlan.vid ∧
      (∀ other, other ≠ portNum → w.1.dyn.port other = v.dyn.port other) ∧
      (∀ vid, portNum ∈ (w.1.dyn.vlan vid).dot1xPorts ↔
        vid = vlan.vid ∨ vid ≠ vlan.vid ∧ portNum ∈ (v.dyn.vlan vid).dot1xPorts) ∧
      floodUpdates w.2 = [some vlan.vid, port.nativeVlan] := by
  obtain ⟨-, rfl⟩ := v.dp.port?_eq_some found
  simp only [addDot1xNativeVlan, found, first, Option.map_some', Option.some_inj, exists_eq_left']
  refine ⟨rfl, by simp, fun other ne => by simp [ne], fun vid => ?_, ?_⟩
  · rw [mem_resetPorts_dot1xPorts (v.setPortDyn _ _) port vlan.vid found vid]
    by_cases same : vid = vlan.vid <;> simp [same]
  · simp [floodUpdates_delNativeVlan, floodUpdates_warmReconfigPortVlans]

/-- `del_dot1x_native_vlan` on a port of the DP: the port loses its 802.1X VLAN, which alone is
recomputed, and the call floods that VLAN and the native one. -/
theorem delDot1xNativeVlan_spec {portNum : PortNo} (found : v.dp.port? portNum = some port) :
    ∃ w, v.delDot1xNativeVlan portNum = some w ∧ w.1.dp = v.dp ∧
      (w.1.dyn.port portNum).dynDot1xNativeVlan = none ∧
      (∀ other, other ≠ portNum → w.1.dyn.port other = v.dyn.port other) ∧
      (∀ vid, portNum ∈ (w.1.dyn.vlan vid).dot1xPorts ↔
        (v.dyn.port portNum).dynDot1xNativeVlan ≠ some vid ∧
          portNum ∈ (v.dyn.vlan vid).dot1xPorts) ∧
      floodUpdates w.2 = ((v.dyn.port portNum).dynDot1xNativeVlan.map fun vid =>
        [some vid, port.nativeVlan]).getD [] := by
  obtain ⟨-, rfl⟩ := v.dp.port?_eq_some found
  simp only [delDot1xNativeVlan, found, Option.map_some', Option.some_inj, exists_eq_left']
  cases assigned : (v.dyn.port port.number).dynDot1xNativeVlan with
  | none => exact ⟨rfl, assigned, fun _ _ => rfl, fun vid => by simp, rfl⟩
  | some dynVid =>
    refine ⟨rfl, by simp, fun other ne => by simp [ne], fun vid => ?_, ?_⟩
    · rw [mem_resetPorts_dot1xPorts (v.setPortDyn _ _) port dynVid found vid]
      by_cases same : vid = dynVid
      · simp [same]
      · simp [same, Ne.symm same]
    · rw [floodUpdates_cons, floodUpdates_warmReconfigPortVlans]
      rfl

end Dot1x

end Valve

/-- A call on a port's 802.1X VLAN. -/
inductive Dot1xEvent
  | add (vlanName : String)
  | del

/-- `add_dot1x_native_vlan(port_num, vlan_name)` or `del_dot1x_native_vlan(port_num)`. -/
def dot1xStep (portNum : PortNo) (v : Valve) : Dot1xEvent → Option (Valve × List OfMsg)
  | .add vlanName => v.addDot1xNativeVlan portNum vlanName
  | .del => v.delDot1xNativeVlan portNum

/-- A run of calls on one port; `none` if one raises. -/
def dot1xRun (portNum : PortNo) (v : Valve) (events : List Dot1xEvent) : Option Valve :=
  events.foldlM (fun v e => (dot1xStep portNum v e).map (·.1)) v

/-- Whether a run logs the port off before each assignment: after `add_dot1x_native_vlan`, the
next call on the port is `del_dot1x_native_vlan`. -/
def logsOffFirst (assigned : Bool) : List Dot1xEvent → Bool
  | [] => true
  | .add _ :: events => !assigned && logsOffFirst true events
  | .del :: events => logsOffFirst false events

/-- The only VLAN whose 802.1X members, as last recomputed, include the port is its 802.1X
VLAN. -/
def Dot1xMember (v : Valve) (portNo : PortNo) : Prop :=
  ∀ vid, portNo ∈ (v.dyn.vlan vid).dot1xPorts ↔ (v.dyn.port portNo).dynDot1xNativeVlan = some vid

/-- The VLAN a port's untagged traffic is pushed to, as `_port_add_vlans` programs it. -/
def untaggedVlan (v : Valve) (port : PortConfig) : Option Vid :=
  (v.dyn.port port.number).dynDot1xNativeVlan.or port.nativeVlan

section Step

variable {v : Valve} {portNum : PortNo} {port : PortConfig}

/-- A call on a port of the DP that has no 802.1X VLAN, or a logoff, keeps the membership
invariant and floods the VLANs the port's untagged traffic leaves and joins. -/
theorem dot1xStep_member (found : v.dp.port? portNum = some port) (member : Dot1xMember v portNum)
    (e : Dot1xEvent)
    (fresh : ∀ vlanName, e = .add vlanName → (v.dyn.port portNum).dynDot1xNativeVlan = none) :
    ∃ w, dot1xStep portNum v e = some w ∧ w.1.dp = v.dp ∧ Dot1xMember w.1 portNum ∧
      (untaggedVlan w.1 port ≠ untaggedVlan v port →
        untaggedVlan v port ∈ floodUpdates w.2 ∧ untaggedVlan w.1 port ∈ floodUpdates w.2) := by
  obtain ⟨-, rfl⟩ := v.dp.port?_eq_some found
  cases e with
  | add vlanName =>
    have none := fresh vlanName rfl
    cases named : v.dp.vlans.filter (·.name = vlanName) with
    | nil =>
      refine ⟨(v, []), by simp [dot1xStep, Valve.addDot1xNativeVlan, found, named], rfl, member,
        fun moved => absurd rfl moved⟩
    | cons vlan rest =>
      obtain ⟨w, added, dp, assigned, -, members, floods⟩ := v.addDot1xNativeVlan_spec port found named
      refine ⟨w, added, dp, fun vid => ?_, fun _ => ?_⟩
      · rw [members, assigned, member, none]
        simp [eq_comm]
      · simp [untaggedVlan, floods, assigned, none]
  | del =>
    obtain ⟨w, deleted, dp, cleared, -, members, floods⟩ := v.delDot1xNativeVlan_spec port found
    refine ⟨w, deleted, dp, fun vid => ?_, fun moved => ?_⟩
    · rw [members, cleared, member]
      simp
    · cases assigned : (v.dyn.port port.number).dynDot1xNativeVlan with
      | none => exact absurd (by simp [untaggedVlan, cleared, assigned]) moved
      | some vid => simp [untaggedVlan, floods, cleared, assigned]

/-- Over a run of calls on a port of the DP that logs the port off before each assignment, no
call raises, the DP stays, and the only VLAN whose 802.1X members include the port is its
802.1X VLAN; the discipline carries on to the calls that follow. -/
theorem dot1xRun_member (found : v.dp.port? portNum = some port) :
    ∀ (events rest : List Dot1xEvent) (assigned : Bool) (v' : Valve), v'.dp = v.dp →
      Dot1xMember v' portNum →
      (assigned = false → (v'.dyn.port portNum).dynDot1xNativeVlan = none) →
      logsOffFirst assigned (events ++ rest) = true →
      ∃ w assigned', dot1xRun portNum v' events = some w ∧ w.dp = v.dp ∧ Dot1xMember w portNum ∧
        (assigned' = false → (w.dyn.port portNum).dynDot1xNativeVlan = none) ∧
        logsOffFirst assigned' rest = true
  | [], _, assigned, v', dp, member, unassigned, disciplined =>
    ⟨v', assigned, rfl, dp, member, unassigned, disciplined⟩
  | e :: events, rest, assigned, v', dp, member, unassigned, disciplined => by
    have fresh : ∀ vlanName, e = .add vlanName → (v'.dyn.port portNum).dynDot1xNativeVlan = none := by
      rintro vlanName rfl
      simp only [List.cons_append, logsOffFirst, Bool.and_eq_true, Bool.not_eq_true'] at disciplined
      exact unassigned disciplined.1
    obtain ⟨w, stepped, dp', member', -⟩ := dot1xStep_member (dp ▸ found) member e fresh
    have next : ∃ assigned', (assigned' = false → (w.1.dyn.port portNum).dynDot1xNativeVlan = none) ∧
        logsOffFirst assigned' (events ++ rest) = true := by
      cases e with
      | add vlanName =>
        simp only [List.cons_append, logsOffFirst, Bool.and_eq_true] at disciplined
        exact ⟨true, nofun, disciplined.2⟩
      | del =>
        obtain ⟨_, deleted, -, cleared, -⟩ := v'.delDot1xNativeVlan_spec port (dp ▸ found)
        rw [dot1xStep, deleted, Option.some_inj] at stepped
        exact ⟨false, fun _ => stepped ▸ cleared, disciplined⟩
    obtain ⟨assigned', unassigned', disciplined'⟩ := next
    obtain ⟨u, assigned'', run, rest'⟩ :=
      dot1xRun_member found events rest assigned' w.1 (dp'.trans dp) member' unassigned' disciplined'
    refine ⟨u, assigned'', ?_, rest'⟩
    rw [dot1xRun, List.foldlM_cons, stepped]
    exact run

end Step

/-- From a state where a port of the DP has no 802.1X VLAN and is no VLAN's 802.1X member, over
any run of calls that logs the port off before each assignment: after each call, the only VLAN
whose 802.1X members include the port is its 802.1X VLAN, and the call has flooded the VLANs the
port's untagged traffic left and joined. -/
theorem dot1xLogoffFirst_member (v : Valve) {portNum : PortNo} {port : PortConfig}
    (found : v.dp.port? portNum = some port)
    (unassigned : (v.dyn.port portNum).dynDot1xNativeVlan = none)
    (noMember : ∀ vid, portNum ∉ (v.dyn.vlan vid).dot1xPorts) (events : List Dot1xEvent)
    (disciplined : logsOffFirst false events = true) :
    ∀ before e after, events = before ++ e :: after →
      ∃ w w', dot1xRun portNum v before = some w ∧ dot1xStep portNum w e = some w' ∧
        Dot1xMember w'.1 portNum ∧
        (untaggedVlan w'.1 port ≠ untaggedVlan w port →
          untaggedVlan w port ∈ floodUpdates w'.2 ∧ untaggedVlan w'.1 port ∈ floodUpdates w'.2) := by
  rintro before e after rfl
  have start : Dot1xMember v portNum := fun vid => by simp [noMember vid, unassigned]
  obtain ⟨w, assigned, run, dp, member, unassigned', disciplined'⟩ :=
    dot1xRun_member found before (e :: after) false v rfl start (fun _ => unassigned) disciplined
  have fresh : ∀ vlanName, e = .add vlanName → (w.dyn.port portNum).dynDot1xNativeVlan = none := by
    rintro vlanName rfl
    simp only [logsOffFirst, Bool.and_eq_true, Bool.not_eq_true'] at disciplined'
    exact unassigned' disciplined'.1
  obtain ⟨w', stepped, -, member', floods⟩ := dot1xStep_member (dp ▸ found) member e fresh
  exact ⟨w, w', run, stepped, member', floods⟩

/-- Assigning a port of the DP to one VLAN by name and then to another, with no logoff between:
the port ends assigned to the second VLAN but stays among the first VLAN's 802.1X members, and
the second call floods only the second VLAN and the port's native VLAN. -/
theorem dot1xReassign_keeps_old_vlan (v : Valve) {portNum : PortNo} {port : PortConfig}
    (found : v.dp.port? portNum = some port) {nameA nameB : String} {a b : VlanConfig}
    {restA restB : List VlanConfig} (firstA : v.dp.vlans.filter (·.name = nameA) = a :: restA)
    (firstB : v.dp.vlans.filter (·.name = nameB) = b :: restB) (distinct : a.vid ≠ b.vid) :
    ∃ first second, v.addDot1xNativeVlan portNum nameA = some first ∧
      first.1.addDot1xNativeVlan portNum nameB = some second ∧
      (second.1.dyn.port portNum).dynDot1xNativeVlan = some b.vid ∧
      portNum ∈ (second.1.dyn.vlan a.vid).dot1xPorts ∧
      floodUpdates second.2 = [some b.vid, port.nativeVlan] := by
  obtain ⟨first, addedA, dpA, assignedA, -, membersA, -⟩ := v.addDot1xNativeVlan_spec port found firstA
  obtain ⟨second, addedB, -, assignedB, -, membersB, floodsB⟩ :=
    first.1.addDot1xNativeVlan_spec port (dpA ▸ found) (dpA ▸ firstB)
  refine ⟨first, second, addedA, addedB, assignedB, ?_, floodsB⟩
  rw [membersB]
  exact .inr ⟨distinct, (membersA a.vid).mpr (.inl rfl)⟩

/-- DP 1 with port 1, untagged on VLAN 300, and VLANs 100 and 200 named "a" and "b" for 802.1X,
before its cold start. -/
def dot1xValve : Valve :=
  { oneVlanPortValve with
    dp := { oneVlanPortValve.dp with
      ports := [{ number := 1, dot1x := true, nativeVlan := some 300 }]
      ports_nodup := by decide
      vlans := [{ vid := 100, name := "a", ports := [] }, { vid := 200, name := "b", ports := [] },
        { vid := 300, name := "office", ports := [1] }]
      vlans_nodup := by decide } }

theorem dot1xValve_reassign :
    ∃ first second, dot1xValve.addDot1xNativeVlan 1 "a" = some first ∧
      first.1.addDot1xNativeVlan 1 "b" = some second ∧
      (second.1.dyn.port 1).dynDot1xNativeVlan = some 200 ∧
      1 ∈ (second.1.dyn.vlan 100).dot1xPorts ∧
      floodUpdates second.2 = [some 200, some 300] :=
  @dot1xReassign_keeps_old_vlan dot1xValve 1 _ rfl "a" "b" _ _ _ _ rfl rfl (by decide)

/-- Port 1 assigned to VLAN "a" and then to VLAN "b": it stays among VLAN 100's 802.1X members,
and VLAN 100 is not flooded again. -/
theorem dot1xValve_reassign_misses_a :
    ∃ first second, dot1xValve.addDot1xNativeVlan 1 "a" = some first ∧
      first.1.addDot1xNativeVlan 1 "b" = some second ∧
      (second.1.dyn.port 1).dynDot1xNativeVlan = some 200 ∧
      1 ∈ (second.1.dyn.vlan 100).dot1xPorts ∧ some 100 ∉ floodUpdates second.2 :=
  ⟨_, _, rfl, rfl, rfl, by decide, by decide⟩

theorem dot1xValve_logoff_first :
    ∃ w w', dot1xRun 1 dot1xValve [.add "a", .del] = some w ∧ dot1xStep 1 w (.add "b") = some w' ∧
      Dot1xMember w'.1 1 ∧
      (untaggedVlan w'.1 { number := 1, dot1x := true, nativeVlan := some 300 } ≠
          untaggedVlan w { number := 1, dot1x := true, nativeVlan := some 300 } →
        untaggedVlan w { number := 1, dot1x := true, nativeVlan := some 300 } ∈ floodUpdates w'.2 ∧
          untaggedVlan w'.1 { number := 1, dot1x := true, nativeVlan := some 300 } ∈
            floodUpdates w'.2) :=
  @dot1xLogoffFirst_member dot1xValve 1 _ rfl rfl (fun _ => List.not_mem_nil _)
    [.add "a", .del, .add "b"] rfl [.add "a", .del] (.add "b") [] rfl

end Faucet
