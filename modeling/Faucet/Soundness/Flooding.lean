import Faucet.Soundness.Lacp
import Mathlib.Data.List.Count

/-! # The flooding updates of `ports_add` and `ports_delete`

Both loops collect, in a Python `set`, the VLANs whose flooding changes, and after the loop ask
the flood manager about each of them once. `ports_add` collects the VLANs of every port it
programs (every VLAN of the DP for a stack port) and asks for `add_vlan` unless cold starting;
but `lacp_down`, which it runs on each LACP port it programs, has already asked for `add_vlan`
of every VLAN of the port, so the VLANs of an LACP port get their flooding rebuilt twice.
`ports_delete` collects the VLANs of every port that is not output-only and asks for
`update_vlan` exactly once for each of them, and for no other VLAN. Both are exact counts of the
calls in the messages, over any list of port numbers, repeated or not configured ones included.
-/

namespace Faucet

/-- Whether `ports_add` programs a configured port rather than skip it: the port is enabled, so
running once marked up, has no coprocessor and is not output-only. -/
def PortConfig.programmedOnAdd (port : PortConfig) : Bool :=
  port.enabled && port.coprocessor.isNone && !port.outputOnly

/-- The VLANs a programmed port joins in `ports_add`, `port_vlans`: every VLAN of the DP for a
stack port, else the port's own. -/
def DPConfig.portVlansOnAdd (dp : DPConfig) (port : PortConfig) : List Vid :=
  if port.stack.isSome then dp.vlans.map (·.vid) else port.vlans

theorem nodup_setOrder (items : List ℕ) : (setOrder items).Nodup :=
  (List.perm_insertionSort _ _).nodup_iff.mpr (List.nodup_dedup items)

/-- Asking about each VLAN of a set once: every VLAN collected is asked about exactly once. -/
theorem count_setOrder_map {items : List Vid} (call : Vid → OfMsg) (injective : call.Injective)
    (vid : Vid) :
    ((setOrder items).map call).count (call vid) = if vid ∈ items then 1 else 0 := by
  rw [List.count_map_of_injective _ _ injective, List.count_eq_of_nodup (nodup_setOrder items)]
  simp only [mem_setOrder]

/-- Messages none of which is `x` count none. -/
theorem count_map_eq_zero {β : Type} (l : List β) (f : β → OfMsg) {x : OfMsg}
    (never : ∀ b, f b ≠ x) : (l.map f).count x = 0 :=
  List.count_eq_zero.mpr fun mem => by
    obtain ⟨b, -, same⟩ := List.mem_map.mp mem
    exact never b same

section PortLoop

variable (one : Valve → PortNo → Valve × List OfMsg × List Vid) {dp : DPConfig} (x : OfMsg)
  (vid : Vid) (marks vids : PortConfig → List Vid)

/-- The loop of `ports_add` and `ports_delete`, where `one` handles a port and skips one that is
not configured: a message counts as often as the configured ports' steps send it, and the VLANs
collected are theirs in order, provided no step changes the DP and each step's count (as a count
of `vid` in `marks`) and VLANs depend on the port's configuration only. -/
theorem portLoop_count_vids (one_dp : ∀ w n, w.dp = dp → (one w n).1.dp = dp)
    (one_none : ∀ w n, w.dp = dp → dp.port? n = none → one w n = (w, [], []))
    (one_count : ∀ w n port, w.dp = dp → dp.port? n = some port →
      (one w n).2.1.count x = (marks port).count vid)
    (one_vids : ∀ w n port, w.dp = dp → dp.port? n = some port → (one w n).2.2 = vids port) :
    ∀ (portNums : List PortNo) (acc : Valve × List OfMsg × List Vid), acc.1.dp = dp →
      (portNums.foldl (fun (acc : Valve × List OfMsg × List Vid) portNum =>
          ((one acc.1 portNum).1, acc.2.1 ++ (one acc.1 portNum).2.1,
            acc.2.2 ++ (one acc.1 portNum).2.2)) acc).2.1.count x =
          acc.2.1.count x + ((portNums.filterMap dp.port?).flatMap marks).count vid ∧
        (portNums.foldl (fun (acc : Valve × List OfMsg × List Vid) portNum =>
          ((one acc.1 portNum).1, acc.2.1 ++ (one acc.1 portNum).2.1,
            acc.2.2 ++ (one acc.1 portNum).2.2)) acc).2.2 =
          acc.2.2 ++ (portNums.filterMap dp.port?).flatMap vids
  | [], _, _ => by simp
  | n :: portNums, acc, onDp => by
    obtain ⟨count, collected⟩ := portLoop_count_vids one_dp one_none one_count one_vids portNums
      ((one acc.1 n).1, acc.2.1 ++ (one acc.1 n).2.1, acc.2.2 ++ (one acc.1 n).2.2)
      (one_dp _ _ onDp)
    rw [List.foldl_cons, count, collected, List.filterMap_cons]
    cases found : dp.port? n with
    | none => simp [one_none _ _ onDp found]
    | some port =>
      simp [one_count _ _ _ onDp found, one_vids _ _ _ onDp found, List.count_append,
        Nat.add_assoc]

end PortLoop

namespace Valve

section PortSteps

variable (v : Valve) (port : PortConfig) (vid : Vid)

theorem lacpDown_count_floodAdd (coldStart : Bool) :
    (v.lacpDown port coldStart).2.count (.ext v.dp.dpId (.addVlan .flood vid)) =
      if coldStart = false then port.vlans.count vid else 0 := by
  have injective : Function.Injective fun vid => OfMsg.ext v.dp.dpId (.addVlan .flood vid) :=
    fun _ _ same => by cases same; rfl
  cases coldStart <;>
    simp [lacpDown, List.count_cons, List.count_map_of_injective _ _ injective]

theorem lacpActions_count_floodAdd (lacpPkt : Option LacpPdu) (d : DpId) :
    (v.lacpActions lacpPkt port).count (.ext d (.addVlan .flood vid)) = 0 := by
  unfold lacpActions; split_ifs <;> simp

theorem portAddVlans_count_floodAdd (mirrorAct : List Action) (d : DpId) :
    (v.portAddVlans port mirrorAct).count (.ext d (.addVlan .flood vid)) = 0 := by
  refine List.count_eq_zero.mpr fun mem => ?_
  simp only [portAddVlans, List.mem_append, List.mem_map, List.mem_filterMap] at mem
  rcases mem with ⟨_, _, same⟩ | mem
  · cases same
  · split at mem <;> simp [portAddVlanRules] at mem

theorem coprocessorFlows_count_floodAdd (copro : Coprocessor) (d : DpId) :
    (v.coprocessorFlows port copro).count (.ext d (.addVlan .flood vid)) = 0 := by
  simp [coprocessorFlows, List.count_cons, count_map_eq_zero]

end PortSteps

theorem portAddOne_dp (w : Valve) (coldStart : Bool) (portNum : PortNo) :
    (w.portAddOne coldStart portNum).1.dp = w.dp := by
  rw [portAddOne_fst]; split
  exacts [rfl, (portAddState_portFrame w _ _).dp]

theorem portDeleteOne_dp (w : Valve) (portNum : PortNo) :
    (w.portDeleteOne portNum).1.dp = w.dp := by
  rw [portDeleteOne_fst]; split
  exacts [rfl, (portDeleteState_portFrame w _).dp]

theorem portAddOne_of_none (w : Valve) (coldStart : Bool) {portNum : PortNo}
    (none : w.dp.port? portNum = none) : w.portAddOne coldStart portNum = (w, [], []) := by
  simp [portAddOne, none]

theorem portDeleteOne_of_none (w : Valve) {portNum : PortNo} (none : w.dp.port? portNum = none) :
    w.portDeleteOne portNum = (w, [], []) := by
  simp [portDeleteOne, none]

/-- One configured port of `ports_add`: `lacp_down` asks for `add_vlan` of each of its VLANs
when the port is programmed with LACP and not cold starting, and the port joins its VLANs'
flooding when programmed. -/
theorem portAddOne_flood (w : Valve) (coldStart : Bool) {portNum : PortNo} {port : PortConfig}
    (found : w.dp.port? portNum = some port) (vid : Vid) :
    (w.portAddOne coldStart portNum).2.1.count (.ext w.dp.dpId (.addVlan .flood vid)) =
        (if port.programmedOnAdd ∧ port.lacp ≠ 0 ∧ coldStart = false then port.vlans
        else []).count vid ∧
      (w.portAddOne coldStart portNum).2.2 =
        if port.programmedOnAdd then w.dp.portVlansOnAdd port else [] := by
  unfold portAddOne
  rw [found]
  dsimp only
  set up := w.setPortDyn port.number { w.dyn.port port.number with dynPhysUp := true } with upDef
  have running : port.running (up.dyn.port port.number) = port.enabled := by
    simp [upDef, PortConfig.running]
  have down := lacpDown_count_floodAdd up port vid
  have upDp : up.dp = w.dp := rfl
  rw [upDp] at down
  clear_value up
  rw [running, upDp]
  cases enabled : port.enabled with
  | false => -- a disabled port is only marked up
    simp [PortConfig.programmedOnAdd, enabled]
  | true =>
  cases copro : port.coprocessor with
  | some copro => -- a coprocessor port gets its coprocessor flows only
    simp [List.count_append, coprocessorFlows_count_floodAdd, PortConfig.programmedOnAdd, enabled,
      copro, count_map_eq_zero]
  | none =>
  cases output : port.outputOnly with
  | true => -- an output-only port gets a drop flow and joins no VLAN
    cases w.dp.dot1x <;>
      simp [PortConfig.programmedOnAdd, enabled, copro, output, List.count_append,
        count_map_eq_zero, apply_ite (List.count (OfMsg.ext w.dp.dpId (.addVlan .flood vid)))]
  | false =>
  cases stack : port.stack with
  | some peer => -- a stack port joins every VLAN of the DP
    cases w.dp.dot1x <;> by_cases lacpSet : port.lacp = 0 <;>
      simp [PortConfig.programmedOnAdd, DPConfig.portVlansOnAdd, enabled, copro, output, stack,
        lacpSet, down, lacpActions_count_floodAdd, List.count_append, count_map_eq_zero,
        apply_ite (List.count (OfMsg.ext w.dp.dpId (.addVlan .flood vid))),
        apply_ite (List.count vid)]
  | none => -- any other port joins its own VLANs
    cases w.dp.dot1x <;> by_cases lacpSet : port.lacp = 0 <;>
      simp [PortConfig.programmedOnAdd, DPConfig.portVlansOnAdd, enabled, copro, output, stack,
        lacpSet, down, lacpActions_count_floodAdd, portAddVlans_count_floodAdd, List.count_append,
        count_map_eq_zero,
        apply_ite (List.count (OfMsg.ext w.dp.dpId (.addVlan .flood vid))),
        apply_ite (List.count vid)]

/-- One configured port of `ports_delete`: it asks for no `update_vlan`, and a port that is not
output-only leaves its VLANs' flooding. -/
theorem portDeleteOne_flood (w : Valve) {portNum : PortNo} {port : PortConfig}
    (found : w.dp.port? portNum = some port) (vid : Vid) :
    (w.portDeleteOne portNum).2.1.count (.ext w.dp.dpId (.floodUpdateVlan (some vid))) = 0 ∧
      (w.portDeleteOne portNum).2.2 = if port.outputOnly then [] else port.vlans := by
  unfold portDeleteOne
  rw [found]
  cases output : port.outputOnly <;> by_cases lacp : port.lacp = 0 <;>
    simp [output, lacp, List.count_append, lacpDown, portDeleteFlowsState, deleteAllPortMatchFlows,
      count_map_eq_zero, apply_ite (List.count (OfMsg.ext w.dp.dpId (.floodUpdateVlan (some vid))))]

end Valve

/-- Over any list of port numbers: `ports_add` asks the flood manager to `add_vlan` a VLAN once
for each time it occurs among the VLANs of the LACP ports it programs (from `lacp_down`), and
once more if a port it programs joins the VLAN, all unless cold starting; `ports_delete` asks it
to `update_vlan` a VLAN exactly once if a port it deletes, not output-only, has the VLAN, and
never otherwise. -/
theorem portsAddDelete_floodCalls (v : Valve) (portNums : List PortNo) (coldStart : Bool)
    (vid : Vid) :
    (v.portsAdd portNums coldStart).2.count (.ext v.dp.dpId (.addVlan .flood vid)) =
        (if coldStart then 0
        else ((portNums.filterMap v.dp.port?).flatMap fun port =>
            if port.programmedOnAdd ∧ port.lacp ≠ 0 then port.vlans else []).count vid +
          if ∃ port ∈ portNums.filterMap v.dp.port?,
            port.programmedOnAdd ∧ vid ∈ v.dp.portVlansOnAdd port then 1 else 0) ∧
      (v.portsDelete portNums).2.count (.ext v.dp.dpId (.floodUpdateVlan (some vid))) =
        if ∃ port ∈ portNums.filterMap v.dp.port?, port.outputOnly = false ∧ vid ∈ port.vlans
        then 1 else 0 := by
  obtain ⟨added, joined⟩ := portLoop_count_vids (fun w n => w.portAddOne coldStart n)
    (.ext v.dp.dpId (.addVlan .flood vid)) vid
    (fun port =>
      if port.programmedOnAdd ∧ port.lacp ≠ 0 ∧ coldStart = false then port.vlans else [])
    (fun port => if port.programmedOnAdd then v.dp.portVlansOnAdd port else [])
    (fun w n onDp => (Valve.portAddOne_dp w coldStart n).trans onDp)
    (fun w n onDp none => Valve.portAddOne_of_none w coldStart (onDp ▸ none))
    (fun w n _ (onDp : w.dp = v.dp) found =>
      onDp ▸ (Valve.portAddOne_flood w coldStart (onDp ▸ found) vid).1)
    (fun w n _ (onDp : w.dp = v.dp) found =>
      onDp ▸ (Valve.portAddOne_flood w coldStart (onDp ▸ found) vid).2)
    portNums (v, [], []) rfl
  obtain ⟨deleted, left⟩ := portLoop_count_vids (fun w n => w.portDeleteOne n)
    (.ext v.dp.dpId (.floodUpdateVlan (some vid))) vid (fun _ => [])
    (fun port => if port.outputOnly then [] else port.vlans)
    (fun w n onDp => (Valve.portDeleteOne_dp w n).trans onDp)
    (fun w n onDp none => Valve.portDeleteOne_of_none w (onDp ▸ none))
    (fun w n _ (onDp : w.dp = v.dp) found =>
      onDp ▸ (Valve.portDeleteOne_flood w (onDp ▸ found) vid).1)
    (fun w n _ (onDp : w.dp = v.dp) found => (Valve.portDeleteOne_flood w (onDp ▸ found) vid).2)
    portNums (v, [], []) rfl
  have floodAdd : Function.Injective fun vid => OfMsg.ext v.dp.dpId (.addVlan .flood vid) :=
    fun _ _ same => by cases same; rfl
  have floodUpdate :
      Function.Injective fun vid => OfMsg.ext v.dp.dpId (.floodUpdateVlan (some vid)) :=
    fun _ _ same => by cases same; rfl
  have noMarks : ∀ {α : Type} (l : List α), l.flatMap (fun _ => ([] : List Vid)) = [] :=
    fun _ => List.flatMap_eq_nil_iff.mpr fun _ _ => rfl
  constructor
  · simp only [Valve.portsAdd, List.count_append, added, joined]
    cases coldStart
    · simp only [Bool.false_eq_true, if_false, count_setOrder_map _ floodAdd, List.count_nil,
        Nat.zero_add, and_true, List.nil_append]
      exact congrArg _ (if_congr (by simp [List.mem_flatMap]) rfl rfl)
    · simp [noMarks]
  · simp only [Valve.portsDelete, List.count_append, deleted, left,
      count_setOrder_map _ floodUpdate, List.count_nil, noMarks, Nat.zero_add, List.nil_append]
    exact if_congr (by simp [List.mem_flatMap]) rfl rfl

/-- Port 1 of `lacpPortValve`, in a LAG and untagged on VLAN 100: adding it rebuilds the flooding
of VLAN 100 twice, deleting it twice over updates it once. -/
example : (lacpPortValve.portsAdd [1]).2.count (.ext 1 (.addVlan .flood 100)) = 2 ∧
    (lacpPortValve.portsDelete [1, 1]).2.count (.ext 1 (.floodUpdateVlan (some 100))) = 1 := by
  decide

end Faucet
