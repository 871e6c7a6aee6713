import Faucet.Model.Reload

/-! # What the port operations change

`ports_add` and `ports_delete` change, of the Valve, only the physical up flag of each listed port
of the DP and, on an LACP port, its LACP state, which `lacp_down` resets. They leave alone the DP,
the pipeline last sent, the up ports and whether the DP runs (`PortFrame`), and never bring an
LACP port up (`LacpKept`).
-/

namespace Faucet

/-- What an operation on ports leaves alone. -/
structure Valve.PortFrame (v v' : Valve) : Prop where
  dp : v'.dp = v.dp
  cls : v'.cls = v.cls
  lastPipelineFlows : v'.lastPipelineFlows = v.lastPipelineFlows
  dynUpPortNos : v'.dyn.dynUpPortNos = v.dyn.dynUpPortNos
  dynRunning : v'.dyn.dynRunning = v.dyn.dynRunning

/-- A port's LACP state: `dyn_lacp_up`, the last PDU and when it was processed. -/
def PortDyn.lacpPart (dyn : PortDyn) : Option ℕ × Option LacpPdu × Option Time :=
  (dyn.dynLacpUp, dyn.dynLastLacpPkt, dyn.dynLacpUpdatedTime)

/-- Every port whose LACP is up afterwards kept its LACP state. -/
def Valve.LacpKept (v v' : Valve) : Prop :=
  ∀ portNo, (v'.dyn.port portNo).dynLacpUp = some 1 →
    (v'.dyn.port portNo).lacpPart = (v.dyn.port portNo).lacpPart

namespace Valve

section Relations

variable {v v' v'' : Valve}

theorem PortFrame.refl (v : Valve) : v.PortFrame v := ⟨rfl, rfl, rfl, rfl, rfl⟩

theorem PortFrame.trans (first : v.PortFrame v') (second : v'.PortFrame v'') : v.PortFrame v'' :=
  ⟨second.dp.trans first.dp, second.cls.trans first.cls,
    second.lastPipelineFlows.trans first.lastPipelineFlows,
    second.dynUpPortNos.trans first.dynUpPortNos, second.dynRunning.trans first.dynRunning⟩

theorem LacpKept.refl (v : Valve) : v.LacpKept v := fun _ _ => rfl

theorem LacpKept.trans (first : v.LacpKept v') (second : v'.LacpKept v'') : v.LacpKept v'' :=
  fun portNo up => by
    rw [second portNo up]
    have up' : (v'.dyn.port portNo).dynLacpUp = some 1 := by
      rw [← up, (Prod.mk.inj (second portNo up)).1]
    exact first portNo up'

end Relations

section Basic

variable (v : Valve) (portNo : PortNo) (portDyn : PortDyn) (series : Series) (val : ℕ)

theorem setPortDyn_portFrame : v.PortFrame (v.setPortDyn portNo portDyn) := ⟨rfl, rfl, rfl, rfl, rfl⟩
theorem setVar_portFrame : v.PortFrame (v.setVar series val) := ⟨rfl, rfl, rfl, rfl, rfl⟩
theorem setVar_lacpKept : v.LacpKept (v.setVar series val) := fun _ _ => rfl

/-- Writing a port's dynamic state keeps its LACP state unless it resets it. -/
theorem setPortDyn_lacpKept (kept : portDyn.lacpPart = (v.dyn.port portNo).lacpPart ∨
    portDyn.dynLacpUp = some 0) : v.LacpKept (v.setPortDyn portNo portDyn) := by
  intro n up
  by_cases here : n = portNo
  · subst here
    simp only [setPortDyn_dyn, DPDyn.setPort_port_self] at up ⊢
    rcases kept with kept | reset
    · exact kept
    · simp [up] at reset
  · simp only [setPortDyn_dyn, DPDyn.setPort_port_ne _ _ _ _ here]

theorem lacpDown_portFrame (port : PortConfig) (coldStart : Bool) :
    v.PortFrame (v.lacpDown port coldStart).1 := ⟨rfl, rfl, rfl, rfl, rfl⟩

theorem lacpDown_lacpKept (port : PortConfig) (coldStart : Bool) :
    v.LacpKept (v.lacpDown port coldStart).1 :=
  (setPortDyn_lacpKept v _ _ (.inr rfl)).trans (setVar_lacpKept _ _ _)

end Basic

/-! ## `ports_add` and `ports_delete` -/

/-- The state `ports_add` leaves one of the DP's ports in: physically up, and with its LACP reset
when the port is enabled, is neither a coprocessor nor an output-only port, and has LACP. -/
def portAddState (v : Valve) (coldStart : Bool) (port : PortConfig) : Valve :=
  let up := v.setPortDyn port.number { v.dyn.port port.number with dynPhysUp := true }
  if port.enabled = true ∧ port.coprocessor = none ∧ port.outputOnly = false ∧ port.lacp ≠ 0 then
    (up.lacpDown port coldStart).1
  else up

/-- The state `ports_delete` leaves one of the DP's ports in: physically down, and with its LACP
reset when the port is not output-only and has LACP. -/
def portDeleteState (v : Valve) (port : PortConfig) : Valve :=
  let down := v.setPortDyn port.number { v.dyn.port port.number with dynPhysUp := false }
  if port.outputOnly = false ∧ port.lacp ≠ 0 then (down.lacpDown port).1 else down

theorem portAddOne_fst (v : Valve) (coldStart : Bool) (portNum : PortNo) :
    (v.portAddOne coldStart portNum).1 =
      match v.dp.port? portNum with
      | none => v
      | some port => v.portAddState coldStart port := by
  unfold portAddOne portAddState
  cases v.dp.port? portNum with
  | none => rfl
  | some port =>
    simp only [setPortDyn_dyn, DPDyn.setPort_port_self, PortConfig.running, Bool.and_true]
    cases enabled : port.enabled <;> cases copro : port.coprocessor <;>
      cases output : port.outputOnly <;> cases port.stack <;> by_cases lacp : port.lacp = 0 <;>
      simp [lacp, enabled, copro, output]

theorem portDeleteOne_fst (v : Valve) (portNum : PortNo) :
    (v.portDeleteOne portNum).1 =
      match v.dp.port? portNum with
      | none => v
      | some port => v.portDeleteState port := by
  unfold portDeleteOne portDeleteState
  cases v.dp.port? portNum with
  | none => rfl
  | some port =>
    cases output : port.outputOnly <;> by_cases lacp : port.lacp = 0 <;> simp [lacp, output]

/-- The state of `ports_add` is that of its ports, one after the other. -/
theorem portsAdd_fst (v : Valve) (portNums : List PortNo) (coldStart : Bool) :
    (v.portsAdd portNums coldStart).1 =
      portNums.foldl (fun v portNum => (v.portAddOne coldStart portNum).1) v := by
  suffices loop : ∀ (acc : Valve × List OfMsg × List Vid),
      (portNums.foldl (fun (acc : Valve × List OfMsg × List Vid) portNum =>
        ((acc.1.portAddOne coldStart portNum).1,
          acc.2.1 ++ (acc.1.portAddOne coldStart portNum).2.1,
          acc.2.2 ++ (acc.1.portAddOne coldStart portNum).2.2)) acc).1 =
        portNums.foldl (fun v portNum => (v.portAddOne coldStart portNum).1) acc.1 from loop _
  induction portNums with
  | nil => intro; rfl
  | cons portNum portNums ih => intro acc; exact ih _

theorem portsDelete_fst (v : Valve) (portNums : List PortNo) :
    (v.portsDelete portNums).1 = portNums.foldl (fun v portNum => (v.portDeleteOne portNum).1) v := by
  suffices loop : ∀ (acc : Valve × List OfMsg × List Vid),
      (portNums.foldl (fun (acc : Valve × List OfMsg × List Vid) portNum =>
        ((acc.1.portDeleteOne portNum).1, acc.2.1 ++ (acc.1.portDeleteOne portNum).2.1,
          acc.2.2 ++ (acc.1.portDeleteOne portNum).2.2)) acc).1 =
        portNums.foldl (fun v portNum => (v.portDeleteOne portNum).1) acc.1 from loop _
  induction portNums with
  | nil => intro; rfl
  | cons portNum portNums ih => intro acc; exact ih _

section Frames

variable (v : Valve)

theorem portAddState_portFrame (coldStart : Bool) (port : PortConfig) :
    v.PortFrame (v.portAddState coldStart port) := by
  unfold portAddState; split <;> exact ⟨rfl, rfl, rfl, rfl, rfl⟩

theorem portDeleteState_portFrame (port : PortConfig) : v.PortFrame (v.portDeleteState port) := by
  unfold portDeleteState; split <;> exact ⟨rfl, rfl, rfl, rfl, rfl⟩

theorem portAddState_lacpKept (coldStart : Bool) (port : PortConfig) :
    v.LacpKept (v.portAddState coldStart port) := by
  have up := setPortDyn_lacpKept v port.number
    { v.dyn.port port.number with dynPhysUp := true } (.inl rfl)
  unfold portAddState; split
  · exact up.trans (lacpDown_lacpKept _ _ _)
  · exact up

theorem portDeleteState_lacpKept (port : PortConfig) : v.LacpKept (v.portDeleteState port) := by
  have down := setPortDyn_lacpKept v port.number
    { v.dyn.port port.number with dynPhysUp := false } (.inl rfl)
  unfold portDeleteState; split
  · exact down.trans (lacpDown_lacpKept _ _ _)
  · exact down

/-- A loop of steps that each keep a relation keeps it. -/
theorem foldl_rel {α : Type} (rel : Valve → Valve → Prop) (refl : ∀ v, rel v v)
    (trans : ∀ {a b c}, rel a b → rel b c → rel a c) (f : Valve → α → Valve)
    (step : ∀ v item, rel v (f v item)) :
    ∀ (items : List α) (v : Valve), rel v (items.foldl f v)
  | [], v => refl v
  | item :: items, v => trans (step v item) (foldl_rel rel refl trans f step items _)

theorem portsAdd_portFrame (portNums : List PortNo) (coldStart : Bool) :
    v.PortFrame (v.portsAdd portNums coldStart).1 := by
  rw [portsAdd_fst]
  refine foldl_rel _ PortFrame.refl PortFrame.trans _ (fun v portNum => ?_) _ _
  rw [portAddOne_fst]; split
  exacts [.refl _, portAddState_portFrame _ _ _]

theorem portsDelete_portFrame (portNums : List PortNo) : v.PortFrame (v.portsDelete portNums).1 := by
  rw [portsDelete_fst]
  refine foldl_rel _ PortFrame.refl PortFrame.trans _ (fun v portNum => ?_) _ _
  rw [portDeleteOne_fst]; split
  exacts [.refl _, portDeleteState_portFrame _ _]

theorem portsAdd_lacpKept (portNums : List PortNo) (coldStart : Bool) :
    v.LacpKept (v.portsAdd portNums coldStart).1 := by
  rw [portsAdd_fst]
  refine foldl_rel _ LacpKept.refl LacpKept.trans _ (fun v portNum => ?_) _ _
  rw [portAddOne_fst]; split
  exacts [.refl _, portAddState_lacpKept _ _ _]

theorem portsDelete_lacpKept (portNums : List PortNo) : v.LacpKept (v.portsDelete portNums).1 := by
  rw [portsDelete_fst]
  refine foldl_rel _ LacpKept.refl LacpKept.trans _ (fun v portNum => ?_) _ _
  rw [portDeleteOne_fst]; split
  exacts [.refl _, portDeleteState_lacpKept _ _]

theorem portAdd_portFrame (portNo : PortNo) : v.PortFrame (v.portAdd portNo).1 :=
  portsAdd_portFrame _ _ _

theorem portDelete_portFrame (portNo : PortNo) : v.PortFrame (v.portDelete portNo).1 :=
  portsDelete_portFrame _ _

theorem portAdd_lacpKept (portNo : PortNo) : v.LacpKept (v.portAdd portNo).1 :=
  portsAdd_lacpKept _ _ _

theorem portDelete_lacpKept (portNo : PortNo) : v.LacpKept (v.portDelete portNo).1 :=
  portsDelete_lacpKept _ _

theorem addVlans_portFrame (vlans : List VlanConfig) : v.PortFrame (v.addVlans vlans).1 := by
  suffices loop : ∀ (acc : Valve × List OfMsg), acc.1.PortFrame
      (vlans.foldl (fun (acc : Valve × List OfMsg) vlan =>
        ((acc.1.addVlan vlan).1, acc.2 ++ (acc.1.addVlan vlan).2)) acc).1 from loop (v, [])
  induction vlans with
  | nil => exact fun acc => .refl _
  | cons vlan vlans ih =>
    exact fun acc => (PortFrame.mk rfl rfl rfl rfl rfl : acc.1.PortFrame (acc.1.addVlan vlan).1).trans
      (ih ((acc.1.addVlan vlan).1, acc.2 ++ (acc.1.addVlan vlan).2))

theorem addVlans_port (vlans : List VlanConfig) : (v.addVlans vlans).1.dyn.port = v.dyn.port := by
  suffices loop : ∀ (acc : Valve × List OfMsg),
      (vlans.foldl (fun (acc : Valve × List OfMsg) vlan =>
        ((acc.1.addVlan vlan).1, acc.2 ++ (acc.1.addVlan vlan).2)) acc).1.dyn.port = acc.1.dyn.port
    from loop (v, [])
  induction vlans with
  | nil => exact fun _ => rfl
  | cons vlan vlans ih =>
    exact fun acc => (ih ((acc.1.addVlan vlan).1, acc.2 ++ (acc.1.addVlan vlan).2)).trans rfl

theorem portAddState_physUp (coldStart : Bool) (port : PortConfig) :
    ((v.portAddState coldStart port).dyn.port port.number).dynPhysUp = true := by
  unfold portAddState; split <;> simp [lacpDown_fst]

/-- `port_add` brings a port of the DP physically up. -/
theorem portAdd_physUp {portNo : PortNo} {port : PortConfig} (found : v.dp.port? portNo = some port) :
    ((v.portAdd portNo).1.dyn.port portNo).dynPhysUp = true := by
  rw [portAdd, portsAdd_fst, List.foldl_cons, List.foldl_nil, portAddOne_fst, found]
  rw [← (v.dp.port?_eq_some found).2]
  exact portAddState_physUp _ _ _

end Frames

/-! ## Port status and the cold start -/

section Status

variable (v : Valve) (portNo : PortNo) (portStatus : Bool)

theorem setPortStatus_dynUpPortNos : (v.setPortStatus portNo portStatus).dyn.dynUpPortNos =
    if portStatus then insert portNo v.dyn.dynUpPortNos else v.dyn.dynUpPortNos.erase portNo := by
  unfold setPortStatus; cases v.dp.port? portNo <;> cases portStatus <;> rfl

@[simp] theorem setPortStatus_dp : (v.setPortStatus portNo portStatus).dp = v.dp := by
  unfold setPortStatus; cases v.dp.port? portNo <;> rfl
@[simp] theorem setPortStatus_cls : (v.setPortStatus portNo portStatus).cls = v.cls := by
  unfold setPortStatus; cases v.dp.port? portNo <;> rfl
@[simp] theorem setPortStatus_lastPipelineFlows :
    (v.setPortStatus portNo portStatus).lastPipelineFlows = v.lastPipelineFlows := by
  unfold setPortStatus; cases v.dp.port? portNo <;> rfl
@[simp] theorem setPortStatus_port : (v.setPortStatus portNo portStatus).dyn.port = v.dyn.port := by
  unfold setPortStatus; cases v.dp.port? portNo <;> rfl
@[simp] theorem setPortStatus_dynRunning :
    (v.setPortStatus portNo portStatus).dyn.dynRunning = v.dyn.dynRunning := by
  unfold setPortStatus; cases v.dp.port? portNo <;> rfl

end Status

/-- Recording the status of each port of a list leaves the others' membership alone. -/
theorem foldl_setPortStatus (status : PortNo → Bool) (portNo : PortNo) :
    ∀ (portNos : List PortNo) (v : Valve),
      let v' := (portNos.map fun q => (q, status q)).foldl
        (fun v entry => v.setPortStatus entry.1 entry.2) v
      (portNo ∈ v'.dyn.dynUpPortNos ↔
        if portNo ∈ portNos then status portNo = true else portNo ∈ v.dyn.dynUpPortNos) ∧
      v'.dp = v.dp ∧ v'.cls = v.cls ∧ v'.lastPipelineFlows = v.lastPipelineFlows ∧
      v'.dyn.port = v.dyn.port ∧ v'.dyn.dynRunning = v.dyn.dynRunning
  | [], v => by simp
  | q :: portNos, v => by
    obtain ⟨mem, dp, cls, flows, port, running⟩ := foldl_setPortStatus status portNo portNos
      (v.setPortStatus q (status q))
    simp only [List.map_cons, List.foldl_cons] at mem dp cls flows port running ⊢
    refine ⟨?_, by simp [dp], by simp [cls], by simp [flows], by simp [port],
      by simp [running]⟩
    rw [mem]
    by_cases here : portNo = q
    · subst here
      rw [setPortStatus_dynUpPortNos]
      cases status portNo <;> simp
    · have other : portNo ∈ (v.setPortStatus q (status q)).dyn.dynUpPortNos ↔
          portNo ∈ v.dyn.dynUpPortNos := by
        rw [setPortStatus_dynUpPortNos]
        cases status q <;> simp [here]
      simp only [List.mem_cons, here, false_or, other]

/-- `_add_ports_and_vlans` sets the status of each configured port to whether it was discovered
up or is always up, and leaves every other port's. -/
theorem addPortsAndVlans_dynUpPortNos (v : Valve) (discovered : List PortNo) (portNo : PortNo) :
    portNo ∈ (v.addPortsAndVlans discovered).1.dyn.dynUpPortNos ↔
      if portNo ∈ getAllConfiguredPortNos v.dp then
        portNo ∈ discovered ∨ portNo ∈ alwaysUpPortNos v.dp
      else portNo ∈ v.dyn.dynUpPortNos := by
  obtain ⟨mem, dp, -⟩ := foldl_setPortStatus (fun q => decide (q ∈ discovered ++ alwaysUpPortNos v.dp))
    portNo (getAllConfiguredPortNos v.dp) v
  unfold addPortsAndVlans getPortsStatus
  dsimp only
  rw [(addVlans_portFrame _ _).dynUpPortNos, (portsAdd_portFrame _ _ _).dynUpPortNos]
  simpa [dp] using mem

/-- The state `_add_default_flows` leaves: a table-features class remembers its pipeline. -/
theorem addDefaultFlows_fst (v : Valve) (loadTables : LoadTables) :
    (v.addDefaultFlows loadTables).1 =
      if v.cls.isTfm then { v with lastPipelineFlows := v.pipelineFlows loadTables } else v := by
  unfold addDefaultFlows; split <;> rfl

section Connect

variable (v : Valve) (loadTables : LoadTables) (now : Time) (discovered : List PortNo)

theorem addPortsAndVlans_portFrame_of (v : Valve) :
    (v.addPortsAndVlans discovered).1.dp = v.dp ∧ (v.addPortsAndVlans discovered).1.cls = v.cls ∧
      (v.addPortsAndVlans discovered).1.lastPipelineFlows = v.lastPipelineFlows ∧
      (v.addPortsAndVlans discovered).1.dyn.dynRunning = v.dyn.dynRunning ∧
      v.LacpKept (v.addPortsAndVlans discovered).1 := by
  obtain ⟨-, dp, cls, flows, port, running⟩ :=
    foldl_setPortStatus (fun q => decide (q ∈ discovered ++ alwaysUpPortNos v.dp)) 0
      (getAllConfiguredPortNos v.dp) v
  unfold addPortsAndVlans getPortsStatus
  dsimp only
  refine ⟨?_, ?_, ?_, ?_, fun n up => ?_⟩
  · rw [(addVlans_portFrame _ _).dp, (portsAdd_portFrame _ _ _).dp, dp]
  · rw [(addVlans_portFrame _ _).cls, (portsAdd_portFrame _ _ _).cls, cls]
  · rw [(addVlans_portFrame _ _).lastPipelineFlows, (portsAdd_portFrame _ _ _).lastPipelineFlows,
      flows]
  · rw [(addVlans_portFrame _ _).dynRunning, (portsAdd_portFrame _ _ _).dynRunning, running]
  · rw [addVlans_port] at up ⊢
    rw [portsAdd_lacpKept _ _ _ n up, port]

@[simp] theorem datapathConnect_dp : (v.datapathConnect loadTables now discovered).1.dp = v.dp := by
  unfold datapathConnect
  simp [(addPortsAndVlans_portFrame_of discovered _).1, addDefaultFlows_fst]
  split <;> rfl

@[simp] theorem datapathConnect_cls :
    (v.datapathConnect loadTables now discovered).1.cls = v.cls := by
  unfold datapathConnect
  simp [(addPortsAndVlans_portFrame_of discovered _).2.1, addDefaultFlows_fst]
  split <;> rfl

/-- After the cold start, a table-features class remembers the pipeline it sent. -/
theorem datapathConnect_lastPipelineFlows :
    (v.datapathConnect loadTables now discovered).1.lastPipelineFlows =
      if v.cls.isTfm then v.pipelineFlows loadTables else v.lastPipelineFlows := by
  unfold datapathConnect
  simp [(addPortsAndVlans_portFrame_of discovered _).2.2.1, addDefaultFlows_fst]
  split <;> rfl

theorem datapathConnect_dynUpPortNos (portNo : PortNo) :
    portNo ∈ (v.datapathConnect loadTables now discovered).1.dyn.dynUpPortNos ↔
      if portNo ∈ getAllConfiguredPortNos v.dp then
        portNo ∈ discovered ∨ portNo ∈ alwaysUpPortNos v.dp
      else portNo ∈ v.dyn.dynUpPortNos := by
  unfold datapathConnect
  simp only [resetDpStatus_dyn, incVar_dyn]
  rw [addPortsAndVlans_dynUpPortNos, addDefaultFlows_fst]
  split <;> rfl

theorem datapathConnect_lacpKept : v.LacpKept (v.datapathConnect loadTables now discovered).1 := by
  have kept := (addPortsAndVlans_portFrame_of discovered (v.addDefaultFlows loadTables).1).2.2.2.2
  intro n up
  unfold datapathConnect at up ⊢
  simp only [resetDpStatus_dyn, incVar_dyn] at up ⊢
  rw [kept n up, addDefaultFlows_fst]
  split <;> rfl

end Connect

end Valve

end Faucet
