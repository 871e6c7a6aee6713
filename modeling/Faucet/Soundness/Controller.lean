import Faucet.Soundness.Receive

/-! # The controller's Valves

The controller keeps one Valve per DP and runs each event on its DP's Valve, giving its handlers
the Valves of every other DP. A handler changes its own Valve, with two exceptions that reach
other DPs: a stack port's transition calls `update_stack_topo` and `update_tunnel_flowrules` on
this Valve and on every stacked other (`_update_stack_link_state`), and a packet-in's stack route
learning may learn its source on stacked others' VLANs. Over any interleaving of events on any
DPs, no event raises, no Valve's DP changes, and every Valve keeps the invariants of its handlers
with the LACP and port events of its own DP. An event on one DP leaves the Valve of another DP
that names no stack root alone, and changes a stacked one only by a packet-in's learning and by
the stack calls, which append to its stack topology and set its tunnel flags: the stack fan-out
and multi-DP learning are the only writes between Valves. The records an event appends are
the same on every stacked Valve of another DP, so their flood managers see the same topology
changes in the same order.
-/

namespace Faucet

/-- An event on the controller: one a DP's Valve handles alone, or a packet-in on a DP. -/
inductive ControllerEvent
  | valve (dpId : DpId) (e : ValveEvent)
  | packetIn (dpId : DpId) (now : Time) (msg : PacketInMsg) (lacpPkt : Option LacpPdu)
      (lldp : Option FaucetLldp)

namespace ControllerEvent

/-- The DP an event is on. -/
def dpId : ControllerEvent → DpId
  | valve dpId _ => dpId
  | packetIn dpId .. => dpId

def isPacketIn : ControllerEvent → Bool
  | valve .. => false
  | packetIn .. => true

end ControllerEvent

/-- `other_valves` for the Valve of a DP: the Valves of every other DP. -/
def otherValves (valves : List Valve) (dpId : DpId) : List Valve :=
  valves.filter (·.dp.dpId ≠ dpId)

/-! ## The other Valves an event reads, and the calls it makes -/

/-- The event with `others` as the other Valves it reads. -/
def StackEvent.withOthers (others : List Valve) : StackEvent → StackEvent
  | .lldp now portNo ethType parsed _ => .lldp now portNo ethType parsed others
  | .fastStateExpire now _ => .fastStateExpire now others

/-- The event with `others` as the other Valves its stack handlers read. -/
def ValveEvent.withOthers (others : List Valve) : ValveEvent → ValveEvent
  | .stack e => .stack (e.withOthers others)
  | e => e

/-- The calls an event made on the flood managers of the stacked Valves. -/
def ValveEvent.stackCalls (v : Valve) : ValveEvent → List StackCall
  | .stack e => ((stackHandle v e).map (·.2)).getD []
  | _ => []

namespace ValveEvent

variable (others : List Valve) (e : ValveEvent)

@[simp] theorem allowed_withOthers (v : Valve) : (e.withOthers others).Allowed v ↔ e.Allowed v := by
  cases e <;> exact Iff.rfl

@[simp] theorem lacpHistory_withOthers : (e.withOthers others).lacpHistory = e.lacpHistory := by
  cases e <;> rfl

/-- The calls of an event name only its Valve and the stacked others. -/
theorem stackCalls_named (v : Valve) :
    ∀ c ∈ (e.withOthers others).stackCalls v, c.valve ∈ (v :: stackedValves others).map (·.dp.dpId) := by
  intro c mem
  cases e with
  | stack e =>
    cases e with
    | lldp now portNo ethType lldp _ =>
      simp only [withOthers, StackEvent.withOthers, stackCalls, stackHandle, Option.map_some',
        Option.getD_some] at mem
      split at mem
      · exact lldpHandler_named now others v _ ethType lldp c mem
      · exact absurd mem (List.not_mem_nil _)
    | fastStateExpire now _ =>
      simp only [withOthers, StackEvent.withOthers, stackCalls, stackHandle] at mem
      cases expired : v.fastStateExpire now others with
      | none => simp [expired] at mem
      | some r =>
        simp only [expired, Option.map_some', Option.getD_some] at mem
        exact fastStateExpire_named now others v expired c mem
  | _ => exact absurd mem (List.not_mem_nil _)

/-- The calls of an event give its Valve and each stacked other the same topology records. -/
theorem stackCalls_agree (v : Valve)
    (nodup : ((v :: stackedValves others).map (·.dp.dpId)).Nodup) :
    ∃ topo, ∀ d ∈ (v :: stackedValves others).map (·.dp.dpId),
      ((e.withOthers others).stackCalls v).filterMap (·.topoFor d) = topo := by
  cases e with
  | stack e =>
    cases e with
    | lldp now portNo ethType parsed _ =>
      simp only [withOthers, StackEvent.withOthers, stackCalls, stackHandle, Option.map_some',
        Option.getD_some]
      split
      · exact lldpHandler_agree now others v _ ethType parsed rfl nodup
      · exact ⟨[], fun _ _ => rfl⟩
    | fastStateExpire now _ =>
      simp only [withOthers, StackEvent.withOthers, stackCalls, stackHandle]
      cases expired : v.fastStateExpire now others with
      | none => exact ⟨[], fun _ _ => rfl⟩
      | some r =>
        simp only [Option.map_some', Option.getD_some]
        exact fastStateExpire_agree now others v expired nodup
  | _ => exact ⟨[], fun _ _ => rfl⟩

end ValveEvent

/-! ## What the calls change -/

section Calls

variable (conf : UpdateTunnelAclConf)

/-- `update_tunnel_flowrules` changes only tunnel flags. -/
theorem Valve.updateTunnelFlowrules_only (u : Valve) :
    ∃ flags, u.updateTunnelFlowrules conf = { u with tunnelUpdatedFlags := flags } := by
  refine foldl_rel (fun a b => ∃ flags, b = { a with tunnelUpdatedFlags := flags })
    (fun a => ⟨a.tunnelUpdatedFlags, rfl⟩) (fun ⟨_, first⟩ ⟨flags, second⟩ => ⟨flags, ?_⟩) _
    (fun w tunnelId => ?_) _ _
  · subst first second; rfl
  · dsimp only; split
    exacts [⟨_, rfl⟩, ⟨w.tunnelUpdatedFlags, rfl⟩]

/-- A call changes only the stack topology of the Valve it names, by appending, and its tunnel
flags. -/
theorem Valve.applyStackCall_only (u : Valve) (c : StackCall) :
    ∃ topo flags, u.applyStackCall conf c =
      { u with stackTopo := u.stackTopo ++ topo, tunnelUpdatedFlags := flags } := by
  cases c with
  | updateStackTopo valve portStackUp dp port =>
    simp only [applyStackCall]; split
    exacts [⟨_, _, rfl⟩, ⟨[], u.tunnelUpdatedFlags, by rw [List.append_nil]⟩]
  | updateTunnelFlowrules valve =>
    simp only [applyStackCall]; split
    · obtain ⟨flags, updated⟩ := u.updateTunnelFlowrules_only conf
      exact ⟨[], flags, by rw [updated, List.append_nil]⟩
    · exact ⟨[], u.tunnelUpdatedFlags, by rw [List.append_nil]⟩

/-- Calls change only the stack topology, by appending, and the tunnel flags. -/
theorem Valve.applyStackCalls_only :
    ∀ (calls : List StackCall) (u : Valve), ∃ topo flags, u.applyStackCalls conf calls =
      { u with stackTopo := u.stackTopo ++ topo, tunnelUpdatedFlags := flags }
  | [], u => ⟨[], u.tunnelUpdatedFlags, by rw [List.append_nil]; rfl⟩
  | c :: calls, u => by
    obtain ⟨topo, flags, one⟩ := u.applyStackCall_only conf c
    obtain ⟨topo', flags', rest⟩ := (u.applyStackCall conf c).applyStackCalls_only calls
    refine ⟨topo ++ topo', flags', ?_⟩
    rw [applyStackCalls, List.foldl_cons, ← applyStackCalls, rest, one]
    simp

/-- Calls that do not name a Valve leave it alone. -/
theorem Valve.applyStackCalls_unnamed :
    ∀ (calls : List StackCall) (u : Valve), (∀ c ∈ calls, c.valve ≠ u.dp.dpId) →
      u.applyStackCalls conf calls = u
  | [], _, _ => rfl
  | c :: calls, u, unnamed => by
    have one : u.applyStackCall conf c = u := by
      cases c <;> exact if_neg (unnamed _ (List.mem_cons_self _ _))
    rw [applyStackCalls, List.foldl_cons, one, ← applyStackCalls]
    exact applyStackCalls_unnamed calls u fun c' mem => unnamed c' (List.mem_cons_of_mem _ mem)

@[simp] theorem Valve.applyStackCalls_dp (u : Valve) (calls : List StackCall) :
    (u.applyStackCalls conf calls).dp = u.dp := by
  obtain ⟨_, _, only⟩ := u.applyStackCalls_only conf calls
  rw [only]

/-- Calls append to a Valve's stack topology the records they carry for its DP, in order. -/
theorem Valve.applyStackCalls_stackTopo :
    ∀ (calls : List StackCall) (u : Valve), (u.applyStackCalls conf calls).stackTopo =
      u.stackTopo ++ calls.filterMap (·.topoFor u.dp.dpId)
  | [], u => (List.append_nil _).symm
  | c :: calls, u => by
    have one : (u.applyStackCall conf c).stackTopo = u.stackTopo ++ (c.topoFor u.dp.dpId).toList := by
      cases c with
      | updateStackTopo valve portStackUp dp port =>
        simp only [applyStackCall, StackCall.topoFor]; split <;> simp [*]
      | updateTunnelFlowrules valve =>
        obtain ⟨flags, updated⟩ := u.updateTunnelFlowrules_only conf
        simp only [applyStackCall, StackCall.topoFor]; split <;> simp [updated]
    have sameDp : (u.applyStackCall conf c).dp = u.dp := u.applyStackCalls_dp conf [c]
    rw [applyStackCalls, List.foldl_cons, ← applyStackCalls, applyStackCalls_stackTopo calls, one,
      sameDp, List.filterMap_cons]
    cases c.topoFor u.dp.dpId <;> simp

theorem ValveInv.of_applyStackCalls {lt : HostCacheEntry → HostCacheEntry → Bool} {u : Valve}
    {history : List LacpEvent} (inv : ValveInv lt u history) (calls : List StackCall) :
    ValveInv lt (u.applyStackCalls conf calls) history := by
  obtain ⟨_, _, only⟩ := u.applyStackCalls_only conf calls
  rw [only]
  exact inv.of_frame rfl rfl (.of_pairView rfl)

end Calls

/-! ## Lists of Valves -/

section Lists

variable {R : Valve → Valve → Prop}

theorem forall₂_dpIds (sameDp : ∀ v w, R v w → w.dp = v.dp) :
    ∀ {valves valves' : List Valve}, List.Forall₂ R valves valves' →
      valves'.map (·.dp.dpId) = valves.map (·.dp.dpId)
  | _, _, .nil => rfl
  | _, _, .cons related rest => by
    rw [List.map_cons, List.map_cons, sameDp _ _ related, forall₂_dpIds sameDp rest]

theorem forall₂_dp_trans :
    ∀ {valves valves' valves'' : List Valve}, List.Forall₂ (fun v w => w.dp = v.dp) valves valves' →
      List.Forall₂ (fun v w => w.dp = v.dp) valves' valves'' →
      List.Forall₂ (fun v w => w.dp = v.dp) valves valves''
  | _, _, _, .nil, .nil => .nil
  | _, _, _, .cons first rest, .cons second rest' => .cons (second.trans first) (forall₂_dp_trans rest rest')

theorem forall₂_mem_right :
    ∀ {valves valves' : List Valve}, List.Forall₂ R valves valves' →
      ∀ w ∈ valves', ∃ v ∈ valves, R v w
  | _, _, .nil, _, mem => absurd mem (List.not_mem_nil _)
  | _, _, .cons related rest, w, mem => by
    rcases List.mem_cons.mp mem with rfl | mem
    · exact ⟨_, List.mem_cons_self _ _, related⟩
    · obtain ⟨v, memV, relatedV⟩ := forall₂_mem_right rest w mem
      exact ⟨v, List.mem_cons_of_mem _ memV, relatedV⟩

/-- On Valves of distinct DPs, a Valve whose DP names no stack root is not among the stacked
Valves of the other DPs, nor the Valve of the event's DP. -/
theorem not_mem_stacked {valves : List Valve} (distinct : (valves.map (·.dp.dpId)).Nodup)
    {dpId : DpId} {v u : Valve} (vId : v.dp.dpId = dpId) (mem : u ∈ valves)
    (other : u.dp.dpId ≠ dpId) (unstacked : u.dp.hasStackRootName = false) :
    u.dp.dpId ∉ (v :: stackedValves (otherValves valves dpId)).map (·.dp.dpId) := by
  rw [List.map_cons, List.mem_cons, not_or]
  refine ⟨fun same => other (same.trans vId), fun named => ?_⟩
  obtain ⟨u', memU', sameId⟩ := List.mem_map.mp named
  obtain ⟨memOther, stacked⟩ := List.mem_filter.mp memU'
  obtain rfl := List.inj_on_of_nodup_map distinct (List.mem_filter.mp memOther).1 mem sameId
  rw [unstacked] at stacked
  cases stacked

/-- On Valves of distinct DPs, the Valve of DP `dpId` and the stacked Valves of the other DPs have
distinct DPs. -/
theorem stacked_nodup {valves : List Valve} (distinct : (valves.map (·.dp.dpId)).Nodup)
    {dpId : DpId} {v : Valve} (vId : v.dp.dpId = dpId) :
    ((v :: stackedValves (otherValves valves dpId)).map (·.dp.dpId)).Nodup := by
  rw [List.map_cons, List.nodup_cons]
  refine ⟨fun named => ?_, distinct.sublist
    (((List.filter_sublist _).trans (List.filter_sublist _)).map _)⟩
  obtain ⟨u, memU, same⟩ := List.mem_map.mp named
  exact of_decide_eq_true (List.mem_filter.mp (List.mem_filter.mp memU).1).2 (same.trans vId)

end Lists

theorem Learned.refl (v : Valve) : Learned v v := ⟨0, 0, 0, .inl rfl⟩

theorem Learned.dp {v w : Valve} (learned : Learned v w) : w.dp = v.dp :=
  have ⟨_, _, _, cached⟩ := learned
  cached.dp

/-- A learn leaves the stack topology alone. -/
theorem Learned.stackTopo {v w : Valve} (learned : Learned v w) : w.stackTopo = v.stackTopo := by
  obtain ⟨_, _, _, rfl | ⟨_, ban, rfl | rfl⟩⟩ := learned
  · rfl
  all_goals rcases ban with _ | _ | _ <;> rfl

/-! ## Runs -/

section Run

variable (portStatusFromState : PortStatusFromState) (loadTables : LoadTables)
  (lt : HostCacheEntry → HostCacheEntry → Bool) (managers : RcvManagers)
  (parsePacketInPkt : ParsePacketInPkt) (conf : UpdateTunnelAclConf)

/-- Modelled from the spec: one event on the Valves of the controller (`faucet.py`), which keeps
one Valve per DP and gives a Valve's handlers the Valves of every other DP; `none` where the code
raises. The event runs on its DP's Valve, and the calls it made on the flood managers then reach
the Valves they name. An event on a DP without a Valve changes nothing. -/
def controllerStep (valves : List Valve) : ControllerEvent → Option (List Valve)
  | .valve dpId e =>
    match valves.find? (·.dp.dpId = dpId) with
    | none => some valves
    | some v =>
      let e' := e.withOthers (otherValves valves dpId)
      (valveStep portStatusFromState loadTables lt v e').map fun w =>
        valves.map fun u => (if u.dp.dpId = dpId then w else u).applyStackCalls conf (e'.stackCalls v)
  | .packetIn dpId now msg lacpPkt lldp =>
    match valves.find? (·.dp.dpId = dpId) with
    | none => some valves
    | some v =>
      let handled := v.packetIn managers parsePacketInPkt now msg lacpPkt lldp
        (otherValves valves dpId)
      some (valves.map fun u => (if u.dp.dpId = dpId then handled.1
        else (handled.2.1.find? (·.dp.dpId = u.dp.dpId)).getD u).applyStackCalls conf handled.2.2.1)

/-- The LACP and port events an event is to the Valve of each DP. -/
def ControllerEvent.lacpHistory (valves : List Valve) : ControllerEvent → DpId → List LacpEvent
  | .valve dpId e, d => if d = dpId then e.lacpHistory else []
  | .packetIn dpId now msg lacpPkt _, d =>
    if d = dpId then
      ((valves.find? (·.dp.dpId = dpId)).map fun v =>
        v.packetInLacpHistory parsePacketInPkt now msg lacpPkt).getD []
    else []

/-- A run of events, with each DP's LACP and port events so far; `none` if an event raises. -/
def controllerRun : List Valve → (DpId → List LacpEvent) → List ControllerEvent →
    Option (List Valve × (DpId → List LacpEvent))
  | valves, history, [] => some (valves, history)
  | valves, history, e :: events =>
    (controllerStep portStatusFromState loadTables lt managers parsePacketInPkt conf valves e).bind
      fun valves' => controllerRun valves'
        (fun d => history d ++ e.lacpHistory parsePacketInPkt valves d) events

/-- What a run assumes of an event a Valve handles alone: what the Valve's run assumes. -/
def ControllerEvent.Allowed (valves : List Valve) : ControllerEvent → Prop
  | .valve dpId e => ∀ v ∈ valves, v.dp.dpId = dpId → e.Allowed v
  | .packetIn .. => True

/-- Every event of a run is allowed on the Valves it runs on. -/
def ControllerAllowedRun : List Valve → List ControllerEvent → Prop
  | _, [] => True
  | valves, e :: events => e.Allowed valves ∧ ∀ valves',
    controllerStep portStatusFromState loadTables lt managers parsePacketInPkt conf valves e =
      some valves' → ControllerAllowedRun valves' events

/-- Every Valve keeps the invariants of its handlers, with its DP's LACP and port events. -/
def ControllerInv (valves : List Valve) (history : DpId → List LacpEvent) : Prop :=
  ∀ v ∈ valves, ValveInv lt v (history v.dp.dpId)

/-- What an event does to the Valve of another DP: nothing if that DP names no stack root;
otherwise at most a learn, only by a packet-in, then appending to its stack topology and setting
its tunnel flags. -/
def OtherDpKept (e : ControllerEvent) (v w : Valve) : Prop :=
  w.dp = v.dp ∧ (v.dp.dpId ≠ e.dpId →
    (v.dp.hasStackRootName = false → w = v) ∧
    ∃ u, (u = v ∨ e.isPacketIn = true ∧ Learned v u) ∧
      ∃ topo flags, w = { u with stackTopo := u.stackTopo ++ topo, tunnelUpdatedFlags := flags })

variable {lt conf}

theorem OtherDpKept.refl (e : ControllerEvent) (v : Valve) : OtherDpKept e v v :=
  ⟨rfl, fun _ => ⟨fun _ => rfl, v, .inl rfl, [], v.tunnelUpdatedFlags, by rw [List.append_nil]⟩⟩

/-- The Valves after an event on DP `dpId`, whose Valve `v` became `w` while every other Valve
`u` became `others u`, once the calls the event made reach them: each other Valve is kept as an
event on another DP keeps it, and every Valve keeps its invariants. -/
theorem ControllerInv.map_calls {valves : List Valve} {history : DpId → List LacpEvent}
    (distinct : (valves.map (·.dp.dpId)).Nodup) (e : ControllerEvent) {v w : Valve}
    (memV : v ∈ valves) (vId : v.dp.dpId = e.dpId) (sameDp : w.dp = v.dp)
    (invW : ValveInv lt w (history e.dpId ++ e.lacpHistory parsePacketInPkt valves e.dpId))
    (others : Valve → Valve)
    (kept : ∀ u ∈ valves, u.dp.dpId ≠ e.dpId → (others u).dp = u.dp ∧
      (u.dp.hasStackRootName = false → others u = u) ∧
      (others u = u ∨ e.isPacketIn = true ∧ Learned u (others u)) ∧
      ValveInv lt (others u) (history u.dp.dpId))
    (calls : List StackCall)
    (named : ∀ c ∈ calls, c.valve ∈ (v :: stackedValves (otherValves valves e.dpId)).map (·.dp.dpId))
    (idle : ∀ d ≠ e.dpId, e.lacpHistory parsePacketInPkt valves d = []) :
    List.Forall₂ (OtherDpKept e) valves
        (valves.map fun u => (if u.dp.dpId = e.dpId then w else others u).applyStackCalls conf calls) ∧
      ControllerInv lt (valves.map fun u =>
          (if u.dp.dpId = e.dpId then w else others u).applyStackCalls conf calls)
        fun d => history d ++ e.lacpHistory parsePacketInPkt valves d := by
  have each : ∀ u ∈ valves,
      OtherDpKept e u ((if u.dp.dpId = e.dpId then w else others u).applyStackCalls conf calls) ∧
      ValveInv lt ((if u.dp.dpId = e.dpId then w else others u).applyStackCalls conf calls)
        (history u.dp.dpId ++ e.lacpHistory parsePacketInPkt valves u.dp.dpId) := by
    intro u mem
    split_ifs with here
    · obtain rfl := List.inj_on_of_nodup_map distinct mem memV (here.trans vId.symm)
      refine ⟨⟨(Valve.applyStackCalls_dp conf w calls).trans sameDp, fun other => absurd here other⟩,
        ?_⟩
      rw [here]
      exact invW.of_applyStackCalls conf calls
    · obtain ⟨sameDpU, unstacked, learned, invU⟩ := kept u mem here
      refine ⟨⟨(Valve.applyStackCalls_dp conf _ calls).trans sameDpU, fun _ => ⟨fun none => ?_,
        others u, learned, (others u).applyStackCalls_only conf calls⟩⟩, ?_⟩
      · rw [unstacked none]
        exact Valve.applyStackCalls_unnamed conf calls u fun c memC same =>
          not_mem_stacked distinct vId mem here none (same ▸ named c memC)
      · rw [idle _ here, List.append_nil]
        exact invU.of_applyStackCalls conf calls
  refine ⟨List.forall₂_map_right_iff.mpr (List.forall₂_same.mpr fun u mem => (each u mem).1),
    fun u mem => ?_⟩
  obtain ⟨u, memU, rfl⟩ := List.mem_map.mp mem
  obtain ⟨⟨sameDp, -⟩, invU⟩ := each u memU
  rwa [sameDp]

/-- A packet-in on DP `dpId` leaves the Valve of any DP as it was or after a learn, which a
stacked DP's Valve only can be, and that Valve keeps its invariants. -/
theorem ControllerInv.packetIn_other {valves : List Valve} {history : DpId → List LacpEvent}
    (distinct : (valves.map (·.dp.dpId)).Nodup) (inv : ControllerInv lt valves history)
    (v : Valve) (dpId : DpId) (now : Time) (msg : PacketInMsg) (lacpPkt : Option LacpPdu)
    (lldp : Option FaucetLldp) {u : Valve} (mem : u ∈ valves) :
    let u' := ((v.packetIn managers parsePacketInPkt now msg lacpPkt lldp
      (otherValves valves dpId)).2.1.find? (·.dp.dpId = u.dp.dpId)).getD u
    u'.dp = u.dp ∧ (u.dp.hasStackRootName = false → u' = u) ∧ (u' = u ∨ Learned u u') ∧
      ValveInv lt u' (history u.dp.dpId) := by
  cases lookup : (v.packetIn managers parsePacketInPkt now msg lacpPkt lldp
      (otherValves valves dpId)).2.1.find? (·.dp.dpId = u.dp.dpId) with
  | none => exact ⟨rfl, fun _ => rfl, .inl rfl, inv u mem⟩
  | some u' =>
    have sameId : u'.dp.dpId = u.dp.dpId := by simpa using List.find?_some lookup
    obtain ⟨w', memW', learned, unstacked⟩ :=
      forall₂_mem_right (packetIn_others v managers parsePacketInPkt now msg lacpPkt lldp
        (otherValves valves dpId)) u' (List.mem_of_find?_eq_some lookup)
    obtain ⟨memW'', -⟩ := List.mem_filter.mp memW'
    obtain rfl := List.inj_on_of_nodup_map distinct memW'' mem
      ((congrArg (·.dpId) learned.dp).symm.trans sameId)
    exact ⟨learned.dp, unstacked, .inr learned, (inv w' memW'').of_learned learned⟩

/-- After an event on DP `dpId` whose calls carry the same records `topo` for its Valve and for
every stacked other, each other Valve whose DP names a stack root has `topo` appended to its stack
topology, provided the event itself left that Valve's DP and topology alone. -/
theorem map_calls_agree {valves : List Valve} {dpId : DpId} {v : Valve} (w : Valve)
    (others : Valve → Valve)
    (kept : ∀ u ∈ valves, u.dp.dpId ≠ dpId →
      (others u).dp = u.dp ∧ (others u).stackTopo = u.stackTopo)
    (calls : List StackCall) {topo : List (Bool × DpId × PortNo)}
    (agree : ∀ d ∈ (v :: stackedValves (otherValves valves dpId)).map (·.dp.dpId),
      calls.filterMap (·.topoFor d) = topo) :
    List.Forall₂ (fun u u' => u.dp.dpId ≠ dpId → u.dp.hasStackRootName = true →
        u'.stackTopo = u.stackTopo ++ topo) valves
      (valves.map fun u => (if u.dp.dpId = dpId then w else others u).applyStackCalls conf calls) := by
  refine List.forall₂_map_right_iff.mpr (List.forall₂_same.mpr fun u mem other stacked => ?_)
  obtain ⟨sameDp, sameTopo⟩ := kept u mem other
  rw [if_neg other, Valve.applyStackCalls_stackTopo, sameDp, sameTopo]
  exact congrArg _ (agree _ (List.mem_cons_of_mem _ (List.mem_map_of_mem _
    (List.mem_filter.mpr ⟨List.mem_filter.mpr ⟨mem, decide_eq_true other⟩, stacked⟩))))

/-- An allowed event on Valves of distinct DPs never raises; it keeps every Valve's DP, changes
another DP's Valve only as `OtherDpKept` allows, and every Valve keeps its invariants. Every other
DP's Valve that names a stack root gets the same records appended to its stack topology. -/
theorem ControllerInv.step {valves : List Valve} {history : DpId → List LacpEvent}
    (distinct : (valves.map (·.dp.dpId)).Nodup) (inv : ControllerInv lt valves history)
    (e : ControllerEvent) (allowed : e.Allowed valves) :
    ∃ valves', controllerStep portStatusFromState loadTables lt managers parsePacketInPkt conf valves e =
      some valves' ∧ List.Forall₂ (OtherDpKept e) valves valves' ∧
      ControllerInv lt valves' (fun d => history d ++ e.lacpHistory parsePacketInPkt valves d) ∧
      ∃ topo, List.Forall₂ (fun v w => v.dp.dpId ≠ e.dpId → v.dp.hasStackRootName = true →
        w.stackTopo = v.stackTopo ++ topo) valves valves' := by
  have unchanged : ∀ (e : ControllerEvent),
      (∀ u ∈ valves, e.lacpHistory parsePacketInPkt valves u.dp.dpId = []) →
      List.Forall₂ (OtherDpKept e) valves valves ∧
        ControllerInv lt valves (fun d => history d ++ e.lacpHistory parsePacketInPkt valves d) ∧
        ∃ topo, List.Forall₂ (fun v w => v.dp.dpId ≠ e.dpId → v.dp.hasStackRootName = true →
          w.stackTopo = v.stackTopo ++ topo) valves valves :=
    fun e idle => ⟨List.forall₂_same.mpr fun v _ => .refl e v,
      fun v mem => by dsimp only; rw [idle v mem, List.append_nil]; exact inv v mem,
      [], List.forall₂_same.mpr fun v _ _ _ => (List.append_nil _).symm⟩
  cases e with
  | valve dpId e =>
    simp only [controllerStep]
    cases found : valves.find? (·.dp.dpId = dpId) with
    | none =>
      refine ⟨valves, rfl, unchanged _ fun u mem => if_neg fun here => ?_⟩
      exact List.find?_eq_none.mp found u mem (decide_eq_true here)
    | some v =>
      have memV := List.mem_of_find?_eq_some found
      have vId : v.dp.dpId = dpId := by simpa using List.find?_some found
      obtain ⟨w, step, sameDp, invW⟩ := (inv v memV).step portStatusFromState loadTables lt
        (e.withOthers (otherValves valves dpId))
        ((ValveEvent.allowed_withOthers _ e v).mpr (allowed v memV vId))
      obtain ⟨topo, agree⟩ := ValveEvent.stackCalls_agree _ e v (stacked_nodup distinct vId)
      exact ⟨_, by dsimp only; rw [step]; rfl, and_assoc.mp ⟨ControllerInv.map_calls
        parsePacketInPkt distinct (.valve dpId e) memV vId sameDp
        (by simpa [ControllerEvent.lacpHistory, ControllerEvent.dpId, vId] using invW) id
        (fun u mem _ => ⟨rfl, fun _ => rfl, .inl rfl, inv u mem⟩) _
        (ValveEvent.stackCalls_named _ e v) (fun d other => if_neg other), topo,
        map_calls_agree w id (fun _ _ _ => ⟨rfl, rfl⟩) _ agree⟩⟩
  | packetIn dpId now msg lacpPkt lldp =>
    simp only [controllerStep]
    cases found : valves.find? (·.dp.dpId = dpId) with
    | none =>
      refine ⟨valves, rfl, unchanged _ fun u _ => ?_⟩
      simp [ControllerEvent.lacpHistory, found]
    | some v =>
      have memV := List.mem_of_find?_eq_some found
      have vId : v.dp.dpId = dpId := by simpa using List.find?_some found
      obtain ⟨sameDp, received⟩ := (inv v memV).of_packetIn managers parsePacketInPkt now msg
        lacpPkt lldp (otherValves valves dpId)
      have other := fun {u} (mem : u ∈ valves) =>
        inv.packetIn_other managers parsePacketInPkt distinct v dpId now msg lacpPkt lldp mem
      obtain ⟨topo, agree⟩ := packetIn_agree v managers parsePacketInPkt now msg lacpPkt lldp
        (otherValves valves dpId) (stacked_nodup distinct vId)
      refine ⟨_, rfl, and_assoc.mp ⟨ControllerInv.map_calls parsePacketInPkt distinct
        (.packetIn dpId now msg lacpPkt lldp) memV vId sameDp
        (by simpa [ControllerEvent.lacpHistory, ControllerEvent.dpId, found, vId] using received)
        _ (fun u mem _ => ?_) _ (packetIn_named v managers parsePacketInPkt now msg lacpPkt lldp
          (otherValves valves dpId)) (fun d other => if_neg other), topo,
        map_calls_agree _ _ (fun u mem _ => ⟨(other mem).1,
          (other mem).2.2.1.elim (fun same => by rw [same]) Learned.stackTopo⟩) _ agree⟩⟩
      obtain ⟨sameDpU, unstacked, learned, invU⟩ := other mem
      exact ⟨sameDpU, unstacked, learned.imp_right fun learned => ⟨rfl, learned⟩, invU⟩

/-- An allowed run on Valves of distinct DPs never raises and keeps every Valve's DP, and every
Valve keeps its invariants with its DP's LACP and port events. -/
theorem controllerRun_inv : ∀ (events : List ControllerEvent) (valves : List Valve)
    (history : DpId → List LacpEvent), (valves.map (·.dp.dpId)).Nodup →
    ControllerInv lt valves history →
    ControllerAllowedRun portStatusFromState loadTables lt managers parsePacketInPkt conf valves
      events →
    ∃ valves' history',
      controllerRun portStatusFromState loadTables lt managers parsePacketInPkt conf valves history
        events = some (valves', history') ∧
      List.Forall₂ (fun v w => w.dp = v.dp) valves valves' ∧ ControllerInv lt valves' history'
  | [], valves, history, _, inv, _ =>
    ⟨valves, history, rfl, List.forall₂_same.mpr fun _ _ => rfl, inv⟩
  | e :: events, valves, history, distinct, inv, allowed => by
    obtain ⟨valves', step, kept, inv', -⟩ :=
      inv.step portStatusFromState loadTables managers parsePacketInPkt distinct e allowed.1
    have sameIds := forall₂_dpIds (fun _ _ kept => kept.1) kept
    obtain ⟨valves'', history'', run, sameDps, inv''⟩ :=
      controllerRun_inv events valves' _ (sameIds ▸ distinct) inv' (allowed.2 valves' step)
    refine ⟨valves'', history'', ?_, forall₂_dp_trans (kept.imp fun _ _ => And.left) sameDps, inv''⟩
    rw [controllerRun, step]
    exact run

end Run

/-- DP 1 as the stack root and DP 2 under it, after `dp_init`. -/
def rootAndPeer : List Valve := [stackRootValve.dpInit none, stackPeerValve.dpInit none]

theorem rootAndPeer_fresh : ∀ v ∈ rootAndPeer, ValveInv byAddress v [] := by
  intro v mem
  simp only [rootAndPeer, List.mem_cons, List.mem_singleton, List.not_mem_nil, or_false] at mem
  rcases mem with rfl | rfl
  · exact .of_dpInit byAddress (by decide) (fun _ _ _ same => nomatch same)
      (beaconsTimed_of_none fun _ => rfl) (fun _ _ _ => rfl)
  · exact .of_dpInit byAddress (by decide) (fun _ _ _ same => nomatch same)
      (beaconsTimed_of_none fun _ => rfl) (fun _ _ _ => rfl)

/-- A decoding of the tunnel ACLs under which no tunnel's path changes. -/
def noTunnelChange : UpdateTunnelAclConf := fun _ _ => false

/-- A host's packet-in on DP 1, a tick on DP 1, then a metrics export on DP 2. -/
def learnThenExport : List ControllerEvent :=
  [.packetIn 1 0 portOnePacketIn none none, .valve 1 (.stack (.fastStateExpire 1 [])),
    .valve 2 (.metrics (.updateMetrics 1 none false))]

/-- The host's packet-in on the stack root caches the host on port 1 of DP 1 and on the stack
port 3 of DP 2. -/
example : (controllerStep linkDownBit (fun _ _ => []) byAddress learnAllManagers officeHeader
    noTunnelChange rootAndPeer (.packetIn 1 0 portOnePacketIn none none)).map
      (·.map fun v => (v.dyn.vlan 100).hostCache) = some [[⟨2, 1, 0⟩], [⟨2, 3, 0⟩]] := by
  decide

/-- The tick on the stack root moves its stack port toward DP 2 from `DOWN` to `INIT`, and
`update_stack_topo` records it on DP 2 as well as on DP 1. -/
example : (controllerStep linkDownBit (fun _ _ => []) byAddress learnAllManagers officeHeader
    noTunnelChange rootAndPeer (.valve 1 (.stack (.fastStateExpire 0 [])))).map
      (·.map (·.stackTopo)) = some [[(false, 1, 2)], [(false, 1, 2)]] := by
  decide

end Faucet
