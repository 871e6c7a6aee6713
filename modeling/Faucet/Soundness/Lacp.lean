import Faucet.Soundness.PortStatus

/-! # An up LACP port holds the PDU that brought it up

Only `lacp_handler` brings an LACP port up, and it records the PDU and the time with the state it
moves the port to; everything else the Valve runs on ports (`lacp_down` in `ports_add`,
`ports_delete` and the expiry, the port-status handler, `fast_advertise`) resets the port's LACP
state or leaves it. So in every state reachable from the cold start, an up LACP port holds the
last PDU processed for it, whose actor is up, and the time it was processed (`LacpRecorded`).
Hence `_lacp_state_expire` never evaluates `now - None`, and `state_expire` runs `lacp_down` on
exactly the up LACP ports whose last PDU is older than `lacp_timeout`.
-/

namespace Faucet

namespace Valve

section Receive

variable (v : Valve) (now : Time) (port : PortConfig) (pdu : LacpPdu)

@[simp] theorem lacpDown_port_ne {portNo : PortNo} (ne : portNo ≠ port.number) (coldStart : Bool) :
    (v.lacpDown port coldStart).1.dyn.port portNo = v.dyn.port portNo := by
  simp [lacpDown_fst, ne]

@[simp] theorem lacpReceive_dp : (v.lacpReceive now port pdu).1.dp = v.dp := by
  simp only [lacpReceive, setPortDyn_dp, apply_ite Prod.fst, apply_ite Valve.dp, lacpUp_fst,
    lacpDown_fst, setVar_dp, ite_self]

/-- Receiving a PDU on a port touches no other port. -/
theorem lacpReceive_port_ne {portNo : PortNo} (ne : portNo ≠ port.number) :
    (v.lacpReceive now port pdu).1.dyn.port portNo = v.dyn.port portNo := by
  simp only [lacpReceive, setPortDyn_dyn, DPDyn.setPort_port_ne _ _ _ _ ne, apply_ite Prod.fst,
    apply_ite Valve.dyn, apply_ite DPDyn.port, ite_apply, lacpUp_fst, lacpDown_fst, setVar_dyn,
    ite_self]

/-- Receiving a PDU leaves the port in the PDU's actor state, holding the PDU and the time. -/
theorem lacpReceive_port :
    let after := (v.lacpReceive now port pdu).1.dyn.port port.number
    after.dynLacpUp = some (lacpActorUp pdu) ∧ after.dynLastLacpPkt = some pdu ∧
      after.dynLacpUpdatedTime = some now := by
  have actor : lacpActorUp pdu = 0 ∨ lacpActorUp pdu = 1 := by
    unfold lacpActorUp; split <;> simp
  simp only [lacpReceive, setPortDyn_dyn, DPDyn.setPort_port_self, apply_ite Prod.fst,
    apply_ite Valve.dyn, apply_ite DPDyn.port, ite_apply, apply_ite PortDyn.dynLacpUp, lacpUp_fst,
    lacpDown_fst, setVar_dyn, ite_self, and_true]
  split_ifs <;> simp_all

end Receive

/-- `lacp_handler` leaves a port's `dyn_lacp_up` at the actor state of the PDU it processed. -/
theorem lacpHandler_dynLacpUp (v : Valve) (now : Time) (port : PortConfig) {ethDst : Mac}
    {ethType : ℕ} (pdu : LacpPdu) (slow : ethDst = slowProtocolMulticast ∧ ethType = ethTypeSlow)
    (lacp : port.lacp ≠ 0) :
    ((v.lacpHandler now port ethDst ethType (some pdu)).1.dyn.port port.number).dynLacpUp =
      some (lacpActorUp pdu) := by
  rw [lacpHandler, if_pos ⟨slow.1, slow.2, lacp⟩]
  exact (lacpReceive_port v now port pdu).1

section Expire

variable (v : Valve) (now : Time)

/-- Whether `_lacp_state_expire` finds a port's last PDU older than `lacp_timeout`. -/
def lacpExpired (port : PortConfig) : Bool :=
  (v.dyn.port port.number).dynLacpUpdatedTime.any fun updated => now - updated > v.dp.lacpTimeout

/-- `lacp_down` on each port in turn, its messages added to the DP's. -/
def lacpDownEach (ports : List PortConfig) (acc : Valve × OfmsgsByValve) : Valve × OfmsgsByValve :=
  ports.foldl (fun acc port =>
    ((acc.1.lacpDown port).1, acc.2.extend acc.1.dp.dpId (acc.1.lacpDown port).2)) acc

theorem lacpDownEach_fst : ∀ (ports : List PortConfig) (acc : Valve × OfmsgsByValve),
    (lacpDownEach ports acc).1 = ports.foldl (fun w port => (w.lacpDown port).1) acc.1
  | [], _ => rfl
  | _ :: ports, _ => lacpDownEach_fst ports _

/-- The loop of `_lacp_state_expire`, over ports it visits once, each holding its state from
the start and a time: it never raises, and runs `lacp_down` on exactly the expired ones. -/
theorem foldlM_lacpExpirePort : ∀ (ports : List PortConfig) (acc : Valve × OfmsgsByValve),
    acc.1.dp = v.dp → (ports.map (·.number)).Nodup →
    (∀ port ∈ ports, acc.1.dyn.port port.number = v.dyn.port port.number ∧
      (v.dyn.port port.number).dynLacpUpdatedTime.isSome) →
    ports.foldlM (lacpExpirePort now) acc =
      some (lacpDownEach (ports.filter (v.lacpExpired now)) acc)
  | [], _, _, _, _ => rfl
  | port :: ports, acc, sameDp, distinct, agree => by
    rw [List.map_cons, List.nodup_cons] at distinct
    obtain ⟨same, timed⟩ := agree port (List.mem_cons_self _ _)
    obtain ⟨updated, time⟩ := Option.isSome_iff_exists.mp timed
    have rest : ∀ acc' : Valve × OfmsgsByValve, acc'.1.dp = v.dp →
        (∀ q ∈ ports, acc'.1.dyn.port q.number = acc.1.dyn.port q.number) →
        ports.foldlM (lacpExpirePort now) acc' =
          some (lacpDownEach (ports.filter (v.lacpExpired now)) acc') :=
      fun acc' dp' agree' => foldlM_lacpExpirePort ports acc' dp' distinct.2 fun q mem =>
        ⟨(agree' q mem).trans (agree q (List.mem_cons_of_mem _ mem)).1,
          (agree q (List.mem_cons_of_mem _ mem)).2⟩
    rw [List.foldlM_cons]
    simp only [lacpExpirePort, same, time]
    by_cases expired : now - updated > v.dp.lacpTimeout
    · rw [if_pos (by rwa [sameDp]), List.filter_cons_of_pos (by simp [lacpExpired, time, expired])]
      exact rest ((acc.1.lacpDown port).1, acc.2.extend acc.1.dp.dpId (acc.1.lacpDown port).2)
        sameDp fun q mem => lacpDown_port_ne _ _
        (fun same => distinct.1 (same ▸ List.mem_map_of_mem _ mem)) false
    · rw [if_neg (by rwa [sameDp]), List.filter_cons_of_neg (by simp [lacpExpired, time, expired])]
      exact rest acc sameDp fun _ _ => rfl

/-- Where every up LACP port holds a time, `_lacp_state_expire` never raises and runs
`lacp_down` on the expired ports of `lags_up()`, in its order. -/
theorem lacpStateExpire_eq (timed : ∀ port ∈ v.dp.ports, port.lacp ≠ 0 →
      (v.dyn.port port.number).dynLacpUp = some 1 →
      (v.dyn.port port.number).dynLacpUpdatedTime.isSome) :
    v.lacpStateExpire now =
      some (lacpDownEach (((v.dp.lagsUp v.dyn).flatMap (·.2)).filter (v.lacpExpired now)) (v, [])) :=
  foldlM_lacpExpirePort v now _ (v, []) rfl (v.dp.lagsUp_numbers_nodup v.dyn) fun port mem =>
    ⟨rfl, let ⟨mem, lacp, up⟩ := (v.dp.mem_lagsUp v.dyn).mp mem; timed port mem lacp up⟩

/-- The ports `_lacp_state_expire` takes down are, up to order, the up LACP ports of the DP
whose last PDU is older than `lacp_timeout`. -/
theorem lacpExpired_perm :
    List.Perm (((v.dp.lagsUp v.dyn).flatMap (·.2)).filter (v.lacpExpired now))
      (v.dp.ports.filter fun port => port.lacp ≠ 0 ∧ (v.dyn.port port.number).dynLacpUp = some 1 ∧
        v.lacpExpired now port = true) := by
  refine ((v.dp.lagsUp_perm v.dyn).filter _).trans (List.Perm.of_eq ?_)
  rw [List.filter_filter]
  exact List.filter_congr fun port _ => by cases v.lacpExpired now port <;> simp

theorem lacpDownEach_frame (ports : List PortConfig) :
    v.PortFrame (lacpDownEach ports (v, [])).1 ∧ v.LacpKept (lacpDownEach ports (v, [])).1 := by
  rw [lacpDownEach_fst]
  exact ⟨foldl_rel _ PortFrame.refl PortFrame.trans _ (fun w port => lacpDown_portFrame w port _) _ _,
    foldl_rel _ LacpKept.refl LacpKept.trans _ (fun w port => lacpDown_lacpKept w port _) _ _⟩

/-- `state_expire` on a running DP changes the Valve as `_lacp_state_expire` does. -/
theorem stateExpire_fst (timed : ∀ port ∈ v.dp.ports, port.lacp ≠ 0 →
      (v.dyn.port port.number).dynLacpUp = some 1 →
      (v.dyn.port port.number).dynLacpUpdatedTime.isSome) :
    (v.stateExpire now).map (·.1) = some (if v.dyn.dynRunning then
      (lacpDownEach (((v.dp.lagsUp v.dyn).flatMap (·.2)).filter (v.lacpExpired now)) (v, [])).1
      else v) := by
  unfold stateExpire
  split
  · rw [lacpStateExpire_eq v now timed]; rfl
  · rfl

end Expire

section Advertise

variable (v : Valve) (now : Time) (beaconPorts : List PortConfig)

theorem fastAdvertise_fst : (v.fastAdvertise now beaconPorts).1 =
    if v.dp.fastAdvertiseInterval = 0 ∨ now - v.lastFastAdvertiseSec < v.dp.fastAdvertiseInterval
    then v
    else beaconPorts.foldl (fun w port => w.setPortDyn port.number
      { w.dyn.port port.number with dynLastLldpBeaconTime := some now })
        { v with lastFastAdvertiseSec := now } := by
  simp only [fastAdvertise, apply_ite Prod.fst, ite_self]

/-- `fast_advertise` only sends and stamps beacon times: it keeps the ports' LACP state. -/
theorem fastAdvertise_frame :
    v.PortFrame (v.fastAdvertise now beaconPorts).1 ∧ v.LacpKept (v.fastAdvertise now beaconPorts).1 := by
  rw [fastAdvertise_fst]
  split
  · exact ⟨.refl _, .refl _⟩
  · have stamped : v.LacpKept { v with lastFastAdvertiseSec := now } := fun _ _ => rfl
    exact ⟨(PortFrame.mk rfl rfl rfl rfl rfl : v.PortFrame { v with lastFastAdvertiseSec := now }).trans
      (foldl_rel _ PortFrame.refl PortFrame.trans _ (fun w _ => setPortDyn_portFrame w _ _) _ _),
      stamped.trans (foldl_rel _ LacpKept.refl LacpKept.trans _
        (fun w (port : PortConfig) => setPortDyn_lacpKept w port.number _ (.inl (by rfl))) _ _)⟩

end Advertise

theorem LacpKept.parts {v w : Valve} {portNo : PortNo} (kept : v.LacpKept w)
    (up : (w.dyn.port portNo).dynLacpUp = some 1) :
    (v.dyn.port portNo).dynLacpUp = some 1 ∧
      (w.dyn.port portNo).dynLastLacpPkt = (v.dyn.port portNo).dynLastLacpPkt ∧
      (w.dyn.port portNo).dynLacpUpdatedTime = (v.dyn.port portNo).dynLacpUpdatedTime := by
  have part := kept portNo up
  simp only [PortDyn.lacpPart, Prod.mk.injEq] at part
  exact ⟨part.1 ▸ up, part.2.1, part.2.2⟩

end Valve

/-- What the Valve runs between reloads that touches LACP state: a packet-in to `lacp_handler`
(on the port its `in_port` names), the port-status handler, `ports_add`, `ports_delete`,
`fast_advertise` (with the ports `lldp_beacon_send_ports(now)` returns) and `state_expire`. -/
inductive LacpEvent
  | lacpPacket (now : Time) (portNo : PortNo) (ethDst : Mac) (ethType : ℕ)
      (lacpPkt : Option LacpPdu)
  | portStatus (portNo : PortNo) (reason state : ℕ)
  | portsAdd (portNums : List PortNo) (coldStart : Bool)
  | portsDelete (portNums : List PortNo)
  | fastAdvertise (now : Time) (beaconPorts : List PortConfig)
  | stateExpire (now : Time)

/-- The PDU `lacp_handler` processes for a port at an event, with the time. -/
def LacpEvent.processed (dp : DPConfig) (portNo : PortNo) : LacpEvent → Option (LacpPdu × Time)
  | .lacpPacket now n ethDst ethType lacpPkt =>
    if n = portNo ∧ ethDst = slowProtocolMulticast ∧ ethType = ethTypeSlow ∧
        (dp.port? n).any (·.lacp ≠ 0) then lacpPkt.map (·, now)
    else none
  | _ => none

/-- The last PDU processed for a port over a run, with the time. -/
def lastProcessed (dp : DPConfig) (portNo : PortNo) (events : List LacpEvent) :
    Option (LacpPdu × Time) :=
  events.foldl (fun last e => (e.processed dp portNo).or last) none

theorem lastProcessed_append (dp : DPConfig) (portNo : PortNo) (events : List LacpEvent)
    (e : LacpEvent) : lastProcessed dp portNo (events ++ [e]) =
      (e.processed dp portNo).or (lastProcessed dp portNo events) := by
  simp [lastProcessed]

/-- One event; `none` where the code raises. -/
def lacpStep (portStatusFromState : PortStatusFromState) (v : Valve) : LacpEvent → Option Valve
  | .lacpPacket now portNo ethDst ethType lacpPkt =>
    some (match v.dp.port? portNo with
      | some port => (v.lacpHandler now port ethDst ethType lacpPkt).1
      | none => v)
  | .portStatus portNo reason state =>
    some (v.portStatusHandler portStatusFromState portNo reason state).1
  | .portsAdd portNums coldStart => some (v.portsAdd portNums coldStart).1
  | .portsDelete portNums => some (v.portsDelete portNums).1
  | .fastAdvertise now beaconPorts => some (v.fastAdvertise now beaconPorts).1
  | .stateExpire now => (v.stateExpire now).map (·.1)

/-- A run of events; `none` if one raises. -/
def lacpRun (portStatusFromState : PortStatusFromState) (v : Valve) (events : List LacpEvent) :
    Option Valve :=
  events.foldlM (lacpStep portStatusFromState) v

/-- Every up LACP port of the DP holds the last PDU processed for it over the run, whose actor is
up, and the time it was processed. -/
def LacpRecorded (v : Valve) (events : List LacpEvent) : Prop :=
  ∀ port ∈ v.dp.ports, port.lacp ≠ 0 → (v.dyn.port port.number).dynLacpUp = some 1 →
    ∃ pdu t, (v.dyn.port port.number).dynLastLacpPkt = some pdu ∧ lacpActorUp pdu = 1 ∧
      (v.dyn.port port.number).dynLacpUpdatedTime = some t ∧
      lastProcessed v.dp port.number events = some (pdu, t)

namespace LacpRecorded

variable {v w : Valve} {events : List LacpEvent}

theorem timed (recorded : LacpRecorded v events) :
    ∀ port ∈ v.dp.ports, port.lacp ≠ 0 → (v.dyn.port port.number).dynLacpUp = some 1 →
      (v.dyn.port port.number).dynLacpUpdatedTime.isSome := fun port mem lacp up => by
  obtain ⟨_, _, -, -, time, -⟩ := recorded port mem lacp up
  simp [time]

/-- An operation that keeps the DP and the up LACP ports' state keeps the invariant. -/
theorem of_frame (recorded : LacpRecorded v events) (sameDp : w.dp = v.dp) (kept : v.LacpKept w) :
    LacpRecorded w events := by
  intro port mem lacp up
  rw [sameDp] at mem ⊢
  obtain ⟨wasUp, pkt, time⟩ := kept.parts up
  rw [pkt, time]
  exact recorded port mem lacp wasUp

/-- An event that processes no PDU, and keeps the DP and the up ports' LACP state, keeps the
invariant. -/
theorem of_kept {e : LacpEvent} (recorded : LacpRecorded v events) (sameDp : w.dp = v.dp)
    (kept : v.LacpKept w) (idle : ∀ portNo, e.processed v.dp portNo = none) :
    LacpRecorded w (events ++ [e]) := by
  intro port mem lacp up
  have held := recorded.of_frame sameDp kept port mem lacp up
  rw [sameDp] at held ⊢
  rwa [lastProcessed_append, idle, Option.none_or]

/-- Receiving a PDU on a port of the DP keeps the invariant, the port holding the new PDU. -/
theorem of_receive {now : Time} {port : PortConfig} {ethDst : Mac} {ethType : ℕ} {pdu : LacpPdu}
    (recorded : LacpRecorded v events) (found : v.dp.port? port.number = some port)
    (slow : ethDst = slowProtocolMulticast ∧ ethType = ethTypeSlow) (lacp : port.lacp ≠ 0) :
    LacpRecorded (v.lacpReceive now port pdu).1
      (events ++ [.lacpPacket now port.number ethDst ethType (some pdu)]) := by
  intro q mem qLacp up
  rw [Valve.lacpReceive_dp] at mem ⊢
  rw [lastProcessed_append]
  by_cases here : q.number = port.number
  · obtain ⟨state, pkt, time⟩ := Valve.lacpReceive_port v now port pdu
    rw [here] at up ⊢
    rw [state, Option.some_inj] at up
    refine ⟨pdu, now, pkt, up, time, ?_⟩
    simp [LacpEvent.processed, slow, found, lacp]
  · rw [Valve.lacpReceive_port_ne _ _ _ _ here] at up ⊢
    have idle : (LacpEvent.lacpPacket now port.number ethDst ethType (some pdu)).processed v.dp
        q.number = none := if_neg fun processed => here processed.1.symm
    rw [idle, Option.none_or]
    exact recorded q mem qLacp up

/-- A packet-in that `lacp_handler` ignores keeps the invariant. -/
theorem of_ignored {now : Time} {portNo : PortNo} {ethDst : Mac} {ethType : ℕ}
    {lacpPkt : Option LacpPdu} (recorded : LacpRecorded v events)
    (ignored : ∀ portNo', (LacpEvent.lacpPacket now portNo ethDst ethType lacpPkt).processed v.dp
      portNo' = none) :
    LacpRecorded v (events ++ [.lacpPacket now portNo ethDst ethType lacpPkt]) :=
  recorded.of_kept rfl (.refl _) ignored

/-- Every event keeps the DP and the invariant, and only `state_expire` could raise, which it
does not. -/
theorem step (portStatusFromState : PortStatusFromState) (recorded : LacpRecorded v events)
    (e : LacpEvent) :
    ∃ w, lacpStep portStatusFromState v e = some w ∧ w.dp = v.dp ∧
      LacpRecorded w (events ++ [e]) := by
  cases e with
  | lacpPacket now portNo ethDst ethType lacpPkt =>
    refine ⟨_, rfl, ?_⟩
    cases found : v.dp.port? portNo with
    | none =>
      exact ⟨rfl, recorded.of_ignored fun _ => by simp [LacpEvent.processed, found]⟩
    | some port =>
      obtain ⟨-, rfl⟩ := v.dp.port?_eq_some found
      dsimp only
      by_cases checked : ethDst = slowProtocolMulticast ∧ ethType = ethTypeSlow ∧ port.lacp ≠ 0
      · unfold Valve.lacpHandler
        rw [if_pos checked]
        cases lacpPkt with
        | none => exact ⟨rfl, recorded.of_ignored fun _ => by simp [LacpEvent.processed]⟩
        | some pdu =>
          exact ⟨Valve.lacpReceive_dp _ _ _ _,
            recorded.of_receive found ⟨checked.1, checked.2.1⟩ checked.2.2⟩
      · unfold Valve.lacpHandler
        rw [if_neg checked]
        refine ⟨rfl, recorded.of_ignored fun _ => ?_⟩
        simp only [LacpEvent.processed, found, Option.any_some]
        exact if_neg fun processed => checked
          ⟨processed.2.1, processed.2.2.1, of_decide_eq_true processed.2.2.2⟩
  | portStatus portNo reason state =>
    have kept : v.LacpKept (v.portStatusHandler portStatusFromState portNo reason state).1 :=
      Valve.LacpKept.trans (fun _ _ => by rw [Valve.setPortStatus_port])
      (Valve.portStatusHandler_portFrame v portStatusFromState portNo reason state).2
    have sameDp := Valve.portStatusHandler_dp v portStatusFromState portNo reason state
    exact ⟨_, rfl, sameDp, recorded.of_kept sameDp kept fun _ => rfl⟩
  | portsAdd portNums coldStart =>
    exact ⟨_, rfl, (Valve.portsAdd_portFrame v portNums coldStart).dp,
      recorded.of_kept (Valve.portsAdd_portFrame _ _ _).dp (Valve.portsAdd_lacpKept _ _ _)
        fun _ => rfl⟩
  | portsDelete portNums =>
    exact ⟨_, rfl, (Valve.portsDelete_portFrame v portNums).dp,
      recorded.of_kept (Valve.portsDelete_portFrame _ _).dp (Valve.portsDelete_lacpKept _ _)
        fun _ => rfl⟩
  | fastAdvertise now beaconPorts =>
    obtain ⟨frame, kept⟩ := Valve.fastAdvertise_frame v now beaconPorts
    exact ⟨_, rfl, frame.dp, recorded.of_kept frame.dp kept fun _ => rfl⟩
  | stateExpire now =>
    have expired := Valve.stateExpire_fst v now recorded.timed
    refine ⟨_, expired, ?_⟩
    split
    · obtain ⟨frame, kept⟩ := Valve.lacpDownEach_frame v _
      exact ⟨frame.dp, recorded.of_kept frame.dp kept fun _ => rfl⟩
    · exact ⟨rfl, recorded.of_kept rfl (.refl _) fun _ => rfl⟩

end LacpRecorded

/-- Over any run of events from a state where the invariant holds, no event raises, the DP stays,
and the invariant holds of the whole history. -/
theorem lacpRun_recorded (portStatusFromState : PortStatusFromState) :
    ∀ (events history : List LacpEvent) (v : Valve), LacpRecorded v history →
      ∃ w, lacpRun portStatusFromState v events = some w ∧ w.dp = v.dp ∧
        LacpRecorded w (history ++ events)
  | [], history, v, recorded => ⟨v, rfl, rfl, by rwa [List.append_nil]⟩
  | e :: events, history, v, recorded => by
    obtain ⟨w, stepped, dp, recorded'⟩ := recorded.step portStatusFromState e
    obtain ⟨u, run, dp', recorded''⟩ := lacpRun_recorded portStatusFromState events _ w recorded'
    refine ⟨u, ?_, dp'.trans dp, by rwa [List.append_assoc, List.singleton_append] at recorded''⟩
    rw [lacpRun, List.foldlM_cons, stepped]
    exact run

/-- In every state reachable, by any events that are not reloads, from the cold start of a Valve
whose up LACP ports hold the last PDU processed for them and the time: every up LACP port holds
the last PDU processed for it, whose actor is up, and the time it was processed; `lacp_handler`
leaves `dyn_lacp_up` at the actor state of the PDU it processes; and `_lacp_state_expire` does
not raise and, with `state_expire` on a running DP, runs `lacp_down` on the up LACP ports whose
last PDU is older than `lacp_timeout`, in the order of `lags_up()`, and on no other port. -/
theorem lacpUp_recorded (v : Valve) (loadTables : LoadTables) (now : Time)
    (discovered : List PortNo) (portStatusFromState : PortStatusFromState)
    (history events : List LacpEvent) (start : LacpRecorded v history) :
    ∃ w, lacpRun portStatusFromState (v.datapathConnect loadTables now discovered).1 events =
        some w ∧
      LacpRecorded w (history ++ events) ∧
      (∀ later port ethDst ethType pdu, ethDst = slowProtocolMulticast → ethType = ethTypeSlow →
        port.lacp ≠ 0 →
        ((w.lacpHandler later port ethDst ethType (some pdu)).1.dyn.port port.number).dynLacpUp =
          some (lacpActorUp pdu)) ∧
      ∀ later, ∃ downs : List PortConfig,
        List.Perm downs (w.dp.ports.filter fun port => port.lacp ≠ 0 ∧
          (w.dyn.port port.number).dynLacpUp = some 1 ∧ w.lacpExpired later port = true) ∧
        w.lacpStateExpire later = some (Valve.lacpDownEach downs (w, [])) ∧
        (w.stateExpire later).map (·.1) =
          some (if w.dyn.dynRunning then (Valve.lacpDownEach downs (w, [])).1 else w) := by
  obtain ⟨w, run, -, recorded⟩ := lacpRun_recorded portStatusFromState events history _
    (start.of_frame (Valve.datapathConnect_dp v loadTables now discovered)
      (Valve.datapathConnect_lacpKept v loadTables now discovered))
  refine ⟨w, run, recorded, fun later port ethDst ethType pdu dst type lacp =>
    Valve.lacpHandler_dynLacpUp w later port pdu ⟨dst, type⟩ lacp, fun later => ?_⟩
  exact ⟨_, Valve.lacpExpired_perm w later, Valve.lacpStateExpire_eq w later recorded.timed,
    Valve.stateExpire_fst w later recorded.timed⟩

/-- DP 1 with port 1 in LAG 1, untagged on VLAN 100, before its cold start. -/
def lacpPortValve : Valve :=
  { oneVlanPortValve with
    dp := { oneVlanPortValve.dp with
      ports := [{ number := 1, lacp := 1, nativeVlan := some 100 }]
      ports_nodup := by decide } }

/-- A PDU from a partner that is synchronised, collecting and distributing. -/
def lacpUpPdu : LacpPdu :=
  ⟨2, 1, 1, 1, 1, 0, 0, 0, 1, 1, 1, 1, 1⟩

/-- The PDU on port 1 at time 1, then `state_expire` at time 40. -/
def lacpUpThenExpire : List LacpEvent :=
  [.lacpPacket 1 1 slowProtocolMulticast ethTypeSlow (some lacpUpPdu), .stateExpire 40]

theorem lacpPortValve_recorded :
    ∃ w, lacpRun linkDownBit (lacpPortValve.datapathConnect (fun _ _ => []) 0 [1]).1
        lacpUpThenExpire = some w ∧
      LacpRecorded w lacpUpThenExpire ∧
      (∀ later port ethDst ethType pdu, ethDst = slowProtocolMulticast → ethType = ethTypeSlow →
        port.lacp ≠ 0 →
        ((w.lacpHandler later port ethDst ethType (some pdu)).1.dyn.port port.number).dynLacpUp =
          some (lacpActorUp pdu)) ∧
      ∀ later, ∃ downs : List PortConfig,
        List.Perm downs (w.dp.ports.filter fun port => port.lacp ≠ 0 ∧
          (w.dyn.port port.number).dynLacpUp = some 1 ∧ w.lacpExpired later port = true) ∧
        w.lacpStateExpire later = some (Valve.lacpDownEach downs (w, [])) ∧
        (w.stateExpire later).map (·.1) =
          some (if w.dyn.dynRunning then (Valve.lacpDownEach downs (w, [])).1 else w) :=
  lacpUp_recorded lacpPortValve (fun _ _ => []) 0 [1] linkDownBit [] lacpUpThenExpire
    fun _ _ _ up => Option.noConfusion up

end Faucet
