import Faucet.Soundness.PortStatus
import Faucet.Model.Metrics

/-! # The exported learned MACs follow the host cache

For one (VLAN, port) pair, `update_metrics` reads the port's hosts on the VLAN and its stale flag,
and writes the high water and the `learned_macs` series (`PairView`). It keeps two facts
(`PairView.Inv`): no index at or above the high water holds a nonzero value, and where the
port's stats are fresh and the high water is its host count, each index below holds the address
of the host of that rank. `_update_port` either finds the pair fresh, or zeroes from the new host
count up to the old high water and writes every host; everything else leaves the pair alone, and
a change of the hosts marks the port stale. So after dp_init, with no series yet, every call that
reaches `_update_port` for the pair leaves it exporting exactly the sorted hosts, and zero above.
-/

namespace Faucet

/-- What `update_metrics` reads and writes for one (VLAN, port) pair: the port's hosts on the
VLAN, its stale flag, its high water, and its `learned_macs` series. -/
structure PairView where
  hosts : List HostCacheEntry
  stale : Option Bool
  highwater : ℕ
  learnedMacs : ℕ → Option ℕ

/-- The pair (VLAN `vid`, port `portNo`) of a Valve. -/
def Valve.pairView (v : Valve) (vid : Vid) (portNo : PortNo) : PairView :=
  ⟨portVlanHosts (v.dyn.vlan vid) portNo, (v.dyn.vlan vid).hostCacheStatsStale portNo,
    v.portHighwater vid portNo, fun n => v.metrics (.learnedMacs portNo vid n)⟩

namespace PairView

/-- No index at or above the high water holds a nonzero value; where the stats are fresh and the
high water is the host count, each index below holds the address of the host of that rank. -/
structure Inv (lt : HostCacheEntry → HostCacheEntry → Bool) (view : PairView) : Prop where
  zeroAbove : ∀ n, view.highwater ≤ n → (view.learnedMacs n).getD 0 = 0
  exported : view.stale = some false → view.highwater = view.hosts.length →
    ∀ i < view.highwater, view.learnedMacs i = ((sortHosts lt view.hosts)[i]?).map (·.ethSrcInt)

/-- The pair's stats are fresh, and its high water is its host count. -/
def Exported (view : PairView) : Prop :=
  view.stale = some false ∧ view.highwater = view.hosts.length

instance (view : PairView) : Decidable view.Exported := inferInstanceAs (Decidable (_ ∧ _))

/-- An exported pair holds the sorted hosts' addresses below its host count, and zero above. -/
theorem Inv.learnedMacs {lt : HostCacheEntry → HostCacheEntry → Bool} {view : PairView}
    (inv : view.Inv lt) (exported : view.Exported) :
    (∀ i < view.hosts.length,
      view.learnedMacs i = ((sortHosts lt view.hosts)[i]?).map (·.ethSrcInt)) ∧
    ∀ n, view.hosts.length ≤ n → (view.learnedMacs n).getD 0 = 0 := by
  rw [← exported.2]
  exact ⟨inv.exported exported.1 exported.2, inv.zeroAbove⟩

end PairView

@[simp] theorem length_sortHosts (lt : HostCacheEntry → HostCacheEntry → Bool)
    (hosts : List HostCacheEntry) : (sortHosts lt hosts).length = hosts.length :=
  List.length_insertionSort _ _

namespace Valve

section Series

variable (v : Valve) (portNo : PortNo) (vid : Vid)

@[simp] theorem zeroLearnedMacs_dyn (indices : List ℕ) :
    (v.zeroLearnedMacs portNo vid indices).dyn = v.dyn := by
  induction indices generalizing v with
  | nil => rfl
  | cons _ _ ih => exact ih _

@[simp] theorem zeroLearnedMacs_portHighwater (indices : List ℕ) :
    (v.zeroLearnedMacs portNo vid indices).portHighwater = v.portHighwater := by
  induction indices generalizing v with
  | nil => rfl
  | cons _ _ ih => exact ih _

@[simp] theorem zeroLearnedMacs_dp (indices : List ℕ) :
    (v.zeroLearnedMacs portNo vid indices).dp = v.dp := by
  refine foldl_rel (fun a b => b.dp = a.dp) (fun _ => rfl) (fun first second => second.trans first)
    _ (fun _ _ => ?_) _ _
  rfl

@[simp] theorem writeLearnedMacs_dp (hosts : List HostCacheEntry) :
    (v.writeLearnedMacs portNo vid hosts).dp = v.dp := by
  refine foldl_rel (fun a b => b.dp = a.dp) (fun _ => rfl) (fun first second => second.trans first)
    _ (fun _ _ => ?_) _ _
  rfl

/-- Zeroing the pair's indices sets exactly those of its series, and no other series. -/
theorem zeroLearnedMacs_metrics (indices : List ℕ) (series : Series) :
    (v.zeroLearnedMacs portNo vid indices).metrics series =
      if series ∈ indices.map (.learnedMacs portNo vid) then some 0 else v.metrics series := by
  induction indices generalizing v with
  | nil => rfl
  | cons i indices ih =>
    rw [zeroLearnedMacs, List.foldl_cons, ← zeroLearnedMacs, ih]
    by_cases here : series = .learnedMacs portNo vid i
    · simp [here, setVar]
    · simp [here, setVar, Function.update_noteq here]

@[simp] theorem writeLearnedMacs_dyn (hosts : List HostCacheEntry) :
    (v.writeLearnedMacs portNo vid hosts).dyn = v.dyn := by
  suffices loop : ∀ (entries : List (ℕ × HostCacheEntry)) (w : Valve),
      (entries.foldl (fun v entry => v.setVar (.learnedMacs portNo vid entry.1) entry.2.ethSrcInt)
        w).dyn = w.dyn from loop _ v
  intro entries
  induction entries with
  | nil => exact fun _ => rfl
  | cons _ _ ih => exact fun w => ih _

@[simp] theorem writeLearnedMacs_portHighwater (hosts : List HostCacheEntry) :
    (v.writeLearnedMacs portNo vid hosts).portHighwater = v.portHighwater := by
  suffices loop : ∀ (entries : List (ℕ × HostCacheEntry)) (w : Valve),
      (entries.foldl (fun v entry => v.setVar (.learnedMacs portNo vid entry.1) entry.2.ethSrcInt)
        w).portHighwater = w.portHighwater from loop _ v
  intro entries
  induction entries with
  | nil => exact fun _ => rfl
  | cons _ _ ih => exact fun w => ih _

/-- Writing the hosts sets index `n` of the pair's series to the `n`-th host's address, where
there is one, and no other series. -/
theorem writeLearnedMacs_metrics (hosts : List HostCacheEntry) (series : Series) :
    (v.writeLearnedMacs portNo vid hosts).metrics series =
      match series with
      | .learnedMacs q w n =>
        if q = portNo ∧ w = vid then (hosts[n]?.map (·.ethSrcInt)).or (v.metrics series)
        else v.metrics series
      | _ => v.metrics series := by
  suffices loop : ∀ (hosts : List HostCacheEntry) (start : ℕ) (w : Valve),
      ((hosts.enumFrom start).foldl (fun v entry =>
        v.setVar (.learnedMacs portNo vid entry.1) entry.2.ethSrcInt) w).metrics series =
      match series with
      | .learnedMacs q w' n =>
        if q = portNo ∧ w' = vid then
          ((if start ≤ n then hosts[n - start]? else none).map (·.ethSrcInt)).or (w.metrics series)
        else w.metrics series
      | _ => w.metrics series by
    rw [writeLearnedMacs, List.enum, loop hosts 0 v]
    cases series <;> simp
  intro hosts
  induction hosts with
  | nil => intro start w; cases series <;> simp
  | cons host hosts ih =>
    intro start w
    rw [List.enumFrom_cons, List.foldl_cons, ih]
    cases series with
    | learnedMacs q w' n =>
      by_cases pair : q = portNo ∧ w' = vid
      · obtain ⟨rfl, rfl⟩ := pair
        rcases Nat.lt_trichotomy n start with below | rfl | above
        · simp [setVar, below.ne, Nat.not_le.mpr below, Nat.not_le.mpr (Nat.lt_succ_of_lt below)]
        · simp [setVar]
        · have shift : n - start = n - (start + 1) + 1 := by omega
          simp [setVar, above.ne', above.le, Nat.succ_le_of_lt above, shift]
      · simp only [if_neg pair, setVar]
        rw [Function.update_noteq fun same => pair (by cases same; exact ⟨rfl, rfl⟩)]
    | _ => simp [setVar]

end Series

section UpdatePort

variable (v : Valve) (lt : HostCacheEntry → HostCacheEntry → Bool) (vlan : VlanConfig)
  (port : PortConfig)

@[simp] theorem updatePort_dp : (v.updatePort lt vlan port).dp = v.dp := by
  unfold updatePort; dsimp only; split_ifs <;> simp

/-- The test of `_update_port` that the pair has not changed: the high water is the host count
and the stats are fresh. -/
theorem updatePort_unchanged_iff :
    (v.portHighwater vlan.vid port.number = (portVlanHosts (v.dyn.vlan vlan.vid) port.number).length ∧
      ((v.dyn.vlan vlan.vid).hostCacheStatsStale port.number).getD true = false) ↔
    (v.pairView vlan.vid port.number).Exported := by
  unfold PairView.Exported pairView
  cases (v.dyn.vlan vlan.vid).hostCacheStatsStale port.number with
  | none => simp
  | some stale => cases stale <;> simp [and_comm]

/-- `_update_port` on a pair that has not changed only exports counts. -/
theorem updatePort_pairView_of_exported (unchanged : (v.pairView vlan.vid port.number).Exported) :
    (v.updatePort lt vlan port).pairView vlan.vid port.number = v.pairView vlan.vid port.number := by
  rw [updatePort, if_pos ((updatePort_unchanged_iff v vlan port).mpr unchanged)]
  simp [pairView, setVar]

/-- `_update_port` on a pair that has changed: its stats become fresh, its high water the host
count, and its series the sorted hosts' addresses, over zeros from the host count up to the old
high water. -/
theorem updatePort_pairView_of_changed (changed : ¬(v.pairView vlan.vid port.number).Exported) :
    let hosts := portVlanHosts (v.dyn.vlan vlan.vid) port.number
    let highwater := v.portHighwater vlan.vid port.number
    (v.updatePort lt vlan port).pairView vlan.vid port.number =
      ⟨hosts, some false, hosts.length, fun n => ((sortHosts lt hosts)[n]?.map (·.ethSrcInt)).or
        (if hosts.length < highwater ∧ hosts.length ≤ n ∧ n ≤ highwater then some 0
         else v.metrics (.learnedMacs port.number vlan.vid n))⟩ := by
  rw [updatePort, if_neg (mt (updatePort_unchanged_iff v vlan port).mp changed)]
  dsimp only
  split_ifs with above
  · have range : ∀ n, n < (portVlanHosts (v.dyn.vlan vlan.vid) port.number).length +
        (v.portHighwater vlan.vid port.number + 1 -
          (portVlanHosts (v.dyn.vlan vlan.vid) port.number).length) ↔
        n ≤ v.portHighwater vlan.vid port.number := fun n => by omega
    simp [pairView, writeLearnedMacs_metrics, zeroLearnedMacs_metrics, setVar, above, range]
    rfl
  · simp [pairView, writeLearnedMacs_metrics, setVar, above]
    rfl

/-- `_update_port` keeps the pair's invariant and leaves it exported. -/
theorem updatePort_inv_self (inv : (v.pairView vlan.vid port.number).Inv lt) :
    ((v.updatePort lt vlan port).pairView vlan.vid port.number).Inv lt ∧
      ((v.updatePort lt vlan port).pairView vlan.vid port.number).Exported := by
  by_cases unchanged : (v.pairView vlan.vid port.number).Exported
  · rw [updatePort_pairView_of_exported v lt vlan port unchanged]
    exact ⟨inv, unchanged⟩
  · rw [updatePort_pairView_of_changed v lt vlan port unchanged]
    refine ⟨⟨fun n above => ?_, fun _ _ i below => ?_⟩, rfl, rfl⟩
    · dsimp only at above ⊢
      rw [List.getElem?_eq_none (by rwa [length_sortHosts]), Option.map_none', Option.none_or]
      split_ifs with zeroed
      · rfl
      · exact inv.zeroAbove n (by dsimp only [pairView]; omega)
    · dsimp only at below ⊢
      cases ranked : (sortHosts lt (portVlanHosts (v.dyn.vlan vlan.vid) port.number))[i]? with
      | none => exact absurd ranked (by simp [below])
      | some host => rfl

/-- `_update_port` on another pair leaves this one alone. -/
theorem updatePort_pairView_ne {vid : Vid} {portNo : PortNo}
    (other : (vlan.vid, port.number) ≠ (vid, portNo)) :
    (v.updatePort lt vlan port).pairView vid portNo = v.pairView vid portNo := by
  unfold updatePort
  dsimp only
  by_cases sameVid : vid = vlan.vid
  · subst sameVid
    have otherPort : portNo ≠ port.number := fun same => other (by rw [same])
    split_ifs <;> simp [pairView, setVar, writeLearnedMacs_metrics, zeroLearnedMacs_metrics,
      otherPort, Ne.symm otherPort, Function.update_noteq otherPort] <;> rfl
  · split_ifs <;> simp [pairView, setVar, writeLearnedMacs_metrics, zeroLearnedMacs_metrics,
      sameVid, Ne.symm sameVid, Function.update_noteq sameVid]

/-- `_update_port` keeps the pair's invariant; it leaves the pair exported if it was, or if it
is the pair updated. -/
theorem updatePort_keeps {vid : Vid} {portNo : PortNo} (inv : (v.pairView vid portNo).Inv lt) :
    ((v.updatePort lt vlan port).pairView vid portNo).Inv lt ∧
      ((v.pairView vid portNo).Exported ∨ (vlan.vid, port.number) = (vid, portNo) →
        ((v.updatePort lt vlan port).pairView vid portNo).Exported) := by
  by_cases same : (vlan.vid, port.number) = (vid, portNo)
  · obtain ⟨rfl, rfl⟩ := Prod.mk.inj same
    exact ⟨(updatePort_inv_self v lt vlan port inv).1, fun _ => (updatePort_inv_self v lt vlan port inv).2⟩
  · rw [updatePort_pairView_ne v lt vlan port same]
    exact ⟨inv, fun exported => exported.resolve_right same⟩

end UpdatePort

section Frames

variable (v : Valve) (vid : Vid) (portNo : PortNo)

theorem updateVlan_pairView (vlan : VlanConfig) (now : Time) (rateLimited : Bool) :
    (v.updateVlan vlan now rateLimited).1.pairView vid portNo = v.pairView vid portNo := by
  unfold updateVlan
  dsimp only
  split
  · rfl
  · have counts : ((v.setVar (.vlanHostsLearned vlan.vid) (v.dyn.vlan vlan.vid).hostCache.length).setVar
        (.vlanLearnBans vlan.vid) (v.dyn.vlan vlan.vid).dynLearnBanCount).pairView vid portNo =
        v.pairView vid portNo := by
      simp [pairView, setVar]
    exact (foldl_rel (fun a b => b.pairView vid portNo = a.pairView vid portNo) (fun _ => rfl)
      (fun first second => second.trans first) _ (fun w _ => by simp [pairView, setVar]) _ _).trans
      counts

theorem setLastUpdatedMetrics_pairView (vid' : Vid) (now : Time) :
    (v.setLastUpdatedMetrics vid' now).pairView vid portNo = v.pairView vid portNo := by
  by_cases same : vid = vid'
  · subst same
    simp [pairView, setLastUpdatedMetrics]
    rfl
  · simp [pairView, setLastUpdatedMetrics, same]

/-- A change of the VLAN's hosts that marks the port stale whenever its hosts change keeps the
pair's invariant. -/
theorem hostsChanged_inv {lt : HostCacheEntry → HostCacheEntry → Bool} {vid' : Vid}
    {hostCache : List HostCacheEntry} {marked : List PortNo} (inv : (v.pairView vid portNo).Inv lt)
    (marks : vid' = vid → portVlanHosts { v.dyn.vlan vid with hostCache := hostCache } portNo ≠
      portVlanHosts (v.dyn.vlan vid) portNo → portNo ∈ marked) :
    ((v.hostsChanged vid' hostCache marked).pairView vid portNo).Inv lt := by
  by_cases same : vid' = vid
  · subst same
    by_cases stale : portNo ∈ marked
    · exact ⟨inv.zeroAbove, fun fresh => by simp [pairView, hostsChanged, stale] at fresh⟩
    · have kept : portVlanHosts { v.dyn.vlan vid' with hostCache := hostCache } portNo =
          portVlanHosts (v.dyn.vlan vid') portNo := of_not_not (mt (marks rfl) stale)
      have unchanged : (v.hostsChanged vid' hostCache marked).pairView vid' portNo =
          v.pairView vid' portNo := by
        simp only [pairView, hostsChanged, DPDyn.setVlan_vlan_self, stale, if_false]
        exact congrArg (PairView.mk · _ _ _) kept
      rwa [unchanged]
  · have unchanged : (v.hostsChanged vid' hostCache marked).pairView vid portNo =
        v.pairView vid portNo := by
      simp [pairView, hostsChanged, Ne.symm same]
    rwa [unchanged]

end Frames

section UpdateMetrics

variable (lt : HostCacheEntry → HostCacheEntry → Bool) (vid : Vid) (portNo : PortNo)

/-- The pair's invariant, and that it is exported once `_update_port` has run on it. -/
def Keeps (acc : Valve × List (Vid × PortNo)) : Prop :=
  (acc.1.pairView vid portNo).Inv lt ∧ ((vid, portNo) ∈ acc.2 → (acc.1.pairView vid portNo).Exported)

/-- `_update_port` on each port of a VLAN in turn. -/
theorem foldl_updatePort_keeps (vlan : VlanConfig) :
    ∀ (ports : List PortConfig) (w : Valve), (w.pairView vid portNo).Inv lt →
      ((ports.foldl (fun v port => v.updatePort lt vlan port) w).pairView vid portNo).Inv lt ∧
      ((w.pairView vid portNo).Exported ∨ (vid, portNo) ∈ ports.map (fun port => (vlan.vid, port.number)) →
        ((ports.foldl (fun v port => v.updatePort lt vlan port) w).pairView vid portNo).Exported)
  | [], w, inv => ⟨inv, fun exported => exported.resolve_right (List.not_mem_nil _)⟩
  | port :: ports, w, inv => by
    obtain ⟨inv', exported'⟩ := updatePort_keeps w lt vlan port inv
    obtain ⟨inv'', exported''⟩ := foldl_updatePort_keeps vlan ports _ inv'
    refine ⟨inv'', fun exported => exported'' ?_⟩
    rcases exported with exported | visited
    · exact .inl (exported' (.inl exported))
    · rcases List.mem_cons.mp visited with here | there
      · exact .inl (exported' (.inr here.symm))
      · exact .inr there

/-- `update_metrics` keeps the pair's invariant, and leaves it exported if it ran `_update_port`
on it. -/
theorem updateMetrics_keeps (v : Valve) (now : Time) (updatedPort : Option PortConfig)
    (rateLimited : Bool) (inv : (v.pairView vid portNo).Inv lt) :
    Keeps lt vid portNo (v.updateMetrics lt now updatedPort rateLimited) := by
  suffices loop : ∀ {α : Type} (step : Valve × List (Vid × PortNo) → α → Valve × List (Vid × PortNo)),
      (∀ acc item, Keeps lt vid portNo acc → Keeps lt vid portNo (step acc item)) →
      ∀ (items : List α) acc, Keeps lt vid portNo acc → Keeps lt vid portNo (items.foldl step acc) by
    unfold updateMetrics
    have start : Keeps lt vid portNo (v, []) := ⟨inv, fun visited => absurd visited (List.not_mem_nil _)⟩
    split
    · rename_i port
      refine loop _ (fun acc vlan keeps => ?_) _ _ start
      have exported := updateVlan_pairView acc.1 vid portNo vlan now rateLimited
      dsimp only
      split
      · obtain ⟨inv', exported'⟩ := updatePort_keeps (acc.1.updateVlan vlan now rateLimited).1 lt vlan
          port (exported ▸ keeps.1)
        refine ⟨(setLastUpdatedMetrics_pairView _ vid portNo _ _).symm ▸ inv', fun visited => ?_⟩
        rw [setLastUpdatedMetrics_pairView]
        rcases List.mem_append.mp visited with before | here
        · exact exported' (.inl (exported ▸ keeps.2 before))
        · exact exported' (.inr (List.mem_singleton.mp here).symm)
      · exact ⟨exported ▸ keeps.1, fun visited => exported ▸ keeps.2 visited⟩
    · refine loop _ (fun acc vlan keeps => ?_) _ _ start
      have exported := updateVlan_pairView acc.1 vid portNo vlan now rateLimited
      dsimp only
      split
      · obtain ⟨inv', exported'⟩ := foldl_updatePort_keeps lt vid portNo vlan _
          (acc.1.updateVlan vlan now rateLimited).1 (exported ▸ keeps.1)
        refine ⟨(setLastUpdatedMetrics_pairView _ vid portNo _ _).symm ▸ inv', fun visited => ?_⟩
        rw [setLastUpdatedMetrics_pairView]
        rcases List.mem_append.mp visited with before | here
        · exact exported' (.inl (exported ▸ keeps.2 before))
        · exact exported' (.inr here)
      · exact ⟨exported ▸ keeps.1, fun visited => exported ▸ keeps.2 visited⟩
  intro α step preserves items
  induction items with
  | nil => exact fun _ keeps => keeps
  | cons item items ih => exact fun acc keeps => ih _ (preserves acc item keeps)

end UpdateMetrics

section Visits

variable (v : Valve) (lt : HostCacheEntry → HostCacheEntry → Bool) (now : Time)

@[simp] theorem updateVlan_dp (vlan : VlanConfig) (rateLimited : Bool) :
    (v.updateVlan vlan now rateLimited).1.dp = v.dp := by
  unfold updateVlan; dsimp only; split
  · rfl
  · refine foldl_rel (fun a b => b.dp = a.dp) (fun _ => rfl) (fun first second => second.trans first)
      _ (fun _ _ => ?_) _ _
    rfl

/-- Unless rate limited, `_update_vlan` exports. -/
@[simp] theorem updateVlan_unlimited (vlan : VlanConfig) : (v.updateVlan vlan now false).2 = true := by
  simp [updateVlan]

@[simp] theorem foldl_updatePort_dp (vlan : VlanConfig) (ports : List PortConfig) :
    (ports.foldl (fun v port => v.updatePort lt vlan port) v).dp = v.dp :=
  foldl_rel (fun a b => b.dp = a.dp) (fun _ => rfl) (fun first second => second.trans first) _
    (fun w _ => updatePort_dp w lt vlan _) _ _

@[simp] theorem setLastUpdatedMetrics_dp (vid : Vid) : (v.setLastUpdatedMetrics vid now).dp = v.dp :=
  rfl

/-- A loop over items that keeps the DP and appends, at each item, the pairs the item visits. -/
theorem foldl_visited {α : Type} (dp : DPConfig)
    (f : Valve × List (Vid × PortNo) → α → Valve × List (Vid × PortNo))
    (visit : α → List (Vid × PortNo))
    (step : ∀ acc item, acc.1.dp = dp → (f acc item).1.dp = dp ∧ (f acc item).2 = acc.2 ++ visit item) :
    ∀ (items : List α) (acc : Valve × List (Vid × PortNo)), acc.1.dp = dp →
      (items.foldl f acc).2 = acc.2 ++ items.flatMap visit
  | [], acc, _ => (List.append_nil _).symm
  | item :: items, acc, onDp => by
    obtain ⟨onDp', grown⟩ := step acc item onDp
    rw [List.foldl_cons, foldl_visited dp f visit step items _ onDp', grown, List.flatMap_cons,
      List.append_assoc]

/-- Unless rate limited, `update_metrics` without an updated port runs `_update_port` on every
port of every VLAN of the DP, VLAN by VLAN. -/
theorem updateMetrics_visits_all :
    (v.updateMetrics lt now none false).2 = v.dp.vlans.flatMap fun vlan =>
      (vlan.ports.filterMap v.dp.port?).map fun port => (vlan.vid, port.number) := by
  simp only [updateMetrics]
  refine (foldl_visited v.dp _ _ (fun acc vlan onDp => ?_) _ (v, []) rfl).trans (List.nil_append _)
  simp only [updateVlan_unlimited, if_true, setLastUpdatedMetrics_dp, foldl_updatePort_dp,
    updateVlan_dp, onDp, and_self]

/-- Unless rate limited, `update_metrics` with an updated port runs `_update_port` on the port in
each of its VLANs of the DP. -/
theorem updateMetrics_visits_port (port : PortConfig) :
    (v.updateMetrics lt now (some port) false).2 =
      (port.vlans.filterMap v.dp.vlan?).map fun vlan => (vlan.vid, port.number) := by
  simp only [updateMetrics]
  rw [List.map_eq_flatMap]
  refine (foldl_visited v.dp _ _ (fun acc vlan onDp => ?_) _ (v, []) rfl).trans (List.nil_append _)
  simp only [updateVlan_unlimited, if_true, setLastUpdatedMetrics_dp, updatePort_dp,
    updateVlan_dp, onDp, and_self]

end Visits

end Valve

/-- What runs between `update_metrics` calls that touches the pairs: a call itself, or a change
of a VLAN's host cache, marking some ports stale. -/
inductive MetricsEvent
  | updateMetrics (now : Time) (updatedPort : Option PortConfig) (rateLimited : Bool)
  | hostsChanged (vid : Vid) (hostCache : List HostCacheEntry) (marked : List PortNo)

/-- One event. -/
def metricsStep (lt : HostCacheEntry → HostCacheEntry → Bool) (v : Valve) : MetricsEvent → Valve
  | .updateMetrics now updatedPort rateLimited => (v.updateMetrics lt now updatedPort rateLimited).1
  | .hostsChanged vid hostCache marked => v.hostsChanged vid hostCache marked

/-- A run of events. -/
def metricsRun (lt : HostCacheEntry → HostCacheEntry → Bool) (v : Valve) (events : List MetricsEvent) :
    Valve :=
  events.foldl (metricsStep lt) v

/-- An event that changes the hosts of port `portNo` on VLAN `vid` marks the port stale. -/
def MarksChange (vid : Vid) (portNo : PortNo) (v : Valve) : MetricsEvent → Prop
  | .hostsChanged vid' hostCache marked => vid' = vid →
    portVlanHosts { v.dyn.vlan vid with hostCache := hostCache } portNo ≠
      portVlanHosts (v.dyn.vlan vid) portNo → portNo ∈ marked
  | .updateMetrics .. => True

/-- Every event of a run that changes the hosts of port `portNo` on VLAN `vid` marks the port
stale. -/
def MarksChanges (lt : HostCacheEntry → HostCacheEntry → Bool) (vid : Vid) (portNo : PortNo) :
    Valve → List MetricsEvent → Prop
  | _, [] => True
  | v, e :: events => MarksChange vid portNo v e ∧ MarksChanges lt vid portNo (metricsStep lt v e) events

/-- Over a run that marks every change of the port's hosts, the pair's invariant holds
throughout. -/
theorem metricsRun_inv (lt : HostCacheEntry → HostCacheEntry → Bool) (vid : Vid) (portNo : PortNo) :
    ∀ (events : List MetricsEvent) (v : Valve), (v.pairView vid portNo).Inv lt →
      MarksChanges lt vid portNo v events → ((metricsRun lt v events).pairView vid portNo).Inv lt
  | [], _, inv, _ => inv
  | e :: events, v, inv, marks => by
    refine metricsRun_inv lt vid portNo events _ ?_ marks.2
    cases e with
    | updateMetrics now updatedPort rateLimited =>
      exact (Valve.updateMetrics_keeps lt vid portNo v now updatedPort rateLimited inv).1
    | hostsChanged vid' hostCache marked => exact Valve.hostsChanged_inv v vid portNo inv marks.1

/-- After `dp_init` with no `learned_macs` series for a (VLAN, port) pair, and over any run of
`update_metrics` calls and host-cache changes that mark the port stale whenever its hosts on the
VLAN change: no index at or above the pair's high water holds a nonzero value; and an
`update_metrics` call that runs `_update_port` on the pair leaves index `i` at the address of the
`i`-th host in sorted order below the port's host count, and every index above at zero. -/
theorem learnedMacs_follow_hosts (v : Valve) (newDp : Option DPConfig)
    (lt : HostCacheEntry → HostCacheEntry → Bool) (vid : Vid) (portNo : PortNo)
    (noSeries : ∀ n, v.metrics (.learnedMacs portNo vid n) = none) (events : List MetricsEvent)
    (marks : MarksChanges lt vid portNo (v.dpInit newDp) events) (now : Time)
    (updatedPort : Option PortConfig) (rateLimited : Bool) :
    let before := metricsRun lt (v.dpInit newDp) events
    let after := before.updateMetrics lt now updatedPort rateLimited
    let hosts := portVlanHosts (after.1.dyn.vlan vid) portNo
    (∀ n, before.portHighwater vid portNo ≤ n →
      (before.metrics (.learnedMacs portNo vid n)).getD 0 = 0) ∧
    ((vid, portNo) ∈ after.2 →
      (∀ i < hosts.length, after.1.metrics (.learnedMacs portNo vid i) =
        ((sortHosts lt hosts)[i]?).map (·.ethSrcInt)) ∧
      ∀ n, hosts.length ≤ n → (after.1.metrics (.learnedMacs portNo vid n)).getD 0 = 0) := by
  have start : ((v.dpInit newDp).pairView vid portNo).Inv lt :=
    ⟨fun n _ => by simp [Valve.pairView, Valve.dpInit, noSeries], fun _ _ _ below => absurd below
      (Nat.not_lt_zero _)⟩
  have inv := metricsRun_inv lt vid portNo events _ start marks
  obtain ⟨inv', exported⟩ := Valve.updateMetrics_keeps lt vid portNo _ now updatedPort rateLimited inv
  exact ⟨inv.zeroAbove, fun visited => inv'.learnedMacs (exported visited)⟩

/-- Order hosts by address. -/
def byAddress : HostCacheEntry → HostCacheEntry → Bool := fun a b => a.ethSrcInt < b.ethSrcInt

theorem oneVlanPortValve_learnedMacs :
    let before := metricsRun byAddress (oneVlanPortValve.dpInit none)
      [.hostsChanged 100 [⟨5, 1, 0⟩, ⟨3, 1, 0⟩] [1]]
    let after := before.updateMetrics byAddress 0 none false
    let hosts := portVlanHosts (after.1.dyn.vlan 100) 1
    (100, 1) ∈ after.2 ∧ (∀ n, before.portHighwater 100 1 ≤ n →
      (before.metrics (.learnedMacs 1 100 n)).getD 0 = 0) ∧
    ((100, 1) ∈ after.2 →
      (∀ i < hosts.length, after.1.metrics (.learnedMacs 1 100 i) =
        ((sortHosts byAddress hosts)[i]?).map (·.ethSrcInt)) ∧
      ∀ n, hosts.length ≤ n → (after.1.metrics (.learnedMacs 1 100 n)).getD 0 = 0) :=
  ⟨by decide, learnedMacs_follow_hosts oneVlanPortValve none byAddress 100 1 (fun _ => rfl)
    [.hostsChanged 100 [⟨5, 1, 0⟩, ⟨3, 1, 0⟩] [1]] ⟨fun _ _ => List.mem_singleton_self 1, trivial⟩
    0 none false⟩

end Faucet
