import Darling.Lifecycle.Preparation

/-! Conformance of the two replays: exactly which documents they treat alike. -/
namespace Darling.Lifecycle

open Oracle (Runtime AnchoredCapability isClosed)

/-! ### Checks after the event loop -/

theorem conclude_ok {doc : Document} {limits : Limits} {final : ReplayState} {result : Replay} :
    conclude doc limits final = .ok result ↔ final.terminalSeen = true ∧
      final.reducer.terminal = some doc.expected.outcome ∧
      doc.expected.state = final.reducer.snapshot ∧
      final.reducer.live = ownershipMap doc.expected.liveCapabilities ∧
      doc.expected.invariants.toFinset = invariantRegistry ∧
      invariantRegistry ⊆ invariantNames final.reducer doc.events.length final.previousTime limits ∧
      doc.recoveryObservations = final.reducer.observations ∧
      result = ⟨doc.traceId, doc.expected.outcome, final.reducer.snapshot,
        final.reducer.observations, final.reducer.live, final.reducer.obligations,
        invariantRegistry⟩ := by
  have subset : invariantNames final.reducer doc.events.length final.previousTime limits ⊆
      invariantRegistry := Finset.sdiff_subset
  have terminal : ∀ outcome, readTerminal final.reducer = .ok outcome ↔
      final.reducer.terminal = some outcome := by
    intro outcome
    unfold readTerminal
    split <;> simp_all
  simp only [conclude, check, bind_ok, require_ok, exists_const, pure_ok, terminal]
  constructor
  · rintro ⟨seen, outcome, reached, ⟨rfl, state⟩, live, registry, satisfied, observations, rfl⟩
    rw [registry] at satisfied
    exact ⟨seen, reached, state, live, registry, satisfied, observations, by
      rw [subset.antisymm satisfied]⟩
  · rintro ⟨seen, reached, state, live, registry, satisfied, observations, rfl⟩
    refine ⟨seen, _, reached, ⟨rfl, state⟩, live, registry, registry ▸ satisfied, observations, ?_⟩
    rw [subset.antisymm satisfied]

def tableNames : List String := [
  "no-raw-path-authority", "no-unvalidated-fd", "stable-journal-independent",
  "total-recovery-matrix", "identity-before-signal", "no-children-after-gone",
  "shared-lease-bound", "pidfd-identity-before-signal", "late-fork-closes-snapshot",
  "bounded-replay", "terminal-trace"]

theorem invariantTable_names (p : Runtime) (doc : Document) :
    (Oracle.invariantTable p doc).map Prod.fst = tableNames := rfl

theorem tableNames_registry : tableNames.toFinset = invariantRegistry := by decide

theorem tableNames_nodup : tableNames.Nodup := by decide

theorem invariants_subset (p : Runtime) (doc : Document) :
    Oracle.invariants p doc ⊆ invariantRegistry := by
  intro name member
  rw [← tableNames_registry, ← invariantTable_names p doc]
  simp only [Oracle.invariants, List.mem_toFinset, List.mem_map, List.mem_filter] at member ⊢
  obtain ⟨entry, ⟨listed, _⟩, same⟩ := member
  exact ⟨entry, listed, same⟩

theorem invariants_complete {p : Runtime} {doc : Document} :
    invariantRegistry ⊆ Oracle.invariants p doc ↔
      ∀ entry ∈ Oracle.invariantTable p doc, entry.2 = true := by
  have nodup : ((Oracle.invariantTable p doc).map Prod.fst).Nodup := tableNames_nodup
  rw [← tableNames_registry, ← invariantTable_names p doc]
  constructor
  · intro complete entry listed
    have named : entry.1 ∈ ((Oracle.invariantTable p doc).map Prod.fst).toFinset :=
      List.mem_toFinset.mpr (List.mem_map_of_mem listed)
    have satisfied := complete named
    simp only [Oracle.invariants, List.mem_toFinset, List.mem_map, List.mem_filter] at satisfied
    obtain ⟨other, ⟨also, holds⟩, same⟩ := satisfied
    rwa [List.inj_on_of_nodup_map nodup also listed same] at holds
  · intro holds name named
    simp only [Oracle.invariants, List.mem_toFinset, List.mem_map, List.mem_filter] at named ⊢
    obtain ⟨entry, listed, same⟩ := named
    exact ⟨entry, ⟨listed, holds entry listed⟩, same⟩

theorem oracle_conclude_ok {doc : Document} {p : Runtime} {result : Oracle.ReplayResult} :
    Oracle.conclude doc p = .ok result ↔
      doc.events.getLast?.any (fun event => event.data.isTerminal) = true ∧
      ¬(p.terminalOutcome = some .success ∧ ∃ item ∈ p.obligations, Oracle.unresolved item = true) ∧
      p.terminalOutcome = some doc.expected.outcome ∧ doc.expected.state = p.snapshot ∧
      doc.expected.invariants.toFinset = invariantRegistry ∧
      invariantRegistry ⊆ Oracle.invariants p doc ∧
      (∀ item ∈ doc.expected.liveCapabilities, Oracle.validOwnership item = true) ∧
      Multiset.ofList (doc.expected.liveCapabilities.map
        fun item => (⟨item.capability, item.owner⟩ : Sigma fun _ : String => String)) = p.live.entries ∧
      doc.recoveryObservations = p.recoveryObservations ∧
      result = ⟨doc.traceId, doc.expected.outcome, p.snapshot, p.recoveryActions,
        p.recoveryObservations, p.live, p.obligations, invariantRegistry,
        p.operationRejectionSeen, p.operationRecoverySeen⟩ := by
  have subset := invariants_subset p doc
  simp only [Oracle.conclude, bind_ok, require_ok, exists_const, pure_ok]
  constructor
  · rintro ⟨last, sound, outcome, state, registry, satisfied, valid, live, observations, rfl⟩
    rw [registry] at satisfied
    exact ⟨last, sound, outcome, state, registry, satisfied, valid, live, observations, by
      rw [subset.antisymm satisfied]⟩
  · rintro ⟨last, sound, outcome, state, registry, satisfied, valid, live, observations, rfl⟩
    refine ⟨last, sound, outcome, state, registry, registry ▸ satisfied, valid, live, observations, ?_⟩
    rw [subset.antisymm satisfied]

theorem registry_kept {removed : Finset String} (known : removed ⊆ invariantRegistry) :
    invariantRegistry ⊆ invariantRegistry \ removed ↔ removed = ∅ := by
  constructor
  · intro kept
    apply Finset.eq_empty_of_forall_notMem
    intro name gone
    exact (Finset.mem_sdiff.mp (kept (known gone))).2 gone
  · rintro rfl
    simp

theorem ite_names_subset {condition : Prop} [Decidable condition] {names : Finset String}
    (known : names ⊆ invariantRegistry) : (if condition then names else ∅) ⊆ invariantRegistry := by
  split
  · exact known
  · exact Finset.empty_subset _

theorem ite_names_empty {condition : Prop} [Decidable condition] {names : Finset String}
    (some_ : names ≠ ∅) : (if condition then names else ∅) = ∅ ↔ ¬condition := by
  split <;> simp_all

theorem invariantNames_complete {r : Reducer} {count time : Nat} {limits : Limits} :
    invariantRegistry ⊆ invariantNames r count time limits ↔
      r.signalWithoutIdentity = false ∧ r.membershipSeenAfterGone = false ∧
      ¬(r.terminal = some .success ∧ sharedLeaseHeld r = true) ∧ lateForkOk r = true ∧
      count ≤ limits.maxEvents ∧ time ≤ limits.maxVirtualTimeNs ∧
      r.live.keys.card ≤ limits.maxLiveCapabilities ∧
      r.observations.length ≤ limits.maxRecoverySteps := by
  unfold invariantNames
  rw [registry_kept]
  · simp only [Finset.union_eq_empty]
    rw [ite_names_empty (by decide), ite_names_empty (by decide), ite_names_empty (by decide),
      ite_names_empty (by decide), ite_names_empty (by decide)]
    simp only [Bool.not_eq_true, Bool.not_eq_true', Bool.not_eq_false, not_or, not_lt, and_assoc]
  · refine Finset.union_subset (Finset.union_subset (Finset.union_subset (Finset.union_subset
      ?_ ?_) ?_) ?_) ?_ <;> exact ite_names_subset (by decide)

/-! ### Ownership lists -/

/-- An ownership item as a map entry. -/
def Ownership.pair (item : Ownership) : Sigma fun _ : String => String := ⟨item.capability, item.owner⟩

theorem ownership_fold_entries {items : List Ownership} {owners : Owners}
    (once : (items.map Ownership.capability).Nodup)
    (apart : ∀ item ∈ items, item.capability ∉ owners) :
    (items.foldl (fun owners item => owners.insert item.capability item.owner) owners).entries =
      owners.entries + Multiset.ofList (items.map Ownership.pair) := by
  induction items generalizing owners with
  | nil => simp
  | cons item rest ih =>
    simp only [List.map_cons, List.nodup_cons] at once
    have fresh := apart item List.mem_cons_self
    have later : ∀ other ∈ rest, other.capability ∉ owners.insert item.capability item.owner := by
      intro other listed inserted
      rcases Finmap.mem_insert.mp inserted with same | old
      · exact once.1 (same ▸ List.mem_map_of_mem listed)
      · exact apart other (List.mem_cons_of_mem _ listed) old
    rw [List.foldl_cons, ih once.2 later, Finmap.entries_insert_of_notMem fresh, List.map_cons,
      ← Multiset.cons_coe, Multiset.cons_add, Multiset.add_cons]
    rfl

theorem ownershipMap_iff {items : List Ownership} {owners : Owners}
    (once : (items.map Ownership.capability).Nodup) :
    owners = ownershipMap items ↔ Multiset.ofList (items.map Ownership.pair) = owners.entries := by
  have entries : (ownershipMap items).entries = Multiset.ofList (items.map Ownership.pair) := by
    have entries := @ownership_fold_entries items ∅ once (by simp [Finmap.notMem_empty])
    exact entries.trans (zero_add _)
  rw [← entries]
  exact ⟨fun same => by rw [same], fun same => (Finmap.ext same).symm⟩

theorem entries_once {items : List Ownership} {owners : Owners}
    (same : Multiset.ofList (items.map Ownership.pair) = owners.entries) :
    (items.map Ownership.capability).Nodup := by
  have keys := owners.nodupKeys
  rw [← same, Multiset.coe_nodupKeys] at keys
  simpa [List.NodupKeys, List.keys, Ownership.pair, Function.comp_def] using keys

/-! ### The last round -/

theorem replayEvents_last {events : List TraceEvent} {last : TraceEvent} {limits : Limits}
    {index : Nat} {s s' : ReplayState} (ends : events.getLast? = some last)
    (run : replayEvents s.reducer.catalog limits index s events = .ok s') :
    ∃ index before, ReducerRound limits index before last s' := by
  induction events generalizing index s with
  | nil => simp at ends
  | cons event rest ih =>
    simp only [replayEvents, bind_ok] at run
    obtain ⟨middle, first, more⟩ := run
    have round := replayEvent_iff.mp first
    cases rest with
    | nil =>
      cases more
      simp only [List.getLast?_singleton, Option.some.injEq] at ends
      exact ⟨index, s, ends ▸ round⟩
    | cons next later =>
      rw [← round.step.grows.catalog] at more
      exact ih (by simpa using ends) more

/-- A terminal event is only accepted as a success without unresolved obligations. -/
theorem terminal_sound {r after : Reducer} {data : EventData} (step : ReducerStep r data after)
    (terminal : data.isTerminal = true) (success : after.terminal = some .success) :
    unresolved after = false := by
  cases data with
  | terminal outcome =>
    cases step.step rfl with
    | terminal sound => exact sound (by simpa using success)
  | _ => simp [EventData.isTerminal] at terminal

theorem Sim.sharedLeaseHeld {r : Reducer} {p : Runtime} (sim : Sim r p) :
    Oracle.sharedLeaseHeld p = sharedLeaseHeld r := by
  simp only [Oracle.sharedLeaseHeld, Lifecycle.sharedLeaseHeld, decide_eq_decide, sim.live,
    Oracle.kindOf, sim.catalog]
  refine exists_congr fun id => and_congr_right fun _ => ?_
  cases p.catalog.lookup id <;> simp [AnchoredCapability.entry]

theorem Sim.lateForkOk {r : Reducer} {p : Runtime} (sim : Sim r p) :
    Oracle.lateForkOk p = lateForkOk r := by
  have empty : p.recoveryActions.isEmpty = r.observations.isEmpty := by
    rw [Bool.eq_iff_iff, List.isEmpty_iff_length_eq_zero, List.isEmpty_iff_length_eq_zero, sim.steps]
  have obligation : Obligation.lateForkRecovery ∈ p.obligations ↔
      Obligation.lateForkRecovery ∈ r.obligations := by
    simp [sim.obligations, Obligation.isCompanion]
  simp only [Oracle.lateForkOk, Lifecycle.lateForkOk, sim.lateForkSeen, sim.lateForkAfterClosed,
    sim.lateForkFaultSeen, empty, obligation]

/-- No obligation is left that only the reducer records. -/
def NoCompanion (r : Reducer) : Prop := ∀ item ∈ r.obligations, item.isCompanion = false

section Conclusions

variable {doc : Document} {limits : Limits} {seeds : Owners} {final : ReplayState}
  {o : Runtime × Int} {last : TraceEvent} {index : Nat} {before : ReplayState}
  (same : SameLimits limits doc.budget) (related : Related seeds [] final o)
  (ends : doc.events.getLast? = some last) (round : ReducerRound limits index before last final)
include same related ends round

/-- Given what the event loop has checked, both final invariant tables come down to the
shared lease and the late fork. -/
theorem invariants_agree (count : doc.events.length ≤ limits.maxEvents)
    (terminal : final.terminalSeen = true)
    (outcome : final.reducer.terminal = some doc.expected.outcome) :
    invariantRegistry ⊆ invariantNames final.reducer doc.events.length final.previousTime limits ↔
      invariantRegistry ⊆ Oracle.invariants o.1 doc := by
  have time : last.timeNs.value ≤ doc.budget.maxVirtualTimeNs.value := by
    rw [← same.time, (asU64_value round.time).2.2]
    exact round.bounded
  have bounded : decide (doc.events.length ≤ doc.budget.maxEvents.value ∧
      (∀ event ∈ doc.events.getLast?, event.timeNs.value ≤ doc.budget.maxVirtualTimeNs.value) ∧
      o.1.live.keys.card ≤ doc.budget.maxLiveCapabilities.value ∧
      o.1.recoveryActions.length ≤ doc.budget.maxRecoverySteps.value) = true := by
    rw [decide_eq_true_eq]
    refine ⟨same.events ▸ count, ?_, ?_, ?_⟩
    · simpa [ends] using time
    · rw [related.sim.live, ← same.live]
      exact round.live
    · rw [related.sim.steps, ← same.steps]
      exact round.steps
  have ended : (doc.events.getLast?.any (fun event => event.data.isTerminal) &&
      final.reducer.terminal.isSome) = true := by
    rw [ends, outcome]
    simpa [round.terminal] using terminal
  rw [invariantNames_complete, invariants_complete]
  simp only [Oracle.invariantTable, bounded, ended, related.sim.identified.1, related.sim.quiet.1,
    related.sim.identified.2, related.sim.quiet.2, related.sim.sharedLeaseHeld, related.sim.lateForkOk,
    related.sim.terminal, List.mem_cons, forall_eq_or_imp, List.not_mem_nil, false_implies,
    implies_true, and_true, Bool.not_false, true_and, Bool.not_eq_true', Bool.and_eq_false_iff,
    decide_eq_false_iff_not]
  constructor
  · rintro ⟨lease, late, _⟩
    refine ⟨?_, late⟩
    by_cases success : final.reducer.terminal = some .success
    · exact Or.inr (by simpa [success] using lease)
    · exact Or.inl success
  · rintro ⟨lease, late⟩
    refine ⟨?_, late, count, round.bounded, round.live, round.steps⟩
    rintro ⟨success, held⟩
    rcases lease with other | free
    · exact other success
    · simp [held] at free

theorem conclude_of_reducer (schema : SatisfiesSchema doc)
    (once : (doc.expected.liveCapabilities.map Ownership.capability).Nodup)
    (count : doc.events.length ≤ limits.maxEvents) {result : Replay}
    (done : conclude doc limits final = .ok result) :
    ∃ other, Oracle.conclude doc o.1 = .ok other := by
  obtain ⟨seen, outcome, state, live, registry, satisfied, observations, _⟩ := conclude_ok.mp done
  have sim := related.sim
  refine ⟨_, oracle_conclude_ok.mpr ⟨?_, ?_, ?_, ?_, registry, ?_, ?_, ?_, ?_, rfl⟩⟩
  · rw [ends]
    simpa [round.terminal] using seen
  · rintro ⟨success, item, member, open_⟩
    have resolved := terminal_sound round.step (round.terminal.symm.trans seen)
      (sim.terminal.symm.trans success)
    rw [sim.unresolved_iff.mpr ⟨item, member, open_⟩] at resolved
    contradiction
  · rw [sim.terminal, outcome]
  · rw [sim.snapshot, state]
  · exact (invariants_agree same related ends round count seen outcome).mp satisfied
  · exact fun item listed => validOwnership_patterns (schema.expectedLive item listed)
  · rw [sim.live]
    exact (ownershipMap_iff once).mp live
  · rw [sim.observations, observations]

theorem conclude_of_oracle (count : doc.events.length ≤ limits.maxEvents)
    {other : Oracle.ReplayResult} (done : Oracle.conclude doc o.1 = .ok other) :
    ∃ result, conclude doc limits final = .ok result := by
  obtain ⟨ended, _, outcome, state, registry, satisfied, _, live, observations, _⟩ :=
    oracle_conclude_ok.mp done
  have sim := related.sim
  have once : (doc.expected.liveCapabilities.map Ownership.capability).Nodup := entries_once live
  have seen : final.terminalSeen = true := by
    rw [round.terminal]
    simpa [ends] using ended
  have reached : final.reducer.terminal = some doc.expected.outcome := sim.terminal ▸ outcome
  refine ⟨_, conclude_ok.mpr ⟨seen, reached, ?_, ?_, registry, ?_, ?_, rfl⟩⟩
  · rw [state, sim.snapshot]
  · rw [ownershipMap_iff once, ← sim.live]
    exact live
  · exact (invariants_agree same related ends round count seen reached).mpr satisfied
  · rw [observations, sim.observations]

end Conclusions

/-- Both concluded: the results differ exactly by what only the reducer records. -/
theorem conclusions_equal {doc : Document} {limits : Limits} {seeds : Owners} {final : ReplayState}
    {o : Runtime × Int} (related : Related seeds [] final o) {result : Replay}
    {other : Oracle.ReplayResult} (reducer : conclude doc limits final = .ok result)
    (oracle : Oracle.conclude doc o.1 = .ok other) :
    result = other.shared ↔ NoCompanion final.reducer := by
  obtain ⟨_, _, _, _, _, _, _, rfl⟩ := conclude_ok.mp reducer
  obtain ⟨_, _, _, _, _, _, _, _, _, rfl⟩ := oracle_conclude_ok.mp oracle
  have sim := related.sim
  simp only [Oracle.ReplayResult.shared, Replay.mk.injEq, sim.snapshot, sim.observations, sim.live,
    sim.obligations, and_true, true_and]
  rw [eq_comm, Finset.filter_eq_self]
  simp [NoCompanion]

end Darling.Lifecycle
