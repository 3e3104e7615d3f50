import Darling.Lifecycle.Agreement

/-! Whole replays in lockstep. The conditions under which the two event loops cannot part
are read off the recorded events. -/
namespace Darling.Lifecycle

open Oracle (Runtime isClosed)

def EventData.isRecovery : EventData → Bool
  | .recovery .. => true
  | _ => false

/-- The capability whose identity the event finds gone or replaced. -/
def EventData.loses : EventData → Option String
  | .identityRevalidated capability result => if result = .same then none else some capability
  | _ => none

/-- No intent is declared while the recorded journal phase is COMMIT or ABORT. -/
def oneTransaction (journal : JournalPhase) : List TraceEvent → Bool
  | [] => true
  | event :: rest =>
    !(event.data.isIntent && isClosed journal) && oneTransaction event.stateAfter.journal rest

/-- If the first intent or recovery is a recovery, all the seeds have lost their identity
before it. -/
def seedsLost (seeds : List String) : List TraceEvent → Bool
  | [] => true
  | event :: rest =>
    if event.data.isIntent then true
    else if event.data.isRecovery then seeds.isEmpty
    else seedsLost (seeds.filter fun id => event.data.loses ≠ some id) rest

/-- Either the two checkpoints hold the same ownership, or the reducer has none yet and the
oracle holds the seeds. The difference stays hidden: a rollback before the first intent
needs a CORRUPT state, and then every seed is gone. -/
def CheckpointsAgree (seeds : Owners) (rest : List TraceEvent) (r : Reducer) (p : Runtime) : Prop :=
  p.checkpointLive = r.checkpointLive ∨
    (r.checkpointLive = ∅ ∧ p.checkpointLive = seeds ∧
      ((r.snapshot.journal = .none ∧ (r.snapshot.stable = .corrupt →
          ∃ left, seedsLost left rest = true ∧ ∀ id ∈ seeds, id ∈ left ∨ id ∈ r.gone)) ∨
        (r.snapshot.journal = .commit ∧ r.snapshot.stable = .ready) ∨
        ∀ id ∈ seeds, id ∈ r.gone))

theorem eraseAll_lost {seeds : Owners} {gone : Finset String} (lost : ∀ id ∈ seeds, id ∈ gone) :
    seeds.eraseAll gone = (∅ : Owners).eraseAll gone := by
  apply Finmap.ext_lookup
  intro id
  by_cases isGone : id ∈ gone
  · simp [isGone]
  · have missing : id ∉ seeds := fun seeded => isGone (lost id seeded)
    simp [isGone, Finmap.lookup_eq_none.mpr missing]

/-- A rollback restores the same ownership on both sides. -/
theorem CheckpointsAgree.restored {seeds : Owners} {rest : List TraceEvent} {event : TraceEvent}
    {r : Reducer} {p : Runtime} (sim : Sim r p) (agree : CheckpointsAgree seeds (event :: rest) r p)
    (recovers : event.data.isRecovery = true)
    (rolls : (recoveryAction r.snapshot.stable r.snapshot.journal).isRollback = true) :
    p.checkpointLive.eraseAll p.gone = r.checkpointLive.eraseAll r.gone := by
  rcases agree with same | ⟨fresh, seeded, stillOpen | ⟨journal, stable⟩ | lost⟩
  · rw [same, sim.gone]
  · obtain ⟨journal, corrupt⟩ := stillOpen
    have stable : r.snapshot.stable = .corrupt := by
      rw [journal] at rolls
      cases h : r.snapshot.stable <;> simp_all [recoveryAction, RecoveryAction.isRollback]
    obtain ⟨left, lost, covered⟩ := corrupt stable
    have notIntent : event.data.isIntent = false := by
      cases h : event.data <;> simp_all [EventData.isRecovery, EventData.isIntent]
    have none : left = [] := by
      simpa [seedsLost, notIntent, recovers] using lost
    rw [fresh, seeded, sim.gone]
    apply eraseAll_lost
    intro id seed
    simpa [none] using covered id seed
  · simp [journal, stable, recoveryAction, RecoveryAction.isRollback] at rolls
  · rw [fresh, seeded, sim.gone]
    exact eraseAll_lost lost

/-- An event that is neither an intent nor a recovery, before the first intent or after the
journal closed. -/
theorem ReducerStep.idle {r after : Reducer} {data : EventData} (step : ReducerStep r data after)
    (intent : data.isIntent = false) (recovery : data.isRecovery = false)
    (settled : r.snapshot.journal = .none ∨ isClosed r.snapshot.journal = true) :
    after.checkpointLive = r.checkpointLive ∧ after.snapshot.journal = r.snapshot.journal ∧
      (after.snapshot.stable = r.snapshot.stable ∨
        (stableTransitionAllowed r.snapshot.stable .draining = true ∧
          after.snapshot.stable = .draining)) ∧
      ∀ id, data.loses = some id → id ∈ after.gone := by
  cases data with
  | capabilityAcquired capability owner =>
    obtain ⟨_, _, _, _, rfl⟩ := acquire_step step
    simp [EventData.loses]
  | capabilityMoved capability source target =>
    cases step.step rfl with
    | move _ => simp [EventData.loses]
  | capabilityReleased capability owner reason =>
    cases step.step rfl with
    | release _ => simp [EventData.loses]
  | intentDeclared kind transaction => simp [EventData.isIntent] at intent
  | barrierEntered kind result =>
    by_cases entered : result = .entered
    · subst entered
      cases step.step rfl with
      | barrier allowed => simp [EventData.loses, allowed]
    · rw [(reducerStep_missed entered).mp step]
      simp [EventData.loses]
  | membershipSnapshot authority members completeness =>
    cases step.step rfl with
    | membership _ _ => simp [EventData.loses]
  | identityRevalidated capability result =>
    by_cases same : result = .same
    · subst same
      cases step.step rfl with
      | identityMatch _ _ _ => simp [EventData.loses]
    · have mapped : mapEvent (.identityRevalidated capability result) r.catalog =
          .ok (some (.identity capability false)) := by simp [mapEvent, same]
      cases step.step mapped with
      | identityFailure _ _ _ => simp [EventData.loses, same]
  | signalSent capability name result =>
    cases step.step rfl with
    | signal _ _ _ _ allowed =>
      cases journal : r.snapshot.journal <;> simp_all [journalTransitionAllowed, isClosed]
  | endpointTransition endpoint operation result =>
    rw [endpoint_step (step.step rfl)]
    split <;> simp [EventData.loses]
  | operationCheckpoint operation checkpoint placement result =>
    rw [checkpoint_step (step.step rfl)]
    split <;> simp [EventData.loses]
  | memberObserved capability origin =>
    rw [(observed_step (step.step rfl)).2]
    split <;> simp [EventData.loses]
  | faultInjected phase fault =>
    cases step.step rfl with
    | fault => simp [EventData.loses]
  | recovery action reason => simp [EventData.isRecovery] at recovery
  | terminal outcome =>
    cases step.step rfl with
    | terminal _ => simp [EventData.loses]

theorem signalEffect_checkpointLive (r : Reducer) (id : String) (result : SignalResult) :
    (signalEffect r id result).checkpointLive = r.checkpointLive := by
  cases result <;> rfl

theorem ReducerStep.checkpointLive {r after : Reducer} {data : EventData}
    (step : ReducerStep r data after) (intent : data.isIntent = false) :
    after.checkpointLive = r.checkpointLive := by
  obtain ⟨mapped, map, applied⟩ := step
  cases mapped with
  | none =>
    have same : after = r := by simpa [applyMapped, eq_comm] using applied
    rw [same]
  | some event =>
    cases (apply_ok_step (applyMapped_some.mp applied)).2 with
    | intent =>
      cases data with
      | capabilityAcquired =>
        simp only [mapEvent] at map
        split at map <;> simp at map
      | _ => simp [mapEvent, EventData.isIntent] at map intent
    | signal => exact signalEffect_checkpointLive _ _ _
    | recovery => exact settle_checkpointLive _ _
    | _ => rfl

theorem ReducerStep.grows {r after : Reducer} {data : EventData} (step : ReducerStep r data after) :
    Grows r after := by
  obtain ⟨mapped, _, applied⟩ := step
  cases mapped with
  | none =>
    have same : after = r := by simpa [applyMapped, eq_comm] using applied
    exact same ▸ Grows.refl r
  | some event => exact step_grows (apply_ok_step (applyMapped_some.mp applied)).2

theorem ReducerStep.ledger {r after : Reducer} {data : EventData} (step : ReducerStep r data after)
    (ledger : Ledger r) : Ledger after := by
  obtain ⟨mapped, _, applied⟩ := step
  cases mapped with
  | none =>
    have same : after = r := by simpa [applyMapped, eq_comm] using applied
    exact same ▸ ledger
  | some event => exact step_ledger ledger (apply_ok_step (applyMapped_some.mp applied)).2

theorem oracle_checkpointLive {p p' : Runtime} {data : EventData} (intent : data.isIntent = false)
    (step : Oracle.Step p data p') : p'.checkpointLive = p.checkpointLive := by
  cases step with
  | intent => simp [EventData.isIntent] at intent
  | @signal _ _ result => cases result <;> rfl
  | recovery =>
    simp only [Oracle.settle]
    split_ifs <;> rfl
  | _ => rfl

theorem CheckpointsAgree.step {seeds : Owners} {rest : List TraceEvent} {event : TraceEvent}
    {r r' : Reducer} {p p' : Runtime} (sim : Sim r p)
    (agree : CheckpointsAgree seeds (event :: rest) r p)
    (step : ReducerStep r event.data r') (oracle : Oracle.Step p event.data p') :
    CheckpointsAgree seeds rest r' p' := by
  by_cases intent : event.data.isIntent = true
  · left
    cases data : event.data with
    | intentDeclared kind transaction =>
      rw [data] at step oracle
      cases step.step rfl with
      | intent _ _ =>
        cases oracle with
        | intent _ _ => exact sim.live
    | _ => simp [data, EventData.isIntent] at intent
  have notIntent : event.data.isIntent = false := by simpa using intent
  have kept := oracle_checkpointLive notIntent oracle
  have grows := step.grows.gone
  by_cases recovers : event.data.isRecovery = true
  · have recovered : r'.checkpointLive = r.checkpointLive ∧ r'.snapshot =
        actionTarget (recoveryAction r.snapshot.stable r.snapshot.journal) r.snapshot := by
      cases data : event.data with
      | recovery action reason =>
        rw [data] at step
        cases step.step rfl with
        | recovery prescribed =>
          subst prescribed
          exact ⟨settle_checkpointLive _ _, settle_snapshot _ _⟩
      | _ => simp [data, EventData.isRecovery] at recovers
    obtain ⟨same, target⟩ := recovered
    rcases agree with equal | ⟨fresh, seeded, stillOpen | ⟨journal, stable⟩ | lost⟩
    · exact Or.inl (by rw [kept, same, equal])
    · obtain ⟨journal, corrupt⟩ := stillOpen
      refine Or.inr ⟨same.trans fresh, kept.trans seeded, ?_⟩
      rw [target, journal]
      cases stable : r.snapshot.stable with
      | corrupt =>
        obtain ⟨left, lost, covered⟩ := corrupt stable
        have none : left = [] := by simpa [seedsLost, notIntent, recovers] using lost
        refine Or.inr (Or.inr fun id seed => grows ?_)
        simpa [none] using covered id seed
      | uninitialized => exact Or.inr (Or.inl (by simp [recoveryAction, actionTarget]))
      | ready => exact Or.inl (by simp [recoveryAction, actionTarget, journal, stable])
      | running => exact Or.inl (by simp [recoveryAction, actionTarget, journal, stable])
      | draining => exact Or.inl (by simp [recoveryAction, actionTarget, journal, stable])
      | stopped => exact Or.inl (by simp [recoveryAction, actionTarget, journal, stable])
    · refine Or.inr ⟨same.trans fresh, kept.trans seeded, Or.inr (Or.inl ?_)⟩
      rw [target, journal, stable]
      simp [recoveryAction, actionTarget, journal, stable]
    · exact Or.inr ⟨same.trans fresh, kept.trans seeded, Or.inr (Or.inr fun id seed =>
        grows (lost id seed))⟩
  have notRecovery : event.data.isRecovery = false := by simpa using recovers
  rcases agree with equal | ⟨fresh, seeded, stillOpen | ⟨journal, stable⟩ | lost⟩
  · left
    have same : r'.checkpointLive = r.checkpointLive := step.checkpointLive notIntent
    rw [kept, same, equal]
  · obtain ⟨journal, corrupt⟩ := stillOpen
    obtain ⟨same, after, stable, loses⟩ := step.idle notIntent notRecovery (Or.inl journal)
    refine Or.inr ⟨same.trans fresh, kept.trans seeded, Or.inl ⟨after.trans journal, ?_⟩⟩
    intro corrupted
    rcases stable with still | ⟨_, draining⟩
    · obtain ⟨left, lost, covered⟩ := corrupt (still ▸ corrupted)
      refine ⟨left.filter fun id => event.data.loses ≠ some id, ?_, ?_⟩
      · simpa [seedsLost, notIntent, notRecovery] using lost
      · intro id seed
        by_cases gone : event.data.loses = some id
        · exact Or.inr (loses id gone)
        · rcases covered id seed with listed | gone'
          · exact Or.inl (by simp [listed, gone])
          · exact Or.inr (grows gone')
    · simp [draining] at corrupted
  · obtain ⟨same, after, stable', _⟩ :=
      step.idle notIntent notRecovery (Or.inr (by simp [journal, isClosed]))
    refine Or.inr ⟨same.trans fresh, kept.trans seeded, Or.inr (Or.inl ⟨after.trans journal, ?_⟩)⟩
    rcases stable' with still | ⟨allowed, _⟩
    · exact still.trans stable
    · simp [stable, stableTransitionAllowed] at allowed
  · exact Or.inr ⟨(step.checkpointLive notIntent).trans fresh, kept.trans seeded,
      Or.inr (Or.inr fun id seed => grows (lost id seed))⟩

/-- An accepted round of the reducer's event loop. -/
structure ReducerRound (limits : Limits) (index : Nat) (s : ReplayState) (event : TraceEvent)
    (s' : ReplayState) : Prop where
  unfinished : s.terminalSeen = false
  seq : event.seq.asU64 = some index
  time : event.timeNs.asU64 = some s'.previousTime
  ordered : s.previousTime ≤ s'.previousTime
  bounded : s'.previousTime ≤ limits.maxVirtualTimeNs
  step : ReducerStep s.reducer event.data s'.reducer
  recorded : event.stateAfter = s'.reducer.snapshot
  live : s'.reducer.live.keys.card ≤ limits.maxLiveCapabilities
  steps : s'.reducer.observations.length ≤ limits.maxRecoverySteps
  terminal : s'.terminalSeen = event.data.isTerminal

theorem readU64_ok {n : JsonInteger} {text : String} {value : Nat} :
    readU64 n text = .ok value ↔ n.asU64 = some value := by
  unfold readU64
  split <;> simp_all

theorem replayEvent_iff {limits : Limits} {index : Nat} {s s' : ReplayState} {event : TraceEvent} :
    replayEvent s.reducer.catalog limits index s event = .ok s' ↔
      ReducerRound limits index s event s' := by
  simp only [replayEvent, check, bind_ok, require_ok, exists_const, readU64_ok, pure_ok]
  constructor
  · rintro ⟨unfinished, seq, time, read, ⟨ordered, bounded⟩, mapped, map, reducer, applied, recorded,
      ⟨live, steps⟩, rfl⟩
    exact ⟨unfinished, seq, read, ordered, bounded, ⟨mapped, map, applied⟩, recorded, live, steps, rfl⟩
  · rintro ⟨unfinished, seq, read, ordered, bounded, ⟨mapped, map, applied⟩, recorded, live, steps,
      terminal⟩
    refine ⟨unfinished, seq, _, read, ⟨ordered, bounded⟩, mapped, map, _, applied, recorded,
      ⟨live, steps⟩, ?_⟩
    rw [← terminal]

/-- An accepted round of the oracle's event loop. -/
structure OracleRound (budget : Budget) (index : Nat) (s : Runtime × Int) (event : TraceEvent)
    (s' : Runtime × Int) : Prop where
  unfinished : s.1.terminalOutcome = none
  seq : event.seq.value = index
  int : event.timeNs.isInt = true
  ordered : s.2 ≤ event.timeNs.value
  bounded : event.timeNs.value ≤ budget.maxVirtualTimeNs.value
  step : Oracle.Step s.1 event.data s'.1
  recorded : event.stateAfter = s'.1.snapshot
  live : s'.1.live.keys.card ≤ budget.maxLiveCapabilities.value
  steps : s'.1.recoveryActions.length ≤ budget.maxRecoverySteps.value
  time : s'.2 = event.timeNs.value

theorem oracle_replayEvent_iff {budget : Budget} {index : Nat} {s s' : Runtime × Int}
    {event : TraceEvent} (patterns : event.data.patterns = true) :
    Oracle.replayEvent budget index s event = .ok s' ↔ OracleRound budget index s event s' := by
  simp only [Oracle.replayEvent, Oracle.applyEvent, bind_ok, require_ok, exists_const, pure_ok]
  constructor
  · rintro ⟨unfinished, ⟨seq, int, ordered, bounded⟩, _, valid, after,
      ⟨_, effect, stable, journal, recorded, rfl⟩, ⟨live, steps⟩, rfl⟩
    exact ⟨unfinished, seq, int, ordered, bounded, Oracle.Allowed.step ⟨valid, effect, stable, journal⟩,
      recorded, live, steps, rfl⟩
  · rintro ⟨unfinished, seq, int, ordered, bounded, step, recorded, live, steps, time⟩
    have allowed := step.allowed patterns
    refine ⟨unfinished, ⟨seq, int, ordered, bounded⟩, (), allowed.valid, s'.1,
      ⟨_, allowed.effect, allowed.stable, allowed.journal, recorded, rfl⟩, ⟨live, steps⟩, ?_⟩
    rw [← time]

/-- The loops are in step: the last recorded times order the same way, and both know whether
the terminal event was seen. -/
structure Related (seeds : Owners) (rest : List TraceEvent) (s : ReplayState) (o : Runtime × Int) :
    Prop where
  sim : Sim s.reducer o.1
  ledger : Ledger s.reducer
  checkpoints : CheckpointsAgree seeds rest s.reducer o.1
  time : ∀ time : Nat, o.2 ≤ time ↔ s.previousTime ≤ time
  terminal : s.terminalSeen = s.reducer.terminal.isSome

theorem mapEvent_terminal {data : EventData} {catalog : Catalog} {mapped : Option Event}
    (map : mapEvent data catalog = .ok mapped) :
    (mapped.bind Event.outcome?).isSome = data.isTerminal := by
  cases data with
  | capabilityAcquired =>
    simp only [mapEvent] at map
    split at map <;> cases map
    rfl
  | barrierEntered kind result =>
    simp only [mapEvent, Except.ok.injEq] at map
    subst map
    split <;> rfl
  | _ => cases map; rfl

theorem ReducerStep.terminal {r after : Reducer} {data : EventData} (step : ReducerStep r data after)
    (running : r.terminal = none) : after.terminal.isSome = data.isTerminal := by
  obtain ⟨mapped, map, applied⟩ := step
  rw [← mapEvent_terminal map]
  cases mapped with
  | none =>
    have same : after = r := by simpa [applyMapped, eq_comm] using applied
    simp [same, running]
  | some event =>
    rw [step_terminal (apply_ok_step (applyMapped_some.mp applied)).2, running]
    simp

section Rounds

variable {seeds : Owners} {rest : List TraceEvent} {event : TraceEvent} {limits : Limits}
  {budget : Budget} {index : Nat} {s : ReplayState} {o : Runtime × Int}

/-- The reducer's limits are the values of the document's budget. -/
structure SameLimits (limits : Limits) (budget : Budget) : Prop where
  events : limits.maxEvents = budget.maxEvents.value
  time : limits.maxVirtualTimeNs = budget.maxVirtualTimeNs.value
  live : limits.maxLiveCapabilities = budget.maxLiveCapabilities.value
  steps : limits.maxRecoverySteps = budget.maxRecoverySteps.value

theorem asU64_value {n : JsonInteger} {value : Nat} (read : n.asU64 = some value) :
    n.spelling = .digits ∧ n.value < 2 ^ 64 ∧ n.value = value := by
  unfold JsonInteger.asU64 at read
  split at read
  · rename_i plain
    exact ⟨plain.1, plain.2, by simpa using read⟩
  · contradiction

theorem asU64_plain {n : JsonInteger} (digits : n.spelling = .digits ∧ n.value < 2 ^ 64) :
    n.asU64 = some n.value := by
  simp only [JsonInteger.asU64, digits, and_self, if_true]

theorem Related.restores (related : Related seeds (event :: rest) s o) :
    ∀ action reason, event.data = .recovery action reason → action.isRollback = true →
      action = recoveryAction s.reducer.snapshot.stable s.reducer.snapshot.journal →
      o.1.checkpointLive.eraseAll o.1.gone =
        s.reducer.checkpointLive.eraseAll s.reducer.gone := by
  intro action reason data rolls prescribed
  refine related.checkpoints.restored related.sim (by simp [data, EventData.isRecovery]) ?_
  rw [← prescribed]
  exact rolls

/-- Both rounds accepted the event. -/
theorem Related.after {s' : ReplayState} {o' : Runtime × Int} (related : Related seeds (event :: rest) s o)
    (quiet : o'.1.membershipSeenAfterGone = false)
    (reducer : ReducerRound limits index s event s') (oracle : OracleRound budget index o event o') :
    Related seeds rest s' o' where
  sim := related.sim.after related.restores quiet reducer.step oracle.step
  ledger := reducer.step.ledger related.ledger
  checkpoints := related.checkpoints.step related.sim reducer.step oracle.step
  time := by
    intro time
    rw [oracle.time, (asU64_value reducer.time).2.2]
    exact Int.ofNat_le
  terminal := by
    have unfinished := reducer.unfinished
    rw [related.terminal, Option.isSome_eq_false_iff, Option.isNone_iff_eq_none] at unfinished
    rw [reducer.terminal, reducer.step.terminal unfinished]

/-- The reducer refuses a membership snapshot after a gone identity, so the oracle's late
evidence never appears next to it. -/
theorem Sim.stays_quiet {r after : Reducer} {p p' : Runtime} {data : EventData} (sim : Sim r p)
    (step : ReducerStep r data after) (oracle : Oracle.Step p data p') :
    p'.membershipSeenAfterGone = false := by
  cases oracle with
  | membership _ _ _ =>
    cases step.step rfl with
    | membership nobody _ => simp [sim.quiet.1, sim.gone, nobody]
  | @signal _ _ result => cases result <;> exact sim.quiet.1
  | recovery =>
    simp only [Oracle.settle]
    split_ifs <;> exact sim.quiet.1
  | _ => exact sim.quiet.1

theorem Related.oracle_round {s' : ReplayState} (related : Related seeds (event :: rest) s o)
    (same : SameLimits limits budget)
    (reopens : event.data.isIntent = true → isClosed s.reducer.snapshot.journal = false)
    (reducer : ReducerRound limits index s event s') :
    ∃ o', OracleRound budget index o event o' ∧ Related seeds rest s' o' := by
  obtain ⟨p', step⟩ := related.sim.oracle_accepts related.ledger reopens reducer.step
  obtain ⟨digits, _, value⟩ := asU64_value reducer.time
  have quiet := related.sim.stays_quiet reducer.step step
  have sim := related.sim.after related.restores quiet reducer.step step
  have round : OracleRound budget index o event (p', event.timeNs.value) :=
    { unfinished := by
        have unfinished := reducer.unfinished
        rw [related.terminal, Option.isSome_eq_false_iff, Option.isNone_iff_eq_none] at unfinished
        exact related.sim.terminal.trans unfinished
      seq := (asU64_value reducer.seq).2.2
      int := by simp [JsonInteger.isInt, digits]
      ordered := (related.time _).mpr (value ▸ reducer.ordered)
      bounded := by rw [value, ← same.time]; exact reducer.bounded
      step := step
      recorded := reducer.recorded.trans sim.snapshot.symm
      live := by rw [sim.live, ← same.live]; exact reducer.live
      steps := by rw [sim.steps, ← same.steps]; exact reducer.steps
      time := rfl }
  exact ⟨_, round, related.after quiet reducer round⟩

theorem Related.reducer_round {o' : Runtime × Int} (related : Related seeds (event :: rest) s o)
    (same : SameLimits limits budget)
    (seq : event.seq.spelling = .digits ∧ event.seq.value < 2 ^ 64)
    (time : event.timeNs.spelling = .digits ∧ event.timeNs.value < 2 ^ 64)
    (processes : ∀ id entry, event.data.observes id = true →
      s.reducer.catalog.lookup id = some entry → entry.kind.isPidfd = true)
    (sound : event.data = .terminal .success → unresolved s.reducer = false)
    (quiet : o'.1.membershipSeenAfterGone = false)
    (oracle : OracleRound budget index o event o') :
    ∃ s', ReducerRound limits index s event s' ∧ Related seeds rest s' o' := by
  have running : s.reducer.terminal = none := related.sim.terminal.symm.trans oracle.unfinished
  obtain ⟨after, step⟩ := related.sim.reducer_accepts running processes sound quiet oracle.step
  have sim := related.sim.after (related.restores) quiet step oracle.step
  have round : ReducerRound limits index s event ⟨after, event.timeNs.value, event.data.isTerminal⟩ :=
    { unfinished := by rw [related.terminal, running]; rfl
      seq := oracle.seq ▸ asU64_plain seq
      time := asU64_plain time
      ordered := (related.time _).mp oracle.ordered
      bounded := by rw [same.time]; exact oracle.bounded
      step := step
      recorded := oracle.recorded.trans sim.snapshot
      live := by rw [same.live, ← sim.live]; exact oracle.live
      steps := by rw [same.steps, ← sim.steps]; exact oracle.steps
      terminal := rfl }
  exact ⟨_, round, related.after quiet round oracle⟩

end Rounds

/-- The oracle's unresolved obligations are the reducer's: a companion never stands alone. -/
theorem Sim.unresolved_iff {r : Reducer} {p : Runtime} (sim : Sim r p) :
    unresolved r = true ↔ ∃ item ∈ p.obligations, Oracle.unresolved item = true := by
  simp only [unresolved, decide_eq_true_eq, sim.obligations, Finset.mem_filter]
  constructor
  · rintro ⟨item, member, open_⟩
    by_cases isCompanion : item.isCompanion = true
    · exact ⟨.operationFailure, ⟨sim.companions item member isCompanion, rfl⟩, rfl⟩
    · refine ⟨item, ⟨member, by simpa using isCompanion⟩, ?_⟩
      cases item <;> simp_all [Oracle.unresolved, Obligation.isUnresolved, Obligation.isCompanion]
  · rintro ⟨item, ⟨member, _⟩, open_⟩
    refine ⟨item, member, ?_⟩
    cases item <;> simp_all [Oracle.unresolved, Obligation.isUnresolved]

theorem oracle_step_noisy {p p' : Runtime} {data : EventData} (step : Oracle.Step p data p')
    (quiet : p'.membershipSeenAfterGone = false) : p.membershipSeenAfterGone = false := by
  cases step with
  | membership _ _ _ => exact (Bool.or_eq_false_iff.mp quiet).1
  | @signal _ _ result => cases result <;> exact quiet
  | recovery =>
    simp only [Oracle.settle] at quiet
    split_ifs at quiet <;> exact quiet
  | _ => exact quiet

theorem oracle_terminal_step {p p' : Runtime} {outcome : Outcome}
    (step : Oracle.Step p (.terminal outcome) p') :
    p' = { p with terminalOutcome := some outcome } := by
  cases step
  rfl

section Runs

variable {seeds : Owners} {limits : Limits} {budget : Budget}

/-- The oracle's evidence against the trace is never withdrawn. -/
theorem oracle_run_noisy {events : List TraceEvent} {index : Nat} {o o' : Runtime × Int}
    (patterns : ∀ event ∈ events, event.data.patterns = true)
    (run : Oracle.replayEvents budget index o events = .ok o')
    (quiet : o'.1.membershipSeenAfterGone = false) : o.1.membershipSeenAfterGone = false := by
  induction events generalizing index o with
  | nil =>
    cases run
    exact quiet
  | cons event rest ih =>
    simp only [Oracle.replayEvents, bind_ok] at run
    obtain ⟨middle, first, more⟩ := run
    have round := (oracle_replayEvent_iff (patterns event List.mem_cons_self)).mp first
    exact oracle_step_noisy round.step
      (ih (fun event later => patterns event (List.mem_cons_of_mem _ later)) more)

theorem oracle_run_terminal {events : List TraceEvent} {index : Nat} {o o' : Runtime × Int}
    (finished : o.1.terminalOutcome ≠ none)
    (run : Oracle.replayEvents budget index o events = .ok o') : events = [] ∧ o' = o := by
  cases events with
  | nil =>
    cases run
    exact ⟨rfl, rfl⟩
  | cons event rest =>
    simp only [Oracle.replayEvents, Oracle.replayEvent, bind_ok, require_ok, exists_const] at run
    obtain ⟨_, ⟨unfinished, _⟩, _⟩ := run
    exact absurd unfinished finished

/-- Whatever the reducer replays, the oracle replays. -/
theorem reducer_run {events : List TraceEvent} {index : Nat} {s s' : ReplayState}
    {o : Runtime × Int} (related : Related seeds events s o) (same : SameLimits limits budget)
    (patterns : ∀ event ∈ events, event.data.patterns = true)
    (single : oneTransaction s.reducer.snapshot.journal events = true)
    (run : replayEvents s.reducer.catalog limits index s events = .ok s') :
    ∃ o', Oracle.replayEvents budget index o events = .ok o' ∧ Related seeds [] s' o' := by
  induction events generalizing index s o with
  | nil =>
    cases run
    exact ⟨o, rfl, related⟩
  | cons event rest ih =>
    simp only [replayEvents, bind_ok] at run
    obtain ⟨middle, first, more⟩ := run
    have round := replayEvent_iff.mp first
    simp only [oneTransaction, Bool.and_eq_true, Bool.not_eq_true', Bool.and_eq_false_iff] at single
    have reopens : event.data.isIntent = true → isClosed s.reducer.snapshot.journal = false := by
      intro intent
      simpa [intent] using single.1
    obtain ⟨o', oracle, related⟩ := related.oracle_round same reopens round
    rw [← round.step.grows.catalog] at more
    obtain ⟨final, run, done⟩ := ih related
      (fun event later => patterns event (List.mem_cons_of_mem _ later))
      (round.recorded ▸ single.2) more
    refine ⟨final, ?_, done⟩
    simp only [Oracle.replayEvents, bind_ok]
    exact ⟨o', (oracle_replayEvent_iff (patterns event List.mem_cons_self)).mpr oracle, run⟩

/-- Whatever the oracle replays without evidence against the trace, the reducer replays. -/
theorem oracle_run {events : List TraceEvent} {index : Nat} {s : ReplayState}
    {o o' : Runtime × Int} (related : Related seeds events s o) (same : SameLimits limits budget)
    (patterns : ∀ event ∈ events, event.data.patterns = true)
    (digits : ∀ event ∈ events, (event.seq.spelling = .digits ∧ event.seq.value < 2 ^ 64) ∧
      event.timeNs.spelling = .digits ∧ event.timeNs.value < 2 ^ 64)
    (processes : ∀ event ∈ events, ∀ id entry, event.data.observes id = true →
      s.reducer.catalog.lookup id = some entry → entry.kind.isPidfd = true)
    (run : Oracle.replayEvents budget index o events = .ok o')
    (quiet : o'.1.membershipSeenAfterGone = false)
    (sound : ¬(o'.1.terminalOutcome = some .success ∧
      ∃ item ∈ o'.1.obligations, Oracle.unresolved item = true)) :
    ∃ s', replayEvents s.reducer.catalog limits index s events = .ok s' ∧ Related seeds [] s' o' := by
  induction events generalizing index s o with
  | nil =>
    cases run
    exact ⟨s, rfl, related⟩
  | cons event rest ih =>
    simp only [Oracle.replayEvents, bind_ok] at run
    obtain ⟨middle, first, more⟩ := run
    have round := (oracle_replayEvent_iff (patterns event List.mem_cons_self)).mp first
    have later : ∀ event ∈ rest, event.data.patterns = true :=
      fun event later => patterns event (List.mem_cons_of_mem _ later)
    have resolved : event.data = .terminal .success → unresolved s.reducer = false := by
      intro terminal
      have after := oracle_terminal_step (terminal ▸ round.step)
      obtain ⟨_, rfl⟩ := oracle_run_terminal (by simp [after]) more
      by_contra open_
      obtain ⟨item, member, unresolved⟩ := related.sim.unresolved_iff.mp (by simpa using open_)
      exact sound ⟨by simp [after], item, by simpa [after] using member, unresolved⟩
    have quietNow := oracle_run_noisy later more quiet
    obtain ⟨s₁, reducer, related⟩ := related.reducer_round same
      (digits event List.mem_cons_self).1 (digits event List.mem_cons_self).2
      (processes event List.mem_cons_self) resolved quietNow round
    have fixed := reducer.step.grows.catalog
    obtain ⟨final, run, done⟩ := ih related later
      (fun event later => digits event (List.mem_cons_of_mem _ later))
      (fun event later => fixed ▸ processes event (List.mem_cons_of_mem _ later)) more
    refine ⟨final, ?_, done⟩
    simp only [replayEvents, bind_ok]
    exact ⟨s₁, replayEvent_iff.mpr reducer, fixed ▸ run⟩

end Runs

end Darling.Lifecycle
