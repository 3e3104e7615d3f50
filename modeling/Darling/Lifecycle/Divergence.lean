import Darling.Lifecycle.Conformance

/-! Where the two replays part. `Regular` lists what a document must avoid; on a document
that either replay accepts, avoiding it is also necessary. -/
namespace Darling.Lifecycle

open Oracle (Runtime AnchoredCapability isClosed)

/-- The event leaves an obligation that only the reducer records. -/
def EventData.addsCompanion : EventData → Bool
  | .operationCheckpoint operation checkpoint _ result =>
    result != .completed && (checkpoint == .afterQuarantineMoveBeforeVerify ||
      (operation == .renameExact && checkpoint == .afterMoveBeforeVerify))
  | _ => false

def EventData.clearsCompanions : EventData → Bool
  | .recovery action _ => action.isRollback || action == .continueDrain
  | _ => false

/-- Every such obligation is cleared by a later recovery. -/
def companionsSettled : List TraceEvent → Bool
  | [] => true
  | event :: rest =>
    (!event.data.addsCompanion || rest.any fun later => later.data.clearsCompanions) &&
      companionsSettled rest

/-- The documents both replays treat alike. -/
@[mk_iff]
structure Regular (doc : Document) : Prop where
  numbers : ∀ n ∈ doc.numbers, n.Plain
  expectedOnce : (doc.expected.liveCapabilities.map Ownership.capability).Nodup
  single : oneTransaction doc.initial.journal doc.events = true
  seeds : doc.initial.stable = .corrupt →
    seedsLost (doc.liveCapabilities.map Ownership.capability) doc.events = true
  processes : ∀ event ∈ doc.events, ∀ item ∈ doc.capabilityCatalog,
    event.data.observes item.capabilityId = true → item.kind.isPidfd = true
  companions : companionsSettled doc.events = true

instance (doc : Document) : Decidable (Regular doc) :=
  decidable_of_iff _ (regular_iff doc).symm

/-- Both replays accept the document or both refuse it, and accepted results are equal. -/
def Agree (doc : Document) : Prop :=
  (Accepted (replayTrace doc) ↔ Accepted (Oracle.replayTrace doc)) ∧
    ∀ result other, replayTrace doc = .ok result → Oracle.replayTrace doc = .ok other →
      result = other.shared

/-! ### Companion obligations along a run -/

theorem companion_texts (operation : BoundaryOperation) (checkpoint : Boundary.Checkpoint) :
    (∃ item, item ∈ companion operation.text (checkpointText checkpoint)) ↔
      (checkpoint == .afterQuarantineMoveBeforeVerify ||
        (operation == .renameExact && checkpoint == .afterMoveBeforeVerify)) = true := by
  cases operation <;> cases checkpoint <;>
    simp [companion, checkpointText, BoundaryOperation.text]

def HasCompanion (r : Reducer) : Prop := ∃ item ∈ r.obligations, item.isCompanion = true

theorem hasCompanion_insert {r : Reducer} {item : Obligation} (shared : item.isCompanion = false) :
    (∃ other ∈ insert item r.obligations, other.isCompanion = true) ↔ HasCompanion r := by
  simp [HasCompanion, shared]

theorem settle_hasCompanion {r : Reducer} {action : RecoveryAction} :
    HasCompanion (settle action r) ↔
      HasCompanion r ∧ (action.isRollback || action == .continueDrain) = false := by
  have rolled : ¬HasCompanion (rollback r) := by
    rintro ⟨item, member, isCompanion⟩
    simp only [rollback, Finset.mem_filter] at member
    cases item <;> simp_all [Obligation.isRolledBack, Obligation.isCompanion]
  have drained : ¬HasCompanion (continueDrain r) := by
    rintro ⟨item, member, isCompanion⟩
    simp only [continueDrain, Finset.mem_filter] at member
    cases item <;> simp_all [Obligation.isDrained, Obligation.isCompanion]
  by_cases rolls : action.isRollback = true
  · simp [settle, rolls, rolled]
  · by_cases drains : action = .continueDrain
    · subst drains
      simpa [settle, RecoveryAction.isRollback, RecoveryAction.isCompletion] using drained
    · have kept : HasCompanion (settle action r) ↔ HasCompanion r := by
        rw [settle, if_neg rolls]
        split_ifs <;> rfl
      simp [kept, rolls, drains]

theorem step_hasCompanion {r after : Reducer} {data : EventData} (step : ReducerStep r data after) :
    HasCompanion after ↔
      data.addsCompanion = true ∨ (HasCompanion r ∧ data.clearsCompanions = false) := by
  cases data with
  | capabilityAcquired capability owner =>
    obtain ⟨_, _, _, _, rfl⟩ := acquire_step step
    simp [HasCompanion, EventData.addsCompanion, EventData.clearsCompanions]
  | capabilityMoved capability source target =>
    cases step.step rfl with
    | move _ => simp [HasCompanion, EventData.addsCompanion, EventData.clearsCompanions]
  | capabilityReleased capability owner reason =>
    cases step.step rfl with
    | release _ => simp [HasCompanion, EventData.addsCompanion, EventData.clearsCompanions]
  | intentDeclared kind transaction =>
    cases step.step rfl with
    | intent _ _ => simp [HasCompanion, EventData.addsCompanion, EventData.clearsCompanions]
  | barrierEntered kind result =>
    have same : after.obligations = r.obligations := by
      by_cases entered : result = .entered
      · subst entered
        cases step.step rfl with
        | barrier _ => rfl
      · rw [(reducerStep_missed entered).mp step]
    simp [HasCompanion, same, EventData.addsCompanion, EventData.clearsCompanions]
  | membershipSnapshot authority members completeness =>
    cases step.step rfl with
    | membership _ _ =>
      simp only [EventData.addsCompanion, EventData.clearsCompanions, Bool.false_eq_true, false_or,
        and_true]
      exact hasCompanion_insert (by split <;> rfl)
  | identityRevalidated capability result =>
    simp only [EventData.addsCompanion, EventData.clearsCompanions, Bool.false_eq_true, false_or,
      and_true]
    by_cases same : result = .same
    · subst same
      cases step.step rfl with
      | identityMatch _ _ _ => rfl
    · have mapped : mapEvent (.identityRevalidated capability result) r.catalog =
          .ok (some (.identity capability false)) := by simp [mapEvent, same]
      cases step.step mapped with
      | identityFailure _ _ _ => exact hasCompanion_insert rfl
  | signalSent capability name result =>
    simp only [EventData.addsCompanion, EventData.clearsCompanions, Bool.false_eq_true, false_or,
      and_true]
    cases step.step rfl with
    | signal _ _ _ _ _ =>
      cases result with
      | sent => rfl
      | gone => rfl
      | rejected => exact hasCompanion_insert rfl
      | deadline => exact hasCompanion_insert rfl
  | endpointTransition endpoint operation result =>
    simp only [EventData.addsCompanion, EventData.clearsCompanions, Bool.false_eq_true, false_or,
      and_true]
    rw [endpoint_step (step.step rfl)]
    split
    · exact hasCompanion_insert rfl
    · rfl
  | operationCheckpoint operation checkpoint placement result =>
    rw [checkpoint_step (step.step rfl)]
    by_cases failed : result = .completed
    · subst failed
      simp [CheckpointResult.text, EventData.addsCompanion, EventData.clearsCompanions]
    · rw [if_pos ((failed_text _).mpr failed)]
      simp only [EventData.addsCompanion, EventData.clearsCompanions, and_true, Bool.and_eq_true,
        bne_iff_ne, ne_eq, failed, not_false_eq_true, true_and, ← companion_texts]
      simp only [HasCompanion, Finset.mem_union, Finset.mem_insert]
      constructor
      · rintro ⟨item, added | rfl | old, isCompanion⟩
        · exact Or.inl ⟨item, added⟩
        · simp [Obligation.isCompanion] at isCompanion
        · exact Or.inr ⟨item, old, isCompanion⟩
      · rintro (⟨item, added⟩ | ⟨item, old, isCompanion⟩)
        · exact ⟨item, Or.inl added, companion_isCompanion _ _ item added⟩
        · exact ⟨item, Or.inr (Or.inr old), isCompanion⟩
  | memberObserved capability origin =>
    simp only [EventData.addsCompanion, EventData.clearsCompanions, Bool.false_eq_true, false_or,
      and_true]
    rw [(observed_step (step.step rfl)).2]
    split
    · exact hasCompanion_insert rfl
    · rfl
  | faultInjected phase fault =>
    simp only [EventData.addsCompanion, EventData.clearsCompanions, Bool.false_eq_true, false_or,
      and_true]
    cases step.step rfl with
    | fault => exact hasCompanion_insert rfl
  | recovery action reason =>
    cases step.step rfl with
    | recovery _ =>
      simp only [EventData.addsCompanion, EventData.clearsCompanions, Bool.false_eq_true, false_or]
      exact settle_hasCompanion
  | terminal outcome =>
    cases step.step rfl with
    | terminal _ => simp [HasCompanion, EventData.addsCompanion, EventData.clearsCompanions]

theorem run_hasCompanion {events : List TraceEvent} {limits : Limits} {index : Nat}
    {s s' : ReplayState} (run : replayEvents s.reducer.catalog limits index s events = .ok s') :
    HasCompanion s'.reducer ↔ companionsSettled events = false ∨
      (HasCompanion s.reducer ∧ (events.any fun event => event.data.clearsCompanions) = false) := by
  induction events generalizing index s with
  | nil =>
    cases run
    simp [companionsSettled]
  | cons event rest ih =>
    simp only [replayEvents, bind_ok] at run
    obtain ⟨middle, first, more⟩ := run
    have round := replayEvent_iff.mp first
    rw [← round.step.grows.catalog] at more
    rw [ih more, step_hasCompanion round.step]
    simp only [companionsSettled, Bool.and_eq_false_iff, Bool.or_eq_false_iff, Bool.not_eq_false',
      List.any_cons]
    tauto

/-! ### What an accepted run shows about its events -/

theorem run_plain {events : List TraceEvent} {limits : Limits} {index : Nat} {s s' : ReplayState}
    (run : replayEvents s.reducer.catalog limits index s events = .ok s') :
    ∀ event ∈ events, event.seq.Plain ∧ event.timeNs.Plain := by
  induction events generalizing index s with
  | nil => simp
  | cons event rest ih =>
    simp only [replayEvents, bind_ok] at run
    obtain ⟨middle, first, more⟩ := run
    have round := replayEvent_iff.mp first
    rw [← round.step.grows.catalog] at more
    intro other listed
    rcases List.mem_cons.mp listed with rfl | later
    · exact ⟨(asU64_some_iff.mp round.seq).1, (asU64_some_iff.mp round.time).1⟩
    · exact ih more other later

theorem run_processes {events : List TraceEvent} {limits : Limits} {index : Nat}
    {s s' : ReplayState} (run : replayEvents s.reducer.catalog limits index s events = .ok s')
    {id : String} {entry : CatalogEntry} (known : s.reducer.catalog.lookup id = some entry) :
    ∀ event ∈ events, event.data.observes id = true → entry.kind.isPidfd = true := by
  induction events generalizing index s with
  | nil => simp
  | cons event rest ih =>
    simp only [replayEvents, bind_ok] at run
    obtain ⟨middle, first, more⟩ := run
    have round := replayEvent_iff.mp first
    rw [← round.step.grows.catalog] at more
    intro other listed observes
    rcases List.mem_cons.mp listed with rfl | later
    · have step := round.step
      cases data : other.data with
      | memberObserved capability origin =>
        rw [data] at step observes
        simp only [EventData.observes, Bool.and_eq_true, beq_iff_eq] at observes
        obtain ⟨⟨found, lookup, kind⟩, _⟩ := observed_step (step.step rfl)
        rw [observes.1, known] at lookup
        cases lookup
        exact kind
      | _ => simp [data, EventData.observes] at observes
    · exact ih more (round.step.grows.catalog ▸ known) other later observes

theorem oracle_intent_open {p p' : Runtime} {kind : IntentKind} {transaction : String}
    (step : Oracle.Step p (.intentDeclared kind transaction) p') :
    isClosed p.snapshot.journal = false := by
  cases step with
  | intent _ allowed =>
    rw [Oracle.mem_journalTransitions] at allowed
    simpa using allowed.2

theorem oracle_run_single {events : List TraceEvent} {budget : Budget} {index : Nat}
    {o o' : Runtime × Int} (patterns : ∀ event ∈ events, event.data.patterns = true)
    (run : Oracle.replayEvents budget index o events = .ok o') :
    oneTransaction o.1.snapshot.journal events = true := by
  induction events generalizing index o with
  | nil => rfl
  | cons event rest ih =>
    simp only [Oracle.replayEvents, bind_ok] at run
    obtain ⟨middle, first, more⟩ := run
    have round := (oracle_replayEvent_iff (patterns event List.mem_cons_self)).mp first
    have later := ih (fun event later => patterns event (List.mem_cons_of_mem _ later)) more
    simp only [oneTransaction, Bool.and_eq_true, Bool.not_eq_true', Bool.and_eq_false_iff]
    refine ⟨?_, by rw [round.recorded]; exact later⟩
    cases data : event.data with
    | intentDeclared kind transaction => exact Or.inr (oracle_intent_open (data ▸ round.step))
    | _ => exact Or.inl rfl

/-! ### A lost seed -/

/-- The seed is lost to the reducer for good while the oracle still restores it. -/
structure Diverged (id : String) (r : Reducer) (p : Runtime) : Prop where
  dead : id ∉ r.live
  unrestored : id ∉ r.checkpointLive
  consumed : Consumed r id
  live : id ∈ p.live
  restored : id ∈ p.checkpointLive
  present : id ∉ p.gone
  presentThen : id ∉ p.checkpointGone

theorem diverged_step {id : String} {r r' : Reducer} {p p' : Runtime} {data : EventData}
    (diverged : Diverged id r p) (step : ReducerStep r data r') (oracle : Oracle.Step p data p') :
    Diverged id r' p' := by
  have grows := step.grows
  obtain ⟨dead, unrestored, consumed, live, restored, present, presentThen⟩ := diverged
  have used : Consumed r' id := grows.uses consumed
  cases oracle with
  | acquired known idle fresh =>
    rename_i capability owner item
    obtain ⟨entry, lookup, _, free, rfl⟩ := acquire_step step
    have other : id ≠ capability := by
      rintro rfl
      obtain ⟨entry', lookup', taken⟩ := consumed
      rw [lookup] at lookup'
      cases lookup'
      exact free taken
    refine ⟨?_, unrestored, used, ?_, restored, present, presentThen⟩
    · simp [Finmap.mem_insert, other, dead]
    · simp [Finmap.mem_insert, live]
  | moved known owned =>
    rename_i capability source target
    cases step.step rfl with
    | move owned' =>
      have other : id ≠ capability := by
        rintro rfl
        exact dead (Finmap.mem_of_lookup_eq_some owned')
      refine ⟨?_, unrestored, used, ?_, restored, present, presentThen⟩
      · simp [Finmap.mem_insert, other, dead]
      · simp [Finmap.mem_insert, live]
  | released known owned =>
    rename_i capability owner reason
    cases step.step rfl with
    | release owned' =>
      have other : id ≠ capability := by
        rintro rfl
        exact dead (Finmap.mem_of_lookup_eq_some owned')
      refine ⟨?_, unrestored, used, ?_, restored, present, presentThen⟩
      · simp [Finmap.mem_erase, dead]
      · simp [Finmap.mem_erase, live, other]
  | intent _ _ =>
    cases step.step rfl with
    | intent _ _ => exact ⟨dead, dead, used, live, live, present, present⟩
  | barrier _ =>
    cases step.step rfl with
    | barrier _ => exact ⟨dead, unrestored, used, live, restored, present, presentThen⟩
  | barrierMissed missed =>
    rw [(reducerStep_missed missed).mp step]
    exact ⟨dead, unrestored, consumed, live, restored, present, presentThen⟩
  | membership _ _ _ =>
    cases step.step rfl with
    | membership _ _ => exact ⟨dead, unrestored, used, live, restored, present, presentThen⟩
  | identitySame _ _ _ =>
    cases step.step rfl with
    | identityMatch _ _ _ => exact ⟨dead, unrestored, used, live, restored, present, presentThen⟩
  | @identityFailure capability result _ _ _ failed =>
    have mapped : mapEvent (.identityRevalidated capability result) r.catalog =
        .ok (some (.identity capability false)) := by simp [mapEvent, failed]
    cases step.step mapped with
    | identityFailure _ _ live' =>
      have other : id ≠ capability := by
        rintro rfl
        exact dead live'
      refine ⟨?_, unrestored, used, ?_, restored, ?_, presentThen⟩
      · simp [Finmap.mem_erase, dead]
      · simp [Finmap.mem_erase, live, other]
      · simp [other, present]
  | @signal capability name result _ _ _ _ _ =>
    cases step.step rfl with
    | signal _ _ live' _ _ =>
      have other : id ≠ capability := by
        rintro rfl
        exact dead live'
      cases result with
      | gone =>
        refine ⟨?_, unrestored, used, ?_, restored, ?_, presentThen⟩
        · simp [signalEffect, Finmap.mem_erase, dead]
        · simp [Oracle.signalEffect, Finmap.mem_erase, live, other]
        · simp [Oracle.signalEffect, other, present]
      | _ => exact ⟨dead, unrestored, used, live, restored, present, presentThen⟩
  | endpointRejected =>
    rw [endpoint_step (step.step rfl), if_pos (by decide)]
    exact ⟨dead, unrestored, consumed, live, restored, present, presentThen⟩
  | endpoint other =>
    rw [endpoint_step (step.step rfl), if_neg fun text => other ((rejected_text _).mp text)]
    exact ⟨dead, unrestored, consumed, live, restored, present, presentThen⟩
  | checkpointRejected failed =>
    rw [checkpoint_step (step.step rfl), if_pos ((failed_text _).mpr failed)]
    exact ⟨dead, unrestored, consumed, live, restored, present, presentThen⟩
  | checkpointCompleted =>
    rw [checkpoint_step (step.step rfl), if_neg (by decide)]
    exact ⟨dead, unrestored, consumed, live, restored, present, presentThen⟩
  | lateFork _ _ =>
    rw [(observed_step (step.step rfl)).2, if_pos (by decide)]
    exact ⟨dead, unrestored, consumed, live, restored, present, presentThen⟩
  | memberObserved _ other =>
    rw [(observed_step (step.step rfl)).2, if_neg fun text => other ((lateFork_text _).mp text)]
    exact ⟨dead, unrestored, consumed, live, restored, present, presentThen⟩
  | fault =>
    cases step.step rfl with
    | fault => exact ⟨dead, unrestored, used, live, restored, present, presentThen⟩
  | @recovery action reason _ =>
    cases step.step rfl with
    | recovery _ =>
      by_cases rolls : action.isRollback = true
      · simp only [settle, Oracle.settle, Oracle.isRollback_eq, rolls, if_true] at used ⊢
        refine ⟨?_, unrestored, used, ?_, restored, ?_, presentThen⟩
        · simp [rollback, unrestored]
        · simp [Oracle.rollback, restored, present]
        · simp [Oracle.rollback, present, presentThen]
      · simp only [settle, Oracle.settle, Oracle.isRollback_eq, rolls, Bool.false_eq_true,
          if_false] at used ⊢
        split_ifs at used ⊢ <;> exact ⟨dead, unrestored, used, live, restored, present, presentThen⟩
  | terminal _ =>
    cases step.step rfl with
    | terminal _ => exact ⟨dead, unrestored, used, live, restored, present, presentThen⟩

section Both

variable {limits : Limits} {budget : Budget}

theorem diverged_run {id : String} {events : List TraceEvent} {index : Nat} {s s' : ReplayState}
    {o o' : Runtime × Int} (patterns : ∀ event ∈ events, event.data.patterns = true)
    (diverged : Diverged id s.reducer o.1)
    (run : replayEvents s.reducer.catalog limits index s events = .ok s')
    (oracle : Oracle.replayEvents budget index o events = .ok o') : Diverged id s'.reducer o'.1 := by
  induction events generalizing index s o with
  | nil =>
    cases run
    cases oracle
    exact diverged
  | cons event rest ih =>
    simp only [replayEvents, Oracle.replayEvents, bind_ok] at run oracle
    obtain ⟨middle, first, more⟩ := run
    obtain ⟨middle', first', more'⟩ := oracle
    have round := replayEvent_iff.mp first
    have round' := (oracle_replayEvent_iff (patterns event List.mem_cons_self)).mp first'
    rw [← round.step.grows.catalog] at more
    exact ih (fun event later => patterns event (List.mem_cons_of_mem _ later))
      (diverged_step diverged round.step round'.step) more more'

/-- A CORRUPT start before the first intent or recovery; `left` are the seeds that have kept
their identity. -/
structure Untouched (left : List String) (r : Reducer) (p : Runtime) : Prop where
  snapshot : p.snapshot = r.snapshot
  journal : r.snapshot.journal = .none
  stable : r.snapshot.stable = .corrupt
  unrestored : r.checkpointLive = ∅
  consumed : ∀ id ∈ left, Consumed r id
  restored : ∀ id ∈ left, id ∈ p.checkpointLive
  present : ∀ id ∈ left, id ∉ p.gone
  presentThen : ∀ id ∈ left, id ∉ p.checkpointGone

theorem oracle_idle {p p' : Runtime} {data : EventData} (step : Oracle.Step p data p')
    (intent : data.isIntent = false) (recovery : data.isRecovery = false)
    (journal : p.snapshot.journal = .none) :
    p'.checkpointGone = p.checkpointGone ∧
      ∀ id, data.loses ≠ some id → id ∉ p.gone → id ∉ p'.gone := by
  cases step with
  | intent _ _ => simp [EventData.isIntent] at intent
  | recovery _ => simp [EventData.isRecovery] at recovery
  | signal _ _ _ _ allowed => simp [journal, Oracle.journalTransitions] at allowed
  | @identityFailure capability result _ _ _ failed =>
    refine ⟨rfl, fun id kept present => ?_⟩
    have other : id ≠ capability := by
      rintro rfl
      exact kept (by simp [EventData.loses, failed])
    simp [other, present]
  | _ => exact ⟨rfl, fun _ _ present => present⟩

theorem Untouched.step {left : List String} {event : TraceEvent} {r r' : Reducer} {p p' : Runtime}
    (untouched : Untouched left r p) (intent : event.data.isIntent = false)
    (recovery : event.data.isRecovery = false) (step : ReducerStep r event.data r')
    (oracle : Oracle.Step p event.data p') (same : p'.snapshot = r'.snapshot) :
    Untouched (left.filter fun id => event.data.loses ≠ some id) r' p' := by
  obtain ⟨unrestored, journal, stable, _⟩ := step.idle intent recovery (Or.inl untouched.journal)
  obtain ⟨gone, kept⟩ := oracle_idle oracle intent recovery
    (untouched.snapshot ▸ untouched.journal)
  have checkpoint := oracle_checkpointLive intent oracle
  have listed : ∀ id ∈ left.filter fun id => event.data.loses ≠ some id,
      id ∈ left ∧ event.data.loses ≠ some id := by
    intro id member
    simpa using member
  refine ⟨same, journal.trans untouched.journal, ?_, unrestored.trans untouched.unrestored, ?_, ?_,
    ?_, ?_⟩
  · rcases stable with still | ⟨allowed, _⟩
    · exact still.trans untouched.stable
    · simp [untouched.stable, stableTransitionAllowed] at allowed
  · exact fun id member => step.grows.uses (untouched.consumed id (listed id member).1)
  · exact fun id member => checkpoint ▸ untouched.restored id (listed id member).1
  · exact fun id member => kept id (listed id member).2 (untouched.present id (listed id member).1)
  · exact fun id member => gone ▸ untouched.presentThen id (listed id member).1

/-- The first recovery drops every seed from the reducer and restores it in the oracle. -/
theorem Untouched.recovery {left : List String} {event : TraceEvent} {r r' : Reducer}
    {p p' : Runtime} (untouched : Untouched left r p) (recovers : event.data.isRecovery = true)
    (step : ReducerStep r event.data r') (oracle : Oracle.Step p event.data p') {id : String}
    (kept : id ∈ left) : Diverged id r' p' := by
  have grows := step.grows
  have used := grows.uses (untouched.consumed id kept)
  cases data : event.data with
  | recovery action reason =>
    rw [data] at step oracle
    cases oracle with
    | recovery _ =>
      cases step.step rfl with
      | recovery prescribed =>
        rw [untouched.journal, untouched.stable] at prescribed
        subst prescribed
        have unrestored := untouched.unrestored
        refine ⟨?_, ?_, used, ?_, untouched.restored id kept, ?_, untouched.presentThen id kept⟩
        · simp [settle, recoveryAction, RecoveryAction.isRollback, rollback, unrestored,
            Finmap.notMem_empty]
        · simp [settle, recoveryAction, RecoveryAction.isRollback, rollback, unrestored,
            Finmap.notMem_empty]
        · simp [Oracle.settle, recoveryAction, Oracle.isRollback, Oracle.rollback,
            untouched.restored id kept, untouched.present id kept]
        · simp [Oracle.settle, recoveryAction, Oracle.isRollback, Oracle.rollback,
            untouched.presentThen id kept, untouched.present id kept]
  | _ => simp [data, EventData.isRecovery] at recovers

/-- Two accepted runs that end with the same ownership have lost every seed in time. -/
theorem run_seedsLost {left : List String} {events : List TraceEvent} {index : Nat}
    {s s' : ReplayState} {o o' : Runtime × Int}
    (patterns : ∀ event ∈ events, event.data.patterns = true)
    (untouched : Untouched left s.reducer o.1)
    (run : replayEvents s.reducer.catalog limits index s events = .ok s')
    (oracle : Oracle.replayEvents budget index o events = .ok o')
    (same : o'.1.live = s'.reducer.live) : seedsLost left events = true := by
  induction events generalizing left index s o with
  | nil => rfl
  | cons event rest ih =>
    simp only [replayEvents, Oracle.replayEvents, bind_ok] at run oracle
    obtain ⟨middle, first, more⟩ := run
    obtain ⟨middle', first', more'⟩ := oracle
    have round := replayEvent_iff.mp first
    have round' := (oracle_replayEvent_iff (patterns event List.mem_cons_self)).mp first'
    have later : ∀ event ∈ rest, event.data.patterns = true :=
      fun event later => patterns event (List.mem_cons_of_mem _ later)
    rw [← round.step.grows.catalog] at more
    rw [seedsLost]
    by_cases intent : event.data.isIntent = true
    · simp [intent]
    have notIntent : event.data.isIntent = false := by simpa using intent
    by_cases recovers : event.data.isRecovery = true
    · simp only [notIntent, recovers, Bool.false_eq_true, if_false, if_true, List.isEmpty_iff]
      by_contra some_
      obtain ⟨id, kept⟩ := List.exists_mem_of_ne_nil left some_
      have diverged := untouched.recovery recovers round.step round'.step kept
      have ended := diverged_run later diverged more more'
      exact ended.dead (same ▸ ended.live)
    · have notRecovery : event.data.isRecovery = false := by simpa using recovers
      have snapshot : middle'.1.snapshot = middle.reducer.snapshot :=
        round'.recorded.symm.trans round.recorded
      simp only [notIntent, notRecovery, Bool.false_eq_true, if_false]
      exact ih later (untouched.step notIntent notRecovery round.step round'.step snapshot) more more'

end Both

/-! ### Documents -/

theorem registered_items {items : List CatalogItem} {start done : Reducer × Catalog}
    (run : items.foldlM registerItem start = .ok done) :
    (∀ id entry, start.1.catalog.lookup id = some entry → done.1.catalog.lookup id = some entry) ∧
      (∀ item ∈ items, item.generation.Plain ∧ done.1.catalog.lookup item.capabilityId =
        some ⟨item.kind, item.generation.value⟩) ∧
      ∀ id entry, done.1.catalog.lookup id = some entry → start.1.catalog.lookup id = some entry ∨
        ∃ item ∈ items, item.capabilityId = id ∧ item.kind = entry.kind := by
  induction items generalizing start with
  | nil =>
    cases run
    simp
  | cons item rest ih =>
    simp only [List.foldlM_cons, bind_ok] at run
    obtain ⟨middle, first, more⟩ := run
    obtain ⟨plain, _, _, fresh, rfl⟩ := registerItem_ok.mp first
    obtain ⟨kept, listed, origin⟩ := ih more
    have added : done.1.catalog.lookup item.capabilityId =
        some ⟨item.kind, item.generation.value⟩ := kept _ _ (Finmap.lookup_insert _)
    refine ⟨?_, ?_, ?_⟩
    · intro id entry known
      have other : id ≠ item.capabilityId := by
        rintro rfl
        exact fresh (Finmap.mem_of_lookup_eq_some known)
      exact kept id entry ((Finmap.lookup_insert_of_ne _ other).trans known)
    · intro other member
      rcases List.mem_cons.mp member with rfl | later
      · exact ⟨plain, added⟩
      · exact listed other later
    · intro id entry known
      by_cases here : id = item.capabilityId
      · subst here
        rw [added] at known
        cases known
        exact Or.inr ⟨item, List.mem_cons_self, rfl, rfl⟩
      · rcases origin id entry known with before | ⟨other, later, facts⟩
        · exact Or.inl ((Finmap.lookup_insert_of_ne _ here).symm.trans before)
        · exact Or.inr ⟨other, List.mem_cons_of_mem _ later, facts⟩

theorem registered_seeded {items : List CatalogItem} {start done : Reducer × Catalog}
    (seeded : Seeded start.1) (run : items.foldlM registerItem start = .ok done) : Seeded done.1 := by
  refine foldlM_invariant (P := fun s : Reducer × Catalog => Seeded s.1) ?_ seeded run
  intro s item s' _ seeded registered
  simp only [registerItem, bind_ok, pure_ok] at registered
  obtain ⟨generation, _, reducer, lifted, rfl⟩ := registered
  cases result : registerCapability s.1 item.capabilityId item.kind generation with
  | error error => simp [result, ReplayError.lift] at lifted
  | ok after =>
    have same : after = reducer := by simpa [result, ReplayError.lift] using lifted
    exact .register seeded (same ▸ result)

theorem seeds_seeded {items : List Ownership} {start done : Reducer} (seeded : Seeded start)
    (run : items.foldlM seedItem start = .ok done) : Seeded done := by
  refine foldlM_invariant (P := Seeded) ?_ seeded run
  intro r item r' _ seeded lifted
  cases result : seedOwnership r item.capability item.owner with
  | error error => simp [seedItem, result, ReplayError.lift] at lifted
  | ok after =>
    have same : after = r' := by simpa [seedItem, result, ReplayError.lift] using lifted
    exact .seed seeded (same ▸ result)

def WithinModel (budget : Budget) : Prop :=
  budget.maxEvents.value ≤ modelMaxEvents ∧ budget.maxVirtualTimeNs.value ≤ modelMaxVirtualTimeNs ∧
    budget.maxLiveCapabilities.value ≤ modelMaxLiveCapabilities ∧
    budget.maxRecoverySteps.value ≤ modelMaxRecoverySteps

theorem readBudget_ok {budget : Budget} {limits : Limits} :
    readBudget budget = .ok limits ↔ (budget.maxEvents.Plain ∧ budget.maxVirtualTimeNs.Plain ∧
      budget.maxLiveCapabilities.Plain ∧ budget.maxRecoverySteps.Plain) ∧ WithinModel budget ∧
      SameLimits limits budget := by
  simp only [readBudget, check, bind_ok, require_ok, exists_const, pure_ok, readU64_ok, asU64_some_iff]
  constructor
  · rintro ⟨_, ⟨p1, rfl⟩, _, ⟨p2, rfl⟩, _, ⟨p3, rfl⟩, _, ⟨p4, rfl⟩, within, rfl⟩
    exact ⟨⟨p1, p2, p3, p4⟩, within, rfl, rfl, rfl, rfl⟩
  · rintro ⟨⟨p1, p2, p3, p4⟩, within, same⟩
    refine ⟨_, ⟨p1, rfl⟩, _, ⟨p2, rfl⟩, _, ⟨p3, rfl⟩, _, ⟨p4, rfl⟩, within, ?_⟩
    obtain ⟨events, time, live, steps⟩ := same
    rw [← events, ← time, ← live, ← steps]

theorem validateBudget_ok {doc : Document} (schema : SatisfiesSchema doc)
    (ints : ∀ n ∈ [doc.budget.maxEvents, doc.budget.maxVirtualTimeNs,
      doc.budget.maxLiveCapabilities, doc.budget.maxRecoverySteps], n.isInt = true) :
    Oracle.validateBudget doc.budget = .ok () ↔ WithinModel doc.budget := by
  simp only [Oracle.validateBudget, bind_ok, require_ok, exists_const, WithinModel]
  refine and_iff_right ?_
  intro n listed
  refine ⟨ints n listed, ?_⟩
  simp only [List.mem_cons, List.not_mem_nil, or_false] at listed
  rcases listed with rfl | rfl | rfl | rfl
  · exact schema.budgetEvents
  · exact schema.budgetTime
  · exact schema.budgetLive
  · exact schema.budgetRecovery

theorem schema_last {doc : Document} (schema : SatisfiesSchema doc) :
    ∃ last, doc.events.getLast? = some last := by
  cases ends : doc.events.getLast? with
  | none =>
    have two := schema.atLeastTwo
    simp [List.getLast?_eq_none_iff.mp ends] at two
  | some last => exact ⟨last, rfl⟩

theorem seeds_catalog {doc : Document} {s : Reducer × Catalog}
    {c : Finmap (fun _ : String => AnchoredCapability)} {r : Reducer} {live : Owners}
    (catalogs : CatalogsAgree doc.initial.stable s c) (seeds : SeedsAgree s.1 r live) :
    s.2 = r.catalog := by
  rw [catalogs.copy, seeds.fresh]

section Documents

variable {doc : Document} (schema : SatisfiesSchema doc) (idle : doc.Idle)
include schema

include idle in
theorem replayTrace_iff {result : Replay} :
    replayTrace doc = .ok result ↔
      (doc.schemaVersion.asU64 = some 1 ∧ doc.modelVersion.asU64 = some 1) ∧
      ∃ s, doc.capabilityCatalog.foldlM registerItem (Reducer.new doc.initial.stable, ∅) = .ok s ∧
      ∃ r, doc.liveCapabilities.foldlM seedItem s.1 = .ok r ∧
      ∃ limits, readBudget doc.budget = .ok limits ∧ doc.events.length ≤ limits.maxEvents ∧
      ∃ final, replayEvents s.2 limits 0 ⟨r, 0, false⟩ doc.events = .ok final ∧
        conclude doc limits final = .ok result := by
  have idle' : doc.initial.journal = .none ∧ doc.initial.intent = .none := idle
  have shape : ∀ done, validateTraceShape doc = .ok done ↔
      doc.schemaVersion.asU64 = some 1 ∧ doc.modelVersion.asU64 = some 1 :=
    fun _ => shape_iff schema
  have two := schema.atLeastTwo
  simp only [replayTrace, check, bind_ok, require_ok, exists_const, shape, idle', two, and_self,
    true_and]

theorem oracle_replayTrace_iff {other : Oracle.ReplayResult} :
    Oracle.replayTrace doc = .ok other ↔ Oracle.validateBudget doc.budget = .ok () ∧
      ∃ c, doc.capabilityCatalog.foldlM Oracle.addCapability ∅ = .ok c ∧
      ∃ live, doc.liveCapabilities.foldlM (Oracle.addOwnership c) ∅ = .ok live ∧
      doc.events.length ≤ doc.budget.maxEvents.value ∧
      ∃ final, Oracle.replayEvents doc.budget 0
          (Oracle.initialRuntime doc.initial c live doc.liveCapabilities, -1) doc.events = .ok final ∧
        Oracle.conclude doc final.1 = .ok other := by
  have versions : doc.schemaVersion.value = 1 ∧ doc.modelVersion.value = 1 :=
    ⟨schema.schemaVersion, schema.modelVersion⟩
  have named := isIdentifier_nonempty schema.traceId
  have some_ : doc.events ≠ [] := by
    intro none
    simpa [none] using schema.atLeastTwo
  simp only [Oracle.replayTrace, bind_ok, require_ok, exists_const, schema, versions, named,
    schema.scenario, provenance_ok schema, some_, ne_eq, not_false_eq_true, true_and, and_self]
  exact ⟨fun ⟨_, budget, rest⟩ => ⟨budget, rest⟩, fun ⟨budget, rest⟩ => ⟨(), budget, rest⟩⟩

include idle

/-- Everything the reducer's replay shares with the oracle's once it accepts. -/
theorem oracle_of_reducer
    (once : (doc.expected.liveCapabilities.map Ownership.capability).Nodup)
    (single : oneTransaction doc.initial.journal doc.events = true)
    (lost : doc.initial.stable = .corrupt →
      seedsLost (doc.liveCapabilities.map Ownership.capability) doc.events = true)
    {result : Replay} (accepted : replayTrace doc = .ok result) :
    ∃ other, Oracle.replayTrace doc = .ok other ∧
      (result = other.shared ↔ companionsSettled doc.events = true) := by
  obtain ⟨_, s, registered, r, seeded, limits, budget, count, final, run, done⟩ :=
    (replayTrace_iff schema idle).mp accepted
  obtain ⟨⟨p1, p2, p3, p4⟩, within, same⟩ := readBudget_ok.mp budget
  obtain ⟨c, added, catalogs⟩ := oracle_registers schema registered
  obtain ⟨live, owned, seeds⟩ := oracle_seeds catalogs schema seeded
  have ledger : Ledger r := (seeded_ledger
    (seeds_seeded (registered_seeded (.new _) registered) seeded)).1
  have related := related_start idle catalogs owned seeds lost ledger
  have catalog := seeds_catalog catalogs seeds
  have journal : r.snapshot.journal = doc.initial.journal := by
    rw [← related.sim.snapshot]
    rfl
  rw [catalog] at run
  obtain ⟨o, oracle, ended⟩ := reducer_run related same schema.events (journal ▸ single) run
  obtain ⟨last, ends⟩ := schema_last schema
  obtain ⟨index, before, round⟩ := replayEvents_last (s := ⟨r, 0, false⟩) ends run
  obtain ⟨other, concluded⟩ := conclude_of_reducer same ended ends round schema once count done
  have ints : ∀ n ∈ [doc.budget.maxEvents, doc.budget.maxVirtualTimeNs,
      doc.budget.maxLiveCapabilities, doc.budget.maxRecoverySteps], n.isInt = true := by
    simp [p1.isInt, p2.isInt, p3.isInt, p4.isInt]
  refine ⟨other, (oracle_replayTrace_iff schema).mpr
    ⟨(validateBudget_ok schema ints).mpr within, c, added, live, owned, same.events ▸ count, o, oracle,
      concluded⟩, ?_⟩
  rw [conclusions_equal ended done concluded]
  have companions := run_hasCompanion (s := ⟨r, 0, false⟩) run
  have none : ¬HasCompanion r := by
    rintro ⟨item, member, _⟩
    have empty : r.obligations = ∅ := by rw [seeds.fresh, catalogs.fresh]; rfl
    simp [empty] at member
  simp only [none, false_and, or_false] at companions
  have absent : NoCompanion final.reducer ↔ ¬HasCompanion final.reducer := by
    simp [NoCompanion, HasCompanion]
  rw [absent, companions]
  simp

theorem reducer_of_oracle (regular : Regular doc) {other : Oracle.ReplayResult}
    (accepted : Oracle.replayTrace doc = .ok other) : Accepted (replayTrace doc) := by
  obtain ⟨budget, c, added, live, owned, count, o, oracle, concluded⟩ :=
    (oracle_replayTrace_iff schema).mp accepted
  have plain : ∀ n ∈ doc.numbers, n.Plain := regular.numbers
  simp only [Document.numbers, List.mem_append, List.mem_cons, List.mem_map, List.mem_flatMap,
    List.not_mem_nil, or_false] at plain
  have generations : ∀ item ∈ doc.capabilityCatalog, item.generation.Plain :=
    fun item listed => plain _ (Or.inl (Or.inr ⟨item, listed, rfl⟩))
  have digits : ∀ event ∈ doc.events, event.seq.Plain ∧ event.timeNs.Plain :=
    fun event listed => ⟨plain _ (Or.inr ⟨event, listed, Or.inl rfl⟩),
      plain _ (Or.inr ⟨event, listed, Or.inr rfl⟩)⟩
  have versions : doc.schemaVersion.asU64 = some 1 ∧ doc.modelVersion.asU64 = some 1 :=
    ⟨asU64_some_iff.mpr ⟨plain _ (by simp), schema.schemaVersion⟩,
      asU64_some_iff.mpr ⟨plain _ (by simp), schema.modelVersion⟩⟩
  have limits : readBudget doc.budget = .ok ⟨doc.budget.maxEvents.value,
      doc.budget.maxVirtualTimeNs.value, doc.budget.maxLiveCapabilities.value,
      doc.budget.maxRecoverySteps.value⟩ := by
    have p1 : doc.budget.maxEvents.Plain := plain _ (by simp)
    have p2 : doc.budget.maxVirtualTimeNs.Plain := plain _ (by simp)
    have p3 : doc.budget.maxLiveCapabilities.Plain := plain _ (by simp)
    have p4 : doc.budget.maxRecoverySteps.Plain := plain _ (by simp)
    have ints : ∀ n ∈ [doc.budget.maxEvents, doc.budget.maxVirtualTimeNs,
        doc.budget.maxLiveCapabilities, doc.budget.maxRecoverySteps], n.isInt = true := by
      simp [p1.isInt, p2.isInt, p3.isInt, p4.isInt]
    exact readBudget_ok.mpr ⟨⟨p1, p2, p3, p4⟩, (validateBudget_ok schema ints).mp budget,
      rfl, rfl, rfl, rfl⟩
  have same := (readBudget_ok.mp limits).2.2
  obtain ⟨s, registered, catalogs⟩ := reducer_registers generations added
  obtain ⟨r, seeded, seeds⟩ := reducer_seeds catalogs owned
  have ledger : Ledger r := (seeded_ledger
    (seeds_seeded (registered_seeded (.new _) registered) seeded)).1
  have related := related_start idle catalogs owned seeds regular.seeds ledger
  have catalog := seeds_catalog catalogs seeds
  have processes : ∀ event ∈ doc.events, ∀ id entry, event.data.observes id = true →
      r.catalog.lookup id = some entry → entry.kind.isPidfd = true := by
    intro event listed id entry observes known
    rw [← catalog, catalogs.copy] at known
    rcases (registered_items registered).2.2 id entry known with new | ⟨item, inCatalog, rfl, kind⟩
    · simp [Reducer.new] at new
    · exact kind ▸ regular.processes event listed item inCatalog observes
  obtain ⟨_, sound, _, _, _, complete, _⟩ := oracle_conclude_ok.mp concluded
  have quiet : o.1.membershipSeenAfterGone = false := by
    have entry := invariants_complete.mp complete
      ("no-children-after-gone", !o.1.membershipSeenAfterGone) (by simp [Oracle.invariantTable])
    simpa using entry
  obtain ⟨final, run, ended⟩ := oracle_run related same schema.events digits processes oracle quiet sound
  obtain ⟨last, ends⟩ := schema_last schema
  obtain ⟨index, before, round⟩ := replayEvents_last (s := ⟨r, 0, false⟩) ends run
  obtain ⟨result, done⟩ := conclude_of_oracle same ended ends round count concluded
  exact ⟨result, (replayTrace_iff schema idle).mpr
    ⟨versions, s, registered, r, seeded, _, limits, count, final, catalog ▸ run, done⟩⟩

/-- Two accepting replays with equal results come from a regular document. -/
theorem regular_of_equal {result : Replay} {other : Oracle.ReplayResult}
    (reducer : replayTrace doc = .ok result) (oracle : Oracle.replayTrace doc = .ok other)
    (equal : result = other.shared) : Regular doc := by
  obtain ⟨⟨v1, v2⟩, s, registered, r, seeded, limits, budget, count, final, run, done⟩ :=
    (replayTrace_iff schema idle).mp reducer
  obtain ⟨⟨p1, p2, p3, p4⟩, within, same⟩ := readBudget_ok.mp budget
  obtain ⟨_, c, added, live, owned, _, o, oracleRun, concluded⟩ :=
    (oracle_replayTrace_iff schema).mp oracle
  obtain ⟨c', added', catalogs⟩ := oracle_registers schema registered
  obtain rfl : c' = c := Except.ok.inj (added'.symm.trans added)
  obtain ⟨live', owned', seeds⟩ := oracle_seeds catalogs schema seeded
  obtain rfl : live' = live := Except.ok.inj (owned'.symm.trans owned)
  have catalog := seeds_catalog catalogs seeds
  rw [catalog] at run
  obtain ⟨_, _, _, _, _, _, _, rfl⟩ := conclude_ok.mp done
  obtain ⟨_, _, _, _, _, _, _, entries, _, rfl⟩ := oracle_conclude_ok.mp concluded
  have sameLive : o.1.live = final.reducer.live := (Replay.mk.inj equal).2.2.2.2.1.symm
  have once := entries_once entries
  have single : oneTransaction doc.initial.journal doc.events = true :=
    oracle_run_single schema.events oracleRun
  have ledger : Ledger r := (seeded_ledger
    (seeds_seeded (registered_seeded (.new _) registered) seeded)).1
  have lost : doc.initial.stable = .corrupt →
      seedsLost (doc.liveCapabilities.map Ownership.capability) doc.events = true := by
    intro corrupt
    have sim := sim_start idle catalogs owned seeds
    have fresh := reducer_fresh catalogs seeds
    have ids := seeded_ids owned
    have untouched : Untouched (doc.liveCapabilities.map Ownership.capability) r
        (Oracle.initialRuntime doc.initial c' live' doc.liveCapabilities) :=
      { snapshot := sim.snapshot
        journal := by rw [fresh]; rfl
        stable := by rw [fresh]; exact corrupt
        unrestored := by rw [fresh]; rfl
        consumed := fun id listed => ledger.live id (sim.live ▸ (ids id).mpr listed)
        restored := fun id listed => (ids id).mpr listed
        present := by simp [Oracle.initialRuntime]
        presentThen := by simp [Oracle.initialRuntime] }
    exact run_seedsLost (s := ⟨r, 0, false⟩) schema.events untouched run oracleRun sameLive
  obtain ⟨other', oracle', companions⟩ := oracle_of_reducer schema idle once single lost reducer
  obtain rfl := Except.ok.inj (oracle'.symm.trans oracle)
  refine ⟨?_, once, single, lost, ?_, companions.mp equal⟩
  · intro n listed
    simp only [Document.numbers, List.mem_append, List.mem_cons, List.mem_map, List.mem_flatMap,
      List.not_mem_nil, or_false] at listed
    rcases listed with ((rfl | rfl | rfl | rfl | rfl | rfl) | ⟨item, inCatalog, rfl⟩) |
      ⟨event, inEvents, rfl | rfl⟩
    · exact (asU64_some_iff.mp v1).1
    · exact (asU64_some_iff.mp v2).1
    · exact p1
    · exact p2
    · exact p3
    · exact p4
    · exact ((registered_items registered).2.1 item inCatalog).1
    · exact (run_plain (s := ⟨r, 0, false⟩) run event inEvents).1
    · exact (run_plain (s := ⟨r, 0, false⟩) run event inEvents).2
  · intro event inEvents item inCatalog observes
    have known := ((registered_items registered).2.1 item inCatalog).2
    rw [← catalogs.copy, catalog] at known
    exact run_processes (s := ⟨r, 0, false⟩) run known event inEvents observes

end Documents

/-- The two replays agree on every regular document, and on a document that one of them
accepts they agree only if it is regular. -/
theorem replays_agree (doc : Document) (schema : SatisfiesSchema doc) (idle : doc.Idle) :
    (Regular doc → Agree doc) ∧
      (Accepted (replayTrace doc) ∨ Accepted (Oracle.replayTrace doc) →
        (Agree doc ↔ Regular doc)) := by
  have enough : Regular doc → Agree doc := by
    intro regular
    refine ⟨⟨?_, ?_⟩, ?_⟩
    · rintro ⟨result, accepted⟩
      obtain ⟨other, oracle, _⟩ := oracle_of_reducer schema idle regular.expectedOnce regular.single
        regular.seeds accepted
      exact ⟨other, oracle⟩
    · rintro ⟨other, accepted⟩
      exact reducer_of_oracle schema idle regular accepted
    · intro result other reducer oracle
      obtain ⟨other', oracle', companions⟩ := oracle_of_reducer schema idle regular.expectedOnce
        regular.single regular.seeds reducer
      obtain rfl := Except.ok.inj (oracle'.symm.trans oracle)
      exact companions.mpr regular.companions
  refine ⟨enough, fun either => ⟨?_, enough⟩⟩
  rintro ⟨both, equal⟩
  have reducer : Accepted (replayTrace doc) := either.elim id both.mpr
  have oracle := both.mp reducer
  obtain ⟨result, accepted⟩ := reducer
  obtain ⟨other, accepted'⟩ := oracle
  exact regular_of_equal schema idle accepted accepted' (equal result other accepted accepted')

/-- A golden trace with the given history; event `n` happens at time `n`. -/
def goldenTrace (initial : StableState) (catalog : List CatalogItem) (live : List Ownership)
    (history : List (EventData × StateSnapshot)) (expected : Outcome × StateSnapshot)
    (expectedLive : List Ownership) (observations : List RecoveryObservation) : Document where
  schemaVersion := plain 1
  modelVersion := plain 1
  traceId := "trace"
  scenario := "scenario"
  provenance := {
    kind := .goldenScenario
    sourceLabel := "golden"
    evidenceId := "golden/trace"
    sourceIdentity := {
      repository := "darling"
      commit := "0123456789abcdef0123456789abcdef01234567"
      tree := "0123456789abcdef0123456789abcdef01234567"
      profile := "profile"
      module := "module" }
    artifactSha256 := none }
  budget := ⟨plain 16, plain 100, plain 4, plain 4⟩
  initial := ⟨initial, .none, .none⟩
  capabilityCatalog := catalog
  liveCapabilities := live
  events := history.mapIdx fun index item => ⟨plain index, plain index, .controller, item.1, item.2⟩
  expected := ⟨expected.1, expected.2, tableNames, expectedLive⟩
  recoveryObservations := observations

/-- One transaction that loses its session root and is rolled back. -/
def lostRootTrace : Document :=
  goldenTrace .running [⟨"cap.root", .sessionRootPidfd, "root", plain 1⟩]
    [⟨"cap.root", "launchd"⟩] [
      (.intentDeclared .requestShutdown "txn.stop", ⟨.running, .prepare, .requestShutdown⟩),
      (.barrierEntered .threadsStopped .entered, ⟨.draining, .prepare, .requestShutdown⟩),
      (.identityRevalidated "cap.root" .gone, ⟨.draining, .prepare, .requestShutdown⟩),
      (.recovery .rollbackRunning "root-gone", ⟨.running, .abort, .recover⟩),
      (.terminal .recovered, ⟨.running, .abort, .recover⟩)]
    (.recovered, ⟨.running, .abort, .recover⟩) [] [⟨.draining, .prepare, .rollbackRunning⟩]

theorem replays_agree_lostRootTrace :
    Regular lostRootTrace ∧ Accepted (replayTrace lostRootTrace) ∧ Agree lostRootTrace := by
  have schema : SatisfiesSchema lostRootTrace := by decide +kernel
  have idle : lostRootTrace.Idle := by decide
  have regular : Regular lostRootTrace := by decide +kernel
  have accepted : Accepted (replayTrace lostRootTrace) := by decide +kernel
  exact ⟨regular, accepted, ((replays_agree lostRootTrace schema idle).2 (Or.inl accepted)).mpr regular⟩

/-- Two transactions, each rolled back before the next intent. -/
def reopenedTrace : Document :=
  goldenTrace .ready [] [] [
      (.intentDeclared .startSession "txn.first", ⟨.ready, .prepare, .startSession⟩),
      (.recovery .rollbackReady "retry", ⟨.ready, .abort, .recover⟩),
      (.intentDeclared .startSession "txn.second", ⟨.ready, .prepare, .startSession⟩),
      (.recovery .rollbackReady "retry", ⟨.ready, .abort, .recover⟩),
      (.terminal .recovered, ⟨.ready, .abort, .recover⟩)]
    (.recovered, ⟨.ready, .abort, .recover⟩) []
    [⟨.ready, .prepare, .rollbackReady⟩, ⟨.ready, .prepare, .rollbackReady⟩]

/-- The reducer accepts the second transaction, the oracle refuses it. -/
theorem replays_disagree_reopenedTrace :
    SatisfiesSchema reopenedTrace ∧ reopenedTrace.Idle ∧ ¬Agree reopenedTrace := by
  refine ⟨by decide +kernel, by decide, ?_⟩
  rintro ⟨both, _⟩
  have reducer : Accepted (replayTrace reopenedTrace) := by decide +kernel
  have oracle : ¬Accepted (Oracle.replayTrace reopenedTrace) := by decide +kernel
  exact oracle (both.mp reducer)

end Darling.Lifecycle
