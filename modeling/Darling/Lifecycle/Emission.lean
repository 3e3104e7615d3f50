import Darling.Lifecycle.Exploration

/-! The traces that the explorer writes out. A run through the reducer and the replay of its trace go in step, so
both replays accept a trace exactly where the explorer finds its invariants complete. -/
namespace Darling.Lifecycle.Explorer

section Ownerships

theorem ownerships_capabilities (owners : Owners) :
    (ownerships owners).map Ownership.capability = owners.keys.sort (· ≤ ·) := by
  simp [ownerships, Function.comp_def]

theorem ownerships_once (owners : Owners) : ((ownerships owners).map Ownership.capability).Nodup := by
  rw [ownerships_capabilities]
  exact Finset.sort_nodup ..

theorem mem_ownerships {owners : Owners} {item : Ownership} (listed : item ∈ ownerships owners) :
    owners.lookup item.capability = some item.owner := by
  obtain ⟨id, sorted, rfl⟩ := List.mem_map.mp listed
  have known : id ∈ owners := Finmap.mem_keys.mp ((Finset.mem_sort _).mp sorted)
  obtain ⟨owner, found⟩ := Finmap.mem_iff.mp known
  simp [found]

/-- The list of the owners is the map again. -/
theorem ownershipMap_ownerships (owners : Owners) : owners = ownershipMap (ownerships owners) := by
  rw [ownershipMap_iff (ownerships_once owners)]
  have each : ∀ entry ∈ owners.entries, (⟨entry.1, (owners.lookup entry.1).getD ""⟩ : Sigma fun _ : String =>
      String) = entry := by
    intro entry listed
    have found : owners.lookup entry.1 = some entry.2 := Finmap.lookup_eq_some_iff.mpr listed
    rw [found]
    rfl
  have sorted : (owners.keys.sort (· ≤ ·) : Multiset String) = owners.entries.map Sigma.fst := Finset.sort_eq _ _
  calc Multiset.ofList ((ownerships owners).map Ownership.pair)
      = ((owners.keys.sort (· ≤ ·) : Multiset String)).map fun id => ⟨id, (owners.lookup id).getD ""⟩ := by
        simp only [ownerships, List.map_map, Ownership.pair, Function.comp_def, Multiset.map_coe]
    _ = owners.entries.map fun entry => ⟨entry.1, (owners.lookup entry.1).getD ""⟩ := by
        rw [sorted, Multiset.map_map]
        rfl
    _ = owners.entries := by
        rw [Multiset.map_congr rfl each]
        exact Multiset.map_id _

end Ownerships

section Replays

variable {budget : ExplorerBudget} {p p' : Progress} {events : List DraftEvent}

/-- The data of a trace are the data of its draft. -/
theorem traceEvents_data (index : Nat) {times : List Nat} {snapshots : List StateSnapshot}
    (first : times.length = events.length)
    (second : snapshots.length = events.length) :
    (traceEvents index events times snapshots).map TraceEvent.data = events.map DraftEvent.data := by
  induction events generalizing index times snapshots with
  | nil => simp [traceEvents]
  | cons event rest ih =>
    obtain ⟨time, times, rfl⟩ := List.exists_cons_of_length_eq_add_one first
    obtain ⟨snapshot, snapshots, rfl⟩ := List.exists_cons_of_length_eq_add_one second
    simp [traceEvents, ih _ (by simpa using first) (by simpa using second)]

theorem traceEvents_length (index : Nat) {times : List Nat} {snapshots : List StateSnapshot}
    (first : times.length = events.length)
    (second : snapshots.length = events.length) :
    (traceEvents index events times snapshots).length = events.length := by
  simpa using congrArg List.length (traceEvents_data index first second)

/-- The data of an event say what the reducer is given. -/
def Faithful (catalog : Catalog) (event : DraftEvent) : Prop := mapEvent event.data catalog = .ok (some event.event)

theorem Faithful.isTerminal {catalog : Catalog} {event : DraftEvent} (faithful : Faithful catalog event) :
    event.data.isTerminal = Event.isTerminal event.event := by
  obtain ⟨actor, given, data, deltaNs⟩ := event
  cases data with
  | capabilityAcquired capability owner =>
    simp only [Faithful, mapEvent] at faithful
    split at faithful
    · cases faithful
    · cases faithful
      rfl
  | barrierEntered barrier result =>
    simp only [Faithful, mapEvent] at faithful
    split at faithful
    · cases faithful
      rfl
    · cases faithful
  | _ =>
    cases faithful
    rfl

/-- A run of the event loop is a run of the replay over its trace. -/
theorem executeEvents_replays (faithful : ∀ event ∈ events, Faithful p.reducer.catalog event)
    (last : terminalLast events = true) (small : p.times.length + events.length ≤ UInt64.size)
    (ran : executeEvents budget p events = .ok p') :
    ∃ times snapshots, p'.times = p.times ++ times ∧ p'.snapshots = p.snapshots ++ snapshots ∧
      times.length = events.length ∧ snapshots.length = events.length ∧ p'.times.getLast?.getD 0 = p'.nowNs ∧
      p'.reducer.terminal ≠ none ∧
      replayEvents p.reducer.catalog budget.limits p.times.length ⟨p.reducer, p.nowNs, false⟩
        (traceEvents p.times.length events times snapshots) = .ok ⟨p'.reducer, p'.nowNs, true⟩ := by
  induction events generalizing p with
  | nil => cases last
  | cons event rest ih =>
    simp only [executeEvents, bind_ok] at ran
    obtain ⟨middle, first, later⟩ := ran
    have round := executeEvent_round first
    have here := faithful event List.mem_cons_self
    have counted : middle.times.length = p.times.length + 1 := by simp [round.times]
    have grows : middle.reducer.catalog = p.reducer.catalog := (step_grows round.step).catalog
    have replayed : replayEvent p.reducer.catalog budget.limits p.times.length ⟨p.reducer, p.nowNs, false⟩
        ⟨plain p.times.length, plain middle.nowNs, event.actor, event.data, middle.reducer.snapshot⟩ =
          .ok ⟨middle.reducer, middle.nowNs, event.data.isTerminal⟩ := by
      refine replayEvent_iff.mpr ⟨rfl, ?_, ?_, ?_, round.bounded, ?_, rfl, round.live, round.steps, rfl⟩
      · rw [List.length_cons] at small
        exact asU64_some_iff.mpr ⟨⟨rfl, show p.times.length < UInt64.size by omega⟩, rfl⟩
      · exact asU64_some_iff.mpr ⟨⟨rfl, round.small⟩, rfl⟩
      · have now := round.now
        show p.nowNs ≤ middle.nowNs
        omega
      · exact ⟨some event.event, here, applyMapped_some.mpr round.applied⟩
    cases rest with
    | nil =>
      obtain rfl : middle = p' := Except.ok.inj later
      have terminal : event.data.isTerminal = true := by
        rw [here.isTerminal]
        simpa [terminalLast] using last
      have ended : middle.reducer.terminal ≠ none := by
        rw [step_terminal round.step, round.running, Option.or_none, ← Option.isSome_iff_ne_none,
          ← Event.isTerminal_outcome,
          ← here.isTerminal]
        exact terminal
      refine ⟨[middle.nowNs], [middle.reducer.snapshot], round.times, round.snapshots, rfl,
        rfl, by simp [round.times], ended, ?_⟩
      simp only [traceEvents, replayEvents, replayed, terminal]
      rfl
    | cons next more =>
      obtain ⟨other, lastly⟩ : Event.isTerminal event.event = false ∧ terminalLast (next :: more) = true := by
        simpa [terminalLast, and_comm, and_assoc, and_left_comm] using last
      have open_ : event.data.isTerminal = false := here.isTerminal.trans other
      have rest := ih (by rw [grows]; exact fun event listed => faithful event (List.mem_cons_of_mem _ listed)) lastly
        (by rw [counted]; rw [List.length_cons] at small; omega) later
      obtain ⟨times, snapshots, timed, snapped, count, countSnapshots, now, ended, run⟩ := rest
      refine ⟨middle.nowNs :: times, middle.reducer.snapshot :: snapshots, ?_,
        ?_, by simp [count], by simp [countSnapshots], now,
        ended, ?_⟩
      · rw [timed, round.times]
        simp
      · rw [snapped, round.snapshots]
        simp
      · rw [traceEvents, replayEvents, replayed, open_, ← counted, ← grows]
        exact run

/-- The catalog of the trace registers as the catalog of the draft does. -/
theorem registered_items {catalog : List CatalogSpec} {r r' : Reducer}
    (registered : catalog.foldlM registerSpec r = .ok r') :
    (catalog.map fun capability => (⟨capability.id, capability.kind, capability.token, plain 1⟩ : CatalogItem)).foldlM
      registerItem
      (r, r.catalog) = .ok (r', r'.catalog) := by
  induction catalog generalizing r with
  | nil =>
    cases registered
    rfl
  | cons capability rest ih =>
    rw [List.foldlM_cons, bind_ok] at registered
    obtain ⟨middle, first, later⟩ := registered
    have done := registerSpec_ok first
    obtain ⟨_, same⟩ := register_ok done
    have item : registerItem (r, r.catalog) ⟨capability.id, capability.kind, capability.token, plain 1⟩ =
        .ok (middle, middle.catalog) := by
      have catalog : middle.catalog = r.catalog.insert capability.id ⟨capability.kind, 1⟩ := by rw [same]
      simp only [registerItem, bind_ok, readU64_ok, asU64_some_iff, pure_ok]
      exact ⟨1, ⟨⟨rfl, by decide⟩, rfl⟩, middle, by rw [done]; rfl, by rw [catalog]⟩
    rw [List.map_cons, List.foldlM_cons, item]
    exact ih later

/-- Every capability of a draft is registered under its kind, and no other. -/
theorem registered_lookup {catalog : List CatalogSpec} {r r' : Reducer}
    (registered : catalog.foldlM registerSpec r = .ok r') :
    (∀ id entry, r.catalog.lookup id = some entry → r'.catalog.lookup id = some entry) ∧
      (∀ capability ∈ catalog, r'.catalog.lookup capability.id = some ⟨capability.kind, 1⟩) ∧
      ∀ id ∈ r'.catalog, id ∈ r.catalog ∨ ∃ capability ∈ catalog, capability.id = id := by
  have done := Lifecycle.registered_items (registered_items registered)
  refine ⟨done.1, ?_, ?_⟩
  · intro capability listed
    exact (done.2.1 _ (List.mem_map_of_mem listed)).2
  · intro id known
    obtain ⟨entry, found⟩ := Finmap.mem_iff.mp known
    rcases done.2.2 id entry found with before | ⟨item, listed, same, _⟩
    · exact .inl (Finmap.mem_of_lookup_eq_some before)
    · obtain ⟨capability, there, rfl⟩ := List.mem_map.mp listed
      exact .inr ⟨capability, there, same⟩

end Replays

section Owners

/-- Every owner in the ledger and in its checkpoint is one of the allowed. -/
structure Owned (allowed : String → Prop) (r : Reducer) : Prop where
  live : ∀ id owner, r.live.lookup id = some owner → allowed owner
  checkpoint : ∀ id owner, r.checkpointLive.lookup id = some owner → allowed owner

/-- The owner that an event brings in. -/
def Event.grants : Event → Option String
  | .acquire _ _ _ owner => some owner
  | .move _ _ target => some target
  | _ => none

variable {allowed : String → Prop} {r after : Reducer} {event : Event}

theorem owned_insert {owners : Owners} {id owner : String}
    (before : ∀ id owner, owners.lookup id = some owner → allowed owner)
    (granted : allowed owner) : ∀ other found, (owners.insert id owner).lookup other = some found → allowed found := by
  intro other found listed
  by_cases same : other = id
  · subst same
    rw [Finmap.lookup_insert] at listed
    cases listed
    exact granted
  · rw [Finmap.lookup_insert_of_ne _ same] at listed
    exact before other found listed

theorem owned_erase {owners : Owners} {id : String}
    (before : ∀ id owner, owners.lookup id = some owner → allowed owner) :
    ∀ other found, (owners.erase id).lookup other = some found → allowed found := by
  intro other found listed
  by_cases same : other = id
  · subst same
    rw [Finmap.lookup_erase] at listed
    cases listed
  · rw [Finmap.lookup_erase_ne same] at listed
    exact before other found listed

theorem settle_owned (action : RecoveryAction) (owned : Owned allowed r) : Owned allowed (settle action r) := by
  unfold settle
  split_ifs
  · refine ⟨?_, owned.checkpoint⟩
    intro id owner listed
    simp only [rollback, Finmap.lookup_eraseAll] at listed
    split at listed
    · cases listed
    · exact owned.checkpoint id owner listed
  all_goals exact ⟨owned.live, owned.checkpoint⟩

theorem step_owned (step : Step r event after) (granted : ∀ owner ∈ Event.grants event, allowed owner)
    (owned : Owned allowed r) :
    Owned allowed after := by
  cases step with
  | acquire => exact ⟨owned_insert owned.live (granted _ rfl), owned.checkpoint⟩
  | move => exact ⟨owned_insert owned.live (granted _ rfl), owned.checkpoint⟩
  | release => exact ⟨owned_erase owned.live, owned.checkpoint⟩
  | intent => exact ⟨owned.live, owned.live⟩
  | identityFailure => exact ⟨owned_erase owned.live, owned.checkpoint⟩
  | @signal id entry result =>
    cases result
    case gone => exact ⟨owned_erase owned.live, owned.checkpoint⟩
    all_goals exact ⟨owned.live, owned.checkpoint⟩
  | recovery => exact settle_owned _ ⟨owned.live, owned.checkpoint⟩
  | _ => exact ⟨owned.live, owned.checkpoint⟩

/-- What holds of the reducer along a run: its ledger, its catalog and its owners. -/
theorem executeEvents_keeps {budget : ExplorerBudget} {p p' : Progress} {events : List DraftEvent}
    (ledger : Ledger p.reducer)
    (owned : Owned allowed p.reducer) (granted : ∀ event ∈ events, ∀ owner ∈ Event.grants event.event, allowed owner)
    (ran : executeEvents budget p events = .ok p') :
    Ledger p'.reducer ∧ Owned allowed p'.reducer ∧ p'.reducer.catalog = p.reducer.catalog := by
  induction events generalizing p with
  | nil =>
    cases ran
    exact ⟨ledger, owned, rfl⟩
  | cons event rest ih =>
    simp only [executeEvents, bind_ok] at ran
    obtain ⟨middle, first, later⟩ := ran
    have step := (executeEvent_round first).step
    obtain ⟨here, more⟩ := List.forall_mem_cons.mp granted
    obtain ⟨ledger, owned, catalog⟩ := ih (step_ledger ledger step) (step_owned step here owned) more later
    exact ⟨ledger, owned, catalog.trans (step_grows step).catalog⟩

end Owners

section Documents

/-- The trace of the draft has the texts that the schema asks for, and its data say what the reducer is given. -/
structure Drafted (draft : Draft) : Prop where
  scenario : isIdentifier (fun c => isLowerDigit c || c == '-') draft.scenario = true
  catalog : ∀ capability ∈ draft.catalog, isTagged "cap." capability.id = true ∧
    isWord (fun c => isNameChar c || c == '@') capability.token.toList = true
  catalogOnce : (draft.catalog.map CatalogSpec.id).Nodup
  running : draft.initialStable ≠ .corrupt
  patterns : ∀ event ∈ draft.events, event.data.patterns = true ∧ event.data.uniqueMembers = true
  faithful : ∀ event ∈ draft.events, ∀ catalog : Catalog,
    (∀ capability ∈ draft.catalog, catalog.lookup capability.id = some ⟨capability.kind, 1⟩) → Faithful catalog event
  granted : ∀ event ∈ draft.events, ∀ owner ∈ Event.grants event.event, isOwner owner = true
  processes : ∀ event ∈ draft.events, ∀ capability ∈ draft.catalog, event.data.observes capability.id = true →
    capability.kind.isPidfd = true
  intent : ∀ event ∈ draft.events.tail, event.data.isIntent = false
  settled : ∃ before after, draft.events = before ++ after ∧ (∀ event ∈ after, event.data.addsCompanion = false) ∧
    ∃ event ∈ after, event.data.clearsCompanions = true

variable {draft : Draft} {budget : ExplorerBudget} {seed : UInt64} {run : Run}

theorem validate_ok (valid : budget.validate = .ok ()) :
    (budget.maxEvents ≠ 0 ∧ budget.maxEvents ≤ modelMaxEvents) ∧
      (budget.maxVirtualTimeNs ≠ 0 ∧ budget.maxVirtualTimeNs ≤ modelMaxVirtualTimeNs) ∧
      (budget.maxLiveCapabilities ≠ 0 ∧ budget.maxLiveCapabilities ≤ modelMaxLiveCapabilities) ∧
      budget.maxRecoverySteps ≠ 0 ∧ budget.maxRecoverySteps ≤ modelMaxRecoverySteps := by
  simp only [ExplorerBudget.validate, bind_ok, require_ok, exists_const, not_or, Nat.not_lt] at valid
  obtain ⟨_, events, time, live, steps, _⟩ := valid
  exact ⟨events, time, live, steps⟩

/-- What the replay of a written trace starts from and comes to. -/
structure Replayed (draft : Draft) (budget : ExplorerBudget) (run : Run) (reducer : Reducer) (now : Nat) : Prop where
  registered : draft.catalog.foldlM registerSpec (Reducer.new draft.initialStable) = .ok reducer
  count : 2 ≤ draft.events.length ∧ draft.events.length ≤ budget.maxEvents
  times : run.times.length = draft.events.length
  snapshots : run.snapshots.length = draft.events.length
  last : run.times.getLast?.getD 0 = now
  ended : run.reducer.terminal ≠ none
  replay : replayEvents reducer.catalog budget.limits 0 ⟨reducer, 0, false⟩
    (traceEvents 0 draft.events run.times run.snapshots) = .ok ⟨run.reducer, now, true⟩
  ledger : Ledger run.reducer
  owned : Owned (fun owner => isOwner owner = true) run.reducer
  catalog : run.reducer.catalog = reducer.catalog

theorem execute_replayed (drafted : Drafted draft) (valid : budget.validate = .ok ())
    (ran : execute draft seed budget = .ok run) : ∃ reducer now, Replayed draft budget run reducer now := by
  obtain ⟨count, last, reducer, p, registered, executed, rfl⟩ := execute_ok ran
  obtain ⟨seeded, fresh⟩ := registered_seeded registered
  have faithful : ∀ event ∈ draft.events, Faithful reducer.catalog event := fun event listed =>
    drafted.faithful event listed reducer.catalog (registered_lookup registered).2.1
  have small : ([] : List Nat).length + draft.events.length ≤ UInt64.size := by
    have events := (validate_ok valid).1.2
    have bound : modelMaxEvents ≤ UInt64.size := by decide
    simp only [List.length_nil]
    omega
  have owned : Owned (fun owner => isOwner owner = true) reducer := by
    rw [fresh]
    constructor
    · intro id owner listed
      cases listed
    · intro id owner listed
      cases listed
  obtain ⟨times, snapshots, timed, snapped, countTimes, countSnapshots, now, ended, replay⟩ :=
    executeEvents_replays faithful last small executed
  obtain ⟨ledger, owned, catalog⟩ := executeEvents_keeps (seeded_ledger seeded).1 owned drafted.granted executed
  simp only [List.nil_append] at timed snapped
  rw [← timed, ← snapped] at replay
  exact ⟨reducer, p.nowNs, registered, count, timed ▸ countTimes, snapped ▸ countSnapshots, now, ended, replay,
    ledger, owned,
    catalog⟩

theorem isIdentifier_mono {allowed other : Char → Bool} {text : String} (wider : ∀ c, allowed c = true → other c = true)
    (identifier : isIdentifier allowed text = true) : isIdentifier other text = true := by
  unfold isIdentifier at identifier ⊢
  cases chars : text.toList with
  | nil => simp [chars] at identifier
  | cons first rest =>
    simp only [chars, Bool.and_eq_true, List.all_eq_true] at identifier ⊢
    exact ⟨identifier.1, fun c listed => wider c (identifier.2 c listed)⟩

theorem isIdentifier_all {allowed : Char → Bool} {text : String} (first : ∀ c, isLowerDigit c = true → allowed c = true)
    (identifier : isIdentifier allowed text = true) : text.toList.all allowed = true := by
  unfold isIdentifier at identifier
  cases chars : text.toList with
  | nil => rfl
  | cons head rest =>
    simp only [chars, Bool.and_eq_true] at identifier
    simp only [List.all_cons, Bool.and_eq_true]
    exact ⟨first head identifier.1, identifier.2⟩

theorem isNameChar_of_dashed {c : Char} (listed : (isLowerDigit c || c == '-') = true) : isNameChar c = true := by
  simp only [Bool.or_eq_true] at listed
  rcases listed with lower | dash
  · simp [isNameChar, lower]
  · simp [isNameChar, dash]

theorem isTagged_append {lead text more : String} (tagged : isTagged lead text = true)
    (all : more.toList.all isNameChar = true) :
    isTagged lead (text ++ more) = true := by
  simp only [isTagged, isWord, Bool.and_eq_true, List.isPrefixOf_iff_prefix] at tagged ⊢
  obtain ⟨leads, some, plain⟩ := tagged
  rw [String.toList_append, List.drop_append_of_le_length leads.length_le]
  refine ⟨leads.trans (List.prefix_append ..), ?_, ?_⟩
  · simp only [Bool.not_eq_true', List.isEmpty_eq_false_iff] at some ⊢
    exact List.append_ne_nil_of_left_ne_nil some _
  · rw [List.all_append, plain, all]
    rfl

/-- The texts that stand in every draft and in every trace of one fit the patterns of the schema. -/
structure FixedTexts : Prop where
  boundary : ∀ boundary : FailureBoundary, isIdentifier (fun c => isLowerDigit c || c == '-') boundary.text = true
  interleaving : ∀ interleaving : Interleaving,
    interleaving.text.toList.all (fun c => isLowerDigit c || c == '-') = true
  dash : "-".toList.all (fun c => isLowerDigit c || c == '-') = true
  transaction : isTagged "txn." "txn.explorer-" = true
  reason : isWord isNameChar "explorer-fault".toList = true
  endpoint : isTagged "endpoint." "endpoint.launchd" = true
  controller : isOwner "controller" = true
  catalog : ∀ capability ∈ draftCatalog, isTagged "cap." capability.id = true ∧
    isWord (fun c => isNameChar c || c == '@') capability.token.toList = true
  evidence : "dar-4ush.3/".toList.all (fun c => isNameChar c || c == '/') = true
  commit : isHex 40 "d02570556cac7df68459fe2e7df4f189b665b955" = true
  tree : isHex 40 "1daf503705aea74c7a6a2d7b94205409d164b9b5" = true
  profile : isOwner "lifecycle-lab" = true
  module : isOwner "operation-boundary" = true
  table : ∀ name ∈ tableNames, isWord (fun c => isLowerDigit c || c == '-') name.toList = true

theorem tableNames_some : tableNames ≠ [] := by simp [tableNames]

theorem fixedTexts : FixedTexts where
  boundary := by
    intro boundary
    cases boundary <;> decide +kernel
  interleaving := by
    intro interleaving
    cases interleaving <;> decide +kernel
  dash := by decide +kernel
  transaction := by decide +kernel
  reason := by decide +kernel
  endpoint := by decide +kernel
  controller := by decide +kernel
  catalog := by decide +kernel
  evidence := by decide +kernel
  commit := by decide +kernel
  tree := by decide +kernel
  profile := by decide +kernel
  module := by decide +kernel
  table := by decide +kernel

theorem evidence_pattern {scenario : String} (identifier : isIdentifier (fun c =>
    isLowerDigit c || c == '-') scenario = true) :
    isWord (fun c => isNameChar c || c == '/') ("dar-4ush.3/" ++ scenario).toList = true := by
  have all : scenario.toList.all (fun c => isNameChar c || c == '/') = true := by
    refine isIdentifier_all ?_ (isIdentifier_mono ?_ identifier)
    · intro c lower
      simp [isNameChar, lower]
    · intro c listed
      simp [isNameChar_of_dashed listed]
  rw [isWord, String.toList_append, List.all_append, all, fixedTexts.evidence]
  rfl

theorem traceEvents_spelled {index : Nat} {events : List DraftEvent} {times : List Nat}
    {snapshots : List StateSnapshot} :
    ∀ event ∈ traceEvents index events times snapshots, event.seq.spelling = .digits ∧
      event.timeNs.spelling = .digits := by
  fun_induction traceEvents index events times snapshots with
  | case1 index event events time times snapshot snapshots ih => exact List.forall_mem_cons.mpr ⟨⟨rfl, rfl⟩, ih⟩
  | case2 => simp

variable {reducer : Reducer} {now : Nat}

theorem Replayed.data_mem (replayed : Replayed draft budget run reducer now) {event : TraceEvent}
    (listed : event ∈ (traceJson draft run budget).events) : ∃ given ∈ draft.events, given.data = event.data := by
  have data : event.data ∈ draft.events.map DraftEvent.data := by
    rw [← traceEvents_data 0 replayed.times replayed.snapshots]
    exact List.mem_map_of_mem listed
  exact List.mem_map.mp data

theorem emitted_schema (drafted : Drafted draft) (valid : budget.validate = .ok ())
    (replayed : Replayed draft budget run reducer now) : SatisfiesSchema (traceJson draft run budget) where
  schemaVersion := rfl
  modelVersion := rfl
  traceId := drafted.scenario
  scenario := isIdentifier_mono (fun _ => isNameChar_of_dashed) drafted.scenario
  sourceLabel := show "dar-4ush.3-deterministic-explorer" ≠ "" by decide
  evidenceId := evidence_pattern drafted.scenario
  repository := show "darling-workspace" ≠ "" by decide
  commit := fixedTexts.commit
  tree := fixedTexts.tree
  profile := fixedTexts.profile
  module := fixedTexts.module
  artifact := by simp [traceJson]
  artifactSha := by simp [traceJson]
  budgetEvents := Nat.one_le_iff_ne_zero.mpr (validate_ok valid).1.1
  budgetTime := Nat.one_le_iff_ne_zero.mpr (validate_ok valid).2.1.1
  budgetLive := Nat.one_le_iff_ne_zero.mpr (validate_ok valid).2.2.1.1
  budgetRecovery := Nat.one_le_iff_ne_zero.mpr (validate_ok valid).2.2.2.1
  catalog := by
    intro item listed
    obtain ⟨capability, there, rfl⟩ := List.mem_map.mp listed
    obtain ⟨tagged, token⟩ := drafted.catalog capability there
    exact ⟨tagged, token, Nat.le_refl 1⟩
  catalogUnique := by
    refine List.Nodup.of_map CatalogItem.capabilityId ?_
    simpa [traceJson, Function.comp_def] using drafted.catalogOnce
  live := by simp [traceJson]
  liveUnique := List.nodup_nil
  atLeastTwo := by
    have count := traceEvents_length 0 replayed.times replayed.snapshots
    rw [traceJson, count]
    exact replayed.count.1
  events := by
    intro event listed
    obtain ⟨given, there, same⟩ := replayed.data_mem listed
    exact same ▸ (drafted.patterns given there).1
  members := by
    intro event listed
    obtain ⟨given, there, same⟩ := replayed.data_mem listed
    exact same ▸ (drafted.patterns given there).2
  invariants := ⟨tableNames_some, tableNames_nodup, fixedTexts.table⟩
  expectedLive := by
    intro item listed
    have found := mem_ownerships listed
    have owner := replayed.owned.live _ _ found
    obtain ⟨entry, known, _⟩ := replayed.ledger.live _ (Finmap.mem_of_lookup_eq_some found)
    rw [replayed.catalog] at known
    rcases (registered_lookup replayed.registered).2.2 _ (Finmap.mem_of_lookup_eq_some known) with none |
      ⟨capability, there, same⟩
    · exact absurd none Finmap.notMem_empty
    · rw [Ownership.patterns, ← same, (drafted.catalog capability there).1, owner]
      rfl
  expectedLiveUnique := (ownerships_once _).of_map
  writable := by
    intro n listed
    have digits : n.spelling = .digits := by
      simp only [Document.numbers, List.mem_append, List.mem_map, List.mem_flatMap] at listed
      rcases listed with (listed | ⟨item, there, rfl⟩) | ⟨event, there, listed⟩
      · simp only [traceJson, plain, List.mem_cons, List.not_mem_nil, or_false] at listed
        rcases listed with rfl | rfl | rfl | rfl | rfl | rfl
        all_goals rfl
      · obtain ⟨capability, _, rfl⟩ := List.mem_map.mp there
        rfl
      · have spelled := traceEvents_spelled event there
        simp only [List.mem_cons, List.not_mem_nil, or_false] at listed
        rcases listed with rfl | rfl
        · exact spelled.1
        · exact spelled.2
    simp [JsonInteger.writable, digits]

theorem completeInvariants_iff (replayed : Replayed draft budget run reducer now) :
    completeInvariants run budget = true ↔
      invariantRegistry ⊆ invariantNames run.reducer (traceJson draft run budget).events.length now budget.limits := by
  have count : (traceJson draft run budget).events.length = run.snapshots.length := by
    rw [traceJson, traceEvents_length 0 replayed.times replayed.snapshots, replayed.snapshots]
  rw [count, ← tableNames_registry, completeInvariants, replayed.last, List.all_eq_true]
  simp only [decide_eq_true_eq, Finset.subset_iff, List.mem_toFinset]
  rfl

/-- What a replay of the trace returns. -/
def outcome (draft : Draft) (run : Run) : Replay :=
  ⟨draft.scenario, run.reducer.terminal.getD .recovered, run.reducer.snapshot, run.reducer.observations,
    run.reducer.live,
    run.reducer.obligations, invariantRegistry⟩

theorem readBudget_emitted (draft : Draft) (run : Run) (valid : budget.validate = .ok ()) (limits : Limits) :
    readBudget (traceJson draft run budget).budget = .ok limits ↔ limits = budget.limits := by
  obtain ⟨⟨_, events⟩, ⟨_, time⟩, ⟨_, live⟩, _, steps⟩ := validate_ok valid
  simp only [modelMaxEvents, modelMaxVirtualTimeNs, modelMaxLiveCapabilities,
    modelMaxRecoverySteps] at events time live steps
  have plainly : ∀ value ≤ 1000000, (plain value).Plain := fun value small => ⟨rfl, show value < UInt64.size by
    have bound : 1000000 < UInt64.size := by decide
    omega⟩
  rw [readBudget_ok]
  constructor
  · rintro ⟨_, _, ⟨same1, same2, same3, same4⟩⟩
    obtain ⟨a, b, c, d⟩ := limits
    simp only [traceJson, plain] at same1 same2 same3 same4
    rw [ExplorerBudget.limits, same1, same2, same3, same4]
  · rintro rfl
    exact ⟨⟨plainly _ (by omega), plainly _ (by omega), plainly _ (by omega), plainly _ (by omega)⟩,
      ⟨events, time, live, steps⟩, ⟨rfl, rfl, rfl, rfl⟩⟩

theorem emitted_replay (drafted : Drafted draft) (valid : budget.validate = .ok ())
    (replayed : Replayed draft budget run reducer now) (result : Replay) :
    replayTrace (traceJson draft run budget) = .ok result ↔
      completeInvariants run budget = true ∧ result = outcome draft run := by
  have schema := emitted_schema drafted valid replayed
  have count : (traceJson draft run budget).events.length = draft.events.length :=
    traceEvents_length 0 replayed.times replayed.snapshots
  have registered : (traceJson draft run budget).capabilityCatalog.foldlM registerItem
      (Reducer.new draft.initialStable, ∅) =
      .ok (reducer, reducer.catalog) := registered_items replayed.registered
  obtain ⟨ended, terminal⟩ := Option.ne_none_iff_exists'.mp replayed.ended
  have concluded : conclude (traceJson draft run budget) budget.limits ⟨run.reducer, now, true⟩ = .ok result ↔
      completeInvariants run budget = true ∧ result = outcome draft run := by
    have live : run.reducer.live = ownershipMap (traceJson draft run budget).expected.liveCapabilities :=
      ownershipMap_ownerships run.reducer.live
    have last : run.reducer.terminal = some (traceJson draft run budget).expected.outcome := by
      simp [traceJson, terminal]
    rw [conclude_ok, completeInvariants_iff replayed]
    constructor
    · rintro ⟨_, _, _, _, _, complete, _, same⟩
      exact ⟨complete, same⟩
    · rintro ⟨complete, same⟩
      exact ⟨rfl, last, rfl, live, tableNames_registry, complete, rfl, same⟩
  rw [replayTrace_iff schema ⟨rfl, rfl⟩, ← concluded]
  constructor
  · rintro ⟨_, s, first, r, second, limits, third, _, final, fourth, done⟩
    obtain rfl : (reducer, reducer.catalog) = s := Except.ok.inj (registered.symm.trans first)
    obtain rfl : reducer = r := Except.ok.inj second
    obtain rfl := (readBudget_emitted draft run valid limits).mp third
    obtain rfl : (⟨run.reducer, now, true⟩ : ReplayState) = final := Except.ok.inj (replayed.replay.symm.trans fourth)
    exact done
  · intro done
    exact ⟨⟨rfl, rfl⟩, _, registered, reducer, rfl, budget.limits, (readBudget_emitted draft run valid _).mpr rfl,
      count.le.trans replayed.count.2, _, replayed.replay, done⟩

theorem oneTransaction_of_none {events : List TraceEvent} (none : ∀ event ∈ events, event.data.isIntent = false)
    (journal : JournalPhase) : oneTransaction journal events = true := by
  induction events generalizing journal with
  | nil => rfl
  | cons event rest ih =>
    obtain ⟨here, later⟩ := List.forall_mem_cons.mp none
    simp [oneTransaction, here, ih later]

theorem companionsSettled_of_none {events : List TraceEvent}
    (none : ∀ event ∈ events, event.data.addsCompanion = false) :
    companionsSettled events = true := by
  induction events with
  | nil => rfl
  | cons event rest ih =>
    obtain ⟨here, later⟩ := List.forall_mem_cons.mp none
    simp [companionsSettled, here, ih later]

theorem companionsSettled_of_split {before after : List TraceEvent}
    (none : ∀ event ∈ after, event.data.addsCompanion = false)
    (clears : ∃ event ∈ after, event.data.clearsCompanions = true) : companionsSettled (before ++ after) = true := by
  induction before with
  | nil => exact companionsSettled_of_none none
  | cons event rest ih =>
    obtain ⟨clear, there, cleared⟩ := clears
    have later : ((rest ++ after).any fun later => later.data.clearsCompanions) = true :=
      List.any_eq_true.mpr ⟨clear, List.mem_append_right _ there, cleared⟩
    simp [companionsSettled, later, ih]

theorem emitted_regular (drafted : Drafted draft) (valid : budget.validate = .ok ())
    (replayed : Replayed draft budget run reducer now) : Regular (traceJson draft run budget) where
  numbers := by
    obtain ⟨⟨p1, p2, p3, p4⟩, _⟩ := readBudget_ok.mp ((readBudget_emitted draft run valid budget.limits).mpr rfl)
    have one : (plain 1).Plain := by decide
    intro n listed
    simp only [Document.numbers, List.mem_append, List.mem_map, List.mem_flatMap, List.mem_cons, List.not_mem_nil,
      or_false] at listed
    rcases listed with ((rfl | rfl | rfl | rfl | rfl | rfl) | ⟨item, there, rfl⟩) | ⟨event, there, rfl | rfl⟩
    · exact one
    · exact one
    · exact p1
    · exact p2
    · exact p3
    · exact p4
    · obtain ⟨capability, _, rfl⟩ := List.mem_map.mp there
      exact one
    · exact (run_plain (s := ⟨reducer, 0, false⟩) replayed.replay event there).1
    · exact (run_plain (s := ⟨reducer, 0, false⟩) replayed.replay event there).2
  expectedOnce := ownerships_once _
  single := by
    have data : (traceJson draft run budget).events.map TraceEvent.data = draft.events.map DraftEvent.data :=
      traceEvents_data 0 replayed.times replayed.snapshots
    have none : ∀ event ∈ (traceJson draft run budget).events.tail, event.data.isIntent = false := by
      intro event listed
      have there : event.data ∈ draft.events.tail.map DraftEvent.data := by
        rw [List.map_tail, ← data, ← List.map_tail]
        exact List.mem_map_of_mem listed
      obtain ⟨given, there, same⟩ := List.mem_map.mp there
      rw [← same]
      exact drafted.intent given there
    revert none
    cases (traceJson draft run budget).events with
    | nil => exact fun _ => rfl
    | cons first rest =>
      intro none
      have idle : Oracle.isClosed JournalPhase.none = false := rfl
      have later : ∀ journal, oneTransaction journal rest = true := oneTransaction_of_none none
      simp [oneTransaction, later, traceJson, idle]
  seeds := fun corrupt => absurd corrupt drafted.running
  processes := by
    intro event listed item known observed
    obtain ⟨given, there, same⟩ := replayed.data_mem listed
    obtain ⟨capability, member, rfl⟩ := List.mem_map.mp known
    exact drafted.processes given there capability member (same ▸ observed)
  companions := by
    have data : (traceJson draft run budget).events.map TraceEvent.data = draft.events.map DraftEvent.data :=
      traceEvents_data 0 replayed.times replayed.snapshots
    obtain ⟨before, after, split, none, clear, there, clears⟩ := drafted.settled
    rw [split, List.map_append] at data
    obtain ⟨first, second, same, _, mapped⟩ := List.map_eq_append_iff.mp data
    rw [same]
    refine companionsSettled_of_split ?_ ?_
    · intro event listed
      have found : event.data ∈ after.map DraftEvent.data := mapped ▸ List.mem_map_of_mem listed
      obtain ⟨other, listed, same⟩ := List.mem_map.mp found
      rw [← same]
      exact none other listed
    · have found : clear.data ∈ second.map TraceEvent.data := mapped ▸ List.mem_map_of_mem there
      obtain ⟨other, listed, same⟩ := List.mem_map.mp found
      exact ⟨other, listed, same ▸ clears⟩

end Documents

section Plans

/-- An event that can stand in a trace over the catalog of the drafts. -/
structure Sound (item : Planned) : Prop where
  patterns : item.data.patterns = true ∧ item.data.uniqueMembers = true
  faithful : ∀ catalog : Catalog, (∀ capability ∈ draftCatalog, catalog.lookup capability.id =
    some ⟨capability.kind, 1⟩) →
    mapEvent item.data catalog = .ok (some item.event)
  granted : ∀ owner ∈ Event.grants item.event, isOwner owner = true
  processes : ∀ capability ∈ draftCatalog, item.data.observes capability.id = true → capability.kind.isPidfd = true

@[simp] theorem acquire_sound {capability : CatalogSpec} (known : capability ∈ draftCatalog) :
    Sound (acquire capability "controller") where
  patterns := by
    refine ⟨?_, rfl⟩
    simp only [acquire, EventData.patterns, (fixedTexts.catalog capability known).1, fixedTexts.controller,
      Bool.and_self]
  faithful := by
    intro catalog registered
    simp [acquire, mapEvent, registered capability known]
  granted := by simp [acquire, Event.grants, fixedTexts.controller]
  processes := by simp [acquire, EventData.observes]

@[simp] theorem endpoint_sound (operation : EndpointOperation) (result : EndpointResult) :
    Sound (endpoint operation result) where
  patterns := ⟨fixedTexts.endpoint, rfl⟩
  faithful := fun _ _ => rfl
  granted := by simp [endpoint, Event.grants]
  processes := by simp [endpoint, EventData.observes]

@[simp] theorem observed_sound (origin : MemberOrigin) : Sound (observed lateMember origin) where
  patterns := ⟨(fixedTexts.catalog lateMember (by decide)).1, rfl⟩
  faithful := fun _ _ => rfl
  granted := by simp [observed, Event.grants]
  processes := by
    intro capability known
    have named : ∀ capability ∈ draftCatalog, capability.id = lateMember.id → capability.kind.isPidfd = true := by
      decide +kernel
    simp only [observed, EventData.observes, Bool.and_eq_true, beq_iff_eq]
    exact fun same => named capability known same.1.symm

/-- An event about the session root, which neither grants nor observes anything. -/
theorem session_sound {actor : Actor} {event : Event} {data : EventData} (patterns : data.patterns = true)
    (unique : data.uniqueMembers = true) (faithful : ∀ catalog, mapEvent data catalog = .ok (some event))
    (granted : Event.grants event = none) (processes : ∀ id, data.observes id = false) :
    Sound ⟨actor, event, data⟩ where
  patterns := ⟨patterns, unique⟩
  faithful := fun catalog _ => faithful catalog
  granted := by simp [granted]
  processes := by simp [processes]

theorem sessionRoot_pattern : isTagged "cap." sessionRoot.id = true := (fixedTexts.catalog sessionRoot (by decide)).1

theorem interleavingEvents_sound (interleaving : Interleaving) : ∀ item ∈ interleavingEvents interleaving,
    Sound item := by
  have late : lateMember ∈ draftCatalog := by decide
  have identity : ∀ result, Sound ⟨.controller, .identity sessionRoot.id (decide (result = IdentityResult.same)),
      .identityRevalidated sessionRoot.id result⟩ := fun result =>
    session_sound sessionRoot_pattern rfl (fun _ => rfl) rfl (fun _ => rfl)
  have signal : Sound ⟨.controller, .signal sessionRoot.id .deadline, .signalSent sessionRoot.id .term .deadline⟩ :=
    session_sound sessionRoot_pattern rfl (fun _ => rfl) rfl (fun _ => rfl)
  cases interleaving with
  | postDeadlineSignal => exact List.forall_mem_cons.mpr ⟨identity .same, by simpa using signal⟩
  | inodeAba => exact List.forall_mem_singleton.mpr (identity .mismatch)
  | pidReuse => exact List.forall_mem_singleton.mpr (identity .mismatch)
  | rootExit => exact List.forall_mem_singleton.mpr (identity .gone)
  | _ => simp [interleavingEvents, late]

theorem opening_sound (authority : Authority) (completeness : Completeness) : ∀ item ∈ [
    (⟨.controller, .barrierEntered, .barrierEntered .threadsStopped .entered⟩ : Planned),
    acquire sessionRoot "controller", acquire launchdMember "controller",
    ⟨.observer, .membership [sessionRoot.id, launchdMember.id] completeness.text,
      .membershipSnapshot authority [sessionRoot.id, launchdMember.id] completeness⟩], Sound item := by
  have members : [sessionRoot.id, launchdMember.id].all (isTagged "cap.") = true := by
    rw [List.all_cons, List.all_cons, sessionRoot_pattern, (fixedTexts.catalog launchdMember (by decide)).1]
    rfl
  have unique : decide [sessionRoot.id, launchdMember.id].Nodup = true := by decide
  have root : sessionRoot ∈ draftCatalog := by decide
  have member : launchdMember ∈ draftCatalog := by decide
  simp only [List.forall_mem_cons]
  refine ⟨?_, acquire_sound root, acquire_sound member, ?_, List.forall_mem_nil _⟩
  · exact session_sound rfl rfl (fun _ => rfl) rfl (fun _ => rfl)
  · exact session_sound members unique (fun _ => rfl) rfl (fun _ => rfl)

theorem fault_sound (phase : FaultPhase) (fault : FaultName) :
    Sound ⟨.controller, .fault fault.text, .faultInjected phase fault⟩ :=
  session_sound rfl rfl (fun _ => rfl) rfl (fun _ => rfl)

theorem sessionEvents_sound (interleaving : Interleaving) : ∀ item ∈ sessionEvents interleaving, Sound item := by
  cases interleaving with
  | partialPublication => simp [sessionEvents]
  | restart => simp [sessionEvents]
  | _ =>
    refine List.forall_mem_append.mpr ⟨List.forall_mem_append.mpr ⟨opening_sound _ _, interleavingEvents_sound _⟩, ?_⟩
    split
    · exact List.forall_mem_singleton.mpr (fault_sound _ _)
    · simp

theorem transaction_pattern (boundary : FailureBoundary) :
    isTagged "txn." ("txn.explorer-" ++ boundary.text) = true := by
  have named : isIdentifier isNameChar boundary.text = true :=
    isIdentifier_mono (fun _ => isNameChar_of_dashed) (fixedTexts.boundary boundary)
  refine isTagged_append fixedTexts.transaction (isIdentifier_all ?_ named)
  intro c lower
  simp [isNameChar, lower]

theorem plan_sound (boundary : FailureBoundary) (interleaving : Interleaving) (realProbe : RealProbe) :
    ∀ item ∈ plan boundary interleaving realProbe, Sound item := by
  refine List.forall_mem_cons.mpr ⟨?_, List.forall_mem_append.mpr ⟨List.forall_mem_append.mpr
    ⟨sessionEvents_sound interleaving, ?_⟩, ?_⟩⟩
  · refine session_sound ?_ rfl (fun _ => rfl) rfl (fun _ => rfl)
    rw [EventData.patterns, transaction_pattern]
    cases interleaving <;> rfl
  · simp only [List.forall_mem_cons]
    exact ⟨session_sound rfl rfl (fun _ => rfl) rfl (fun _ => rfl), fault_sound _ _, List.forall_mem_nil _⟩
  · simp only [recoveryEvents, List.forall_mem_cons]
    exact ⟨session_sound fixedTexts.reason rfl (fun _ => rfl) rfl (fun _ => rfl),
      session_sound rfl rfl (fun _ => rfl) rfl (fun _ => rfl),
      List.forall_mem_nil _⟩

def DraftEvent.planned (event : DraftEvent) : Planned := ⟨event.actor, event.event, event.data⟩

theorem pushed_planned (items : List Planned) (state : List DraftEvent × UInt64) :
    (items.foldl pushEvent state).1.map DraftEvent.planned = state.1.map DraftEvent.planned ++ items := by
  induction items generalizing state with
  | nil => simp
  | cons item rest ih => simp [ih, pushEvent, DraftEvent.planned]

theorem draftFor_planned (boundary : FailureBoundary) (interleaving : Interleaving) (seed : UInt64)
    (realProbe : RealProbe) :
    (draftFor boundary interleaving seed realProbe).events.map DraftEvent.planned =
      plan boundary interleaving realProbe :=
  pushed_planned _ _

theorem scenario_pattern (boundary : FailureBoundary) (interleaving : Interleaving) :
    isIdentifier (fun c => isLowerDigit c || c == '-') (boundary.text ++ "-" ++ interleaving.text) = true := by
  have first := fixedTexts.boundary boundary
  unfold isIdentifier at first ⊢
  rw [String.toList_append, String.toList_append]
  cases chars : boundary.text.toList with
  | nil => simp [chars] at first
  | cons head rest =>
    simp only [chars, Bool.and_eq_true] at first
    simp only [List.cons_append, List.all_append, first.1, first.2, fixedTexts.interleaving interleaving,
      fixedTexts.dash,
      Bool.and_self]

/-- What comes between the intent and the recovery neither declares an intent nor recovers. -/
theorem middle_quiet (boundary : FailureBoundary) (interleaving : Interleaving) (realProbe : RealProbe) :
    ∀ item ∈ sessionEvents interleaving ++ [probeEvent realProbe, faultEvent boundary],
      item.data.isIntent = false ∧ Event.isRecovery item.event = false := by
  refine List.forall_mem_append.mpr ⟨by cases interleaving <;> decide, ?_⟩
  simp only [List.forall_mem_cons]
  exact ⟨⟨rfl, rfl⟩, ⟨rfl, rfl⟩, List.forall_mem_nil _⟩

theorem recoveryEvents_settle (interleaving : Interleaving) : ∀ item ∈ recoveryEvents interleaving,
    item.data.addsCompanion = false ∧ item.data.isIntent = false ∧
      (Event.isRecovery item.event = true → item.data.clearsCompanions = true) := by
  cases interleaving <;> decide

/-- The draft of a scenario is its intent, what leads to the fault, and the recovery; a minimized one keeps the
intent, some of the middle and the recovery. -/
structure Shaped (draft : Draft) (first : DraftEvent) (middle last : List DraftEvent) : Prop where
  events : draft.events = first :: (middle ++ last)
  first : Event.isRecovery first.event = false
  quiet : ∀ event ∈ middle, event.data.isIntent = false ∧ Event.isRecovery event.event = false
  settles : ∀ event ∈ last, event.data.addsCompanion = false ∧ event.data.isIntent = false ∧
    (Event.isRecovery event.event = true → event.data.clearsCompanions = true)
  recovers : ∃ event ∈ draft.events, Event.isRecovery event.event = true

theorem draftFor_shaped (boundary : FailureBoundary) (interleaving : Interleaving) (seed : UInt64)
    (realProbe : RealProbe) :
    ∃ first middle last, Shaped (draftFor boundary interleaving seed realProbe) first middle last := by
  obtain ⟨first, later, drafted, started, planned⟩ :=
    List.map_eq_cons_iff.mp (draftFor_planned boundary interleaving seed realProbe)
  obtain ⟨middle, last, rfl, quietly, lastly⟩ := List.map_eq_append_iff.mp planned
  refine ⟨first, middle, last, drafted, ?_, ?_, ?_, ?_⟩
  · exact congrArg (fun item : Planned => Event.isRecovery item.event) started
  · intro event listed
    refine middle_quiet boundary interleaving realProbe event.planned ?_
    rw [← quietly]
    exact List.mem_map_of_mem listed
  · intro event listed
    refine recoveryEvents_settle interleaving event.planned ?_
    rw [← lastly]
    exact List.mem_map_of_mem listed
  · obtain ⟨event, rest, rfl, recovery, _⟩ := List.map_eq_cons_iff.mp lastly
    refine ⟨event, ?_, congrArg (fun item : Planned => Event.isRecovery item.event) recovery⟩
    have listed : event ∈ event :: rest := List.mem_cons_self
    rw [drafted]
    exact List.mem_cons_of_mem _ (List.mem_append_right _ listed)

theorem Shaped.reduced {draft minimized : Draft} {first : DraftEvent} {middle last : List DraftEvent}
    (shaped : Shaped draft first middle last) (reduced : Reduced draft minimized)
    (recovers : ∃ event ∈ minimized.events, Event.isRecovery event.event = true) :
    ∃ middle' last', Shaped minimized first middle' last' := by
  obtain ⟨after, same⟩ : ∃ after, minimized.events = first :: after := by
    have head := reduced.head
    rw [shaped.events, List.head?_cons] at head
    exact List.head?_eq_some_iff.mp head
  have part := reduced.events
  rw [shaped.events, same, List.cons_sublist_cons] at part
  obtain ⟨middle', last', rfl, within, lastWithin⟩ := List.sublist_append_iff.mp part
  exact ⟨middle', last', same, shaped.first, fun event listed => shaped.quiet event (within.subset listed),
    fun event listed => shaped.settles event (lastWithin.subset listed), recovers⟩

theorem Shaped.settled {draft : Draft} {first : DraftEvent} {middle last : List DraftEvent}
    (shaped : Shaped draft first middle last) : ∃ event ∈ last, event.data.clearsCompanions = true := by
  obtain ⟨event, listed, recovery⟩ := shaped.recovers
  rw [shaped.events] at listed
  rcases List.mem_cons.mp listed with rfl | listed
  · rw [shaped.first] at recovery
    cases recovery
  rcases List.mem_append.mp listed with listed | listed
  · rw [(shaped.quiet event listed).2] at recovery
    cases recovery
  · exact ⟨event, listed, (shaped.settles event listed).2.2 recovery⟩

/-- A minimized draft of a scenario can be written out. -/
theorem minimized_drafted (boundary : FailureBoundary) (interleaving : Interleaving) (seed : UInt64)
    (realProbe : RealProbe)
    (budget : ExplorerBudget) :
    Drafted (minimizeDraft boundary interleaving budget (draftFor boundary interleaving seed realProbe)) := by
  have reduction := minimizeDraft_reduced boundary interleaving budget (draftFor boundary interleaving seed realProbe)
  generalize minimizeDraft boundary interleaving budget (draftFor boundary interleaving seed realProbe) =
    minimized at reduction
  obtain ⟨reduced, detects⟩ := reduction
  have sound : ∀ event ∈ minimized.events, Sound event.planned := by
    intro event listed
    refine plan_sound boundary interleaving realProbe _ ?_
    rw [← draftFor_planned boundary interleaving seed realProbe]
    exact List.mem_map_of_mem (reduced.events.subset listed)
  obtain ⟨first, middle, last, shaped⟩ := draftFor_shaped boundary interleaving seed realProbe
  have recovers : ∃ event ∈ minimized.events, Event.isRecovery event.event = true := by
    rcases detects with whole | keeps
    · rw [whole]
      exact shaped.recovers
    · obtain ⟨run, _, _, _, required⟩ := keepsDetection_iff.mp keeps
      simp only [requiredEventsPresent, Bool.and_eq_true] at required
      exact List.any_eq_true.mp required.1.2
  obtain ⟨middle, last, shaped⟩ := shaped.reduced reduced recovers
  refine {
    scenario := ?_, catalog := ?_, catalogOnce := ?_, running := ?_, faithful := ?_, processes := ?_, intent := ?_
    patterns := fun event listed => (sound event listed).patterns
    granted := fun event listed => (sound event listed).granted
    settled := ⟨first :: middle, last, shaped.events, fun event listed => (shaped.settles event listed).1,
      shaped.settled⟩ }
  · rw [reduced.rest]
    exact scenario_pattern boundary interleaving
  · rw [reduced.rest]
    exact fixedTexts.catalog
  · rw [reduced.rest]
    show (draftCatalog.map CatalogSpec.id).Nodup
    decide
  · rw [reduced.rest]
    show interleaving.initialStable ≠ .corrupt
    cases interleaving <;> decide
  · intro event listed catalog registered
    rw [reduced.rest] at registered
    exact (sound event listed).faithful catalog registered
  · intro event listed capability known
    rw [reduced.rest] at known
    exact (sound event listed).processes capability known
  · rw [shaped.events, List.tail_cons]
    intro event listed
    rcases List.mem_append.mp listed with listed | listed
    · exact (shaped.quiet event listed).1
    · exact (shaped.settles event listed).2.1

/-- Every trace the explorer writes out fits the schema, and the reducer's replay and the model's replay both accept
it exactly where the explorer finds its invariants complete; then both return what the run came to. -/
theorem emitted_replays (boundary : FailureBoundary) (interleaving : Interleaving) (draftSeed seed : UInt64)
    (realProbe : RealProbe)
    (budget : ExplorerBudget) (run : Run) (valid : budget.validate = .ok ())
    (ran : execute (minimizeDraft boundary interleaving budget (draftFor boundary interleaving draftSeed realProbe))
      seed budget =
      .ok run) :
    let minimized := minimizeDraft boundary interleaving budget (draftFor boundary interleaving draftSeed realProbe)
    let trace := traceJson minimized run budget
    SatisfiesSchema trace ∧
      (∀ result, replayTrace trace = .ok result ↔ completeInvariants run budget = true ∧
        result = outcome minimized run) ∧
      (Accepted (Oracle.replayTrace trace) ↔ completeInvariants run budget = true) ∧
      ∀ other, Oracle.replayTrace trace = .ok other → other.shared = outcome minimized run := by
  intro minimized trace
  have drafted : Drafted minimized := minimized_drafted boundary interleaving draftSeed realProbe budget
  obtain ⟨reducer, now, replayed⟩ := execute_replayed drafted valid ran
  have schema : SatisfiesSchema trace := emitted_schema drafted valid replayed
  have regular : Regular trace := emitted_regular drafted valid replayed
  have replay := emitted_replay drafted valid replayed
  have idle : trace.Idle := ⟨rfl, rfl⟩
  have both : completeInvariants run budget = true →
      ∃ other, Oracle.replayTrace trace = .ok other ∧ other.shared = outcome minimized run := by
    intro complete
    obtain ⟨other, accepted, equal⟩ := oracle_of_reducer schema idle regular.expectedOnce regular.single regular.seeds
      ((replay _).mpr ⟨complete, rfl⟩)
    exact ⟨other, accepted, (equal.mpr regular.companions).symm⟩
  have only : Accepted (Oracle.replayTrace trace) → completeInvariants run budget = true := by
    rintro ⟨other, accepted⟩
    obtain ⟨result, again⟩ := reducer_of_oracle schema idle regular accepted
    exact ((replay result).mp again).1
  refine ⟨schema, replay, ⟨only, fun complete => ?_⟩, ?_⟩
  · obtain ⟨other, accepted, _⟩ := both complete
    exact ⟨other, accepted⟩
  · intro other accepted
    obtain ⟨another, again, same⟩ := both (only ⟨other, accepted⟩)
    rw [accepted] at again
    cases again
    exact same

/-- What a scenario reports is what the replays of its trace find: they accept it exactly where the invariants are
complete, with the outcome and the obligations of the report, and a clean scenario is accepted by both and leaves
nothing unresolved. -/
theorem scenario_replays (boundary : FailureBoundary) (interleaving : Interleaving) (seed : UInt64)
    (budget : ExplorerBudget)
    (realProbe : RealProbe) (probeClean : Bool) (result : ScenarioResult) (valid : budget.validate = .ok ())
    (returned : runCase boundary interleaving seed budget realProbe probeClean = .ok result) :
    SatisfiesSchema result.trace ∧
      (Accepted (replayTrace result.trace) ↔ result.invariantComplete = true) ∧
      (Accepted (Oracle.replayTrace result.trace) ↔ result.invariantComplete = true) ∧
      (∀ replay other, replayTrace result.trace = .ok replay → Oracle.replayTrace result.trace = .ok other →
        replay = other.shared ∧ replay.obligations.filter (fun item => item.isUnresolved) =
          result.unresolvedObligations ∧
          result.outcome = some replay.outcome) ∧
      (result.recoveryStatus = .clean →
        result.invariantComplete = true ∧ result.outcome = some .recovered ∧ result.unresolvedObligations = ∅) := by
  simp only [runCase, bind_ok, pure_ok] at returned
  obtain ⟨run, ran, rfl⟩ := returned
  obtain ⟨schema, replay, oracle, shared⟩ := emitted_replays boundary interleaving seed seed realProbe
      budget run valid ran
  have drafted := minimized_drafted boundary interleaving seed realProbe budget
  obtain ⟨reducer, now, replayed⟩ := execute_replayed drafted valid ran
  obtain ⟨last, ended⟩ := Option.ne_none_iff_exists'.mp replayed.ended
  refine ⟨schema, ?_, oracle, ?_, ?_⟩
  · constructor
    · rintro ⟨value, accepted⟩
      exact ((replay value).mp accepted).1
    · intro complete
      exact ⟨_, (replay _).mpr ⟨complete, rfl⟩⟩
  · intro value other accepted accepted'
    have same := ((replay value).mp accepted).2
    refine ⟨same.trans (shared other accepted').symm, ?_, ?_⟩
    · rw [same]
      rfl
    · rw [same]
      simp [outcome, ended]
  · dsimp only
    intro clean
    split at clean
    · cases clean
    next detected =>
      split at clean
      · cases clean
      split at clean
      · cases clean
      next resolved =>
        simp only [Bool.not_eq_true', Bool.not_eq_false, Bool.and_eq_true, decide_eq_true_eq] at detected
        exact ⟨detected.2.1.1.1.1.1, detected.2.1.1.1.1.2, Decidable.not_not.mp resolved⟩

/-- An interrupted creation of the prefix is clean, and both replays accept its trace. -/
theorem scenario_replays_publication :
    ∃ result, runReducerOnlyCase .afterPrepare .partialPublication 7 {} = .ok result ∧ result.recoveryStatus = .clean ∧
      Accepted (replayTrace result.trace) ∧ Accepted (Oracle.replayTrace result.trace) := by
  have clean : (runReducerOnlyCase .afterPrepare .partialPublication 7 {}).map (·.recoveryStatus) = .ok .clean := by
    decide +kernel
  cases returned : runReducerOnlyCase .afterPrepare .partialPublication 7 {} with
  | error error =>
    rw [returned] at clean
    cases clean
  | ok result =>
    rw [returned] at clean
    have status := Except.ok.inj clean
    obtain ⟨_, reducer, oracle, _, cleanly⟩ := scenario_replays .afterPrepare .partialPublication 7 {}
      (reducerOnlyProbe .afterPrepare) true result (by decide) returned
    exact ⟨result, rfl, status, reducer.mpr (cleanly status).1, oracle.mpr (cleanly status).1⟩

end Plans

end Darling.Lifecycle.Explorer
