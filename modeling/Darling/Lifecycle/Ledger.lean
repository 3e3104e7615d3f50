import Darling.Lifecycle.Steps

/-! The capability ledger. Live, matched and gone identifiers are overwritten from a
checkpoint by every rollback-class recovery, so the invariant also speaks about the
checkpoint and about consumed generations, which no recovery restores. -/
namespace Darling.Lifecycle

/-- The catalog generation of the capability has been used. -/
def Consumed (r : Reducer) (id : String) : Prop :=
  ∃ entry, r.catalog.lookup id = some entry ∧ (id, entry.generation) ∈ r.consumed

structure Ledger (r : Reducer) : Prop where
  apart : ∀ id ∈ r.live, id ∉ r.gone
  matched : ∀ id ∈ r.matched, id ∈ r.live
  live : ∀ id ∈ r.live, Consumed r id
  gone : ∀ id ∈ r.gone, Consumed r id
  checkpointLive : ∀ id ∈ r.checkpointLive, Consumed r id
  checkpointMatched : ∀ id ∈ r.checkpointMatched, id ∈ r.checkpointLive
  checkpointGone : r.checkpointGone ⊆ r.gone

/-- What no event undoes: the catalog is fixed, gone and consumed only grow. -/
structure Grows (r after : Reducer) : Prop where
  catalog : after.catalog = r.catalog
  gone : r.gone ⊆ after.gone
  consumed : r.consumed ⊆ after.consumed

theorem Grows.refl (r : Reducer) : Grows r r := ⟨rfl, subset_rfl, subset_rfl⟩

theorem Grows.trans {a b c : Reducer} (first : Grows a b) (second : Grows b c) : Grows a c :=
  ⟨second.catalog.trans first.catalog, first.gone.trans second.gone,
    first.consumed.trans second.consumed⟩

theorem Grows.uses {r after : Reducer} {id : String} (grows : Grows r after)
    (used : Consumed r id) : Consumed after id := by
  obtain ⟨entry, known, used⟩ := used
  exact ⟨entry, grows.catalog ▸ known, grows.consumed used⟩

@[simp] theorem settle_catalog (action : RecoveryAction) (r : Reducer) :
    (settle action r).catalog = r.catalog := by
  unfold settle; split_ifs <;> rfl

@[simp] theorem settle_consumed (action : RecoveryAction) (r : Reducer) :
    (settle action r).consumed = r.consumed := by
  unfold settle; split_ifs <;> rfl

theorem settle_gone (action : RecoveryAction) (r : Reducer) : r.gone ⊆ (settle action r).gone := by
  unfold settle
  split_ifs
  · exact Finset.subset_union_right
  all_goals exact subset_rfl

theorem signalEffect_grows (r : Reducer) (id : String) (result : SignalResult) :
    Grows r (signalEffect r id result) := by
  cases result
  case gone => exact ⟨rfl, Finset.subset_insert _ _, subset_rfl⟩
  all_goals exact ⟨rfl, subset_rfl, subset_rfl⟩

theorem step_grows {r after : Reducer} {event : Event} (step : Step r event after) :
    Grows r after := by
  cases step with
  | acquire => exact ⟨rfl, subset_rfl, Finset.subset_insert _ _⟩
  | identityFailure => exact ⟨rfl, Finset.subset_insert _ _, subset_rfl⟩
  | @signal id entry result =>
    have effect := signalEffect_grows r id result
    exact ⟨effect.catalog, effect.gone, effect.consumed⟩
  | @recovery action =>
    have kept := settle_gone action { r with
      snapshot := actionTarget action r.snapshot
      observations := r.observations ++ [⟨r.snapshot.stable, r.snapshot.journal, action⟩] }
    exact ⟨settle_catalog _ _, kept, (settle_consumed _ _).symm ▸ subset_rfl⟩
  | _ => exact ⟨rfl, subset_rfl, subset_rfl⟩

theorem refused_grows {r after : Reducer} (refused : Refused r after) : Grows r after := by
  obtain ⟨signalled, seen, rfl⟩ := refused
  exact ⟨rfl, subset_rfl, subset_rfl⟩

theorem next_grows (r : Reducer) (event : Event) : Grows r (machine.next r event) := by
  rcases next_cases r event with ⟨_, _, step⟩ | ⟨_, refused⟩
  · exact step_grows step
  · exact refused_grows refused

theorem run_grows (r : Reducer) (events : List Event) : Grows r (machine.run r events) :=
  Machine.run_relation (P := fun _ => True) Grows.refl (fun _ _ _ => Grows.trans)
    (fun _ _ _ => trivial) (fun s event _ => next_grows s event) trivial events

/-- Rollback keeps the ledger: whatever the checkpoint resurrects was never gone. -/
theorem rollback_ledger {r : Reducer} (ledger : Ledger r) : Ledger (rollback r) where
  apart id live := by
    simp only [rollback, Finmap.mem_eraseAll, Finset.mem_union, not_or] at live ⊢
    exact ⟨fun old => live.2 (ledger.checkpointGone old), live.2⟩
  matched id matching := by
    simp only [rollback, Finset.mem_sdiff, Finmap.mem_eraseAll] at matching ⊢
    exact ⟨ledger.checkpointMatched id matching.1, matching.2⟩
  live id live := by
    simp only [rollback, Finmap.mem_eraseAll] at live
    exact ledger.checkpointLive id live.1
  gone id gone := by
    simp only [rollback, Finset.mem_union] at gone
    rcases gone with old | gone
    · exact ledger.gone id (ledger.checkpointGone old)
    · exact ledger.gone id gone
  checkpointLive := ledger.checkpointLive
  checkpointMatched := ledger.checkpointMatched
  checkpointGone := Finset.subset_union_left

/-- A reducer with the same ledger fields has the same ledger facts. -/
theorem Ledger.congr {r after : Reducer} (ledger : Ledger r)
    (catalog : after.catalog = r.catalog) (live : after.live = r.live)
    (matched : after.matched = r.matched) (gone : after.gone = r.gone)
    (consumed : after.consumed = r.consumed) (checkpointLive : after.checkpointLive = r.checkpointLive)
    (checkpointMatched : after.checkpointMatched = r.checkpointMatched)
    (checkpointGone : after.checkpointGone = r.checkpointGone) : Ledger after := by
  obtain ⟨h1, h2, h3, h4, h5, h6, h7⟩ := ledger
  constructor <;> simp_all [Consumed]

theorem settle_ledger (action : RecoveryAction) {r : Reducer} (ledger : Ledger r) :
    Ledger (settle action r) := by
  unfold settle
  split_ifs
  · exact rollback_ledger ledger
  all_goals exact ledger.congr rfl rfl rfl rfl rfl rfl rfl rfl

/-- Losing an identity moves it from live and matched to gone. -/
theorem lose_ledger {r : Reducer} {id : String} (obligations : Finset Obligation)
    (ledger : Ledger r) (live : id ∈ r.live) : Ledger { r with
      live := r.live.erase id
      matched := r.matched.erase id
      gone := insert id r.gone
      obligations := obligations } where
  apart other live' := by
    simp only [Finmap.mem_erase, Finset.mem_insert, not_or] at live' ⊢
    exact ⟨live'.1, ledger.apart other live'.2⟩
  matched other matching := by
    simp only [Finset.mem_erase, Finmap.mem_erase] at matching ⊢
    exact ⟨matching.1, ledger.matched other matching.2⟩
  live other live' := ledger.live other (Finmap.mem_erase.mp live').2
  gone other gone := by
    rcases Finset.mem_insert.mp gone with rfl | gone
    · exact ledger.live _ live
    · exact ledger.gone other gone
  checkpointLive := ledger.checkpointLive
  checkpointMatched := ledger.checkpointMatched
  checkpointGone := ledger.checkpointGone.trans (Finset.subset_insert _ _)

/-- A capability whose generation was free is not gone, so making it live is safe. -/
theorem acquire_ledger {r : Reducer} {id owner : String} {entry : CatalogEntry}
    (ledger : Ledger r) (known : r.catalog.lookup id = some entry)
    (fresh : (id, entry.generation) ∉ r.consumed) : Ledger { r with
      consumed := insert (id, entry.generation) r.consumed
      live := r.live.insert id owner } := by
  have grows : Grows r { r with
      consumed := insert (id, entry.generation) r.consumed
      live := r.live.insert id owner } := ⟨rfl, subset_rfl, Finset.subset_insert _ _⟩
  refine ⟨?_, ?_, ?_, fun other gone => grows.uses (ledger.gone other gone),
    fun other live => grows.uses (ledger.checkpointLive other live),
    ledger.checkpointMatched, ledger.checkpointGone⟩
  · intro other live
    rcases Finmap.mem_insert.mp live with rfl | live
    · intro gone
      obtain ⟨seen, known', used⟩ := ledger.gone _ gone
      rw [known] at known'
      cases known'
      exact fresh used
    · exact ledger.apart other live
  · intro other matching
    exact Finmap.mem_insert.mpr (Or.inr (ledger.matched other matching))
  · intro other live
    rcases Finmap.mem_insert.mp live with rfl | live
    · exact ⟨entry, known, Finset.mem_insert_self _ _⟩
    · exact grows.uses (ledger.live other live)

theorem step_ledger {r after : Reducer} {event : Event} (ledger : Ledger r)
    (step : Step r event after) : Ledger after := by
  cases step with
  | acquire known idle fresh => exact acquire_ledger ledger known fresh
  | @move id source target owned =>
    have same : ∀ other, other ∈ r.live.insert id target ↔ other ∈ r.live := by
      intro other
      rw [Finmap.mem_insert]
      refine ⟨?_, Or.inr⟩
      rintro (rfl | live)
      · exact Finmap.mem_of_lookup_eq_some owned
      · exact live
    refine ⟨?_, ?_, ?_, ledger.gone, ledger.checkpointLive, ledger.checkpointMatched,
      ledger.checkpointGone⟩
    · exact fun other live => ledger.apart other ((same other).mp live)
    · exact fun other matching => (same other).mpr (ledger.matched other matching)
    · exact fun other live => ledger.live other ((same other).mp live)
  | release owned =>
    refine ⟨?_, ?_, ?_, ledger.gone, ledger.checkpointLive, ledger.checkpointMatched,
      ledger.checkpointGone⟩
    · exact fun other live => ledger.apart other (Finmap.mem_erase.mp live).2
    · intro other matching
      obtain ⟨different, matching⟩ := Finset.mem_erase.mp matching
      exact Finmap.mem_erase.mpr ⟨different, ledger.matched other matching⟩
    · exact fun other live => ledger.live other (Finmap.mem_erase.mp live).2
  | intent =>
    exact ⟨ledger.apart, ledger.matched, ledger.live, ledger.gone, ledger.live, ledger.matched,
      subset_rfl⟩
  | @identityMatch id entry known kind live =>
    refine ⟨ledger.apart, ?_, ledger.live, ledger.gone, ledger.checkpointLive,
      ledger.checkpointMatched, ledger.checkpointGone⟩
    intro other matching
    rcases Finset.mem_insert.mp matching with rfl | matching
    · exact live
    · exact ledger.matched other matching
  | identityFailure known kind live => exact lose_ledger _ ledger live
  | @signal id entry result known kind live matching allowed =>
    cases result
    case gone =>
      exact (lose_ledger r.obligations ledger live).congr
        rfl rfl rfl rfl rfl rfl rfl rfl
    all_goals exact ledger.congr rfl rfl rfl rfl rfl rfl rfl rfl
  | recovery => exact settle_ledger _ (ledger.congr rfl rfl rfl rfl rfl rfl rfl rfl)
  | _ => exact ledger.congr rfl rfl rfl rfl rfl rfl rfl rfl

theorem next_ledger (r : Reducer) (event : Event) (ledger : Ledger r) :
    Ledger (machine.next r event) := by
  rcases next_cases r event with ⟨_, _, step⟩ | ⟨_, refused⟩
  · exact step_ledger ledger step
  · obtain ⟨signalled, seen, same⟩ := refused
    rw [same]
    exact ledger.congr rfl rfl rfl rfl rfl rfl rfl rfl

theorem run_ledger {r : Reducer} (ledger : Ledger r) (events : List Event) :
    Ledger (machine.run r events) := Machine.run_invariant next_ledger ledger events

/-- Registration adds a name nobody uses yet; seeding consumes the generation it makes live. -/
theorem seeded_ledger {r : Reducer} (seeded : Seeded r) :
    Ledger r ∧ r.gone = ∅ ∧ r.matched = ∅ ∧ r.checkpointLive = ∅ ∧ r.checkpointGone = ∅ ∧
      r.checkpointMatched = ∅ := by
  induction seeded with
  | new stable =>
    refine ⟨?_, rfl, rfl, rfl, rfl, rfl⟩
    constructor <;> simp [Reducer.new, Finmap.notMem_empty]
  | @register r r' id kind generation base ok ih =>
    obtain ⟨ledger, gone, matched, clive, cgone, cmatched⟩ := ih
    obtain ⟨fresh, rfl⟩ := register_ok ok
    refine ⟨?_, gone, matched, clive, cgone, cmatched⟩
    have keep : ∀ other, Consumed r other →
        Consumed { r with catalog := r.catalog.insert id ⟨kind, generation⟩ } other := by
      rintro other ⟨entry, known, used⟩
      refine ⟨entry, ?_, used⟩
      have different : other ≠ id := by
        rintro rfl
        exact fresh (Finmap.mem_of_lookup_eq_some known)
      rw [Finmap.lookup_insert_of_ne _ different]
      exact known
    exact ⟨ledger.apart, ledger.matched, fun other live => keep other (ledger.live other live),
      fun other dead => keep other (ledger.gone other dead),
      fun other live => keep other (ledger.checkpointLive other live), ledger.checkpointMatched,
      ledger.checkpointGone⟩
  | @seed r r' id owner base ok ih =>
    obtain ⟨ledger, gone, matched, clive, cgone, cmatched⟩ := ih
    obtain ⟨entry, known, idle, rfl⟩ := seed_ok ok
    refine ⟨?_, gone, matched, clive, cgone, cmatched⟩
    have grows : Grows r { r with
        consumed := insert (id, entry.generation) r.consumed
        live := r.live.insert id owner } := ⟨rfl, subset_rfl, Finset.subset_insert _ _⟩
    refine ⟨by simp [gone], by simp [matched], ?_, by simp [gone], ?_, by simp [cmatched],
      by simp [cgone]⟩
    · intro other live
      rcases Finmap.mem_insert.mp live with rfl | live
      · exact ⟨entry, known, Finset.mem_insert_self _ _⟩
      · exact grows.uses (ledger.live other live)
    · exact fun other live => grows.uses (ledger.checkpointLive other live)

theorem seeded_run_ledger {r : Reducer} (seeded : Seeded r) (events : List Event) :
    Ledger (machine.run r events) := run_ledger (seeded_ledger seeded).1 events

theorem later_grows (r : Reducer) (events more : List Event) :
    Grows (machine.run r events) (machine.run r (events ++ more)) := by
  rw [Machine.run_append]
  exact run_grows _ more

/-- An accepted acquisition uses up the catalog generation it names. -/
theorem acquire_consumes {r : Reducer} {id owner : String} {kind : CapabilityKind}
    {generation : Nat} (accepted : machine.accepts r (.acquire id kind generation owner)) :
    (id, generation) ∉ r.consumed ∧
      Consumed (machine.next r (.acquire id kind generation owner)) id := by
  have step := (accepts_step accepted).2
  revert step
  generalize machine.next r (.acquire id kind generation owner) = after
  intro step
  cases step with
  | acquire known idle fresh => exact ⟨fresh, _, known, Finset.mem_insert_self _ _⟩

theorem acquire_generation {r : Reducer} {id owner : String} {kind : CapabilityKind}
    {generation : Nat} (accepted : machine.accepts r (.acquire id kind generation owner)) :
    r.catalog.lookup id = some ⟨kind, generation⟩ := by
  have step := (accepts_step accepted).2
  generalize machine.next r (.acquire id kind generation owner) = after at step
  cases step with
  | acquire known idle fresh => exact known

theorem signal_guards {r : Reducer} {id : String} {result : SignalResult}
    (accepted : machine.accepts r (.signal id result)) :
    (∃ entry, r.catalog.lookup id = some entry ∧ entry.kind.isPidfd = true) ∧
      id ∈ r.live ∧ id ∈ r.matched ∧
      journalTransitionAllowed r.snapshot.journal .cleanup = true := by
  have step := (accepts_step accepted).2
  generalize machine.next r (.signal id result) = after at step
  cases step with
  | signal known kind live matching allowed =>
    exact ⟨⟨_, known, kind⟩, live, matching, allowed⟩

theorem membership_guards {r : Reducer} {members : List String} {completeness : String}
    (accepted : machine.accepts r (.membership members completeness)) :
    r.gone = ∅ ∧ ∀ member ∈ members, member ∈ r.live := by
  have step := (accepts_step accepted).2
  generalize machine.next r (.membership members completeness) = after at step
  cases step with
  | membership quiet live =>
    refine ⟨quiet, fun member listed => ?_⟩
    obtain ⟨_, _, _, here⟩ := live member listed
    exact here

/-- Acquisition is once per generation, in any continuation of the run. -/
theorem acquired_once {r : Reducer} {before more : List Event} {id owner owner' : String}
    {kind kind' : CapabilityKind} {generation generation' : Nat}
    (first : machine.AcceptedAt r before (.acquire id kind generation owner)) :
    ¬machine.AcceptedAt r (before ++ .acquire id kind generation owner :: more)
      (.acquire id kind' generation' owner') := by
  intro second
  have later : before ++ .acquire id kind generation owner :: more =
      (before ++ [.acquire id kind generation owner]) ++ more := by simp
  rw [later] at second
  have used := (acquire_consumes first).2
  rw [← Machine.run_concat] at used
  obtain ⟨entry, known, used⟩ := (later_grows r _ more).uses used
  have known' := acquire_generation second
  rw [known] at known'
  cases known'
  exact (acquire_consumes second).1 used

/-- A gone identifier is out of the ledger for the rest of the run. -/
theorem gone_forever {r : Reducer} (seeded : Seeded r) {before : List Event} {id : String}
    (gone : id ∈ (machine.run r before).gone) (more : List Event) :
    id ∉ (machine.run r (before ++ more)).live ∧
    id ∉ (machine.run r (before ++ more)).matched ∧
    (∀ result, ¬machine.AcceptedAt r (before ++ more) (.signal id result)) ∧
    ∀ members completeness, id ∈ members →
      ¬machine.AcceptedAt r (before ++ more) (.membership members completeness) := by
  have ledger := seeded_run_ledger seeded (before ++ more)
  have still := (later_grows r before more).gone gone
  have dead : id ∉ (machine.run r (before ++ more)).live := fun live => ledger.apart id live still
  refine ⟨dead, fun matching => dead (ledger.matched id matching), ?_, ?_⟩
  · exact fun result accepted => dead (signal_guards accepted).2.1
  · exact fun members completeness listed accepted =>
      dead ((membership_guards accepted).2 id listed)

/-- A running reducer with a session root pidfd and a shared lease in its catalog. -/
def rootReducer : Reducer :=
  { Reducer.new .running with
    catalog := ((∅ : Catalog).insert "cap.root" ⟨.sessionRootPidfd, 1⟩).insert "cap.lease"
      ⟨.sharedSessionLease, 1⟩ }

theorem rootReducer_seeded : Seeded rootReducer := by
  have base : Seeded (Reducer.new .running) := .new .running
  have root : registerCapability (.new .running) "cap.root" .sessionRootPidfd 1 =
    .ok { Reducer.new .running with
      catalog := (∅ : Catalog).insert "cap.root" ⟨.sessionRootPidfd, 1⟩ } := rfl
  have lease : registerCapability { Reducer.new .running with
      catalog := (∅ : Catalog).insert "cap.root" ⟨.sessionRootPidfd, 1⟩ }
      "cap.lease" .sharedSessionLease 1 = .ok rootReducer := rfl
  exact (base.register root).register lease

/-- A lost identity, the rollback of its transaction and a second one. -/
def lostRoot : List Event := [
  .acquire "cap.root" .sessionRootPidfd 1 "controller", .identity "cap.root" true,
  .intent .requestShutdown "txn.first", .identity "cap.root" false, .recovery .rollbackRunning,
  .intent .requestShutdown "txn.second"]

/-- The capability ledger over whole runs: rejected events, several transactions and
recoveries included. -/
theorem capability_ledger {r : Reducer} (seeded : Seeded r) (events : List Event) :
    (∀ id ∈ (machine.run r events).live, id ∉ (machine.run r events).gone) ∧
    (∀ id ∈ (machine.run r events).matched, id ∈ (machine.run r events).live) ∧
    (∀ id, id ∈ (machine.run r events).live ∨ id ∈ (machine.run r events).gone ∨
      id ∈ (machine.run r events).checkpointLive ∨ id ∈ (machine.run r events).checkpointMatched ∨
      id ∈ (machine.run r events).checkpointGone → Consumed (machine.run r events) id) ∧
    (∀ more, (machine.run r events).gone ⊆ (machine.run r (events ++ more)).gone ∧
      (machine.run r events).consumed ⊆ (machine.run r (events ++ more)).consumed) ∧
    (∀ id kind kind' generation generation' owner owner' more,
      machine.AcceptedAt r events (.acquire id kind generation owner) →
      ¬machine.AcceptedAt r (events ++ .acquire id kind generation owner :: more)
        (.acquire id kind' generation' owner')) ∧
    (∀ id ∈ (machine.run r events).gone, ∀ more,
      id ∉ (machine.run r (events ++ more)).live ∧
      id ∉ (machine.run r (events ++ more)).matched ∧
      (∀ result, ¬machine.AcceptedAt r (events ++ more) (.signal id result)) ∧
      ∀ members completeness, id ∈ members →
        ¬machine.AcceptedAt r (events ++ more) (.membership members completeness)) := by
  have ledger := seeded_run_ledger seeded events
  refine ⟨ledger.apart, ledger.matched, ?_, ?_, fun _ _ _ _ _ _ _ _ first => acquired_once first,
    fun id gone more => gone_forever seeded gone more⟩
  · rintro id (live | gone | live | matching | gone)
    · exact ledger.live id live
    · exact ledger.gone id gone
    · exact ledger.checkpointLive id live
    · exact ledger.checkpointLive id (ledger.checkpointMatched id matching)
    · exact ledger.gone id (ledger.checkpointGone gone)
  · exact fun more => ⟨(later_grows r events more).gone, (later_grows r events more).consumed⟩

theorem capability_ledger_lostRoot :
    "cap.root" ∈ (machine.run rootReducer lostRoot).checkpointGone ∧
    ∀ more, "cap.root" ∉ (machine.run rootReducer (lostRoot ++ more)).live := by
  refine ⟨by decide, fun more => ?_⟩
  exact ((capability_ledger rootReducer_seeded lostRoot).2.2.2.2.2 "cap.root" (by decide) more).1

/-- Only a matching revalidation adds to the matched set or to its checkpoint. -/
theorem step_matched {r after : Reducer} {event : Event} {id : String} (step : Step r event after)
    (other : event ≠ .identity id true)
    (matching : id ∈ after.matched ∨ id ∈ after.checkpointMatched) :
    id ∈ r.matched ∨ id ∈ r.checkpointMatched := by
  cases step with
  | release | identityFailure =>
    exact matching.imp_left fun inner => (Finset.mem_erase.mp inner).2
  | intent => exact Or.inl (matching.elim (fun inner => inner) fun inner => inner)
  | identityMatch =>
    refine matching.imp_left fun inner => ?_
    rcases Finset.mem_insert.mp inner with rfl | inner
    · exact absurd rfl other
    · exact inner
  | @signal seen entry result =>
    cases result
    case gone => exact matching.imp_left fun inner => (Finset.mem_erase.mp inner).2
    all_goals exact matching
  | recovery =>
    revert matching
    unfold settle
    split_ifs
    · intro matching
      simp only [rollback, Finset.mem_sdiff] at matching
      exact Or.inr (matching.elim (fun inner => inner.1) fun inner => inner)
    all_goals exact fun matching => matching
  | _ => exact matching

/-- Every matched identity, also one waiting in the checkpoint, was observed to match. -/
theorem run_observed {r : Reducer} (seeded : Seeded r) (events : List Event) :
    ∀ id, id ∈ (machine.run r events).matched ∨ id ∈ (machine.run r events).checkpointMatched →
      machine.Earlier r events (· = .identity id true) := by
  refine Machine.run_history (P := fun before (s : Reducer) => ∀ id,
    id ∈ s.matched ∨ id ∈ s.checkpointMatched →
      machine.Earlier r before (· = .identity id true)) ?_ ?_ events
  · obtain ⟨_, _, matched, _, _, cmatched⟩ := seeded_ledger seeded
    simp [matched, cmatched]
  · intro before event known id matching
    rcases next_cases (machine.run r before) event with ⟨accepted, _, step⟩ | ⟨_, refused⟩
    · by_cases observed : event = .identity id true
      · exact Machine.earlier_concat.mpr (Or.inr ⟨accepted, observed⟩)
      · exact (known id (step_matched step observed matching)).append _
    · obtain ⟨signalled, seen, same⟩ := refused
      rw [same] at matching
      exact (known id matching).append _

/-- Signals that find a process gone, and failed revalidations, put the identity in gone. -/
theorem run_lost (r : Reducer) (events : List Event) (id : String)
    (lost : machine.Earlier r events fun event =>
      event = .identity id false ∨ event = .signal id .gone) :
    id ∈ (machine.run r events).gone := by
  obtain ⟨first, event, rest, rfl, accepted, kind⟩ := lost
  have grows := later_grows r (first ++ [event]) rest
  rw [List.append_assoc, Machine.run_concat] at grows
  have step := (accepts_step accepted).2
  refine grows.gone ?_
  generalize machine.next (machine.run r first) event = after at step
  rcases kind with rfl | rfl
  · cases step with
    | identityFailure => exact Finset.mem_insert_self _ _
  · cases step with
    | signal => exact Finset.mem_insert_self _ _

/-- Identity before signal: an accepted signal goes to a live process descriptor whose
identity was observed to match and never to fail, whatever happened in between. -/
theorem identity_before_signal {r : Reducer} (seeded : Seeded r) (before : List Event)
    (id : String) (result : SignalResult)
    (accepted : machine.AcceptedAt r before (.signal id result)) :
    (∃ entry, r.catalog.lookup id = some entry ∧ entry.kind.isPidfd = true) ∧
    id ∈ (machine.run r before).live ∧
    machine.Earlier r before (· = .identity id true) ∧
    ¬machine.Earlier r before fun event =>
      event = .identity id false ∨ event = .signal id .gone := by
  obtain ⟨kind, live, matching, _⟩ := signal_guards accepted
  rw [(run_grows r before).catalog] at kind
  refine ⟨kind, live, run_observed seeded before id (Or.inl matching), fun lost => ?_⟩
  exact (seeded_run_ledger seeded before).apart id live (run_lost r before id lost)

/-- The identity is matched before a transaction that is rolled back, and signalled in the
next one. -/
def signalAfterRollback : List Event := [
  .acquire "cap.root" .sessionRootPidfd 1 "controller", .identity "cap.root" true,
  .intent .requestShutdown "txn.first", .recovery .rollbackRunning,
  .intent .requestShutdown "txn.second"]

theorem identity_before_signal_after_rollback :
    machine.AcceptedAt rootReducer signalAfterRollback (.signal "cap.root" .sent) ∧
    machine.Earlier rootReducer signalAfterRollback (· = .identity "cap.root" true) := by
  have accepted : machine.AcceptedAt rootReducer signalAfterRollback (.signal "cap.root" .sent) := by
    unfold Machine.AcceptedAt
    decide
  exact ⟨accepted, (identity_before_signal rootReducer_seeded _ _ _ accepted).2.2.1⟩

end Darling.Lifecycle
