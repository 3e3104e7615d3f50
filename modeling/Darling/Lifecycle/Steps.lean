import Darling.Library.Machines
import Darling.Lifecycle.State

/-! What one event can do. `Step` lists the accepted effects with every guard the reducer
checks; a refused event only adds safety evidence. Later results use these two facts and
never unfold the reducer. -/
namespace Darling.Lifecycle

/-- The texts a checkpoint event may carry. -/
def ValidCheckpoint (operation checkpoint placement result : String) : Prop :=
  operation ∈ boundaryOperations ∧ checkpoint ∈ boundaryCheckpoints ∧
    placement ∈ ["BEFORE", "AFTER"] ∧ result ∈ ["INJECTED", "COMPLETED", "ERROR"]

/-- An accepted event, its guards and the state it leaves. -/
inductive Step (r : Reducer) : Event → Reducer → Prop where
  | acquire {id : String} {kind : CapabilityKind} {generation : Nat} {owner : String}
      (known : r.catalog.lookup id = some ⟨kind, generation⟩) (idle : id ∉ r.live)
      (fresh : (id, generation) ∉ r.consumed) :
      Step r (.acquire id kind generation owner) { r with
        consumed := insert (id, generation) r.consumed
        live := r.live.insert id owner }
  | move {id source target : String} (owned : r.live.lookup id = some source) :
      Step r (.move id source target) { r with live := r.live.insert id target }
  | release {id owner : String} (owned : r.live.lookup id = some owner) :
      Step r (.release id owner) { r with
        live := r.live.erase id, matched := r.matched.erase id }
  | intent {kind : IntentKind} {transaction : String} (closed : r.transaction = none)
      (allowed : journalTransitionAllowed r.snapshot.journal .prepare = true) :
      Step r (.intent kind transaction) { r with
        transaction := some transaction
        checkpointLive := r.live
        checkpointMatched := r.matched
        checkpointGone := r.gone
        snapshot := { r.snapshot with journal := .prepare, intent := kind } }
  | barrier (allowed : stableTransitionAllowed r.snapshot.stable .draining = true) :
      Step r .barrierEntered { r with snapshot := { r.snapshot with stable := .draining } }
  | membership {members : List String} {completeness : String} (quiet : r.gone = ∅)
      (members_live : ∀ member ∈ members, ∃ entry, r.catalog.lookup member = some entry ∧
        entry.kind.isPidfd = true ∧ member ∈ r.live) :
      Step r (.membership members completeness) { r with
        membershipClosed := r.membershipClosed || completeness == "CLOSED"
        obligations := insert
          (if completeness = "TIMEOUT" ∨ completeness = "OVERFLOW" then .membershipIncomplete
            else .membershipClosed) r.obligations }
  | identityMatch {id : String} {entry : CatalogEntry} (known : r.catalog.lookup id = some entry)
      (kind : entry.kind.isIdentity = true) (live : id ∈ r.live) :
      Step r (.identity id true) { r with matched := insert id r.matched }
  | identityFailure {id : String} {entry : CatalogEntry} (known : r.catalog.lookup id = some entry)
      (kind : entry.kind.isIdentity = true) (live : id ∈ r.live) :
      Step r (.identity id false) { r with
        live := r.live.erase id
        matched := r.matched.erase id
        gone := insert id r.gone
        obligations := insert .identityFailure r.obligations }
  | signal {id : String} {entry : CatalogEntry} {result : SignalResult}
      (known : r.catalog.lookup id = some entry) (kind : entry.kind.isPidfd = true)
      (live : id ∈ r.live) (matching : id ∈ r.matched)
      (allowed : journalTransitionAllowed r.snapshot.journal .cleanup = true) :
      Step r (.signal id result) { signalEffect r id result with
        snapshot := { r.snapshot with journal := .cleanup } }
  | endpointRejected {endpoint operation : String} :
      Step r (.endpoint endpoint operation "REJECTED") { r with
        obligations := insert .endpointFailure r.obligations }
  | endpoint {endpoint operation result : String} (other : result ≠ "REJECTED") :
      Step r (.endpoint endpoint operation result) r
  | checkpointRejected {operation checkpoint placement result : String}
      (valid : ValidCheckpoint operation checkpoint placement result)
      (failed : result ∈ ["INJECTED", "ERROR"]) :
      Step r (.operationCheckpoint operation checkpoint placement result) { r with
        operationRejectionSeen := true
        obligations := companion operation checkpoint ∪ insert .operationFailure r.obligations }
  | checkpointCompleted {operation checkpoint placement result : String}
      (valid : ValidCheckpoint operation checkpoint placement result)
      (completed : result ∉ ["INJECTED", "ERROR"]) :
      Step r (.operationCheckpoint operation checkpoint placement result) r
  | lateFork {id : String} {entry : CatalogEntry} (known : r.catalog.lookup id = some entry)
      (kind : entry.kind.isPidfd = true) :
      Step r (.memberObserved id "LATE_FORK") { r with
        lateForkSeen := true
        lateForkAfterClosed := r.membershipClosed
        obligations := insert .lateForkRecovery r.obligations }
  | memberObserved {id origin : String} {entry : CatalogEntry}
      (known : r.catalog.lookup id = some entry) (kind : entry.kind.isPidfd = true)
      (other : origin ≠ "LATE_FORK") : Step r (.memberObserved id origin) r
  | fault {name : String} : Step r (.fault name) { r with
        obligations := insert (.fault name) r.obligations
        lateForkFaultSeen := r.lateForkFaultSeen || name == "LATE_FORK" }
  | recovery {action : RecoveryAction}
      (prescribed : recoveryAction r.snapshot.stable r.snapshot.journal = action) :
      Step r (.recovery action) (settle action { r with
        snapshot := actionTarget action r.snapshot
        observations := r.observations ++ [⟨r.snapshot.stable, r.snapshot.journal, action⟩] })
  | terminal {outcome : Outcome} (sound : outcome = .success → unresolved r = false) :
      Step r (.terminal outcome) { r with terminal := some outcome }

theorem checkMembers_ok {r : Reducer} {members : List String}
    (ok : checkMembers r members = .ok ()) :
    ∀ member ∈ members, ∃ entry, r.catalog.lookup member = some entry ∧
      entry.kind.isPidfd = true ∧ member ∈ r.live := by
  induction members with
  | nil => simp
  | cons head rest ih =>
    simp only [checkMembers] at ok
    split at ok
    · contradiction
    · rename_i entry known
      split at ok
      · contradiction
      · rename_i good
        simp only [Bool.not_eq_true', not_or, Bool.not_eq_false, Decidable.not_not] at good
        intro member listed
        rcases List.mem_cons.mp listed with rfl | later
        · exact ⟨entry, known, good.1, good.2⟩
        · exact ih ok member later

/-- The event match plus the final transition check produce exactly a `Step`. -/
theorem applyEvent_step {r after : Reducer} {event : Event}
    (ok : applyEvent r event = .ok () after)
    (allowed : transitionAllowed r.snapshot after.snapshot = true) : Step r event after := by
  cases event with
  | acquire id kind generation owner =>
    simp only [applyEvent, acquire] at ok
    split at ok
    · contradiction
    · rename_i entry known
      split at ok
      · contradiction
      · rename_i good
        cases ok
        simp only [ne_eq, not_or, Decidable.not_not] at good
        obtain ⟨rfl, rfl, idle, fresh⟩ := good
        exact .acquire known idle fresh
  | move id source target =>
    simp only [applyEvent] at ok
    split at ok
    · contradiction
    · cases ok; exact .move (by simp_all)
  | release id owner =>
    simp only [applyEvent] at ok
    split at ok
    · contradiction
    · cases ok; exact .release (by simp_all)
  | intent kind transaction =>
    simp only [applyEvent] at ok
    split at ok
    · contradiction
    · cases ok
      exact .intent (by simp_all) (by simp_all [transitionAllowed])
  | barrierEntered =>
    cases ok
    exact .barrier (by simp_all [transitionAllowed])
  | membership members completeness =>
    simp only [applyEvent, membership] at ok
    split at ok
    · contradiction
    · split at ok
      · contradiction
      · cases ok
        exact .membership (by simp_all) (checkMembers_ok ‹_›)
  | identity id isMatch =>
    simp only [applyEvent, identity] at ok
    split at ok
    · contradiction
    · rename_i entry known
      split at ok
      · contradiction
      · rename_i good
        simp only [Bool.not_eq_true', not_or, Bool.not_eq_false, Decidable.not_not] at good
        cases isMatch with
        | true => cases ok; exact .identityMatch known good.1 good.2
        | false => cases ok; exact .identityFailure known good.1 good.2
  | signal id result =>
    simp only [applyEvent, signal] at ok
    split at ok
    · contradiction
    · rename_i entry known
      split at ok
      · contradiction
      · rename_i good
        simp only [Bool.not_eq_true', not_or, Bool.not_eq_false, Decidable.not_not] at good
        cases ok
        exact .signal known good.1 good.2.1 good.2.2 (by simp_all [transitionAllowed])
  | endpoint endpoint operation result =>
    simp only [applyEvent] at ok
    split at ok
    · rename_i rejected
      subst rejected
      cases ok; exact .endpointRejected
    · cases ok; exact .endpoint ‹_›
  | operationCheckpoint operation checkpoint placement result =>
    simp only [applyEvent, operationCheckpoint] at ok
    split at ok
    · contradiction
    · rename_i valid
      simp only [not_or, Decidable.not_not] at valid
      split at ok
      · cases ok; exact .checkpointRejected valid ‹_›
      · cases ok; exact .checkpointCompleted valid ‹_›
  | memberObserved id origin =>
    simp only [applyEvent, memberObserved] at ok
    split at ok
    · contradiction
    · rename_i entry known
      split at ok
      · contradiction
      · rename_i kind
        have kind : entry.kind.isPidfd = true := by simpa using kind
        split at ok
        · rename_i late
          subst late
          cases ok; exact .lateFork known kind
        · cases ok; exact .memberObserved known kind ‹_›
  | fault name => cases ok; exact .fault
  | recovery action =>
    simp only [applyEvent, recover] at ok
    split at ok
    · contradiction
    · rename_i prescribed
      simp only [ne_eq, Decidable.not_not] at prescribed
      subst prescribed
      rw [recoveryTarget_prescribed] at ok
      cases ok
      exact .recovery rfl
  | terminal outcome =>
    simp only [applyEvent] at ok
    split at ok
    · contradiction
    · rename_i sound
      cases ok
      exact .terminal (fun success => by simpa [success] using sound)

theorem checkMembers_of_live {r : Reducer} {members : List String}
    (live : ∀ member ∈ members, ∃ entry, r.catalog.lookup member = some entry ∧
      entry.kind.isPidfd = true ∧ member ∈ r.live) : checkMembers r members = .ok () := by
  induction members with
  | nil => rfl
  | cons head rest ih =>
    obtain ⟨entry, known, kind, here⟩ := live head List.mem_cons_self
    simp only [checkMembers, known, kind, here]
    exact ih fun member later => live member (List.mem_cons_of_mem _ later)

/-- Every `Step` is accepted while no terminal has been reached. -/
theorem step_apply {r after : Reducer} {event : Event} (running : r.terminal = none)
    (step : Step r event after) : apply r event = .ok () after := by
  suffices inner : applyEvent r event = .ok () after ∧
      transitionAllowed r.snapshot after.snapshot = true by
    simp [apply, applyInner, running, inner.1, inner.2]
  cases step with
  | acquire known idle fresh => simp [applyEvent, acquire, known, idle, fresh]
  | move owned => simp [applyEvent, owned]
  | release owned => simp [applyEvent, owned]
  | intent closed allowed => simp [applyEvent, closed, transitionAllowed, allowed]
  | barrier allowed => simp [applyEvent, transitionAllowed, allowed]
  | membership quiet live => simp [applyEvent, membership, quiet, checkMembers_of_live live]
  | identityMatch known kind live => simp [applyEvent, identity, known, kind, live]
  | identityFailure known kind live => simp [applyEvent, identity, known, kind, live]
  | signal known kind live matching allowed =>
    simp [applyEvent, signal, known, kind, live, matching, transitionAllowed, allowed]
  | endpointRejected => simp [applyEvent]
  | endpoint other => simp [applyEvent, other]
  | checkpointRejected valid failed =>
    obtain ⟨h1, h2, h3, h4⟩ := valid
    simp only [applyEvent, operationCheckpoint, h1, h2, h3, h4, failed]
    simp
  | checkpointCompleted valid completed =>
    obtain ⟨h1, h2, h3, h4⟩ := valid
    simp only [applyEvent, operationCheckpoint, h1, h2, h3, h4, completed]
    simp
  | lateFork known kind => simp [applyEvent, memberObserved, known, kind]
  | memberObserved known kind other => simp [applyEvent, memberObserved, known, kind, other]
  | fault => simp [applyEvent]
  | recovery prescribed =>
    subst prescribed
    have target := recoveryTarget_prescribed r.snapshot
    have allowed : transitionAllowed r.snapshot
        (actionTarget (recoveryAction r.snapshot.stable r.snapshot.journal) r.snapshot) = true := by
      by_contra forbidden
      simp [recoveryTarget, forbidden] at target
    simp [applyEvent, recover, target, allowed]
  | terminal sound =>
    simp only [applyEvent]
    split
    · rename_i bad
      simp [sound bad.1] at bad
    · simp

/-- A refused event leaves everything but the two safety observations, and these grow. -/
def Refused (r after : Reducer) : Prop :=
  ∃ signalled seen, after = { r with
    signalWithoutIdentity := r.signalWithoutIdentity || signalled
    membershipSeenAfterGone := r.membershipSeenAfterGone || seen }

def Reply.after : Reply → Reducer
  | .ok _ r => r
  | .error _ r => r

def Reply.accepted : Reply → Bool
  | .ok _ _ => true
  | .error _ _ => false

/-- The reducer as a machine over its events. -/
def machine : Machine Reducer Event where
  next r event := Reply.after (apply r event)
  accepts r event := Reply.accepted (apply r event) = true

instance (r : Reducer) (event : Event) : Decidable (machine.accepts r event) :=
  inferInstanceAs (Decidable (_ = true))

theorem accepts_step {r : Reducer} {event : Event} (accepted : machine.accepts r event) :
    r.terminal = none ∧ Step r event (machine.next r event) := by
  simp only [machine, apply, applyInner] at accepted ⊢
  split at accepted
  · rename_i after ok
    split at ok
    · contradiction
    · rename_i running
      split at ok
      · contradiction
      · rename_i done
        split at ok
        · cases ok
          refine ⟨by simpa using running, ?_⟩
          simpa [running, done, Reply.after, *] using applyEvent_step done ‹_›
        · contradiction
  · simp [Reply.accepted] at accepted

theorem refused_next {r : Reducer} {event : Event} (refused : ¬machine.accepts r event) :
    Refused r (machine.next r event) := by
  simp only [machine, apply] at refused ⊢
  split
  · simp_all [Reply.accepted]
  · exact ⟨_, _, rfl⟩

theorem next_cases (r : Reducer) (event : Event) :
    (machine.accepts r event ∧ r.terminal = none ∧ Step r event (machine.next r event)) ∨
      (¬machine.accepts r event ∧ Refused r (machine.next r event)) := by
  by_cases accepted : machine.accepts r event
  · exact Or.inl ⟨accepted, accepts_step accepted⟩
  · exact Or.inr ⟨accepted, refused_next accepted⟩

/-- The outcome a terminal event carries. -/
def Event.outcome? : Event → Option Outcome
  | .terminal outcome => some outcome
  | _ => none

theorem Event.outcome?_eq_some {event : Event} {outcome : Outcome} : event.outcome? = some outcome ↔
    event = .terminal outcome := by
  cases event <;> simp [Event.outcome?]

theorem Event.outcome?_eq_none {event : Event} : event.outcome? = none ↔ ∀ outcome, event ≠ .terminal outcome := by
  cases event <;> simp [Event.outcome?]

/-- Only a terminal event sets the terminal. -/
theorem step_terminal {r after : Reducer} {event : Event} (step : Step r event after) :
    after.terminal = event.outcome?.or r.terminal := by
  cases step with
  | @signal _ _ result => cases result <;> rfl
  | @recovery action =>
    simp only [settle]
    split_ifs <;> rfl
  | _ => rfl

/-- Reducers a caller can hand to the first event: a new one with capabilities registered
and ownership seeded in any order. -/
inductive Seeded : Reducer → Prop where
  | new (stable : StableState) : Seeded (.new stable)
  | register {r r' : Reducer} {id : String} {kind : CapabilityKind} {generation : Nat}
      (base : Seeded r) (ok : registerCapability r id kind generation = .ok r') : Seeded r'
  | seed {r r' : Reducer} {id owner : String} (base : Seeded r) (ok : seedOwnership r id owner = .ok r') : Seeded r'

theorem register_ok {r r' : Reducer} {id : String} (ok : registerCapability r id kind generation = .ok r') :
    id ∉ r.catalog ∧ r' = { r with catalog := r.catalog.insert id ⟨kind, generation⟩ } := by
  simp only [registerCapability] at ok
  split at ok
  · contradiction
  · cases ok; simp_all

theorem seed_ok {r r' : Reducer} {id : String} (ok : seedOwnership r id owner = .ok r') :
    ∃ entry, r.catalog.lookup id = some entry ∧ id ∉ r.live ∧ r' = { r with
      consumed := insert (id, entry.generation) r.consumed
      live := r.live.insert id owner } := by
  simp only [seedOwnership] at ok
  split at ok
  · contradiction
  · rename_i entry known
    split at ok
    · contradiction
    · cases ok; exact ⟨entry, known, ‹_›, rfl⟩

end Darling.Lifecycle
