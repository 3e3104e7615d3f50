import Darling.Fuzz.Codec
import Darling.Fuzz.Replay

/-! The status of a replay says exactly what happened in it. -/
namespace Darling.Fuzz

open Darling.Lifecycle

def eventOf (op : BytecodeOp) : Option Event :=
  match eventForOp op with
  | .ok event => event
  | .error _ => none

def eventsOf (ops : List BytecodeOp) : List Event := ops.filterMap eventOf

theorem eventsOf_append (first rest : List BytecodeOp) : eventsOf (first ++ rest) = eventsOf first ++ eventsOf rest :=
  List.filterMap_append

theorem eventsOf_none {op : BytecodeOp} (none : eventOf op = none) : eventsOf [op] = [] :=
  List.filterMap_cons_none none

theorem eventsOf_some {op : BytecodeOp} {event : Event} (some : eventOf op = some event) : eventsOf [op] = [event] :=
  List.filterMap_cons_some some

def BytecodeOp.isTerminal : BytecodeOp → Bool
  | .terminal _ => true
  | _ => false

theorem entry_ok {table : List α} {index : UInt8} (below : index.toNat < table.length) (message : String) :
    ∃ value, entry table index message = .ok value := by
  unfold entry
  rw [List.getElem?_eq_getElem below]
  exact ⟨_, rfl⟩

theorem entry_le {table : List α} {index last : UInt8} (bounded : index ≤ last) (known : last.toNat < table.length)
    (message : String) : ∃ value, entry table index message = .ok value := by
  have below : index.toNat ≤ last.toNat := UInt8.le_iff_toNat_le.mp bounded
  exact entry_ok (by omega) message

theorem capabilityId_ok {capability : UInt8} (known : capability.toNat < maxCapabilities) :
    ∃ id, capabilityId capability = .ok id :=
  entry_ok known _

theorem capabilityKind_ok {capability : UInt8} (known : capability.toNat < maxCapabilities) :
    ∃ kind, capabilityKind capability = .ok kind :=
  entry_ok known _

/-- An operation in range always has its event, or none. -/
theorem eventForOp_eq {op : BytecodeOp} (inRange : op.InRange) : eventForOp op = .ok (eventOf op) := by
  have total : ∃ event, eventForOp op = .ok event := by
    cases op with
    | intent value =>
      obtain ⟨kind, found⟩ : ∃ kind, intentKind value = .ok kind := entry_le inRange (by decide) _
      exact ⟨_, by rw [eventForOp, found]; rfl⟩
    | barrier => exact ⟨_, rfl⟩
    | acquire capability =>
      obtain ⟨id, found⟩ := capabilityId_ok inRange
      obtain ⟨kind, known⟩ := capabilityKind_ok inRange
      exact ⟨_, by rw [eventForOp, found, known]; rfl⟩
    | identity capability isMatch =>
      obtain ⟨id, found⟩ := capabilityId_ok inRange
      exact ⟨_, by rw [eventForOp, found]; rfl⟩
    | membership mask completeness =>
      obtain ⟨name, found⟩ : ∃ name, entry completenessNames completeness "membership completeness" = .ok name :=
        entry_le inRange (by decide) _
      exact ⟨_, by rw [eventForOp, found]; rfl⟩
    | signal capability number result =>
      obtain ⟨known, -, bounded⟩ := inRange
      obtain ⟨id, found⟩ := capabilityId_ok known
      obtain ⟨value, decoded⟩ : ∃ value, signalResult result = .ok value := entry_le bounded (by decide) _
      exact ⟨_, by rw [eventForOp, found, decoded]; rfl⟩
    | recovery value =>
      obtain ⟨action, found⟩ : ∃ action, recoveryActionOf value = .ok action := entry_le inRange (by decide) _
      exact ⟨_, by rw [eventForOp, found]; rfl⟩
    | release capability =>
      obtain ⟨id, found⟩ := capabilityId_ok inRange
      exact ⟨_, by rw [eventForOp, found]; rfl⟩
    | checkpoint operation point placement result =>
      obtain ⟨known, pointed, -⟩ := inRange
      obtain ⟨name, found⟩ : ∃ name, entry operationNames operation "operation" = .ok name :=
        entry_le known (by decide) _
      obtain ⟨place, decoded⟩ : ∃ name, entry checkpointNames point "checkpoint" = .ok name :=
        entry_le pointed (by decide) _
      exact ⟨_, by rw [eventForOp, found]; simp only [bind, Except.bind, decoded]; rfl⟩
    | memberObserved capability origin =>
      obtain ⟨known, bounded⟩ := inRange
      obtain ⟨id, found⟩ := capabilityId_ok known
      obtain ⟨name, decoded⟩ : ∃ name, entry originNames origin "member origin" = .ok name :=
        entry_le bounded (by decide) _
      exact ⟨_, by rw [eventForOp, found, decoded]; rfl⟩
    | fault value =>
      obtain ⟨name, found⟩ : ∃ name, entry faultNames value "fault" = .ok name :=
        entry_le inRange (by decide) _
      exact ⟨_, by rw [eventForOp, found]; rfl⟩
    | terminal value =>
      obtain ⟨kind, found⟩ : ∃ kind, outcome value = .ok kind := entry_le inRange (by decide) _
      exact ⟨_, by rw [eventForOp, found]; rfl⟩
    | advance value => exact ⟨_, rfl⟩
    | noop => exact ⟨_, rfl⟩
  obtain ⟨event, mapped⟩ := total
  simp only [eventOf, mapped]

section Loop

variable {osError : Nat → String} {s : Progress} {op : BytecodeOp} {ops : List BytecodeOp}

/-- What an operation must meet to be replayed without an error. -/
structure Allowed (s : Progress) (op : BytecodeOp) : Prop where
  running : s.reducer.terminal = none
  schedule : s.scheduleSteps < maxScheduleSteps
  time : s.virtualTimeNs + delta op ≤ modelMaxVirtualTimeNs
  recovery : ∀ event, eventOf op = some event → isRecovery event → s.recoverySteps < modelMaxRecoverySteps
  accepted : ∀ event, eventOf op = some event → machine.accepts s.reducer event
  live : ∀ event, eventOf op = some event →
    (machine.next s.reducer event).live.keys.card ≤ modelMaxLiveCapabilities

/-- The operation has taken its time. -/
def timed (s : Progress) (op : BytecodeOp) : Progress :=
  { s with
    scheduleSteps := s.scheduleSteps + 1
    virtualTimeNs := s.virtualTimeNs + delta op }.cover (0x1000 + opTag op)

/-- The state after an operation that met everything. -/
def advanced (s : Progress) (op : BytecodeOp) : Progress :=
  match eventOf op with
  | none => timed s op
  | some event =>
    { countRecovery (timed s op) event with reducer := machine.next s.reducer event }.cover
      (0x2000 + snapshotCode (machine.next s.reducer event).snapshot)

theorem countRecovery_errors (event : Event) : (countRecovery s event).errors = s.errors := by
  unfold countRecovery
  split <;> rfl

theorem countRecovery_reducer (event : Event) : (countRecovery s event).reducer = s.reducer := by
  unfold countRecovery
  split <;> rfl

theorem countRecovery_steps (event : Event) :
    (countRecovery s event).recoverySteps = s.recoverySteps + [event].countP isRecovery := by
  unfold countRecovery
  cases recovers : isRecovery event <;> simp [recovers]

def Flow.progress : Flow → Progress
  | .next s => s
  | .stop s => s

theorem record_ne_nil (errors : List Text) (error : Text) : record errors error ≠ [] := by
  unfold record
  split
  · simp
  · rename_i full
    intro none
    rw [none] at full
    exact full (by decide)

theorem applyEventOf_cases (osError : Nat → String) (s : Progress) (index tag : Nat) (event : Event) :
    (machine.accepts s.reducer event ∧
        (machine.next s.reducer event).live.keys.card ≤ modelMaxLiveCapabilities ∧
        applyEventOf osError s index tag event = .next ({ s with reducer := machine.next s.reducer event }.cover
          (0x2000 + snapshotCode (machine.next s.reducer event).snapshot))) ∨
      (¬(machine.accepts s.reducer event ∧
          (machine.next s.reducer event).live.keys.card ≤ modelMaxLiveCapabilities) ∧
        (applyEventOf osError s index tag event).progress.errors ≠ []) := by
  unfold applyEventOf
  cases applied : apply s.reducer event with
  | error error after =>
    have refused : ¬machine.accepts s.reducer event := by simp [machine, applied, Reply.accepted]
    exact .inr ⟨fun both => refused both.1, record_ne_nil _ _⟩
  | ok done after =>
    have accepted : machine.accepts s.reducer event := by simp [machine, applied, Reply.accepted]
    have next : machine.next s.reducer event = after := by simp [machine, applied, Reply.after]
    rw [next]
    by_cases crowded : modelMaxLiveCapabilities < after.live.keys.card
    · refine .inr ⟨fun both => absurd both.2 (Nat.not_le.mpr crowded), ?_⟩
      simp [crowded, Progress.exceed, Flow.progress]
    · exact .inl ⟨accepted, Nat.not_lt.mp crowded, by simp [crowded]⟩

/-- One round of the loop: an allowed operation advances, and any other leaves an error. -/
theorem replayOp_cases (osError : Nat → String) (inRange : op.InRange) (s : Progress) (index : Nat) :
    (Allowed s op ∧ replayOp osError s index op = .next (advanced s op)) ∨
      (¬Allowed s op ∧ (replayOp osError s index op).progress.errors ≠ []) := by
  unfold replayOp
  by_cases ended : s.reducer.terminal.isSome
  · rw [if_pos ended]
    refine .inr ⟨fun allowed => ?_, record_ne_nil _ _⟩
    rw [allowed.running] at ended
    cases ended
  rw [if_neg ended]
  by_cases full : maxScheduleSteps ≤ s.scheduleSteps
  · rw [if_pos full]
    refine .inr ⟨fun allowed => ?_, by simp [Progress.exceed, Flow.progress]⟩
    have below := allowed.schedule
    omega
  rw [if_neg full]
  by_cases late : modelMaxVirtualTimeNs < s.virtualTimeNs + delta op
  · rw [if_pos late]
    refine .inr ⟨fun allowed => ?_, by simp [Progress.exceed, Flow.progress]⟩
    have below := allowed.time
    omega
  rw [if_neg late]
  change _ ∧ replayTimed osError (timed s op) index op = _ ∨
    _ ∧ (replayTimed osError (timed s op) index op).progress.errors ≠ []
  have running : s.reducer.terminal = none := by simpa using ended
  have schedule : s.scheduleSteps < maxScheduleSteps := by omega
  have time : s.virtualTimeNs + delta op ≤ modelMaxVirtualTimeNs := by omega
  simp only [replayTimed, eventForOp_eq inRange, advanced]
  cases mapped : eventOf op with
  | none =>
    refine .inl ⟨⟨running, schedule, time, ?_, ?_, ?_⟩, rfl⟩ <;> simp [mapped]
  | some event =>
    simp only [replayEvent]
    by_cases spent : isRecovery event ∧ modelMaxRecoverySteps < (countRecovery (timed s op) event).recoverySteps
    · rw [if_pos spent]
      refine .inr ⟨fun allowed => ?_, by simp [Progress.exceed, Flow.progress]⟩
      have below := allowed.recovery event mapped spent.1
      have steps := spent.2
      simp only [countRecovery_steps, List.countP_singleton, spent.1, if_true, timed, Progress.cover] at steps
      omega
    · rw [if_neg spent]
      have within : isRecovery event → s.recoverySteps < modelMaxRecoverySteps := by
        intro recovers
        have steps := not_and.mp spent recovers
        simp only [countRecovery_steps, List.countP_singleton, recovers, if_true, timed, Progress.cover] at steps
        omega
      have same : (countRecovery (timed s op) event).reducer = s.reducer := countRecovery_reducer event
      rcases applyEventOf_cases osError (countRecovery (timed s op) event) index (opTag op) event with
        ⟨accepted, live, ran⟩ | ⟨refused, failed⟩
      · rw [same] at accepted live ran
        refine .inl ⟨⟨running, schedule, time, ?_, ?_, ?_⟩, ran⟩
        · intro other found
          cases mapped.symm.trans found
          exact within
        · intro other found
          cases mapped.symm.trans found
          exact accepted
        · intro other found
          cases mapped.symm.trans found
          exact live
      · rw [same] at refused
        exact .inr ⟨fun allowed => refused ⟨allowed.accepted event mapped, allowed.live event mapped⟩, failed⟩

theorem replayOp_failed (failed : s.errors ≠ []) (index : Nat) :
    (replayOp osError s index op).progress.errors ≠ [] := by
  have kept (event : Event) : (countRecovery (timed s op) event).errors ≠ [] := by
    rw [countRecovery_errors]
    exact failed
  unfold replayOp
  split_ifs
  · exact record_ne_nil _ _
  · simp [Progress.exceed, Flow.progress]
  · simp [Progress.exceed, Flow.progress]
  · unfold replayTimed
    split
    · rename_i event mapped
      unfold replayEvent
      split_ifs
      · simp [Progress.exceed, Flow.progress]
      · rcases applyEventOf_cases osError (countRecovery (timed s op) event) index (opTag op) event with
          ⟨-, -, ran⟩ | ⟨-, failed⟩
        · have errors := congrArg (fun flow => (Flow.progress flow).errors) ran
          exact errors.trans_ne (kept event)
        · exact failed
    · exact failed
    · simp [Progress.reject, Flow.progress]

theorem replayOps_failed (failed : s.errors ≠ []) (index : Nat) : (replayOps osError s index ops).errors ≠ [] := by
  induction ops generalizing s index with
  | nil => exact failed
  | cons op rest induction =>
    have still : (replayOp osError s index op).progress.errors ≠ [] := replayOp_failed failed index
    unfold replayOps
    split
    · rename_i after ran
      rw [ran] at still
      exact induction still _
    · rename_i after ran
      rw [ran] at still
      exact still

/-- Every operation is allowed when its turn comes. -/
def Passes (s : Progress) (ops : List BytecodeOp) : Prop :=
  ∀ before op rest, ops = before ++ op :: rest → Allowed (before.foldl advanced s) op

theorem passes_cons {rest : List BytecodeOp} :
    Passes s (op :: rest) ↔ Allowed s op ∧ Passes (advanced s op) rest := by
  constructor
  · intro passes
    refine ⟨passes [] op rest rfl, ?_⟩
    rintro before other after rfl
    exact passes (op :: before) other after rfl
  · rintro ⟨first, later⟩ before other after split
    cases before with
    | nil =>
      cases split
      exact first
    | cons head before =>
      obtain ⟨rfl, rfl⟩ := List.cons.inj split
      exact later before other after rfl

theorem advanced_errors : (advanced s op).errors = s.errors := by
  unfold advanced
  split
  · rfl
  · exact countRecovery_errors _

theorem advanced_rejectedEvents : (advanced s op).rejectedEvents = s.rejectedEvents := by
  unfold advanced
  split
  · rfl
  · simp only [Progress.cover, countRecovery]
    split <;> rfl

/-- A whole run ends without an error exactly when every operation passes, and then nothing was refused. -/
theorem replayOps_clean (osError : Nat → String) (inRange : ∀ op ∈ ops, op.InRange) (clean : s.errors = [])
    (index : Nat) :
    ((replayOps osError s index ops).errors = [] ↔ Passes s ops) ∧
      (Passes s ops → replayOps osError s index ops = ops.foldl advanced s) := by
  induction ops generalizing s index with
  | nil =>
    refine ⟨iff_of_true clean ?_, fun _ => rfl⟩
    intro before op rest split
    simp at split
  | cons op rest induction =>
    obtain ⟨first, others⟩ := List.forall_mem_cons.mp inRange
    rw [passes_cons]
    rcases replayOp_cases osError first s index with ⟨allowed, ran⟩ | ⟨refused, failed⟩
    · obtain ⟨ends, runs⟩ := induction others (s := advanced s op) (advanced_errors.trans clean) (index + 1)
      simp only [replayOps, ran, allowed, true_and]
      exact ⟨ends, runs⟩
    · refine ⟨iff_of_false ?_ fun both => refused both.1, fun both => absurd both.1 refused⟩
      unfold replayOps
      split
      · rename_i after ran
        rw [ran] at failed
        exact replayOps_failed failed _
      · rename_i after ran
        rw [ran] at failed
        exact failed

theorem advanced_reducer : (advanced s op).reducer = machine.run s.reducer (eventsOf [op]) := by
  unfold advanced
  split
  · rename_i none
    rw [eventsOf_none none]
    rfl
  · rename_i event some
    rw [eventsOf_some some]
    rfl

theorem advanced_recoverySteps :
    (advanced s op).recoverySteps = s.recoverySteps + (eventsOf [op]).countP isRecovery := by
  unfold advanced
  split
  · rename_i none
    rw [eventsOf_none none]
    rfl
  · rename_i event some
    rw [eventsOf_some some]
    exact countRecovery_steps event

theorem advanced_virtualTimeNs : (advanced s op).virtualTimeNs = s.virtualTimeNs + delta op := by
  unfold advanced
  split
  · rfl
  · simp only [Progress.cover, countRecovery]
    split <;> rfl

theorem advanced_scheduleSteps : (advanced s op).scheduleSteps = s.scheduleSteps + 1 := by
  unfold advanced
  split
  · rfl
  · simp only [Progress.cover, countRecovery]
    split <;> rfl

/-- The state after operations that all passed. -/
structure Sums (s : Progress) (ops : List BytecodeOp) (final : Progress) : Prop where
  reducer : final.reducer = machine.run s.reducer (eventsOf ops)
  schedule : final.scheduleSteps = s.scheduleSteps + ops.length
  time : final.virtualTimeNs = s.virtualTimeNs + (ops.map delta).sum
  recovery : final.recoverySteps = s.recoverySteps + (eventsOf ops).countP isRecovery
  rejected : final.rejectedEvents = s.rejectedEvents

theorem foldl_advanced (s : Progress) (ops : List BytecodeOp) : Sums s ops (ops.foldl advanced s) := by
  induction ops generalizing s with
  | nil => exact ⟨rfl, rfl, rfl, rfl, rfl⟩
  | cons op rest induction =>
    obtain ⟨reducer, schedule, time, recovery, rejected⟩ := induction (advanced s op)
    have events : eventsOf (op :: rest) = eventsOf [op] ++ eventsOf rest := eventsOf_append [op] rest
    rw [List.foldl_cons]
    constructor
    · rw [reducer, advanced_reducer, events, Machine.run_append]
    · rw [schedule, advanced_scheduleSteps, List.length_cons]
      omega
    · rw [time, advanced_virtualTimeNs, List.map_cons, List.sum_cons]
      omega
    · rw [recovery, advanced_recoverySteps, events, List.countP_append]
      omega
    · rw [rejected, advanced_rejectedEvents]

end Loop

section Terminal

variable {r : Reducer} {op : BytecodeOp} {event : Event}

/-- The last operation, and only it, is a terminal. -/
def EndsOnce (ops : List BytecodeOp) : Prop :=
  ∃ before value, ops = before ++ [.terminal value] ∧ ∀ op ∈ before, op.isTerminal = false

theorem eventOf_terminal {value : UInt8} (inRange : (BytecodeOp.terminal value).InRange) :
    ∃ outcome, eventOf (.terminal value) = some (.terminal outcome) := by
  obtain ⟨kind, found⟩ : ∃ kind, outcome value = .ok kind := entry_le inRange (by decide) _
  refine ⟨kind, ?_⟩
  simp only [eventOf, eventForOp, found]
  rfl

theorem eventForOp_of_eventOf (mapped : eventOf op = some event) : eventForOp op = .ok (some event) := by
  unfold eventOf at mapped
  split at mapped
  · rename_i ran
    rw [ran, mapped]
  · cases mapped

theorem eventOf_other (other : op.isTerminal = false) (mapped : eventOf op = some event) (outcome : Outcome) :
    event ≠ .terminal outcome := by
  have ran := eventForOp_of_eventOf mapped
  rintro rfl
  cases op <;> simp [eventForOp, bind_ok, BytecodeOp.isTerminal, -bind_pure_comp] at ran other

/-- An accepted event ends the trace exactly when it is a terminal. -/
theorem accepted_terminal (accepted : machine.accepts r event) :
    (machine.next r event).terminal = none ↔ ∀ outcome, event ≠ .terminal outcome := by
  obtain ⟨running, step⟩ := accepts_step accepted
  rw [step_terminal step, running, Option.or_none, Event.outcome?_eq_none]

/-- Accepted events without a terminal keep the trace open. -/
theorem run_running (open_ : r.terminal = none) (ops : List BytecodeOp)
    (accepted : ∀ before op rest event, ops = before ++ op :: rest → eventOf op = some event →
      machine.AcceptedAt r (eventsOf before) event)
    (others : ∀ op ∈ ops, op.isTerminal = false) : (machine.run r (eventsOf ops)).terminal = none := by
  induction ops using List.reverseRecOn with
  | nil => exact open_
  | append_singleton before op induction =>
    have still : (machine.run r (eventsOf before)).terminal = none := by
      refine induction ?_ fun op member => others op (List.mem_append_left _ member)
      rintro first other rest event rfl mapped
      exact accepted first other (rest ++ [op]) event (by simp) mapped
    rw [eventsOf_append, Machine.run_append]
    cases mapped : eventOf op with
    | none =>
      rw [eventsOf_none mapped]
      exact still
    | some event =>
      rw [eventsOf_some mapped]
      refine (accepted_terminal (accepted before op [] event rfl mapped)).mpr ?_
      exact eventOf_other (others op (by simp)) mapped

end Terminal

/-- Everything but the invariants: what an accepted trace meets. -/
structure Clean (r : Reducer) (ops : List BytecodeOp) : Prop where
  accepted : ∀ before op rest event, ops = before ++ op :: rest → eventOf op = some event →
    machine.AcceptedAt r (eventsOf before) event
  ends : EndsOnce ops
  schedule : ops.length ≤ maxScheduleSteps
  time : (ops.map delta).sum ≤ modelMaxVirtualTimeNs
  recovery : (eventsOf ops).countP isRecovery ≤ modelMaxRecoverySteps
  live : ∀ before rest, ops = before ++ rest →
    (machine.run r (eventsOf before)).live.keys.card ≤ modelMaxLiveCapabilities

section Passing

variable {r : Reducer} {ops : List BytecodeOp}

theorem passes_concat {s : Progress} {before : List BytecodeOp} {op : BytecodeOp}
    (passes : Passes s (before ++ [op])) : Passes s before ∧ Allowed (before.foldl advanced s) op := by
  refine ⟨?_, passes before op [] rfl⟩
  rintro first other rest rfl
  exact passes first other (rest ++ [op]) (by simp)

/-- The sums stay within the budgets, and the live capabilities too. -/
theorem Passes.budgets (empty : r.live.keys.card ≤ modelMaxLiveCapabilities) (passes : Passes { reducer := r } ops) :
    ops.length ≤ maxScheduleSteps ∧ (ops.map delta).sum ≤ modelMaxVirtualTimeNs ∧
      (eventsOf ops).countP isRecovery ≤ modelMaxRecoverySteps ∧
      (machine.run r (eventsOf ops)).live.keys.card ≤ modelMaxLiveCapabilities := by
  induction ops using List.reverseRecOn with
  | nil => exact ⟨Nat.zero_le _, Nat.zero_le _, Nat.zero_le _, empty⟩
  | append_singleton before op induction =>
    obtain ⟨earlier, allowed⟩ := passes_concat passes
    obtain ⟨schedule, time, recovery, live⟩ := induction earlier
    have sums := foldl_advanced { reducer := r } before
    have steps := allowed.schedule
    have spent := allowed.time
    rw [sums.schedule, Nat.zero_add] at steps
    rw [sums.time, Nat.zero_add] at spent
    refine ⟨?_, ?_, ?_, ?_⟩
    · rw [List.length_append, List.length_singleton]
      omega
    · rw [List.map_append, List.sum_append, List.map_singleton, List.sum_singleton]
      exact spent
    all_goals rw [eventsOf_append]
    · rw [List.countP_append]
      cases mapped : eventOf op with
      | none =>
        rw [eventsOf_none mapped, List.countP_nil]
        omega
      | some event =>
        rw [eventsOf_some mapped, List.countP_singleton]
        split
        · rename_i recovers
          have below := allowed.recovery event mapped recovers
          rw [sums.recovery, Nat.zero_add] at below
          omega
        · omega
    · rw [Machine.run_append]
      cases mapped : eventOf op with
      | none =>
        rw [eventsOf_none mapped]
        exact live
      | some event =>
        rw [eventsOf_some mapped]
        have below := allowed.live event mapped
        rw [sums.reducer] at below
        exact below

theorem Passes.clean (empty : r.live.keys.card ≤ modelMaxLiveCapabilities) (inRange : ∀ op ∈ ops, op.InRange)
    (passes : Passes { reducer := r } ops) (fresh : r.terminal = none)
    (ended : (machine.run r (eventsOf ops)).terminal ≠ none) : Clean r ops := by
  obtain ⟨schedule, time, recovery, -⟩ := passes.budgets empty
  have running : ∀ before op rest, ops = before ++ op :: rest → (machine.run r (eventsOf before)).terminal = none := by
    intro before op rest split
    have open_ := (passes before op rest split).running
    rw [(foldl_advanced { reducer := r } before).reducer] at open_
    exact open_
  have accepted : ∀ before op rest event, ops = before ++ op :: rest → eventOf op = some event →
      machine.AcceptedAt r (eventsOf before) event := by
    intro before op rest event split mapped
    have taken := (passes before op rest split).accepted event mapped
    rw [(foldl_advanced { reducer := r } before).reducer] at taken
    exact taken
  refine ⟨accepted, ?_, schedule, time, recovery, ?_⟩
  · rcases List.eq_nil_or_concat ops with rfl | ⟨before, last, rfl⟩
    · exact absurd fresh ended
    rw [List.concat_eq_append] at *
    have still := running before last [] rfl
    -- the last operation ends the trace, so it is a terminal; an earlier one would have ended it sooner
    have others : ∀ op ∈ before, op.isTerminal = false := by
      intro op member
      obtain ⟨first, rest, rfl⟩ := List.append_of_mem member
      cases op with
      | terminal value =>
        obtain ⟨outcome, mapped⟩ := eventOf_terminal (inRange (.terminal value) (by simp))
        have taken := accepted first (.terminal value) (rest ++ [last]) _ (by simp) mapped
        have done : (machine.run r (eventsOf (first ++ [.terminal value]))).terminal = none := by
          cases rest with
          | nil => exact still
          | cons next rest => exact running (first ++ [.terminal value]) next (rest ++ [last]) (by simp)
        rw [eventsOf_append, eventsOf_some mapped, Machine.run_concat] at done
        exact absurd rfl ((accepted_terminal taken).mp done outcome)
      | _ => rfl
    cases last with
    | terminal value => exact ⟨before, value, rfl, others⟩
    | _ =>
      refine absurd (run_running fresh _ accepted ?_) ended
      intro op member
      rcases List.mem_append.mp member with earlier | same
      · exact others op earlier
      · rw [List.mem_singleton.mp same]
        rfl
  · rintro before rest rfl
    have earlier : Passes { reducer := r } before := by
      rintro first op after rfl
      exact passes first op (after ++ rest) (by simp)
    exact (earlier.budgets empty).2.2.2

theorem Clean.passes (clean : Clean r ops) (inRange : ∀ op ∈ ops, op.InRange) (fresh : r.terminal = none) :
    Passes { reducer := r } ops ∧ (machine.run r (eventsOf ops)).terminal ≠ none := by
  obtain ⟨body, value, shape, others⟩ := clean.ends
  constructor
  · intro before op rest split
    have sums := foldl_advanced { reducer := r } before
    have within : before <+: body := by
      have whole : before <+: ops := ⟨op :: rest, split.symm⟩
      refine List.prefix_of_prefix_length_le whole ⟨_, shape.symm⟩ ?_
      have sizes := congrArg List.length (split.symm.trans shape)
      simp only [List.length_append, List.length_cons, List.length_nil] at sizes
      omega
    have running : (machine.run r (eventsOf before)).terminal = none := by
      refine run_running fresh before ?_ fun op member => others op (within.subset member)
      rintro first other after event rfl mapped
      exact clean.accepted first other (after ++ op :: rest) event (by simp [split]) mapped
    constructor
    · rw [sums.reducer]
      exact running
    · have size := clean.schedule
      rw [sums.schedule]
      rw [split, List.length_append, List.length_cons] at size
      change 0 + before.length < maxScheduleSteps
      omega
    · have spent := clean.time
      rw [sums.time]
      rw [split, List.map_append, List.sum_append, List.map_cons, List.sum_cons] at spent
      change 0 + (before.map delta).sum + delta op ≤ modelMaxVirtualTimeNs
      omega
    · intro event mapped recovers
      have steps := clean.recovery
      have events : eventsOf (op :: rest) = [event] ++ eventsOf rest := by
        rw [← eventsOf_some mapped, ← eventsOf_append]
        rfl
      rw [sums.recovery]
      rw [split, eventsOf_append, events, List.countP_append, List.countP_append, List.countP_singleton,
        if_pos recovers] at steps
      change 0 + (eventsOf before).countP isRecovery < modelMaxRecoverySteps
      omega
    · intro event mapped
      rw [sums.reducer]
      exact clean.accepted before op rest event split mapped
    · intro event mapped
      have live := clean.live (before ++ [op]) rest (by simp [split])
      rw [eventsOf_append, eventsOf_some mapped, Machine.run_concat] at live
      rw [sums.reducer]
      exact live
  · subst shape
    obtain ⟨outcome, mapped⟩ := eventOf_terminal (inRange (.terminal value) (by simp))
    have taken := clean.accepted body (.terminal value) [] _ rfl mapped
    rw [eventsOf_append, eventsOf_some mapped, Machine.run_concat]
    intro still
    exact absurd rfl ((accepted_terminal taken).mp still outcome)

end Passing

theorem registerCatalog_ok (stable : StableState) :
    ∃ r, registerCatalog (Reducer.new stable) = .ok r ∧ r.terminal = none ∧ r.live = ∅ :=
  ⟨_, rfl, rfl, rfl⟩

/-- Every registered invariant holds in the state the whole trace leads to. -/
def Satisfied (r : Reducer) (program : ScenarioBytecode) : Prop :=
  ∀ name ∈ fuzzInvariantRegistry,
    name ∈ satisfied program (machine.run r (eventsOf program.ops)) (program.ops.map delta).sum

theorem missingNames_nil {program : ScenarioBytecode} {s : Progress} :
    missingNames program s = [] ↔
      ∀ name ∈ fuzzInvariantRegistry, name ∈ satisfied program s.reducer s.virtualTimeNs := by
  simp [missingNames, List.filter_eq_nil_iff]

theorem baseStatus_accepted {s : Progress} :
    baseStatus s = .accepted ↔ s.errors = [] ∧ s.reducer.terminal ≠ none := by
  unfold baseStatus
  generalize "budget exceeded".toList = text
  by_cases clean : s.errors = []
  · cases s.reducer.terminal <;> simp [clean]
  · by_cases budget : s.errors.any (contains · text) <;> simp [budget, clean]

theorem baseStatus_ne_violation (s : Progress) : baseStatus s ≠ .invariantViolation := by
  unfold baseStatus
  split_ifs <;> simp

theorem finalStatus_accepted {program : ScenarioBytecode} {s : Progress} (kept : s.errors = [] → s.rejectedEvents = 0) :
    finalStatus program s = .accepted ↔
      (s.errors = [] ∧ s.reducer.terminal ≠ none) ∧ missingNames program s = [] := by
  rw [← baseStatus_accepted]
  unfold finalStatus
  by_cases missing : missingNames program s = []
  · simp [missing]
  · by_cases accepted : baseStatus s = .accepted
    · obtain ⟨clean, ended⟩ := baseStatus_accepted.mp accepted
      simp [missing, accepted, kept clean, Option.isSome_iff_ne_none.mpr ended]
    · simp [missing, accepted]

theorem finalStatus_violation {program : ScenarioBytecode} {s : Progress}
    (kept : s.errors = [] → s.rejectedEvents = 0) :
    finalStatus program s = .invariantViolation ↔
      (s.errors = [] ∧ s.reducer.terminal ≠ none) ∧ missingNames program s ≠ [] := by
  rw [← baseStatus_accepted]
  unfold finalStatus
  by_cases missing : missingNames program s = []
  · simp [missing, baseStatus_ne_violation]
  · by_cases accepted : baseStatus s = .accepted
    · obtain ⟨clean, ended⟩ := baseStatus_accepted.mp accepted
      simp [missing, accepted, kept clean, Option.isSome_iff_ne_none.mpr ended]
    · simp [accepted, baseStatus_ne_violation]

theorem replayWith_eq {osError : Nat → String} {program : ScenarioBytecode}
    (minimizing : FailureFingerprint → ScenarioBytecode) {stable : StableState} {r : Reducer}
    (initial : stableState program.initialStable = .ok stable)
    (registered : registerCatalog (Reducer.new stable) = .ok r) {s : Progress}
    (replayed : replayOps osError { reducer := r } 0 program.ops = s) :
    replayWith osError program minimizing = .ok (report program
      (if finalErrors program s ≠ [] then
        minimizing (failureFingerprint (finalStatus program s) (finalErrors program s))
      else program) s) := by
  subst replayed
  have start : catalogued osError stable = .ok r := by rw [catalogued, registered]
  simp only [replayWith, initial, start, bind, Except.bind]
  rfl

/-- The status is `ACCEPTED` exactly for the clean traces that satisfy every invariant, and
`INVARIANT_VIOLATION` exactly for the other clean ones. -/
theorem replay_classifies (platform : Platform) (program : ScenarioBytecode) (valid : program.InRange)
    (minimizeFailures : Bool) :
    ∃ stable r report, stableState program.initialStable = .ok stable ∧
      registerCatalog (Reducer.new stable) = .ok r ∧
      replayReport platform program minimizeFailures = .ok report ∧
      replayReducer platform program minimizeFailures = ensureOutputBound platform report ∧
      (report.status = .accepted ↔ Clean r program.ops ∧ Satisfied r program) ∧
      (report.status = .invariantViolation ↔ Clean r program.ops ∧ ¬Satisfied r program) := by
  obtain ⟨stable, initial⟩ : ∃ stable, stableState program.initialStable = .ok stable :=
    entry_le valid.initialStable (by decide) _
  obtain ⟨r, registered, fresh, unowned⟩ := registerCatalog_ok stable
  have empty : r.live.keys.card ≤ modelMaxLiveCapabilities := by
    rw [unowned]
    exact Nat.zero_le _
  let s := replayOps platform.osError { reducer := r } 0 program.ops
  obtain ⟨ends, runs⟩ := replayOps_clean platform.osError (s := { reducer := r }) valid.ops rfl 0
  have sums := foldl_advanced { reducer := r } program.ops
  have passed : s.errors = [] → s = program.ops.foldl advanced { reducer := r } := fun clean => runs (ends.mp clean)
  have kept : s.errors = [] → s.rejectedEvents = 0 := fun clean => by rw [passed clean, sums.rejected]
  have clean : (s.errors = [] ∧ s.reducer.terminal ≠ none) ↔ Clean r program.ops := by
    constructor
    · rintro ⟨none, ended⟩
      rw [passed none, sums.reducer] at ended
      exact (ends.mp none).clean empty valid.ops fresh ended
    · intro trace
      obtain ⟨passes, ended⟩ := trace.passes valid.ops fresh
      have none : s.errors = [] := ends.mpr passes
      refine ⟨none, ?_⟩
      rw [passed none, sums.reducer]
      exact ended
  have invariants : Clean r program.ops → (missingNames program s = [] ↔ Satisfied r program) := by
    intro trace
    have whole := passed (clean.mpr trace).1
    rw [missingNames_nil, whole, sums.reducer, sums.time]
    simp only [Nat.zero_add, Satisfied]
  have ran := replayWith_eq (fun expected =>
    if minimizeFailures then minimizeReducerProgram platform program expected else program) initial
      registered (rfl : _ = s)
  refine ⟨stable, r, _, initial, registered, ran, ?_, ?_, ?_⟩
  · rw [replayReducer, replayReport, ran]
    rfl
  · change finalStatus program s = _ ↔ _
    rw [finalStatus_accepted kept, clean]
    exact and_congr_right invariants
  · change finalStatus program s = _ ↔ _
    rw [finalStatus_violation kept, clean]
    exact and_congr_right fun trace => not_congr (invariants trace)

/-- The canonical trace `shared-session-signal-gone`. -/
def signalGone : ScenarioBytecode :=
  ⟨.reducer, 0, 0, 0, 2,
    [.intent 3, .barrier, .acquire 0, .identity 0 true, .signal 0 0 1, .terminal 3]⟩

/-- Reports of a few kilobytes. -/
def plainPlatform : Platform where
  osError _ := "os error"
  jsonLength _ := 4000

theorem signalGone_inRange : signalGone.InRange :=
  ⟨by decide, by decide, by decide, by decide, by
    intro op member
    simp only [signalGone, List.mem_cons, List.not_mem_nil, or_false] at member
    rcases member with rfl | rfl | rfl | rfl | rfl | rfl <;> simp [BytecodeOp.InRange, maxCapabilities]⟩

theorem replay_classifies_signalGone : ∃ r, Clean r signalGone.ops ∧ Satisfied r signalGone := by
  obtain ⟨stable, r, report, -, -, ran, -, accepted, -⟩ :=
    replay_classifies plainPlatform signalGone signalGone_inRange false
  have status : (replayReport plainPlatform signalGone false).map (·.status) = .ok .accepted := by decide +kernel
  rw [ran] at status
  exact ⟨r, accepted.mp (Except.ok.inj status)⟩

end Darling.Fuzz
