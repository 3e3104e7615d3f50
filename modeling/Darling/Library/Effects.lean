import Mathlib.Logic.Basic

/-! Stateful computations that may fail and keep the state they reached when they do.
Contracts speak of the state on both exits, so the rules below cover the code that runs
after a failure as well as the code that runs after success. -/
namespace Darling

variable {ε ε' σ τ α β : Type}

abbrev Assertion (σ : Type) := σ → Prop

/-- Continue with the handler when the computation fails; nothing is rolled back. -/
def rescue (body : EStateM ε σ α) (handler : ε → EStateM ε' σ α) : EStateM ε' σ α := fun s =>
  match body s with
  | .ok value s' => .ok value s'
  | .error error s' => handler error s'

/-- Run the computation and return how it ended. -/
def attempt (body : EStateM ε σ α) : EStateM ε' σ (Except ε α) := fun s =>
  match body s with
  | .ok value s' => .ok (.ok value) s'
  | .error error s' => .ok (.error error) s'

/-- Go on when the condition holds, fail with the error otherwise. -/
def ensure (condition : Prop) [Decidable condition] (error : ε) : EStateM ε σ Unit :=
  if condition then pure () else throw error

def onlyIf (condition : Bool) (body : EStateM ε σ Unit) : EStateM ε σ Unit :=
  if condition then body else pure ()

def finalState (result : EStateM.Result ε σ α) : σ :=
  match result with
  | .ok _ s | .error _ s => s

def outcome (result : EStateM.Result ε σ α) : Except ε α :=
  match result with
  | .ok value _ => .ok value
  | .error error _ => .error error

@[simp] theorem finalState_ok (value : α) (s : σ) :
    finalState (.ok value s : EStateM.Result ε σ α) = s := rfl

@[simp] theorem finalState_error (error : ε) (s : σ) :
    finalState (.error error s : EStateM.Result ε σ α) = s := rfl

@[simp] theorem outcome_ok (value : α) (s : σ) :
    outcome (.ok value s : EStateM.Result ε σ α) = .ok value := rfl

@[simp] theorem outcome_error (error : ε) (s : σ) :
    outcome (.error error s : EStateM.Result ε σ α) = .error error := rfl

theorem bind_run (body : EStateM ε σ α) (next : α → EStateM ε σ β) (s : σ) :
    (body >>= next) s = match body s with
      | .ok value s' => next value s'
      | .error error s' => .error error s' := rfl

theorem bind_run_ok {body : EStateM ε σ α} {next : α → EStateM ε σ β} {s s' : σ} {value : α}
    (ran : body s = .ok value s') : (body >>= next) s = next value s' := by
  rw [bind_run, ran]

theorem bind_run_error {body : EStateM ε σ α} {next : α → EStateM ε σ β} {s s' : σ} {error : ε}
    (ran : body s = .error error s') : (body >>= next) s = .error error s' := by
  rw [bind_run, ran]

theorem rescue_run_ok {body : EStateM ε σ α} {handler : ε → EStateM ε' σ α} {s s' : σ} {value : α}
    (ran : body s = .ok value s') : rescue body handler s = .ok value s' := by
  rw [rescue, ran]

theorem rescue_run_error {body : EStateM ε σ α} {handler : ε → EStateM ε' σ α} {s s' : σ} {error : ε}
    (ran : body s = .error error s') : rescue body handler s = handler error s' := by
  rw [rescue, ran]

theorem rescue_bind_run_error {body : EStateM ε σ α} {handler : ε → EStateM ε' σ α}
    {next : α → EStateM ε' σ β} {s s' : σ} {error : ε} (ran : body s = .error error s') :
    (rescue body handler >>= next) s = (handler error >>= next) s' := by
  rw [bind_run, bind_run, rescue_run_error ran]

/-- From `pre` the computation returns in `post` or fails in `fails`. -/
def Triple (pre : Assertion σ) (body : EStateM ε σ α) (post : α → Assertion σ)
    (fails : ε → Assertion σ) : Prop :=
  ∀ s, pre s → match body s with
    | .ok value s' => post value s'
    | .error error s' => fails error s'

section Rules

variable {pre pre' : Assertion σ} {body : EStateM ε σ α} {post post' : α → Assertion σ}
  {fails fails' : ε → Assertion σ}

theorem Triple.returned (contract : Triple pre body post fails) {s s' : σ} {value : α}
    (holds : pre s) (ran : body s = .ok value s') : post value s' := by
  have result := contract s holds
  rwa [ran] at result

theorem Triple.failed (contract : Triple pre body post fails) {s s' : σ} {error : ε}
    (holds : pre s) (ran : body s = .error error s') : fails error s' := by
  have result := contract s holds
  rwa [ran] at result

/-- What both exits share holds of the final state. -/
theorem Triple.ended {kept : Assertion σ} (contract : Triple pre body (fun _ => kept) (fun _ => kept)) {s : σ}
    (holds : pre s) : kept (finalState (body s)) := by
  have result := contract s holds
  cases ran : body s with
  | ok _ _ =>
    rw [ran] at result
    exact result
  | error _ _ =>
    rw [ran] at result
    exact result

theorem Triple.of_runs
    (returned : ∀ s value s', pre s → body s = .ok value s' → post value s')
    (failed : ∀ s error s', pre s → body s = .error error s' → fails error s') :
    Triple pre body post fails := by
  intro s holds
  cases ran : body s with
  | ok value s' => exact returned s value s' holds ran
  | error error s' => exact failed s error s' holds ran

theorem Triple.weaken (contract : Triple pre body post fails) (stronger : ∀ s, pre' s → pre s)
    (returned : ∀ value s, post value s → post' value s)
    (failed : ∀ error s, fails error s → fails' error s) : Triple pre' body post' fails' := by
  apply Triple.of_runs
  · intro s value s' holds ran
    exact returned value s' (contract.returned (stronger s holds) ran)
  · intro s error s' holds ran
    exact failed error s' (contract.failed (stronger s holds) ran)

theorem Triple.strengthen (contract : Triple pre body post fails) (stronger : ∀ s, pre' s → pre s) :
    Triple pre' body post fails :=
  contract.weaken stronger (fun _ _ => id) (fun _ _ => id)

theorem Triple.conclude (contract : Triple pre body post fails)
    (returned : ∀ value s, post value s → post' value s)
    (failed : ∀ error s, fails error s → fails' error s) : Triple pre body post' fails' :=
  contract.weaken (fun _ => id) returned failed

theorem Triple.fallback (contract : Triple pre body post fails)
    (failed : ∀ error s, fails error s → fails' error s) : Triple pre body post fails' :=
  contract.conclude (fun _ _ => id) failed

theorem Triple.pure {value : α} (holds : ∀ s, pre s → post value s) :
    Triple pre (Pure.pure value : EStateM ε σ α) post fails := holds

theorem Triple.skip {value : α} : Triple pre (Pure.pure value : EStateM ε σ α) (fun _ => pre) fails :=
  fun _ => id

theorem Triple.throw {error : ε} (holds : ∀ s, pre s → fails error s) :
    Triple pre (throw error : EStateM ε σ α) post fails := holds

theorem Triple.update {change : σ → σ} {post : Unit → Assertion σ}
    (holds : ∀ s, pre s → post () (change s)) :
    Triple pre (modify change : EStateM ε σ Unit) post fails := holds

theorem Triple.update_keeps {change : σ → σ} (holds : ∀ s, pre s → pre (change s)) :
    Triple pre (modify change : EStateM ε σ PUnit) (fun _ => pre) fails := holds

theorem Triple.read : Triple pre (get : EStateM ε σ σ) (fun value s => value = s ∧ pre s) fails :=
  fun _ holds => ⟨rfl, holds⟩

theorem Triple.ofExcept {result : Except ε α} (returned : ∀ value s, result = .ok value → pre s → post value s)
    (failed : ∀ error s, result = .error error → pre s → fails error s) :
    Triple pre (ofExcept result : EStateM ε σ α) post fails := by
  cases result with
  | ok value => exact Triple.pure fun s => returned value s rfl
  | error error => exact Triple.throw fun s => failed error s rfl

theorem Triple.bind {middle : α → Assertion σ} {next : α → EStateM ε σ β} {post : β → Assertion σ}
    (first : Triple pre body middle fails) (second : ∀ value, Triple (middle value) (next value) post fails) :
    Triple pre (body >>= next) post fails := by
  intro s holds
  have result := first s holds
  rw [bind_run]
  cases ran : body s with
  | ok value s' =>
    rw [ran] at result
    exact second value s' result
  | error error s' =>
    rw [ran] at result
    exact result

theorem Triple.read_bind {next : σ → EStateM ε σ β} {post : β → Assertion σ}
    (second : ∀ value, Triple (fun s => value = s ∧ pre s) (next value) post fails) :
    Triple pre (get >>= next) post fails :=
  Triple.bind Triple.read second

/-- As above, for a continuation that does not depend on where the state was read. -/
theorem Triple.read_bind_any {next : σ → EStateM ε σ β} {post : β → Assertion σ}
    (second : ∀ value, Triple pre (next value) post fails) : Triple pre (get >>= next) post fails :=
  Triple.read_bind fun value => (second value).strengthen fun _ holds => holds.2

theorem Triple.rescue {handler : ε → EStateM ε' σ α} {middle : ε → Assertion σ} {fails : ε' → Assertion σ}
    (first : Triple pre body post middle)
    (second : ∀ error, Triple (middle error) (handler error) post fails) :
    Triple pre (rescue body handler) post fails := by
  intro s holds
  have result := first s holds
  unfold Darling.rescue
  cases ran : body s with
  | ok value s' =>
    rw [ran] at result
    exact result
  | error error s' =>
    rw [ran] at result
    exact second error s' result

theorem Triple.attempt (ended : Except ε α → Assertion σ) {fails : ε' → Assertion σ}
    (contract : Triple pre body (fun value => ended (.ok value)) (fun error => ended (.error error))) :
    Triple pre (attempt body) ended fails := by
  intro s holds
  have result := contract s holds
  unfold Darling.attempt
  cases ran : body s with
  | ok value s' =>
    rw [ran] at result
    exact result
  | error error s' =>
    rw [ran] at result
    exact result

theorem Triple.ite {condition : Prop} [Decidable condition] {other : EStateM ε σ α}
    (holds : condition → Triple pre body post fails) (fallback : ¬condition → Triple pre other post fails) :
    Triple pre (if condition then body else other) post fails := by
  split
  · exact holds ‹_›
  · exact fallback ‹_›

theorem Triple.onlyIf {body : EStateM ε σ Unit} (condition : Bool) (first : Triple pre body (fun _ => pre) fails) :
    Triple pre (onlyIf condition body) (fun _ => pre) fails :=
  Triple.ite (fun _ => first) fun _ => Triple.skip

theorem Triple.ensure {condition : Prop} [Decidable condition] {error : ε}
    (broken : ¬condition → ∀ s, pre s → fails error s) :
    Triple pre (ensure condition error) (fun _ s => condition ∧ pre s) fails := by
  apply Triple.ite
  · intro holds
    exact Triple.pure fun s start => ⟨holds, start⟩
  · intro fallen
    exact Triple.throw (broken fallen)

/-- A fact of the precondition that does not depend on the state is an ordinary hypothesis. -/
theorem Triple.assume {fact : Prop} (contract : fact → Triple pre body post fails) :
    Triple (fun s => fact ∧ pre s) body post fails :=
  fun s holds => contract holds.1 s holds.2

/-- A fact that follows from the precondition in every state. -/
theorem Triple.given (fact : Prop) (follows : ∀ s, pre s → fact)
    (contract : fact → Triple pre body post fails) : Triple pre body post fails :=
  fun s holds => contract (follows s holds) s holds

theorem Triple.choose {pre : β → Assertion σ} (contract : ∀ choice, Triple (pre choice) body post fails) :
    Triple (fun s => ∃ choice, pre choice s) body post fails :=
  fun s ⟨choice, holds⟩ => contract choice s holds

theorem Triple.or (left : Triple pre body post fails) (right : Triple pre' body post fails) :
    Triple (fun s => pre s ∨ pre' s) body post fails :=
  fun s holds => holds.elim (left s) (right s)

theorem Triple.and (left : Triple pre body post fails) (right : Triple pre' body post' fails') :
    Triple (fun s => pre s ∧ pre' s) body (fun value s => post value s ∧ post' value s)
      (fun error s => fails error s ∧ fails' error s) := by
  apply Triple.of_runs
  · intro s value s' holds ran
    exact ⟨left.returned holds.1 ran, right.returned holds.2 ran⟩
  · intro s error s' holds ran
    exact ⟨left.failed holds.1 ran, right.failed holds.2 ran⟩

end Rules

/-- The computation keeps the assertion on every exit. -/
def Invariant (kept : Assertion σ) (body : EStateM ε σ α) : Prop :=
  Triple kept body (fun _ => kept) (fun _ => kept)

section Invariants

variable {kept : Assertion σ} {body : EStateM ε σ α}

theorem Invariant.of_finalState (holds : ∀ s, kept s → kept (finalState (body s))) : Invariant kept body := by
  intro s start
  have ended := holds s start
  cases ran : body s with
  | ok _ _ =>
    rw [ran] at ended
    exact ended
  | error _ _ =>
    rw [ran] at ended
    exact ended

theorem Invariant.ended (invariant : Invariant kept body) {s : σ} (start : kept s) :
    kept (finalState (body s)) :=
  Triple.ended invariant start

theorem Invariant.pure (value : α) : Invariant kept (Pure.pure value : EStateM ε σ α) := fun _ => id

theorem Invariant.throw (error : ε) : Invariant kept (throw error : EStateM ε σ α) := fun _ => id

theorem Invariant.bind {next : α → EStateM ε σ β} (first : Invariant kept body)
    (second : ∀ value, Invariant kept (next value)) : Invariant kept (body >>= next) :=
  Triple.bind first second

theorem Invariant.rescue {handler : ε → EStateM ε' σ α} (first : Invariant kept body)
    (second : ∀ error, Invariant kept (handler error)) : Invariant kept (rescue body handler) :=
  Triple.rescue first second

theorem Invariant.attempt (first : Invariant kept body) :
    Invariant kept (attempt body : EStateM ε' σ (Except ε α)) :=
  Triple.attempt (fun _ => kept) first

/-- As above, where anything may hold after a failure, since there is none. -/
theorem Invariant.attempt_any {fails : ε' → Assertion σ} (first : Invariant kept body) :
    Triple kept (Darling.attempt body : EStateM ε' σ (Except ε α)) (fun _ => kept) fails :=
  Triple.attempt (fun _ => kept) first

theorem Invariant.ite {condition : Prop} [Decidable condition] {other : EStateM ε σ α}
    (left : Invariant kept body) (right : Invariant kept other) :
    Invariant kept (if condition then body else other) :=
  Triple.ite (fun _ => left) (fun _ => right)

theorem Invariant.onlyIf {body : EStateM ε σ Unit} (condition : Bool) (first : Invariant kept body) :
    Invariant kept (onlyIf condition body) :=
  Invariant.ite first (Invariant.pure _)

theorem Invariant.ofExcept (result : Except ε α) : Invariant kept (ofExcept result : EStateM ε σ α) := by
  cases result
  · exact Invariant.throw _
  · exact Invariant.pure _

theorem Invariant.get : Invariant kept (get : EStateM ε σ σ) := fun _ => id

theorem Invariant.modify {change : σ → σ} (holds : ∀ s, kept s → kept (change s)) :
    Invariant kept (modify change : EStateM ε σ PUnit) := holds

theorem Invariant.ensure {condition : Prop} [Decidable condition] {error : ε} :
    Invariant kept (ensure condition error) :=
  Invariant.ite (Invariant.pure _) (Invariant.throw _)

end Invariants

end Darling
