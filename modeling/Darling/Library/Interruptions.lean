import Darling.Library.Effects

/-! Programs made of single steps on a disk. A step may be refused by the disk, may raise an error
that a handler sees, or may be the one at which the process dies. Which of this happens is fixed
by a schedule, one entry a step, so a theorem about all schedules covers every crash and every
exception between any two steps. -/
namespace Darling

inductive Fault (ε : Type) where
  | raise (error : ε)
  | crash
  deriving DecidableEq, Repr

abbrev Schedule (ε : Type) := List (Option (Fault ε))

/-- A process on a disk; `struck` lists the steps at which a fault took it. -/
structure Process (ι ε σ : Type) where
  disk : σ
  faults : Schedule ε := []
  struck : List ι := []

/-- How a program ends when it does not return. No handler runs after a crash. -/
inductive Stop (ε : Type) where
  | crash
  | raised (error : ε)
  deriving DecidableEq, Repr

abbrev Program (ι ε σ : Type) := EStateM (Stop ε) (Process ι ε σ)

variable {ι ε σ α β : Type}

def Fault.stop : Fault ε → Stop ε
  | raise error => .raised error
  | crash => .crash

/-- The process after a fault took the step. -/
def Process.strike (p : Process ι ε σ) (point : ι) : Process ι ε σ :=
  { p with faults := p.faults.tail, struck := p.struck ++ [point] }

/-- The process after a step left the disk. -/
def Process.step (p : Process ι ε σ) (disk : σ) : Process ι ε σ := { p with disk, faults := p.faults.tail }

@[simp] theorem Process.step_disk (p : Process ι ε σ) (disk : σ) : (p.step disk).disk = disk := rfl

@[simp] theorem Process.strike_disk (p : Process ι ε σ) (point : ι) : (p.strike point).disk = p.disk := rfl

@[simp] theorem Process.step_faults (p : Process ι ε σ) (disk : σ) : (p.step disk).faults = p.faults.tail := rfl

@[simp] theorem Process.strike_faults (p : Process ι ε σ) (point : ι) :
    (p.strike point).faults = p.faults.tail := rfl

@[simp] theorem Process.step_struck (p : Process ι ε σ) (disk : σ) : (p.step disk).struck = p.struck := rfl

@[simp] theorem Process.strike_struck (p : Process ι ε σ) (point : ι) :
    (p.strike point).struck = p.struck ++ [point] := rfl

/-- One step: all of the change, none of it, or the end of the process. -/
def act (point : ι) (change : σ → Except ε (α × σ)) : Program ι ε σ α := fun p =>
  match p.faults.head?.join with
  | some fault => .error fault.stop (p.strike point)
  | none =>
    match change p.disk with
    | .ok (value, disk) => .ok value (p.step disk)
    | .error error => .error (.raised error) (p.step p.disk)

/-- A step that the disk never refuses. -/
def write (point : ι) (change : σ → σ) : Program ι ε σ Unit := act point fun disk => .ok ((), change disk)

/-- A step that changes nothing. -/
def sync (point : ι) : Program ι ε σ Unit := write point id

def disk : Program ι ε σ σ := fun p => .ok p.disk p

/-- A change of the process's own memory, which no fault can separate from what was before it. -/
def assign (change : σ → σ) : Program ι ε σ Unit := fun p => .ok () { p with disk := change p.disk }

def raise (error : ε) : Program ι ε σ α := throw (.raised error)

def demand (condition : Prop) [Decidable condition] (error : ε) : Program ι ε σ Unit :=
  ensure condition (.raised error)

/-- `except`: the handler sees what was raised; nothing runs after a crash. -/
def handle (body : Program ι ε σ α) (handler : ε → Program ι ε σ α) : Program ι ε σ α :=
  rescue body fun
    | .crash => throw .crash
    | .raised error => handler error

/-- `finally`: the cleanup runs on both exits, and its own error wins. -/
def cleaning (body : Program ι ε σ α) (cleanup : Program ι ε σ Unit) : Program ι ε σ α := do
  let value ← handle body fun error => do
    cleanup
    raise error
  cleanup
  return value

namespace Schedule

/-- No step raises; the process may die. -/
def Crashing (faults : Schedule ε) : Prop := ∀ error, some (.raise error) ∉ faults

/-- Nothing happens to the process any more. -/
def Quiet (faults : Schedule ε) : Prop := ∀ fault ∈ faults, fault = none

/-- At most one step raises, and the process does not die. -/
def Single : Schedule ε → Prop
  | [] => True
  | none :: rest => Single rest
  | some (.raise _) :: rest => Quiet rest
  | some .crash :: _ => False

theorem Crashing.tail {faults : Schedule ε} (crashing : Crashing faults) : Crashing faults.tail :=
  fun error member => crashing error (List.mem_of_mem_tail member)

theorem Quiet.nil : Quiet ([] : Schedule ε) := fun _ member => absurd member List.not_mem_nil

theorem Quiet.tail {faults : Schedule ε} (quiet : Quiet faults) : Quiet faults.tail :=
  fun fault member => quiet fault (List.mem_of_mem_tail member)

theorem Quiet.head {faults : Schedule ε} (quiet : Quiet faults) : faults.head?.join = none := by
  cases faults with
  | nil => rfl
  | cons fault rest => rw [quiet fault List.mem_cons_self, List.head?_cons, Option.join_some]

theorem Quiet.single {faults : Schedule ε} (quiet : Quiet faults) : Single faults := by
  induction faults with
  | nil => exact True.intro
  | cons fault rest induction =>
    rw [quiet fault List.mem_cons_self]
    exact induction fun other member => quiet other (List.mem_cons_of_mem _ member)

theorem Single.tail {faults : Schedule ε} (single : Single faults) : Single faults.tail := by
  rcases faults with _ | ⟨_ | _ | _, rest⟩
  · exact single
  · exact single
  · exact Quiet.single single
  · exact single.elim

theorem Single.struck {faults : Schedule ε} {fault : Fault ε} (single : Single faults)
    (head : faults.head?.join = some fault) : fault ≠ .crash ∧ Quiet faults.tail := by
  rcases faults with _ | ⟨_ | _ | _, rest⟩
  · cases head
  · cases head
  · cases head
    exact ⟨nofun, single⟩
  · exact single.elim

theorem Crashing.struck {faults : Schedule ε} {fault : Fault ε} (crashing : Crashing faults)
    (head : faults.head?.join = some fault) : fault = .crash := by
  rcases faults with _ | ⟨_ | other, rest⟩
  · cases head
  · cases head
  · cases head
    cases fault with
    | crash => rfl
    | raise error => exact absurd List.mem_cons_self (crashing error)

end Schedule

/-- The process dies before its step number `after`, counted from zero. -/
def crashAfter (after : Nat) : Schedule ε := List.replicate after none ++ [some .crash]

/-- Step number `after` raises, and nothing goes wrong later. -/
def raiseAfter (after : Nat) (error : ε) : Schedule ε := List.replicate after none ++ [some (.raise error)]

theorem crashAfter_crashing (after : Nat) : Schedule.Crashing (crashAfter after : Schedule ε) := by
  intro error member
  rcases List.mem_append.mp member with waiting | last
  · cases List.eq_of_mem_replicate waiting
  · cases List.mem_singleton.mp last

theorem raiseAfter_single (after : Nat) (error : ε) : Schedule.Single (raiseAfter after error) := by
  induction after with
  | zero =>
    intro fault member
    cases member
  | succ after induction => exact induction

section Rules

variable {pre : Assertion (Process ι ε σ)} {post : α → Assertion (Process ι ε σ)}
  {fails : Stop ε → Assertion (Process ι ε σ)}

theorem act_triple {point : ι} {change : σ → Except ε (α × σ)}
    (struck : ∀ p fault, pre p → p.faults.head?.join = some fault → fails fault.stop (p.strike point))
    (went : ∀ p value disk, pre p → change p.disk = .ok (value, disk) → post value (p.step disk))
    (refused : ∀ p error, pre p → change p.disk = .error error → fails (.raised error) (p.step p.disk)) :
    Triple pre (act point change) post fails := by
  intro p holds
  unfold act
  cases next : p.faults.head?.join with
  | some fault => exact struck p fault holds next
  | none =>
    cases changed : change p.disk with
    | ok result => exact went p result.1 result.2 holds changed
    | error error => exact refused p error holds changed

theorem write_triple {point : ι} {change : σ → σ} {post : Unit → Assertion (Process ι ε σ)}
    (struck : ∀ p fault, pre p → p.faults.head?.join = some fault → fails fault.stop (p.strike point))
    (went : ∀ p, pre p → post () (p.step (change p.disk))) :
    Triple pre (write point change) post fails := by
  apply act_triple struck
  · intro p value disk holds same
    cases same
    exact went p holds
  · intro p error holds same
    cases same

theorem assign_triple {change : σ → σ} {post : Unit → Assertion (Process ι ε σ)}
    (goes : ∀ p, pre p → post () { p with disk := change p.disk }) :
    Triple pre (assign change) post fails := goes

theorem disk_bind_triple {next : σ → Program ι ε σ β} {post : β → Assertion (Process ι ε σ)}
    (second : ∀ d, Triple (fun p => p.disk = d ∧ pre p) (next d) post fails) :
    Triple pre (disk >>= next) post fails := by
  intro p holds
  rw [bind_run]
  exact second p.disk p ⟨rfl, holds⟩

/-- A part of the program that only looks at the disk. -/
theorem reads_bind_triple (value : σ → α) {body : Program ι ε σ α} {next : α → Program ι ε σ β}
    {post : β → Assertion (Process ι ε σ)} (reads : ∀ p, pre p → body p = .ok (value p.disk) p)
    (second : ∀ seen, Triple (fun p => value p.disk = seen ∧ pre p) (next seen) post fails) :
    Triple pre (body >>= next) post fails := by
  intro p holds
  rw [bind_run_ok (reads p holds)]
  exact second _ p ⟨rfl, holds⟩

theorem raise_triple {error : ε} (holds : ∀ p, pre p → fails (.raised error) p) :
    Triple pre (raise error : Program ι ε σ α) post fails :=
  Triple.throw holds

theorem demand_triple {condition : Prop} [Decidable condition] {error : ε}
    (broken : ¬condition → ∀ p, pre p → fails (.raised error) p) :
    Triple pre (demand condition error) (fun _ p => condition ∧ pre p) fails :=
  Triple.ensure broken

theorem demand_holds {condition : Prop} [Decidable condition] {error : ε} (holds : condition) :
    Triple pre (demand condition error) (fun _ => pre) fails := by
  unfold demand ensure
  rw [if_pos holds]
  exact Triple.skip

/-- A loop, by what holds after each part of the list. -/
theorem forM_triple {items : List β} {body : β → Program ι ε σ Unit}
    (holds : List β → Assertion (Process ι ε σ))
    (each : ∀ done item rest, done ++ item :: rest = items →
      Triple (holds done) (body item) (fun _ => holds (done ++ [item])) fails) :
    Triple (holds []) (items.forM body) (fun _ => holds items) fails := by
  have run (done rest : List β) (whole : done ++ rest = items) :
      Triple (holds done) (rest.forM body) (fun _ => holds items) fails := by
    induction rest generalizing done with
    | nil =>
      rw [List.append_nil] at whole
      subst whole
      exact Triple.pure fun _ => id
    | cons item rest induction =>
      refine Triple.bind (each done item rest whole) fun _ => ?_
      apply induction (done ++ [item])
      rw [List.append_assoc]
      exact whole
  exact run [] items rfl

/-- A loop over the numbers below a count. -/
theorem forM_range_triple {count : Nat} {body : Nat → Program ι ε σ Unit} (holds : Nat → Assertion (Process ι ε σ))
    (each : ∀ index < count, Triple (holds index) (body index) (fun _ => holds (index + 1)) fails) :
    Triple (holds 0) ((List.range count).forM body) (fun _ => holds count) fails := by
  have looped : Triple (holds ([] : List Nat).length) ((List.range count).forM body)
      (fun _ => holds (List.range count).length) fails := by
    refine forM_triple (fun done => holds done.length) ?_
    intro done index rest whole
    have lengths := congrArg List.length whole
    simp only [List.length_append, List.length_cons, List.length_range] at lengths
    have inside : done.length < count := by omega
    have position : index = done.length := by
      have seen := congrArg (·[done.length]?) whole
      simpa [inside] using seen
    rw [position, List.length_append]
    exact each done.length inside
  rwa [List.length_range] at looped

theorem forM_invariant {items : List β} {body : β → Program ι ε σ Unit} {kept : Assertion (Process ι ε σ)}
    (each : ∀ item ∈ items, Triple kept (body item) (fun _ => kept) fails) :
    Triple kept (items.forM body) (fun _ => kept) fails := by
  refine forM_triple (fun _ => kept) fun done item rest whole => each item ?_
  rw [← whole]
  exact List.mem_append_right _ List.mem_cons_self

end Rules

/-- What may happen to a program: the schedules it starts with, whether it may die, and the schedules
a handler may still meet after an injected error. -/
structure Regime (ε : Type) where
  before : Schedule ε → Prop
  dies : Prop
  after : Schedule ε → Prop
  tail : ∀ {faults}, before faults → before faults.tail
  rests : ∀ {faults}, after faults → after faults.tail
  crashed : ∀ {faults}, before faults → faults.head?.join = some .crash → dies
  raised : ∀ {faults error}, before faults → faults.head?.join = some (.raise error) → after faults.tail

namespace Regime

/-- The process may die at any step; nothing is raised. -/
def crashing : Regime ε where
  before := Schedule.Crashing
  dies := True
  after _ := False
  tail := Schedule.Crashing.tail
  rests := id
  crashed _ _ := True.intro
  raised starts head := by cases Schedule.Crashing.struck starts head

/-- One step at most raises. -/
def single : Regime ε where
  before := Schedule.Single
  dies := False
  after := Schedule.Quiet
  tail := Schedule.Single.tail
  rests := Schedule.Quiet.tail
  crashed starts head := (Schedule.Single.struck starts head).1 rfl
  raised starts head := (Schedule.Single.struck starts head).2

/-- Nothing goes wrong. -/
def quiet : Regime ε where
  before := Schedule.Quiet
  dies := False
  after _ := False
  tail := Schedule.Quiet.tail
  rests := id
  crashed starts head := by
    rw [Schedule.Quiet.head starts] at head
    cases head
  raised starts head := by
    rw [Schedule.Quiet.head starts] at head
    cases head

/-- Anything may happen at every step. -/
def any : Regime ε where
  before _ := True
  dies := True
  after _ := True
  tail := id
  rests := id
  crashed _ _ := True.intro
  raised _ _ := True.intro

end Regime

/-- A process that no fault has taken since the listed ones, on a disk with the property. -/
def Under (kind : Schedule ε → Prop) (past : List ι) (holds : σ → Prop) : Assertion (Process ι ε σ) :=
  fun p => kind p.faults ∧ p.struck = past ∧ holds p.disk

/-- How a fault may leave the process: the struck steps and the disk satisfy the predicate. -/
def Regime.stops (regime : Regime ε) (left : List ι → σ → Prop) (stop : Stop ε) : Assertion (Process ι ε σ) :=
  fun p => left p.struck p.disk ∧ match stop with
    | .crash => regime.dies
    | .raised _ => regime.after p.faults

theorem Under.weaken {kind kind' : Schedule ε → Prop} {past : List ι} {holds holds' : σ → Prop}
    (kinds : ∀ faults, kind faults → kind' faults) (disks : ∀ d, holds d → holds' d) (p : Process ι ε σ)
    (under : Under kind past holds p) : Under kind' past holds' p :=
  ⟨kinds _ under.1, under.2.1, disks _ under.2.2⟩

section Regimes

variable {regime : Regime ε} {past : List ι} {point : ι} {holds : σ → Prop} {left : List ι → σ → Prop}

theorem Regime.strikes {p : Process ι ε σ} {fault : Fault ε}
    (safe : ∀ d, holds d → left (past ++ [point]) d) (under : Under regime.before past holds p)
    (head : p.faults.head?.join = some fault) : regime.stops left fault.stop (p.strike point) := by
  obtain ⟨starts, same, disk⟩ := under
  refine ⟨?_, ?_⟩
  · rw [Process.strike_struck, same]
    exact safe p.disk disk
  · cases fault with
    | crash => exact regime.crashed starts head
    | raise error => exact regime.raised starts head

theorem Regime.act {change : σ → Except ε (α × σ)} {ends : α → σ → Prop}
    (safe : ∀ d, holds d → left (past ++ [point]) d)
    (goes : ∀ d, holds d → ∃ value d', change d = .ok (value, d') ∧ ends value d') :
    Triple (Under regime.before past holds) (act point change)
      (fun value => Under regime.before past (ends value)) (regime.stops left) := by
  apply act_triple
  · intro p fault under head
    exact Regime.strikes safe under head
  · intro p value disk under changed
    obtain ⟨_, _, same, reached⟩ := goes p.disk under.2.2
    rw [changed] at same
    cases same
    exact ⟨regime.tail under.1, under.2.1, reached⟩
  · intro p error under changed
    obtain ⟨_, _, same, _⟩ := goes p.disk under.2.2
    rw [changed] at same
    cases same

theorem Regime.write {change : σ → σ} {ends : σ → Prop} (safe : ∀ d, holds d → left (past ++ [point]) d)
    (goes : ∀ d, holds d → ends (change d)) :
    Triple (Under regime.before past holds) (write point change)
      (fun _ => Under regime.before past ends) (regime.stops left) :=
  Regime.act safe fun d held => ⟨(), change d, rfl, goes d held⟩

theorem Regime.sync (safe : ∀ d, holds d → left (past ++ [point]) d) :
    Triple (Under regime.before past holds) (sync point)
      (fun _ => Under regime.before past holds) (regime.stops left) :=
  Regime.write safe fun _ => id

/-- A handler starts from where the body can be stopped. -/
theorem Regime.handled (inner : List ι → σ → Prop) {pre : Assertion (Process ι ε σ)} {body : Program ι ε σ α}
    {handler : ε → Program ι ε σ α} {post : α → Assertion (Process ι ε σ)}
    (first : Triple pre body post (regime.stops inner))
    (crashes : regime.dies → ∀ struck d, inner struck d → left struck d)
    (second : ∀ error, Triple (fun p => inner p.struck p.disk ∧ regime.after p.faults) (handler error) post
      (regime.stops left)) :
    Triple pre (handle body handler) post (regime.stops left) := by
  refine Triple.rescue first fun stop => ?_
  cases stop with
  | crash => exact Triple.throw fun p stopped => ⟨crashes stopped.2 _ _ stopped.1, stopped.2⟩
  | raised error => exact second error

/-- Where nothing can be raised no handler runs. -/
theorem Regime.unhandled {pre : Assertion (Process ι ε σ)} {body : Program ι ε σ α}
    {handler : ε → Program ι ε σ α} {post : α → Assertion (Process ι ε σ)}
    (silent : ∀ faults, ¬regime.after faults) (first : Triple pre body post (regime.stops left)) :
    Triple pre (handle body handler) post (regime.stops left) := by
  refine Triple.rescue first fun stop => ?_
  cases stop with
  | crash => exact Triple.throw fun _ => id
  | raised error =>
    rintro p ⟨_, still⟩
    exact absurd still (silent p.faults)

/-- Where nothing goes wrong the failure assertion does not matter. -/
theorem Regime.quiet_fallback {pre : Assertion (Process ι ε σ)} {body : Program ι ε σ α}
    {post : α → Assertion (Process ι ε σ)}
    {fails : Stop ε → Assertion (Process ι ε σ)} (contract : Triple pre body post (Regime.quiet.stops left)) :
    Triple pre body post fails := by
  refine contract.fallback fun stop p stopped => ?_
  cases stop with
  | crash => exact stopped.2.elim
  | raised => exact stopped.2.elim

/-- After an error nothing else goes wrong. -/
def Regime.Calm (regime : Regime ε) : Prop := ∀ faults, regime.after faults → Schedule.Quiet faults

theorem Regime.single_calm : (Regime.single : Regime ε).Calm := fun _ => id

theorem Regime.quiet_calm : (Regime.quiet : Regime ε).Calm := fun _ => False.elim

/-- A step of a handler. -/
theorem Regime.calm_act (calm : regime.Calm) {change : σ → Except ε (α × σ)} {ends : α → σ → Prop}
    {fails : Stop ε → Assertion (Process ι ε σ)}
    (goes : ∀ d, holds d → ∃ value d', change d = .ok (value, d') ∧ ends value d') :
    Triple (Under regime.after past holds) (Darling.act point change)
      (fun value => Under regime.after past (ends value)) fails := by
  apply act_triple
  · intro p fault under head
    rw [(calm _ under.1).head] at head
    cases head
  · intro p value disk under changed
    obtain ⟨_, _, same, reached⟩ := goes p.disk under.2.2
    rw [changed] at same
    cases same
    exact ⟨regime.rests under.1, under.2.1, reached⟩
  · intro p error under changed
    obtain ⟨_, _, same, _⟩ := goes p.disk under.2.2
    rw [changed] at same
    cases same

theorem Regime.calm_write (calm : regime.Calm) {change : σ → σ} {ends : σ → Prop}
    {fails : Stop ε → Assertion (Process ι ε σ)}
    (goes : ∀ d, holds d → ends (change d)) :
    Triple (Under regime.after past holds) (Darling.write point change) (fun _ => Under regime.after past ends) fails :=
  Regime.calm_act calm fun d held => ⟨(), change d, rfl, goes d held⟩

theorem Regime.calm_sync (calm : regime.Calm) {fails : Stop ε → Assertion (Process ι ε σ)} :
    Triple (Under regime.after past holds) (Darling.sync point) (fun _ => Under regime.after past holds) fails :=
  Regime.calm_write calm fun _ => id

end Regimes

/-- The process is on exactly this disk: the rules below run a program step by step. -/
def Regime.exactly (regime : Regime ε) (past : List ι) (d : σ) : Assertion (Process ι ε σ) :=
  Under regime.before past (· = d)

section Exactly

variable {regime : Regime ε} {past : List ι} {point : ι} {d d' : σ} {left : List ι → σ → Prop}
  {post : β → Assertion (Process ι ε σ)}

theorem Regime.exactly_act {change : σ → Except ε (α × σ)} {value : α} {next : α → Program ι ε σ β}
    (goes : change d = .ok (value, d')) (safe : left (past ++ [point]) d)
    (rest : Triple (regime.exactly past d') (next value) post (regime.stops left)) :
    Triple (regime.exactly past d) (Darling.act point change >>= next) post (regime.stops left) := by
  have first : Triple (regime.exactly past d) (Darling.act point change)
      (fun seen => Under regime.before past fun reached => seen = value ∧ reached = d') (regime.stops left) := by
    apply Regime.act
    · rintro _ rfl
      exact safe
    · rintro _ rfl
      exact ⟨value, d', goes, rfl, rfl⟩
  refine Triple.bind first fun seen => ?_
  refine Triple.given (seen = value) (fun _ under => under.2.2.1) fun same => ?_
  subst same
  exact rest.strengthen fun _ under => ⟨under.1, under.2.1, under.2.2.2⟩

theorem Regime.exactly_assign {change : σ → σ} {next : Unit → Program ι ε σ β}
    (rest : Triple (regime.exactly past (change d)) (next ()) post (regime.stops left)) :
    Triple (regime.exactly past d) (assign change >>= next) post (regime.stops left) := by
  rintro p ⟨starts, same, rfl⟩
  exact rest { p with disk := change p.disk } ⟨starts, same, rfl⟩

theorem Regime.exactly_disk {next : σ → Program ι ε σ β}
    (rest : Triple (regime.exactly past d) (next d) post (regime.stops left)) :
    Triple (regime.exactly past d) (disk >>= next) post (regime.stops left) := by
  rintro p ⟨starts, same, rfl⟩
  exact rest p ⟨starts, same, rfl⟩

theorem Regime.exactly_demand {condition : Prop} [Decidable condition] {error : ε}
    {next : Unit → Program ι ε σ β} (holds : condition)
    (rest : Triple (regime.exactly past d) (next ()) post (regime.stops left)) :
    Triple (regime.exactly past d) (demand condition error >>= next) post (regime.stops left) :=
  Triple.bind (demand_holds holds) fun _ => rest

/-- A program that runs well from each disk with the property. -/
theorem Regime.from_each {body : Program ι ε σ β} {holds : σ → Prop}
    (each : ∀ d, holds d → Triple (regime.exactly past d) body post (regime.stops left)) :
    Triple (Under regime.before past holds) body post (regime.stops left) :=
  fun p ⟨starts, same, held⟩ => each p.disk held p ⟨starts, same, rfl⟩

/-- Where nothing goes wrong the program returns. -/
theorem Regime.quiet_returns {body : Program ι ε σ β} {faults : Schedule ε}
    (contract : Triple (Regime.quiet.exactly past d) body post (Regime.quiet.stops left))
    (quiet : Schedule.Quiet faults) : ∃ value p, body ⟨d, faults, past⟩ = .ok value p ∧ post value p := by
  have result := contract ⟨d, faults, past⟩ ⟨quiet, rfl, rfl⟩
  cases ran : body ⟨d, faults, past⟩ with
  | ok value p =>
    rw [ran] at result
    exact ⟨value, p, rfl, result⟩
  | error stop p =>
    rw [ran] at result
    cases stop with
    | crash => exact result.2.elim
    | raised error => exact result.2.elim

/-- Where anything may happen, a program ends somehow. -/
theorem Regime.any_runs {pre : Assertion (Process ι ε σ)} {body : Program ι ε σ β} :
    Triple pre body (fun _ _ => True) (Regime.any.stops fun _ _ => True) := by
  intro p _
  cases body p with
  | ok value p => exact True.intro
  | error stop p =>
    cases stop with
    | crash => exact ⟨True.intro, True.intro⟩
    | raised error => exact ⟨True.intro, True.intro⟩

end Exactly

/-- The disk has the property, whatever happened to the process. -/
def Holds (holds : σ → Prop) : Assertion (Process ι ε σ) := fun p => holds p.disk

section Anything

variable {holds kept : σ → Prop} {point : ι}

theorem act_holds {change : σ → Except ε (α × σ)} (ends : α → σ → Prop) (safe : ∀ d, holds d → kept d)
    (goes : ∀ d value d', holds d → change d = .ok (value, d') → ends value d') :
    Triple (Holds holds) (act point change) (fun value => Holds (ends value)) (fun _ => Holds kept) := by
  apply act_triple
  · exact fun p fault held _ => safe p.disk held
  · exact fun p value disk held changed => goes p.disk value disk held changed
  · exact fun p error held _ => safe p.disk held

theorem write_holds {change : σ → σ} (ends : σ → Prop) (safe : ∀ d, holds d → kept d)
    (goes : ∀ d, holds d → ends (change d)) :
    Triple (Holds holds) (write point change) (fun _ => Holds ends)
      (fun _ : Stop ε => Holds kept) := by
  refine act_holds (fun _ => ends) safe fun d value d' held changed => ?_
  cases changed
  exact goes d held

theorem sync_holds (safe : ∀ d, holds d → kept d) :
    Triple (Holds holds) (sync point) (fun _ => Holds holds) (fun _ : Stop ε => Holds kept) :=
  write_holds holds safe fun _ => id

variable {pre : Assertion (Process ι ε σ)} {post : α → Assertion (Process ι ε σ)} {body : Program ι ε σ α}

theorem handle_holds {handler : ε → Program ι ε σ α} (inner : σ → Prop)
    (first : Triple pre body post fun _ => Holds inner) (safe : ∀ d, inner d → kept d)
    (second : ∀ error, Triple (Holds inner) (handler error) post fun _ => Holds kept) :
    Triple pre (handle body handler) post fun _ => Holds kept := by
  refine Triple.rescue first fun stop => ?_
  cases stop with
  | crash => exact Triple.throw fun p held => safe p.disk held
  | raised error => exact second error

/-- The cleanup keeps what the body reached, and it keeps what a failure left. -/
theorem cleaning_holds {cleanup : Program ι ε σ Unit} {ends : σ → Prop}
    (first : Triple pre body (fun _ => Holds ends) (fun _ => Holds kept))
    (returned : Triple (Holds ends) cleanup (fun _ => Holds ends) (fun _ => Holds kept))
    (failed : Triple (Holds kept) cleanup (fun _ => Holds kept) (fun _ => Holds kept)) :
    Triple pre (cleaning body cleanup) (fun _ => Holds ends) (fun _ => Holds kept) := by
  have handled : Triple pre (handle body fun error => do
      cleanup
      raise error) (fun _ => Holds ends) (fun _ => Holds kept) :=
    handle_holds kept first (fun _ => id) fun error => Triple.bind failed fun _ => raise_triple fun _ => id
  exact Triple.bind handled fun value => Triple.bind returned fun _ => Triple.pure fun _ => id

end Anything

/-- The program keeps the assertion on every exit. -/
def Keeps (kept : Assertion (Process ι ε σ)) (body : Program ι ε σ α) : Prop :=
  Triple kept body (fun _ => kept) (fun _ => kept)

namespace Keeps

variable {kept : Assertion (Process ι ε σ)} {point : ι}

theorem assign {change : σ → σ} (goes : ∀ p, kept p → kept { p with disk := change p.disk }) :
    Keeps kept (assign change : Program ι ε σ Unit) :=
  assign_triple goes

theorem disk : Keeps kept (disk : Program ι ε σ σ) := fun _ holds => holds

theorem pure {value : α} : Keeps kept (pure value : Program ι ε σ α) := Triple.pure fun _ => id

theorem raise {error : ε} : Keeps kept (raise error : Program ι ε σ α) := raise_triple fun _ => id

theorem demand {condition : Prop} [Decidable condition] {error : ε} :
    Keeps kept (demand condition error : Program ι ε σ Unit) := by
  have checked : Triple kept (Darling.demand condition error : Program ι ε σ Unit)
      (fun _ p => condition ∧ kept p) (fun _ => kept) := demand_triple fun _ _ => id
  exact checked.conclude (fun _ _ => And.right) fun _ _ => id

theorem bind {body : Program ι ε σ α} {next : α → Program ι ε σ β} (first : Keeps kept body)
    (second : ∀ value, Keeps kept (next value)) : Keeps kept (body >>= next) :=
  Triple.bind first second

theorem handle {body : Program ι ε σ α} {handler : ε → Program ι ε σ α} (first : Keeps kept body)
    (second : ∀ error, Keeps kept (handler error)) : Keeps kept (handle body handler) := by
  refine Triple.rescue first fun stop => ?_
  cases stop with
  | crash => exact Triple.throw fun _ => id
  | raised error => exact second error

theorem onlyIf {condition : Bool} {body : Program ι ε σ Unit} (keeps : Keeps kept body) :
    Keeps kept (onlyIf condition body) := by
  unfold Darling.onlyIf
  split
  · exact keeps
  · exact Keeps.pure

theorem forM {items : List β} {body : β → Program ι ε σ Unit} (each : ∀ item, Keeps kept (body item)) :
    Keeps kept (items.forM body) :=
  forM_invariant fun item _ => each item

end Keeps

end Darling
