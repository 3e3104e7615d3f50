import Darling.Library.Associations
import Darling.Library.Effects
import Darling.Library.Texts

/-! `cleanup_verified_prefix_processes` of `test_prefix.py`: signals through pinned process handles,
while processes start, run, exit and leave their pids to others between any two accesses. -/
namespace Darling.Prefixes

export Texts (Text)

abbrev Pid := Nat
abbrev Process := Nat
abbrev Inode := Nat

inductive OsError where
  | missing | other
  deriving DecidableEq, Repr

/-- `missing` stands for `FileNotFoundError` and `ProcessLookupError`. -/
inductive Fault where
  | os (error : OsError)
  | malformed
  deriving DecidableEq, Repr

/-- `bytes.split()`. -/
def words (text : Text) : List Text :=
  (text.splitOnP fun c => c = ' ' ∨ c = '\n' ∨ c = '\t').filter (· ≠ [])

/-- What follows the last parenthesis, if there is one. -/
def afterLastParenthesis (text : Text) : Option Text :=
  if ')' ∈ text then some (text.reverse.takeWhile (· ≠ ')')).reverse else none

/-- `stat.rsplit(b")", 1)[1].split()[19]`. -/
def startField (stat : Text) : Except Fault Text :=
  match (afterLastParenthesis stat).bind fun rest => (words rest)[19]? with
  | some field => .ok field
  | none => .error .malformed

/-- `removesuffix(" (deleted)")`. -/
def removeDeleted (text : Text) : Text :=
  let suffix := " (deleted)".toList
  if suffix <:+ text then text.take (text.length - suffix.length) else text

/-- `Path(text).name`. -/
def pathName (text : Text) : Text := (Texts.pureParts text).getLast?.getD []

def runtimeExecutable (executable : Text) : Bool :=
  pathName (removeDeleted executable) ∈ ["darling".toList, "mldr".toList, "darlingserver".toList]

/-- All that the processes of a host ever do. A process has its pid without a break, and may run other
executables and open and close descriptors meanwhile. No start time need be its own: the handle alone
tells two processes of one pid apart. -/
structure History where
  who : Nat → Pid → Option Process
  stat : Process → Nat → Text
  uid : Process → Nat → Nat
  exe : Process → Nat → Option Text
  descriptors : Process → Nat → List (Nat × Inode)
  unbroken : ∀ {s t u pid p}, who s pid = some p → who u pid = some p → s ≤ t → t ≤ u → who t pid = some p

inductive Signal where
  | term | kill
  deriving DecidableEq, Repr

/-- A row of the ownership census. -/
structure Row where
  pid : Pid
  arguments : Text
  deriving DecidableEq, Repr

/-- The host, and when each access of the rescue takes place. An access may fail for reasons of its
own; the census may give anything. -/
structure Host where
  history : History
  clock : Nat → Nat
  ordered : ∀ {i j}, i < j → clock i < clock j
  fails : Nat → Option OsError
  census : Nat → Except Fault (List Row)
  euid : Nat
  prefixInode : Inode
  pidfdSupported : Bool

/-- A handle stays with the process it was opened for, under the pid it has. -/
structure Pidfd where
  process : Process
  pid : Pid
  opened : Nat
  deriving DecidableEq, Repr

structure Delivery where
  process : Process
  signal : Signal
  opened : Nat
  sent : Nat
  deriving DecidableEq, Repr

inductive Problem where
  | unsupported
  | refused (pid : Pid)
  | unavailable (pid : Pid) (fault : Fault)
  | survived (row : Row)
  deriving DecidableEq, Repr

structure Run where
  step : Nat := 0
  deliveries : List Delivery := []
  changed : List (Signal × Pid) := []
  problems : List Problem := []
  deriving DecidableEq, Repr

abbrev RescueM := EStateM Fault Run

section Rescue

variable (host : Host)

/-- One access to the host, at its moment. -/
def access {α : Type} (look : Nat → Except Fault α) : RescueM α := fun r =>
  let next := { r with step := r.step + 1 }
  match host.fails r.step with
  | some error => .error (.os error) next
  | none =>
    match look (host.clock r.step) with
    | .ok value => .ok value next
    | .error fault => .error fault next

/-- Whoever has the pid at the moment. -/
def ofPid {α : Type} (pid : Pid) (look : Process → Nat → Except Fault α) : Nat → Except Fault α := fun t =>
  match host.history.who t pid with
  | some p => look p t
  | none => .error (.os .missing)

def readStart (pid : Pid) : RescueM Text := access host (ofPid host pid fun p t => startField (host.history.stat p t))

def pidfdOpen (pid : Pid) : RescueM Pidfd := access host (ofPid host pid fun p t => .ok ⟨p, pid, t⟩)

def readOwner (pid : Pid) : RescueM Nat := access host (ofPid host pid fun p t => .ok (host.history.uid p t))

def readExe (pid : Pid) : RescueM Text := access host (ofPid host pid fun p t =>
  match host.history.exe p t with
  | some executable => .ok executable
  | none => .error (.os .missing))

def listDescriptors (pid : Pid) : RescueM (List Nat) :=
  access host (ofPid host pid fun p t => .ok ((host.history.descriptors p t).map (·.1)))

/-- `descriptor.samefile(prefix)`. -/
def sameFile (pid : Pid) (descriptor : Nat) : RescueM Bool := access host (ofPid host pid fun p t =>
  match (host.history.descriptors p t).lookup descriptor with
  | some inode => .ok (inode == host.prefixInode)
  | none => .error (.os .missing))

/-- The checks before the loop of `_runtime_retains_prefix`; `none` where it returns `False`. -/
def runtimeDescriptors (pid : Pid) : RescueM (Option (List Nat)) := do
  let owner ← readOwner host pid
  if owner ≠ host.euid then return none
  let executable ← readExe host pid
  if runtimeExecutable executable = false then return none
  return some (← listDescriptors host pid)

def anyRetained (pid : Pid) : List Nat → RescueM Bool
  | [] => pure false
  | descriptor :: rest => do
    match ← attempt (sameFile host pid descriptor) with
    | .ok true => pure true
    | _ => anyRetained pid rest

/-- `_runtime_retains_prefix`. -/
def runtimeRetainsPrefix (pid : Pid) : RescueM Bool := do
  match ← attempt (runtimeDescriptors host pid) with
  | .ok (some descriptors) => anyRetained host pid descriptors
  | _ => pure false

/-- `pidfd_send_signal`: the process of the handle gets the signal unless it has given up its pid. -/
def pidfdSendSignal (descriptor : Pidfd) (signal : Signal) : RescueM Unit := do
  let sent ← access host fun t =>
    if host.history.who t descriptor.pid = some descriptor.process then .ok t else .error (.os .missing)
  modify fun r => { r with deliveries := r.deliveries ++ [⟨descriptor.process, signal, descriptor.opened, sent⟩] }

def problem (p : Problem) : RescueM Unit := modify fun r => { r with problems := r.problems ++ [p] }

/-- The body of the `try` for one row. -/
def signalVerified (signal : Signal) (pid : Pid) : RescueM Unit := do
  let before ← readStart host pid
  let descriptor ← pidfdOpen host pid
  let after ← readStart host pid
  if before ≠ after then return
  if ← runtimeRetainsPrefix host pid then
    pidfdSendSignal host descriptor signal
    modify fun r => { r with changed := r.changed ++ [(signal, pid)] }
  else
    problem (.refused pid)

def rescueEntry (signal : Signal) (row : Row) : RescueM Unit :=
  rescue (signalVerified host signal row.pid) fun
    | .os .missing => pure ()
    | fault => problem (.unavailable row.pid fault)

def takeCensus : RescueM (List Row) := fun r =>
  let next := { r with step := r.step + 1 }
  match host.census r.step with
  | .ok rows => .ok rows next
  | .error fault => .error fault next

def rescueRows (signal : Signal) : List Row → RescueM Unit
  | [] => pure ()
  | row :: rest => do
    rescueEntry host signal row
    rescueRows signal rest

def rescueRounds : List Signal → RescueM Unit
  | [] => do
    let rows ← takeCensus host
    modify fun r => { r with problems := r.problems ++ rows.map .survived }
  | signal :: rest => do
    let rows ← takeCensus host
    if rows.isEmpty then pure ()
    else if host.pidfdSupported = false then problem .unsupported
    else do
      rescueRows host signal rows
      rescueRounds rest

def cleanupVerifiedPrefixProcesses : RescueM Unit := rescueRounds host [.term, .kill]

end Rescue

section Ownership

variable {host : Host}

/-- The process of a delivery had a runtime executable at one moment after its handle was opened, and
held a descriptor of the prefix at a later one; it had its pid all the while. -/
structure Owner (host : Host) (delivery : Delivery) (ran held : Nat) : Prop where
  opened : delivery.opened < ran
  later : ran < held
  sent : held < delivery.sent
  executable : ∃ executable, host.history.exe delivery.process ran = some executable ∧
    runtimeExecutable executable = true
  descriptor : ∃ descriptor, (descriptor, host.prefixInode) ∈ host.history.descriptors delivery.process held
  pid : ∃ pid, ∀ t, delivery.opened ≤ t → t ≤ delivery.sent → host.history.who t pid = some delivery.process

def Verified (host : Host) (r : Run) : Prop := ∀ delivery ∈ r.deliveries, ∃ ran held, Owner host delivery ran held

/-- So many accesses have been made, and only owners were signalled. -/
def Reached (host : Host) (n : Nat) (r : Run) : Prop := n ≤ r.step ∧ Verified host r

theorem Reached.mono {n m : Nat} {r : Run} (h : Reached host m r) (le : n ≤ m) : Reached host n r :=
  ⟨Nat.le_trans le h.1, h.2⟩

theorem access_spec {α : Type} (n : Nat) (look : Nat → Except Fault α) :
    Triple (Reached host n) (access host look)
      (fun value r => ∃ k, (n ≤ k ∧ look (host.clock k) = .ok value) ∧ Reached host (k + 1) r)
      (fun _ => Reached host n) := by
  intro r reached
  unfold access
  cases failing : host.fails r.step with
  | some error => exact ⟨Nat.le_succ_of_le reached.1, reached.2⟩
  | none =>
    cases looked : look (host.clock r.step) with
    | error fault =>
      simp only
      exact ⟨Nat.le_succ_of_le reached.1, reached.2⟩
    | ok value =>
      simp only
      exact ⟨r.step, ⟨reached.1, looked⟩, Nat.le_refl _, reached.2⟩

theorem ofPid_ok {α : Type} {pid : Pid} {look : Process → Nat → Except Fault α} {t : Nat} {value : α}
    (h : ofPid host pid look t = .ok value) : ∃ p, host.history.who t pid = some p ∧ look p t = .ok value := by
  unfold ofPid at h
  split at h
  · exact ⟨_, ‹_›, h⟩
  · cases h

/-- An access through the pid looks at the process that has it at that moment. -/
theorem ofPid_spec {α : Type} (n : Nat) (pid : Pid) (look : Process → Nat → Except Fault α) :
    Triple (Reached host n) (access host (ofPid host pid look))
      (fun value r => ∃ k, (n ≤ k ∧ ∃ p, host.history.who (host.clock k) pid = some p ∧
        look p (host.clock k) = .ok value) ∧ Reached host (k + 1) r)
      (fun _ => Reached host n) := by
  refine (access_spec n _).conclude ?_ fun _ _ => id
  rintro value r ⟨k, ⟨le, looked⟩, reached⟩
  exact ⟨k, ⟨le, ofPid_ok looked⟩, reached⟩

/-- The executable is seen at access `i`. -/
def Ran (host : Host) (pid : Pid) (i : Nat) : Prop :=
  ∃ p executable, host.history.who (host.clock i) pid = some p ∧
    host.history.exe p (host.clock i) = some executable ∧ runtimeExecutable executable = true

/-- A descriptor of the prefix is seen at access `j`. -/
def Held (host : Host) (pid : Pid) (j : Nat) : Prop :=
  ∃ p descriptor, host.history.who (host.clock j) pid = some p ∧
    (descriptor, host.prefixInode) ∈ host.history.descriptors p (host.clock j)

theorem runtimeDescriptors_spec (n : Nat) (pid : Pid) :
    Triple (Reached host n) (runtimeDescriptors host pid)
      (fun found r => Reached host n r ∧ (found.isSome = true → ∃ i, (n ≤ i ∧ Ran host pid i) ∧ Reached host (i + 1) r))
      (fun _ => Reached host n) := by
  have absent (m : Nat) (le : n ≤ m) : Triple (Reached host m) (Pure.pure none : RescueM (Option (List Nat)))
      (fun found r => Reached host n r ∧ (found.isSome = true → ∃ i, (n ≤ i ∧ Ran host pid i) ∧ Reached host (i + 1) r))
      (fun _ => Reached host n) := by
    apply Triple.pure
    intro r reached
    exact ⟨reached.mono le, by simp⟩
  unfold runtimeDescriptors
  refine Triple.bind (ofPid_spec n pid _) fun owner => Triple.choose fun k => Triple.assume fun ⟨below, _⟩ => ?_
  refine Triple.ite (fun _ => absent (k + 1) (by omega)) fun _ => ?_
  refine Triple.bind ((ofPid_spec (k + 1) pid _).fallback fun _ _ h => h.mono (by omega)) fun executable =>
    Triple.choose fun i => Triple.assume fun ⟨after, p, who, read⟩ => ?_
  refine Triple.ite (fun _ => absent (i + 1) (by omega)) fun runs => ?_
  have ran : Ran host pid i := by
    refine ⟨p, executable, who, ?_, by simpa using runs⟩
    split at read
    · cases read
      assumption
    · cases read
  refine Triple.bind ((ofPid_spec (i + 1) pid _).fallback fun _ _ h => h.mono (by omega)) fun descriptors =>
    Triple.choose fun j => Triple.assume fun ⟨last, _⟩ => ?_
  apply Triple.pure
  intro r reached
  exact ⟨reached.mono (by omega), fun _ => ⟨i, ⟨by omega, ran⟩, reached.mono (by omega)⟩⟩

theorem sameFile_spec (n : Nat) (pid : Pid) (descriptor : Nat) :
    Triple (Reached host n) (sameFile host pid descriptor)
      (fun same r => Reached host n r ∧ (same = true → ∃ j, (n ≤ j ∧ Held host pid j) ∧ Reached host (j + 1) r))
      (fun _ => Reached host n) := by
  refine (ofPid_spec n pid _).conclude ?_ fun _ _ => id
  rintro same r ⟨j, ⟨below, p, who, looked⟩, reached⟩
  refine ⟨reached.mono (by omega), fun holds => ⟨j, ⟨below, p, descriptor, who, ?_⟩, reached⟩⟩
  split at looked
  · rename_i inode found
    rw [holds, Except.ok.injEq, beq_iff_eq] at looked
    rw [← looked]
    exact mem_of_lookup found
  · cases looked

theorem anyRetained_spec (n : Nat) (pid : Pid) (descriptors : List Nat) :
    Triple (Reached host n) (anyRetained host pid descriptors)
      (fun same r => Reached host n r ∧ (same = true → ∃ j, (n ≤ j ∧ Held host pid j) ∧ Reached host (j + 1) r))
      (fun _ => Reached host n) := by
  induction descriptors with
  | nil =>
    apply Triple.pure
    intro r reached
    exact ⟨reached, by simp⟩
  | cons descriptor rest ih =>
    unfold anyRetained
    refine Triple.bind (Triple.attempt (fun result r => Reached host n r ∧
      (result.toOption = some true → ∃ j, (n ≤ j ∧ Held host pid j) ∧ Reached host (j + 1) r)) ?_) fun result => ?_
    · refine (sameFile_spec n pid descriptor).conclude ?_ ?_
      · rintro same r ⟨reached, held⟩
        exact ⟨reached, fun e => held (by simpa [Except.toOption] using e)⟩
      · rintro fault r reached
        exact ⟨reached, by simp [Except.toOption]⟩
    · split
      · apply Triple.pure
        rintro r ⟨reached, held⟩
        exact ⟨reached, fun _ => held rfl⟩
      · exact ih.strengthen fun _ h => h.1

/-- A positive check saw a runtime executable and, at a later access, a descriptor of the prefix. -/
theorem runtimeRetainsPrefix_spec (n : Nat) (pid : Pid) :
    Triple (Reached host n) (runtimeRetainsPrefix host pid)
      (fun retains r => Reached host n r ∧ (retains = true →
        ∃ j, (∃ i, n ≤ i ∧ i < j ∧ Ran host pid i ∧ Held host pid j) ∧ Reached host (j + 1) r))
      (fun _ => Reached host n) := by
  unfold runtimeRetainsPrefix
  refine Triple.bind (Triple.attempt (fun result r => Reached host n r ∧
    ((result.toOption.join).isSome = true → ∃ i, (n ≤ i ∧ Ran host pid i) ∧
      Reached host (i + 1) r)) ?_) fun result => ?_
  · refine (runtimeDescriptors_spec n pid).conclude ?_ ?_
    · rintro found r ⟨reached, ran⟩
      exact ⟨reached, fun e => ran (by simpa [Except.toOption] using e)⟩
    · rintro fault r reached
      exact ⟨reached, by simp [Except.toOption]⟩
  · split
    · rename_i descriptors
      refine Triple.strengthen (Triple.choose fun i => Triple.assume fun ran => ?_) fun r h => h.2 rfl
      refine (anyRetained_spec (i + 1) pid descriptors).conclude ?_ fun _ _ h => h.mono (by omega)
      rintro same r ⟨reached, held⟩
      refine ⟨reached.mono (by omega), fun e => ?_⟩
      obtain ⟨j, ⟨below, seen⟩, after⟩ := held e
      exact ⟨j, ⟨i, ran.1, by omega, ran.2, seen⟩, after⟩
    · apply Triple.pure
      rintro r ⟨reached, -⟩
      exact ⟨reached, by simp⟩

/-- A process that still has its pid when the signal is sent is the one that every check looked at. -/
theorem owner_of_checks {pid : Pid} {o : Process} {signal : Signal} {opened i j sent : Nat}
    (handle : host.history.who (host.clock opened) pid = some o)
    (alive : host.history.who (host.clock sent) pid = some o) (ran : Ran host pid i) (held : Held host pid j)
    (first : opened < i) (second : i < j) (third : j < sent) :
    Owner host ⟨o, signal, host.clock opened, host.clock sent⟩ (host.clock i) (host.clock j) := by
  have through (t : Nat) (early : host.clock opened ≤ t) (late : t ≤ host.clock sent) :
      host.history.who t pid = some o := host.history.unbroken handle alive early late
  have early := host.ordered first
  have middle := host.ordered second
  have late := host.ordered third
  have atRun := through (host.clock i) (by omega) (by omega)
  have atHold := through (host.clock j) (by omega) (by omega)
  obtain ⟨p, executable, who, exe, runs⟩ := ran
  obtain ⟨q, descriptor, holder, listed⟩ := held
  rw [atRun, Option.some.injEq] at who
  rw [atHold, Option.some.injEq] at holder
  subst who holder
  exact {
    opened := early
    later := middle
    sent := late
    executable := ⟨executable, exe, runs⟩
    descriptor := ⟨descriptor, listed⟩
    pid := ⟨pid, through⟩ }

theorem signalVerified_spec (n : Nat) (signal : Signal) (pid : Pid) :
    Invariant (Reached host n) (signalVerified host signal pid) := by
  unfold signalVerified
  refine Triple.bind (ofPid_spec n pid _) fun before => Triple.choose fun a => Triple.assume fun ⟨_, _⟩ => ?_
  refine Triple.bind ((ofPid_spec (a + 1) pid _).fallback fun _ _ h => h.mono (by omega)) fun handle =>
    Triple.choose fun b => Triple.assume fun ⟨_, o, opened, bound⟩ => ?_
  refine Triple.bind ((ofPid_spec (b + 1) pid _).fallback fun _ _ h => h.mono (by omega)) fun after =>
    Triple.choose fun c => Triple.assume fun ⟨_, _⟩ => ?_
  cases bound
  refine Triple.ite (fun _ => Triple.pure fun r h => h.mono (by omega)) fun _ => ?_
  refine Triple.bind ((runtimeRetainsPrefix_spec (c + 1) pid).fallback fun _ _ h => h.mono (by omega)) fun retains => ?_
  refine Triple.ite (fun positive => ?_) fun _ => Triple.update fun r h => h.1.mono (by omega)
  refine Triple.strengthen (Triple.choose fun j => Triple.assume fun checks => ?_) fun r h => h.2 positive
  obtain ⟨i, below, between, ran, held⟩ := checks
  refine Triple.bind ?_ fun _ => Triple.update_keeps fun r h => h
  refine Triple.bind ((access_spec (j + 1) _).fallback fun _ _ h => h.mono (by omega)) fun sent =>
    Triple.choose fun k => Triple.assume fun ⟨after, lives⟩ => ?_
  split at lives
  · cases lives
    have owner : Owner host ⟨o, signal, host.clock b, host.clock k⟩ (host.clock i) (host.clock j) :=
      owner_of_checks opened ‹_› ran held (by omega) between (by omega)
    apply Triple.update
    intro r reached
    refine ⟨(reached.mono (by omega)).1, ?_⟩
    intro delivery listed
    rcases List.mem_append.mp listed with earlier | new
    · exact reached.2 delivery earlier
    · rw [List.mem_singleton.mp new]
      exact ⟨_, _, owner⟩
  · cases lives

theorem takeCensus_reached (n : Nat) : Invariant (Reached host n) (takeCensus host) := by
  intro r reached
  unfold takeCensus
  cases host.census r.step with
  | ok rows => exact ⟨Nat.le_succ_of_le reached.1, reached.2⟩
  | error fault => exact ⟨Nat.le_succ_of_le reached.1, reached.2⟩

theorem rescueRows_reached (n : Nat) (signal : Signal) (rows : List Row) :
    Invariant (Reached host n) (rescueRows host signal rows) := by
  induction rows with
  | nil => exact Invariant.pure _
  | cons row rest ih =>
    refine Invariant.bind (Invariant.rescue (signalVerified_spec n signal row.pid) fun fault => ?_) fun _ => ih
    split
    · exact Invariant.pure _
    · exact Invariant.modify fun r h => h

theorem rescueRounds_reached (n : Nat) (signals : List Signal) :
    Invariant (Reached host n) (rescueRounds host signals) := by
  induction signals with
  | nil => exact Invariant.bind (takeCensus_reached n) fun rows => Invariant.modify fun r h => h
  | cons signal rest ih =>
    refine Invariant.bind (takeCensus_reached n) fun rows => Invariant.ite (Invariant.pure _) ?_
    refine Invariant.ite (Invariant.modify fun r h => h) ?_
    exact Invariant.bind (rescueRows_reached n signal rows) fun _ => ih

/-- Every signal of a rescue goes to a process that, after its handle was opened, ran a runtime
executable and later held a descriptor of the prefix, and both at once if it ran nothing else in
between. -/
theorem rescue_signals_owners (host : Host) :
    ∀ delivery ∈ (finalState (cleanupVerifiedPrefixProcesses host {})).deliveries, ∃ ran held,
      Owner host delivery ran held ∧
        (host.history.exe delivery.process held = host.history.exe delivery.process ran →
          ∃ executable descriptor, host.history.exe delivery.process held = some executable ∧
            runtimeExecutable executable = true ∧
            (descriptor, host.prefixInode) ∈ host.history.descriptors delivery.process held) := by
  intro delivery listed
  have fresh : Reached host 0 {} := ⟨Nat.le_refl 0, by simp [Verified]⟩
  have reached : Reached host 0 (finalState (cleanupVerifiedPrefixProcesses host {})) :=
    (rescueRounds_reached 0 [.term, .kill]).ended fresh
  obtain ⟨ran, held, owner⟩ := reached.2 delivery listed
  refine ⟨ran, held, owner, fun same => ?_⟩
  obtain ⟨executable, exe, runs⟩ := owner.executable
  obtain ⟨descriptor, holds⟩ := owner.descriptor
  exact ⟨executable, descriptor, same.trans exe, runs, holds⟩

/-- A host with one process, which has pid 7 and is found once by the census. -/
def soleProcess (exe : Nat → Text) (descriptors : Nat → List (Nat × Inode)) : Host where
  history := {
    who := fun _ pid => if pid = 7 then some 1 else none
    stat := fun _ _ => "7 (a (b)) S 1 7 7 0 -1 0 0 0 0 0 0 0 0 0 20 0 1 0 4242 0 0".toList
    uid := fun _ _ => 1000
    exe := fun _ t => some (exe t)
    descriptors := fun _ t => descriptors t
    unbroken := fun seen _ _ _ => seen }
  clock := id
  ordered := id
  fails := fun _ => none
  census := fun step => .ok (if step = 0 then [⟨7, "mldr".toList⟩] else [])
  euid := 1000
  prefixInode := 42
  pidfdSupported := true

def loader : Host := soleProcess (fun _ => "/opt/darling/mldr (deleted)".toList) fun _ => [(0, 5), (3, 42)]

theorem loader_signalled :
    (finalState (cleanupVerifiedPrefixProcesses loader {})).deliveries = [⟨1, .term, 2, 9⟩] ∧
      ∃ ran held, Owner loader ⟨1, .term, 2, 9⟩ ran held := by
  have sent : (finalState (cleanupVerifiedPrefixProcesses loader {})).deliveries = [⟨1, .term, 2, 9⟩] := by
    decide +kernel
  refine ⟨sent, ?_⟩
  obtain ⟨ran, held, owner, -⟩ := rescue_signals_owners loader ⟨1, .term, 2, 9⟩ (sent ▸ List.mem_cons_self)
  exact ⟨ran, held, owner⟩

/-- A loader without the prefix that turns, once its executable was read, into a program with it. -/
def impostor : Host :=
  soleProcess (fun t => if t ≤ 5 then "/opt/darling/mldr".toList else "/bin/cat".toList)
    fun t => if t ≤ 5 then [] else [(3, 42)]

/-- The checks of one process are made one after the other, so that it never passed both at once. -/
theorem impostor_signalled :
    ∃ delivery ∈ (finalState (cleanupVerifiedPrefixProcesses impostor {})).deliveries,
      ¬ ∃ t, delivery.opened < t ∧
        (∃ executable, impostor.history.exe delivery.process t = some executable ∧
          runtimeExecutable executable = true) ∧
        ∃ descriptor, (descriptor, impostor.prefixInode) ∈ impostor.history.descriptors delivery.process t := by
  have sent : (finalState (cleanupVerifiedPrefixProcesses impostor {})).deliveries = [⟨1, .term, 2, 8⟩] := by
    decide +kernel
  refine ⟨⟨1, .term, 2, 8⟩, sent ▸ List.mem_cons_self, ?_⟩
  rintro ⟨t, -, ⟨executable, exe, runs⟩, descriptor, holds⟩
  by_cases early : t ≤ 5
  · have closed : impostor.history.descriptors 1 t = [] := if_pos early
    rw [closed] at holds
    cases holds
  · have other : impostor.history.exe 1 t = some "/bin/cat".toList := congrArg some (if_neg early)
    rw [other, Option.some.injEq] at exe
    rw [← exe] at runs
    exact absurd runs (by decide +kernel)

end Ownership

end Darling.Prefixes
