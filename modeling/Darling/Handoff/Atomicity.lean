import Darling.Handoff.Publishing

/-! Crashes and exceptions during a handoff, and what is left of the publication paths. -/
namespace Darling.Handoff

variable {δ : Type} [DecidableEq δ]

section Runs

variable {host : Host δ} {before staged : Publication → Tree} {regime : Regime HandoffError} {past : List Point}

/-- Without a journal the handler only clears the storage. -/
theorem rollBack_unpublished (regime : Regime HandoffError) (left : List Point → Disk δ → Prop) (error : HandoffError)
    {post : Unit → Assertion (Process Point HandoffError (Disk δ))}
    (safe : ∀ d, Settled none before false d → left (past ++ [.cleanup]) d) :
    Triple (Under regime.before past (Settled none before false)) (rollBack host error) post
      (fun stop p => regime.stops left stop p ∨
        stop = .raised error ∧ Under regime.before past (Settled none before false) p) := by
  have cleared : Triple (Under regime.before past (Settled none before false)) (undoPublication host)
      (fun _ => Under regime.before past (Settled none before false)) (regime.stops left) := by
    refine disk_bind_triple fun now => Triple.given (now.journal.isSome = false) ?_ fun absent => ?_
    · rintro p ⟨rfl, _, _, settled⟩
      rw [settled.journal]
      rfl
    rw [absent]
    refine Triple.strengthen ?_ fun _ holds => holds.2
    exact Triple.bind (removeBackups_settled safe) fun _ => removeDisplaced_settled safe
  refine Triple.bind (cleared.fallback fun _ _ => .inl) fun _ => ?_
  exact raise_triple fun p under => .inr ⟨rfl, under⟩

omit [DecidableEq δ] in
theorem cleanupOrphans_recoverable :
    Triple (Under regime.before past (Recoverable host before staged)) (cleanupOrphans host)
      (fun _ => Under regime.before past (Recoverable host before staged))
      (regime.stops (RecoverableOr host before staged)) := by
  have cleaned (target : Publication → Tree) (mark : Bool)
      (safe : ∀ d, Settled none target mark d → Recoverable host before staged d) (now : Disk δ) :
      Triple (Under regime.before past (Settled none target mark))
        (do
          removeBackups host
          removeDisplaced host
          removeTemporary
          cleanupScratch host
          onlyIf (now.backups.isSome ∨ now.displaced.isSome ∨ now.temporary.isSome ∨ now.scratch ≠ []) do
            sync .cleanup
            sync .cleanup)
        (fun _ => Under regime.before past (Recoverable host before staged))
        (regime.stops (RecoverableOr host before staged)) := by
    have kept (d : Disk δ) (settled : Settled none target mark d) :
        RecoverableOr host before staged (past ++ [.cleanup]) d := .inl (safe d settled)
    refine Triple.bind (removeBackups_settled kept) fun _ => Triple.bind (removeDisplaced_settled kept) fun _ => ?_
    refine Triple.bind (removeTemporary_settled kept) fun _ => Triple.bind (cleanupScratch_settled kept) fun _ => ?_
    refine Triple.conclude ?_ (fun _ p => Under.weaken (fun _ => id) safe p) fun _ _ => id
    apply Triple.ite
    · exact fun _ => Triple.bind (Regime.sync kept) fun _ => Regime.sync kept
    · exact fun _ => Triple.skip
  refine disk_bind_triple fun now => ?_
  apply Triple.ite
  · intro absent
    rintro p ⟨rfl, starts, same, original | prepared | committed | finished⟩
    · exact cleaned before false (fun _ => .inl) p.disk p ⟨starts, same, original⟩
    · rw [prepared.journal] at absent
      cases absent
    · rw [committed.journal] at absent
      cases absent
    · exact cleaned staged true (fun _ settled => .inr (.inr (.inr settled))) p.disk p ⟨starts, same, finished⟩
  · exact fun _ => Triple.pure fun p holds => holds.2

theorem restart_finished (silent : ∀ faults, ¬regime.after faults)
    (collisionFree : Function.Injective host.digest)
    (stageable : ∀ path, staged path ≠ [] ∧ Supported (staged path)) :
    Triple (Under regime.before past (Recoverable host before staged)) (restart host)
      (fun _ => Under regime.before past (Finished before staged))
      (regime.stops (RecoverableOr host before staged)) :=
  Triple.bind cleanupOrphans_recoverable fun _ => recover_finished silent collisionFree stageable

/-- A process that can only die leaves a disk that recovery understands, wherever it dies. -/
theorem publish_recoverable (stageable : ∀ path, staged path ≠ [] ∧ Supported (staged path)) :
    Triple (Under Regime.crashing.before [] fun d => Started before staged d ∧ d.backups = none ∧ d.displaced = none)
      (publish host fun path => host.digest (staged path))
      (fun _ p => Recoverable host before staged p.disk)
      (fun _ p => Recoverable host before staged p.disk) := by
  have calm (faults : Schedule HandoffError) (never : Regime.crashing.after faults) : faults.Quiet := never.elim
  have committed (d : Disk δ) (settled : Settled (some (journalFor host before staged .committed)) staged true d) :
      Recoverable host before staged d := .inr (.inr (.inl settled))
  refine disk_bind_triple fun now => ?_
  refine Triple.given (now.backups.isNone ∧ now.displaced.isNone) ?_ fun clean => ?_
  · rintro p ⟨rfl, _, _, _, backups, displaced⟩
    rw [backups, displaced]
    exact ⟨rfl, rfl⟩
  refine Triple.bind (demand_holds clean) fun _ => ?_
  have published : Triple (Under Regime.crashing.before [] (Started before staged))
      (handle (publishAll host fun path => host.digest (staged path)) (rollBack host))
      (fun _ => Under Regime.crashing.before [] (Settled (some (journalFor host before staged .committed)) staged true))
      (fun _ p => Recoverable host before staged p.disk) := by
    refine Triple.rescue (publishAll_committed calm stageable) fun stop => ?_
    cases stop with
    | crash =>
      refine Triple.throw fun p stopped => ?_
      rcases stopped with ⟨⟨either, _⟩ | ⟨settled, _⟩, _⟩ | ⟨never, _⟩
      · rcases either with original | prepared
        · exact .inl original
        · exact .inr (.inl prepared)
      · exact committed p.disk settled
      · exact absurd rfl never
    | raised error =>
      let ended (stop : Stop HandoffError) (p : Process Point HandoffError (Disk δ)) : Prop :=
        Regime.crashing.stops (fun _ => Settled none before false) stop p ∨
          stop = .raised error ∧ Under Regime.crashing.before [] (Settled none before false) p
      have cleared : Triple (Under Regime.crashing.before [] (Settled none before false)) (rollBack host error)
          (fun _ => Under Regime.crashing.before []
            (Settled (some (journalFor host before staged .committed)) staged true))
          ended :=
        rollBack_unpublished Regime.crashing (fun _ => Settled none before false) error fun _ => id
      refine cleared.weaken ?_ (fun _ _ => id) ?_
      · rintro p (⟨_, never⟩ | ⟨_, under⟩)
        · exact never.elim
        · exact under
      · rintro stop p (⟨settled, _⟩ | ⟨_, under⟩)
        · exact .inl settled
        · exact .inl under.2.2
  refine Triple.bind (published.strengthen ?_) fun _ => ?_
  · rintro p ⟨_, starts, same, started, _⟩
    exact ⟨starts, same, started⟩
  have cleaned : Triple
      (Under Regime.crashing.before [] (Settled (some (journalFor host before staged .committed)) staged true))
      (cleanupTransaction host host.scratch)
      (fun _ => Under Regime.crashing.before [] (Settled none staged true))
      (Regime.crashing.stops fun _ => Recoverable host before staged) :=
    cleanupTransaction_settled committed fun _ settled => .inr (.inr (.inr settled))
  refine (Regime.unhandled (fun _ => id) cleaned).conclude ?_ fun _ _ stopped => stopped.1
  exact fun _ p under => .inr (.inr (.inr under.2.2))

end Runs

/-- The transaction before its first step. -/
def start (before staged : Publication → Tree) (scratch : Tree) : Disk δ :=
  { published := before, staged, scratch }

/-- The first process, which dies before the given step. -/
def firstRun (host : Host δ) (before staged : Publication → Tree) (scratch : Tree) (after : Nat) :
    Process Point HandoffError (Disk δ) :=
  finalState (publish host (fun path => host.digest (staged path))
    { disk := start before staged scratch, faults := crashAfter after })

/-- A restart on the disk of its predecessor, which dies before the given step. -/
def nextRun (host : Host δ) (d : Disk δ) (after : Nat) : Process Point HandoffError (Disk δ) :=
  finalState (restart host { disk := d, faults := crashAfter after })

def diskAfter (host : Host δ) : Disk δ → List Nat → Disk δ
  | d, [] => d
  | d, after :: rest => diskAfter host (nextRun host d after).disk rest

/-- No restart dies while it has removed a part of a published tree. -/
def Undamaged (host : Host δ) : Disk δ → List Nat → Prop
  | _, [] => True
  | d, after :: rest =>
    (∀ path, Point.removal path true ∉ (nextRun host d after).struck) ∧
      Undamaged host (nextRun host d after).disk rest

section Crashes

variable {host : Host δ} {before staged : Publication → Tree}

theorem firstRun_recoverable (stageable : ∀ path, staged path ≠ [] ∧ Supported (staged path)) (scratch : Tree)
    (after : Nat) : Recoverable host before staged (firstRun host before staged scratch after).disk := by
  have begun : Under Regime.crashing.before []
      (fun d => Started before staged d ∧ d.backups = none ∧ d.displaced = none)
      ({ disk := start before staged scratch, faults := crashAfter after } :
        Process Point HandoffError (Disk δ)) :=
    ⟨crashAfter_crashing after, rfl, ⟨⟨rfl, rfl, rfl⟩, rfl, rfl⟩, rfl, rfl⟩
  exact (publish_recoverable stageable).ended begun

theorem nextRun_recoverable (collisionFree : Function.Injective host.digest)
    (stageable : ∀ path, staged path ≠ [] ∧ Supported (staged path)) {d : Disk δ} {after : Nat}
    (recoverable : Recoverable host before staged d)
    (undamaged : ∀ path, Point.removal path true ∉ (nextRun host d after).struck) :
    Recoverable host before staged (nextRun host d after).disk := by
  have silent (faults : Schedule HandoffError) : ¬Regime.crashing.after faults := id
  have ended := restart_finished silent collisionFree stageable
    { disk := d, faults := crashAfter after } ⟨crashAfter_crashing after, rfl, recoverable⟩
  unfold nextRun at undamaged ⊢
  split at ended
  · rename_i ran
    rw [ran]
    rcases ended.2.2 with original | finished
    · exact .inl original
    · exact .inr (.inr (.inr finished))
  · rename_i ran
    rw [ran] at undamaged ⊢
    rcases ended.1 with safe | ⟨path, struck⟩
    · exact safe
    · exact absurd struck (undamaged path)

theorem diskAfter_recoverable (collisionFree : Function.Injective host.digest)
    (stageable : ∀ path, staged path ≠ [] ∧ Supported (staged path)) (restarts : List Nat) {d : Disk δ}
    (recoverable : Recoverable host before staged d) (undamaged : Undamaged host d restarts) :
    Recoverable host before staged (diskAfter host d restarts) := by
  induction restarts generalizing d with
  | nil => exact recoverable
  | cons after rest induction =>
    exact induction (nextRun_recoverable collisionFree stageable recoverable undamaged.1) undamaged.2

/-- Whatever crashes came before, as long as none of them left a published tree half removed, an
undisturbed restart completes and all five paths hold the old content, or all five the new content
once a committed journal was put in place. -/
theorem handoff_crash_atomic (host : Host δ) (collisionFree : Function.Injective host.digest)
    (before staged : Publication → Tree) (stageable : ∀ path, staged path ≠ [] ∧ Supported (staged path))
    (scratch : Tree) (first : Nat) (restarts : List Nat)
    (undamaged : Undamaged host (firstRun host before staged scratch first).disk restarts) :
    ∃ p, restart host { disk := diskAfter host (firstRun host before staged scratch first).disk restarts } =
        .ok () p ∧
      p.disk.published = if p.disk.committed then staged else before := by
  have recoverable : Recoverable host before staged
      (diskAfter host (firstRun host before staged scratch first).disk restarts) :=
    diskAfter_recoverable collisionFree stageable restarts (firstRun_recoverable stageable scratch first) undamaged
  have silent (faults : Schedule HandoffError) : ¬Regime.quiet.after faults := id
  have ended := restart_finished silent collisionFree stageable
    { disk := diskAfter host (firstRun host before staged scratch first).disk restarts } ⟨nofun, rfl, recoverable⟩
  split at ended
  · rename_i p ran
    refine ⟨p, ran, ?_⟩
    rcases ended.2.2 with original | finished
    · rw [original.committed, original.published]
      rfl
    · rw [finished.committed, finished.published]
      rfl
  · rename_i stop p ran
    exact absurd ended.2 (by cases stop <;> exact id)

end Crashes

/-- A host on which a digest is the listing itself. -/
def plainHost : Host Tree where
  control := "control"
  parent := "/work"
  stage := ".control.handoff-stage-".toList
  suffix := ['x']
  nonempty := nofun
  digest := id
  order tree := tree.tail
  realParents _ := true
  resolves _ := true

/-- Four files and a directory of two files. -/
def release (content : UInt8) : Publication → Tree
  | .handoff => [⟨".", 0o755, .directory⟩, ⟨"darling.bundle", 0o644, .file [content]⟩,
      ⟨"manifest.json", 0o644, .file [content]⟩]
  | _ => [⟨".", 0o644, .file [content]⟩]

def scratchRoot : Tree := [⟨".", 0o700, .directory⟩]

theorem release_stageable (content : UInt8) (path : Publication) :
    release content path ≠ [] ∧ Supported (release content path) := by
  cases path <;> exact ⟨List.cons_ne_nil _ _, by simp [Supported, release]⟩

/-- The process dies when everything is published but not committed, and its first restart before it
removes anything. -/
theorem handoff_crash_atomic_twoCrashes :
    ∃ p, restart plainHost
        { disk := diskAfter plainHost (firstRun plainHost (release 1) (release 2) scratchRoot 44).disk [0] } =
        .ok () p ∧
      p.disk.published = if p.disk.committed then release 2 else release 1 := by
  apply handoff_crash_atomic plainHost (fun _ _ => id) (release 1) (release 2) (release_stageable 2)
  refine ⟨fun path => ?_, True.intro⟩
  have struck : (nextRun plainHost (firstRun plainHost (release 1) (release 2) scratchRoot 44).disk 0).struck =
      [.removal .handoff false] := by
    decide +kernel
  rw [struck]
  simp

/-- The first restart dies inside the removal of the published directory; the next one refuses the
remains. -/
theorem recovery_refuses_half_removed :
    ¬∃ p, restart plainHost
        { disk := diskAfter plainHost (firstRun plainHost (release 1) (release 2) scratchRoot 44).disk [1] } =
        .ok () p ∧
      p.disk.published = if p.disk.committed then release 2 else release 1 := by
  have refused : (outcome (restart plainHost
      { disk := diskAfter plainHost (firstRun plainHost (release 1) (release 2) scratchRoot 44).disk [1] })).isOk =
      false := by
    decide +kernel
  rintro ⟨p, ran, _⟩
  rw [ran] at refused
  cases refused

/-- How a failed publication may leave the disk, by the step that failed. -/
def RolledBack (before staged : Publication → Tree) (struck : List Point) (d : Disk δ) : Prop :=
  Settled none before false d ∧ commitPoint ∉ struck ∨ Settled none staged true d ∧ commitPoint ∈ struck

section Exceptions

variable {host : Host δ} {before staged : Publication → Tree}

/-- With a journal in place the handler recovers, undisturbed. -/
theorem rollBack_recovered {past : List Point} {holds reached : Disk δ → Prop} {left : List Point → Disk δ → Prop}
    {post : Unit → Assertion (Process Point HandoffError (Disk δ))} (error : HandoffError)
    (present : ∀ d, holds d → d.journal.isSome)
    (recovers : Triple (Under Regime.quiet.before past holds) (recover host)
      (fun _ => Under Regime.quiet.before past reached) (Regime.quiet.stops left)) :
    Triple (Under Regime.quiet.before past holds) (rollBack host error) post
      (fun _ => Under Regime.quiet.before past reached) := by
  have undone : Triple (Under Regime.quiet.before past holds) (undoPublication host)
      (fun _ => Under Regime.quiet.before past reached) (fun _ => Under Regime.quiet.before past reached) := by
    refine disk_bind_triple fun now => Triple.given (now.journal.isSome) ?_ fun found => ?_
    · rintro p ⟨rfl, _, _, held⟩
      exact present p.disk held
    rw [found]
    refine recovers.weaken (fun _ holds => holds.2) (fun _ _ => id) fun stop p stopped => ?_
    exact absurd stopped.2 (by cases stop <;> exact id)
  exact Triple.bind undone fun _ => raise_triple fun _ => id

/-- The handler, from every place at which one exception can stop the publication. -/
theorem rollBack_rolledBack {post : Unit → Assertion (Process Point HandoffError (Disk δ))}
    (collisionFree : Function.Injective host.digest)
    (stageable : ∀ path, staged path ≠ [] ∧ Supported (staged path)) (error : HandoffError) :
    Triple (Unpublished Regime.single host before staged (.raised error)) (rollBack host error) post
      (fun _ p => RolledBack before staged p.struck p.disk) := by
  have silent (faults : Schedule HandoffError) : ¬Regime.quiet.after faults := id
  have never {left : List Point → Disk δ → Prop} {stop : Stop HandoffError} {p : Process Point HandoffError (Disk δ)}
      (stopped : Regime.quiet.stops left stop p) : False := by
    cases stop <;> exact stopped.2
  rintro p (⟨⟨original | prepared, early⟩ | ⟨committed, late⟩, quiet⟩ | ⟨_, starts, same, original⟩)
  · refine (rollBack_unpublished Regime.quiet (fun _ _ => True) error fun _ _ => True.intro).fallback ?_ p
      ⟨quiet, rfl, original⟩
    rintro stop after (stopped | ⟨_, _, struck, settled⟩)
    · exact (never stopped).elim
    · rw [struck]
      exact .inl ⟨settled, early⟩
  · refine (rollBack_recovered error ?_ (recover_prepared collisionFree stageable)).fallback ?_ p ⟨quiet, rfl, prepared⟩
    · intro d prepared
      rw [prepared.journal]
      rfl
    · rintro stop after ⟨_, struck, settled⟩
      rw [struck]
      exact .inl ⟨settled, early⟩
  · refine (rollBack_recovered error ?_ (recover_committed silent)).fallback ?_ p ⟨quiet, rfl, committed⟩
    · intro d committed
      rw [committed.journal]
      rfl
    · rintro stop after ⟨_, struck, settled⟩
      rw [struck]
      exact .inr ⟨settled, late⟩
  · refine (rollBack_unpublished Regime.single (RolledBack before staged) error ?_).fallback ?_ p
      ⟨starts, same, original⟩
    · exact fun d settled => .inl ⟨settled, by decide⟩
    · rintro stop after (stopped | ⟨_, _, struck, settled⟩)
      · exact stopped.1
      · rw [struck]
        exact .inl ⟨settled, nofun⟩

theorem publish_rolledBack (collisionFree : Function.Injective host.digest)
    (stageable : ∀ path, staged path ≠ [] ∧ Supported (staged path)) :
    Triple
      (Under Regime.single.before [] fun d => Started before staged d ∧ d.backups = none ∧ d.displaced = none)
      (publish host fun path => host.digest (staged path))
      (fun _ p => p.disk.published = staged ∧ commitPoint ∉ p.struck)
      (fun _ p => RolledBack before staged p.struck p.disk) := by
  refine disk_bind_triple fun now => ?_
  refine Triple.given (now.backups.isNone ∧ now.displaced.isNone) ?_ fun clean => ?_
  · rintro p ⟨rfl, _, _, _, backups, displaced⟩
    rw [backups, displaced]
    exact ⟨rfl, rfl⟩
  refine Triple.bind (demand_holds clean) fun _ => ?_
  have published : Triple (Under Regime.single.before [] (Started before staged))
      (handle (publishAll host fun path => host.digest (staged path)) (rollBack host))
      (fun _ => Under Regime.single.before []
        (Settled (some (journalFor host before staged .committed)) staged true))
      (fun _ p => RolledBack before staged p.struck p.disk) := by
    refine Triple.rescue (publishAll_committed (fun _ => id) stageable) fun stop => ?_
    cases stop with
    | crash =>
      refine Triple.throw fun p stopped => ?_
      rcases stopped with ⟨_, never⟩ | ⟨never, _⟩
      · exact never.elim
      · exact absurd rfl never
    | raised error => exact rollBack_rolledBack collisionFree stageable error
  refine Triple.bind (published.strengthen ?_) fun _ => ?_
  · rintro p ⟨_, starts, same, started, _⟩
    exact ⟨starts, same, started⟩
  let kept (struck : List Point) (d : Disk δ) : Prop := d.published = staged ∧ commitPoint ∉ struck
  have cleaned : Triple
      (Under Regime.single.before [] (Settled (some (journalFor host before staged .committed)) staged true))
      (cleanupTransaction host host.scratch) (fun _ => Under Regime.single.before [] (Settled none staged true))
      (Regime.single.stops kept) :=
    cleanupTransaction_settled (fun d settled => ⟨settled.published, by decide⟩)
      fun d settled => ⟨settled.published, by decide⟩
  have warned : Triple
      (Under Regime.single.before [] (Settled (some (journalFor host before staged .committed)) staged true))
      (handle (cleanupTransaction host host.scratch) fun _ => pure ()) (fun _ p => kept p.struck p.disk)
      (Regime.single.stops fun _ _ => False) := by
    refine Regime.handled kept (cleaned.conclude ?_ fun _ _ => id) (fun never => never.elim) fun _ => ?_
    · rintro _ p ⟨_, same, settled⟩
      exact ⟨settled.published, by rw [same]; exact nofun⟩
    · exact Triple.pure fun p stopped => stopped.1
  exact warned.fallback fun _ _ stopped => stopped.1.elim

/-- A reported failure leaves the old content and no committed journal; success the new content. -/
def ReportsTruth (before staged : Publication → Tree)
    (result : EStateM.Result (Stop HandoffError) (Process Point HandoffError (Disk δ)) Unit) : Prop :=
  match result with
  | .ok _ p => p.disk.published = staged
  | .error _ p => p.disk.published = before ∧ ∀ journal, p.disk.journal = some journal → journal.state ≠ .committed

omit [DecidableEq δ] in
theorem not_reportsTruth (path : Publication)
    {result : EStateM.Result (Stop HandoffError) (Process Point HandoffError (Disk δ)) Unit}
    (failed : (outcome result).isOk = false)
    (changed : (finalState result).disk.published path ≠ before path) : ¬ReportsTruth before staged result := by
  intro truth
  cases result with
  | ok value p => cases failed
  | error stop p => exact changed (congrFun truth.1 path)

/-- One exception anywhere in `publish`: the report is true unless the exception comes after the
committed journal took its name, and the two contents differ. -/
theorem publish_reports_truth_iff (host : Host δ) (collisionFree : Function.Injective host.digest)
    (before staged : Publication → Tree) (stageable : ∀ path, staged path ≠ [] ∧ Supported (staged path))
    (scratch : Tree) (after : Nat) (error : HandoffError) :
    let result := publish host (fun path => host.digest (staged path))
      { disk := start before staged scratch, faults := raiseAfter after error }
    ReportsTruth before staged result ↔ commitPoint ∉ (finalState result).struck ∨ staged = before := by
  intro result
  have begun : Under Regime.single.before []
      (fun d => Started before staged d ∧ d.backups = none ∧ d.displaced = none)
      ({ disk := start before staged scratch, faults := raiseAfter after error } :
        Process Point HandoffError (Disk δ)) :=
    ⟨raiseAfter_single after error, rfl, ⟨⟨rfl, rfl, rfl⟩, rfl, rfl⟩, rfl, rfl⟩
  cases ran : result with
  | ok value p =>
    obtain ⟨new, early⟩ := (publish_rolledBack collisionFree stageable).returned begun ran
    exact iff_of_true new (.inl early)
  | error stop p =>
    rcases (publish_rolledBack collisionFree stageable).failed begun ran with ⟨old, early⟩ | ⟨new, late⟩
    · refine iff_of_true ⟨old.published, fun journal found => ?_⟩ (.inl early)
      rw [old.journal] at found
      cases found
    · constructor
      · intro truth
        exact .inr (new.published.symm.trans truth.1)
      · rintro (early | same)
        · exact absurd late early
        · refine ⟨new.published.trans same, fun journal found => ?_⟩
          rw [new.journal] at found
          cases found

end Exceptions

theorem publish_reports_truth_iff_displaced :
    let result := publish plainHost (fun path => plainHost.digest (release 2 path))
      { disk := start (release 1) (release 2) scratchRoot, faults := raiseAfter 30 .os }
    ReportsTruth (release 1) (release 2) result ↔
      commitPoint ∉ (finalState result).struck ∨ release 2 = release 1 :=
  publish_reports_truth_iff plainHost (fun _ _ => id) (release 1) (release 2) (release_stageable 2) scratchRoot 30 .os

/-- The directory of the committed journal cannot be synchronised: `publish` raises over the new
content. -/
theorem publish_raises_after_commit :
    ¬ReportsTruth (release 1) (release 2) (publish plainHost (fun path => plainHost.digest (release 2 path))
      { disk := start (release 1) (release 2) scratchRoot, faults := raiseAfter 49 .os }) := by
  apply not_reportsTruth .issues
  · decide +kernel
  · decide +kernel

end Darling.Handoff
