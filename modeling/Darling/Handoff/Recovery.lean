import Darling.Handoff.Transaction

/-! What the transaction leaves behind wherever it stops, and that recovery finishes it. -/
namespace Darling.Handoff

variable {δ : Type}

def Supported (tree : Tree) : Prop := ∀ record ∈ tree, record.node ≠ .other

/-- What `observe` sees of a tree. -/
def contentOf (host : Host δ) (tree : Tree) : Option δ := if tree = [] then none else some (host.digest tree)

theorem contentOf_inj {host : Host δ} (collisionFree : Function.Injective host.digest) {one other : Tree}
    (same : contentOf host one = contentOf host other) : one = other := by
  unfold contentOf at same
  split at same <;> split at same
  · rename_i first second
    rw [first, second]
  · cases same
  · cases same
  · exact collisionFree (Option.some.inj same)

theorem contentOf_isSome {host : Host δ} {tree : Tree} : (contentOf host tree).isSome = true ↔ tree ≠ [] := by
  unfold contentOf
  split <;> simp_all

theorem snapshot_supported {host : Host δ} {tree : Tree} (present : tree ≠ []) (supported : Supported tree) :
    snapshot host tree = .ok (host.digest tree) := by
  have plain : tree.any (·.node = .other) = false := by
    simpa [Supported] using supported
  unfold snapshot
  rw [if_neg present, plain]
  rfl

theorem snapshotAt_run {host : Host δ} {place : Place} {p : Process Point HandoffError (Disk δ)}
    (present : p.disk.tree place ≠ []) (supported : Supported (p.disk.tree place)) :
    snapshotAt host place p = .ok (host.digest (p.disk.tree place)) p := by
  unfold snapshotAt
  rw [bind_run, show disk p = .ok p.disk p from rfl]
  simp only [snapshot_supported present supported]
  rfl

theorem observe_run {host : Host δ} {place : Place} {p : Process Point HandoffError (Disk δ)}
    (supported : Supported (p.disk.tree place)) :
    observe host place p = .ok (contentOf host (p.disk.tree place)) p := by
  unfold observe
  rw [bind_run, show disk p = .ok p.disk p from rfl]
  by_cases absent : p.disk.tree place = []
  · simp only [absent, contentOf, if_true]
    rfl
  · simp only [absent, contentOf, if_false]
    rw [bind_run_ok (snapshotAt_run absent supported)]
    rfl

/-- The unit `publish` makes of a path. -/
def unitOf (host : Host δ) (before staged : Publication → Tree) (path : Publication) : Plan δ :=
  { path, before := contentOf host (before path), after := host.digest (staged path) }

def unitsOf (host : Host δ) (before staged : Publication → Tree) : List (Plan δ) :=
  publicationPaths.map (unitOf host before staged)

/-- The journal of the transaction. -/
def journalFor (host : Host δ) (before staged : Publication → Tree) (state : JournalState) : Journal δ :=
  journalOf host state (unitsOf host before staged)

theorem journalFor_entry {host : Host δ} {before staged : Publication → Tree} {state : JournalState}
    {entry : Entry δ} (member : entry ∈ (journalFor host before staged state).entries) :
    ∃ index path, entry = Plan.entry index (unitOf host before staged path) := by
  obtain ⟨index, inside, rfl⟩ := List.mem_mapIdx.mp member
  refine ⟨index, publicationPaths.get ⟨index, by simpa [unitsOf] using inside⟩, ?_⟩
  simp [unitsOf]

/-- The publication paths, the journal and the commit mark; nothing else matters once they agree. -/
structure Settled (journal : Option (Journal δ)) (target : Publication → Tree) (mark : Bool) (d : Disk δ) :
    Prop where
  journal : d.journal = journal
  published : d.published = target
  committed : d.committed = mark

/-- The path still holds its old content, or recovery can bring it back. -/
def Pending (before staged : Publication → Tree) (d : Disk δ) (path : Publication) : Prop :=
  d.published path = before path ∨
    (d.published path = [] ∨ d.published path = staged path) ∧
      (before path ≠ [] → d.tree (.backup path) = before path)

structure Prepared (host : Host δ) (before staged : Publication → Tree) (d : Disk δ) : Prop where
  journal : d.journal = some (journalFor host before staged .prepared)
  committed : d.committed = false
  real : ∀ path, host.realParents path = true
  supported : ∀ path, Supported (before path)
  pending : ∀ path, Pending before staged d path

/-- The new content is in place under the commit mark. -/
def Committed (host : Host δ) (before staged : Publication → Tree) (d : Disk δ) : Prop :=
  Settled (some (journalFor host before staged .committed)) staged true d ∨ Settled none staged true d

def Recoverable (host : Host δ) (before staged : Publication → Tree) (d : Disk δ) : Prop :=
  Settled none before false d ∨ Prepared host before staged d ∨ Committed host before staged d

section Removal

variable {host : Host δ} {regime : Regime HandoffError} {past : List Point} {holds : Disk δ → Prop}
  {left : List Point → Disk δ → Prop} {label : Bool → Point} {place : Place}

theorem removeEntries_keeps (keeps : ∀ d tree, holds d → holds (d.put place tree))
    (safe : ∀ begun d, holds d → left (past ++ [label begun]) d) (begun : Bool) (records : List Record) :
    Triple (Under regime.before past holds) (removeEntries label place begun records)
      (fun _ => Under regime.before past holds) (regime.stops left) := by
  induction records generalizing begun with
  | nil => exact Regime.write (safe begun) fun d => keeps d _
  | cons record rest induction =>
    refine Triple.bind (Regime.write (safe begun) fun d => keeps d _) fun _ => ?_
    exact induction true

theorem rmtree_keeps (keeps : ∀ d tree, holds d → holds (d.put place tree))
    (safe : ∀ begun d, holds d → left (past ++ [label begun]) d) :
    Triple (Under regime.before past holds) (rmtree host label place)
      (fun _ => Under regime.before past holds) (regime.stops left) := by
  refine disk_bind_triple fun d => ?_
  exact (removeEntries_keeps keeps safe false _).strengthen fun _ holds => holds.2

end Removal

section Cleanup

variable {host : Host δ} {regime : Regime HandoffError} {past : List Point}
  {left : List Point → Disk δ → Prop} {journal : Option (Journal δ)} {target : Publication → Tree} {mark : Bool}
  (safe : ∀ d, Settled journal target mark d → left (past ++ [.cleanup]) d)

include safe

theorem cleanupScratch_settled :
    Triple (Under regime.before past (Settled journal target mark)) (cleanupScratch host)
      (fun _ => Under regime.before past (Settled journal target mark)) (regime.stops left) := by
  refine disk_bind_triple fun d => Triple.strengthen ?_ fun _ holds => holds.2
  apply Triple.ite
  · intro _
    refine Triple.bind (forM_invariant fun path _ => rmtree_keeps ?_ fun _ => safe) fun _ => ?_
    · exact fun d tree settled => ⟨settled.journal, settled.published, settled.committed⟩
    refine Triple.bind (rmtree_keeps ?_ fun _ => safe) fun _ => Regime.sync safe
    exact fun d tree settled => ⟨settled.journal, settled.published, settled.committed⟩
  · exact fun _ => Triple.skip

theorem removeBackups_settled :
    Triple (Under regime.before past (Settled journal target mark)) (removeBackups host)
      (fun _ => Under regime.before past (Settled journal target mark)) (regime.stops left) := by
  refine disk_bind_triple fun d => Triple.strengthen ?_ fun _ holds => holds.2
  apply Triple.ite
  · intro _
    refine Triple.bind (forM_invariant fun path _ => rmtree_keeps ?_ fun _ => safe) fun _ => ?_
    · exact fun d tree settled => ⟨settled.journal, settled.published, settled.committed⟩
    refine Regime.write safe ?_
    exact fun d settled => ⟨settled.journal, settled.published, settled.committed⟩
  · exact fun _ => Triple.skip

theorem removeDisplaced_settled :
    Triple (Under regime.before past (Settled journal target mark)) (removeDisplaced host)
      (fun _ => Under regime.before past (Settled journal target mark)) (regime.stops left) := by
  refine disk_bind_triple fun d => Triple.strengthen ?_ fun _ holds => holds.2
  apply Triple.ite
  · intro _
    refine Triple.bind (forM_invariant fun path _ => rmtree_keeps ?_ fun _ => safe) fun _ => ?_
    · exact fun d tree settled => ⟨settled.journal, settled.published, settled.committed⟩
    refine Regime.write safe ?_
    exact fun d settled => ⟨settled.journal, settled.published, settled.committed⟩
  · exact fun _ => Triple.skip

theorem removeTemporary_settled :
    Triple (Under regime.before past (Settled journal target mark)) removeTemporary
      (fun _ => Under regime.before past (Settled journal target mark)) (regime.stops left) := by
  refine disk_bind_triple fun d => Triple.strengthen ?_ fun _ holds => holds.2
  apply Triple.ite
  · intro _
    refine Regime.write safe ?_
    exact fun d settled => ⟨settled.journal, settled.published, settled.committed⟩
  · exact fun _ => Triple.skip

omit safe in
theorem validateScratchPath_holds {pre : Assertion (Process Point HandoffError (Disk δ))}
    {fails : Stop HandoffError → Assertion (Process Point HandoffError (Disk δ))} :
    Triple pre (validateScratchPath host host.scratch) (fun _ => pre) fails := by
  apply demand_holds
  refine ⟨rfl, ?_, ?_⟩
  · rw [List.isPrefixOf_iff_prefix]
    exact List.prefix_append _ _
  · have longer := List.length_pos_iff.mpr host.nonempty
    simp only [Host.scratch, List.length_append]
    omega

/-- The journal goes last, so every stop before finds it in place. -/
theorem cleanupTransaction_settled
    (done : ∀ d, Settled none target mark d → left (past ++ [.cleanup]) d) :
    Triple (Under regime.before past (Settled journal target mark)) (cleanupTransaction host host.scratch)
      (fun _ => Under regime.before past (Settled none target mark)) (regime.stops left) := by
  refine Triple.bind validateScratchPath_holds fun _ => ?_
  refine Triple.bind (cleanupScratch_settled safe) fun _ => ?_
  refine Triple.bind (removeBackups_settled safe) fun _ => ?_
  refine Triple.bind (removeDisplaced_settled safe) fun _ => ?_
  refine Triple.bind (removeTemporary_settled safe) fun _ => ?_
  refine disk_bind_triple fun d => ?_
  have unlinked : Triple (fun p => p.disk = d ∧ Under regime.before past (Settled journal target mark) p)
      (onlyIf d.journal.isSome (write .cleanup fun d => { d with journal := none }))
      (fun _ => Under regime.before past (Settled none target mark)) (regime.stops left) := by
    apply Triple.ite
    · intro _
      refine (Regime.write safe ?_).strengthen fun _ holds => holds.2
      exact fun d settled => ⟨rfl, settled.published, settled.committed⟩
    · intro absent
      apply Triple.pure
      rintro p ⟨rfl, starts, same, settled⟩
      exact ⟨starts, same, by simpa using absent, settled.published, settled.committed⟩
  exact Triple.bind unlinked fun _ => Regime.sync done

end Cleanup

theorem Disk.published_put {d : Disk δ} {path : Publication} {tree : Tree} :
    (d.put (.published path) tree).published path = tree :=
  Function.update_self ..

theorem Disk.published_put_ne {d : Disk δ} {path other : Publication} {tree : Tree} (apart : other ≠ path) :
    (d.put (.published path) tree).published other = d.published other :=
  Function.update_of_ne apart ..

theorem Disk.backup_put_ne {d : Disk δ} {path other : Publication} {tree : Tree} (apart : other ≠ path) :
    (d.put (.backup path) tree).tree (.backup other) = d.tree (.backup other) := by
  cases stored : d.backups with
  | none => simp [Disk.tree, Disk.put, stored]
  | some held => simp [Disk.tree, Disk.put, stored, Function.update_of_ne apart]

theorem Disk.replace_ok {d : Disk δ} {source destination : Place} {tree : Tree} (held : d.tree source = tree)
    (present : tree ≠ []) :
    Disk.replace source destination d = .ok ((), (d.put source []).put destination tree) := by
  unfold Disk.replace
  rw [held, if_neg present]

/-- Everything but the publication path itself is as recovery needs it. -/
structure Clearing (host : Host δ) (before staged : Publication → Tree) (done : List Publication)
    (path : Publication) (d : Disk δ) : Prop where
  journal : d.journal = some (journalFor host before staged .prepared)
  committed : d.committed = false
  real : ∀ path, host.realParents path = true
  supported : ∀ path, Supported (before path)
  pending : ∀ other, other ≠ path → Pending before staged d other
  restored : ∀ other ∈ done, d.published other = before other
  backup : before path ≠ [] → d.tree (.backup path) = before path
  waiting : path ∉ done

/-- The listed paths are restored. -/
structure Rolling (host : Host δ) (before staged : Publication → Tree) (done : List Publication) (d : Disk δ) :
    Prop extends Prepared host before staged d where
  restored : ∀ path ∈ done, d.published path = before path

section Rollback

variable {host : Host δ} {before staged : Publication → Tree} {regime : Regime HandoffError} {past : List Point}
  {done : List Publication} {path : Publication}

/-- A fault leaves a recoverable disk, unless it struck inside the removal of a published tree. -/
def RecoverableOr (host : Host δ) (before staged : Publication → Tree) (struck : List Point) (d : Disk δ) : Prop :=
  Recoverable host before staged d ∨ ∃ path, Point.removal path true ∈ struck

theorem Rolling.safe {struck : List Point} {d : Disk δ} (rolling : Rolling host before staged done d) :
    RecoverableOr host before staged struck d :=
  .inl (.inr (.inl rolling.toPrepared))

theorem Clearing.put {d : Disk δ} (clearing : Clearing host before staged done path d) (tree : Tree) :
    Clearing host before staged done path (d.put (.published path) tree) := by
  refine ⟨clearing.journal, clearing.committed, clearing.real, clearing.supported, ?_, ?_, clearing.backup,
    clearing.waiting⟩
  · intro other apart
    have pending := clearing.pending other apart
    unfold Pending at pending ⊢
    rw [Disk.published_put_ne apart]
    exact pending
  · intro other member
    have apart : other ≠ path := fun same => clearing.waiting (same ▸ member)
    rw [Disk.published_put_ne apart]
    exact clearing.restored other member

/-- The path is gone and its backup, if it had content, is still there. -/
def Cleared (host : Host δ) (before staged : Publication → Tree) (done : List Publication) (path : Publication)
    (d : Disk δ) : Prop :=
  Clearing host before staged done path d ∧ d.published path = []

theorem Cleared.rolling {d : Disk δ} (cleared : Cleared host before staged done path d) :
    Rolling host before staged done d := by
  obtain ⟨clearing, gone⟩ := cleared
  refine ⟨⟨clearing.journal, clearing.committed, clearing.real, clearing.supported, ?_⟩, clearing.restored⟩
  intro other
  by_cases same : other = path
  · rw [same]
    exact .inr ⟨.inl gone, clearing.backup⟩
  · exact clearing.pending other same

theorem Clearing.cleared {d : Disk δ} (clearing : Clearing host before staged done path d) :
    Cleared host before staged done path (d.put (.published path) []) :=
  ⟨clearing.put [], Disk.published_put⟩

/-- Once an entry is gone only the end of the removal makes the disk recoverable again. -/
theorem removeEntries_cleared (records : List Record) :
    Triple (Under regime.before past (Clearing host before staged done path))
      (removeEntries (.removal path) (.published path) true records)
      (fun _ => Under regime.before past (Cleared host before staged done path))
      (regime.stops (RecoverableOr host before staged)) := by
  have struck (d : Disk δ) : RecoverableOr host before staged (past ++ [.removal path true]) d :=
    .inr ⟨path, List.mem_append_right _ List.mem_cons_self⟩
  induction records with
  | nil => exact Regime.write (fun d _ => struck d) fun d => Clearing.cleared
  | cons record rest induction =>
    refine Triple.bind (Regime.write (fun d _ => struck d) fun d clearing => clearing.put _) fun _ => ?_
    exact induction

theorem remove_cleared :
    Triple
      (Under regime.before past fun d => Rolling host before staged done d ∧ Clearing host before staged done path d)
      (remove host path) (fun _ => Under regime.before past (Cleared host before staged done path))
      (regime.stops (RecoverableOr host before staged)) := by
  have first (change : Disk δ → Tree) :
      Triple
        (Under regime.before past fun d =>
          Rolling host before staged done d ∧ Clearing host before staged done path d)
        (write (.removal path false) fun d => d.put (.published path) (change d))
        (fun _ => Under regime.before past (Clearing host before staged done path))
        (regime.stops (RecoverableOr host before staged)) :=
    Regime.write (fun d holds => holds.1.safe) fun d holds => holds.2.put _
  have whole :
      Triple
        (Under regime.before past fun d =>
          Rolling host before staged done d ∧ Clearing host before staged done path d)
        (write (.removal path false) fun d => d.put (.published path) [])
        (fun _ => Under regime.before past (Cleared host before staged done path))
        (regime.stops (RecoverableOr host before staged)) :=
    Regime.write (fun d holds => holds.1.safe) fun d holds => holds.2.cleared
  refine disk_bind_triple fun now => Triple.strengthen ?_ fun _ holds => holds.2
  apply Triple.ite
  · intro _
    refine disk_bind_triple fun seen => Triple.strengthen ?_ fun _ holds => holds.2
    cases host.order (seen.tree (.published path)) with
    | nil => exact whole
    | cons record rest => exact Triple.bind (first _) fun _ => removeEntries_cleared rest
  · exact fun _ => whole

/-- The backup goes back in one step. -/
theorem restoreBackup_restored [DecidableEq δ] (index : Nat) (content : before path ≠ []) :
    Triple (Under regime.before past (Cleared host before staged done path))
      (restoreBackup host (Plan.entry index (unitOf host before staged path)))
      (fun _ => Under regime.before past (Rolling host before staged (done ++ [path])))
      (regime.stops (RecoverableOr host before staged)) := by
  refine disk_bind_triple fun now => ?_
  refine Triple.given (now.tree (.backup path) ≠ []) ?_ fun present => ?_
  · rintro p ⟨rfl, _, _, cleared, _⟩
    rw [cleared.backup content]
    exact content
  refine Triple.bind (demand_holds present) fun _ => Triple.strengthen ?_ fun _ holds => holds.2
  refine reads_bind_triple (fun d => host.digest (d.tree (.backup path))) ?_ fun seen => ?_
  · rintro p ⟨_, _, cleared, _⟩
    have whole : p.disk.tree (.backup path) = before path := cleared.backup content
    apply snapshotAt_run
    · exact whole ▸ content
    · exact whole ▸ cleared.supported path
  refine Triple.given (some seen = contentOf host (before path)) ?_ fun kept => ?_
  · rintro p ⟨rfl, _, _, cleared, _⟩
    rw [cleared.backup content, contentOf, if_neg content]
  refine Triple.bind (demand_holds kept) fun _ => Triple.strengthen ?_ fun _ holds => holds.2
  apply Regime.act
  · intro d cleared
    exact cleared.rolling.safe
  · intro d cleared
    have whole : d.tree (.backup path) = before path := cleared.1.backup content
    refine ⟨(), (d.put (.backup path) []).put (.published path) (before path), ?_, ?_⟩
    · exact Disk.replace_ok whole content
    · refine ⟨⟨cleared.1.journal, cleared.1.committed, cleared.1.real, cleared.1.supported, ?_⟩, ?_⟩
      · intro other
        by_cases same : other = path
        · rw [same]
          exact .inl Disk.published_put
        · have pending := cleared.1.pending other same
          unfold Pending at pending ⊢
          rw [Disk.published_put_ne same]
          refine pending.imp id fun changed => ⟨changed.1, fun full => ?_⟩
          exact (Disk.backup_put_ne same).trans (changed.2 full)
      · intro other member
        rcases List.mem_append.mp member with earlier | last
        · have apart : other ≠ path := fun same => cleared.1.waiting (same ▸ earlier)
          rw [Disk.published_put_ne apart]
          exact cleared.1.restored other earlier
        · rw [List.mem_singleton.mp last]
          exact Disk.published_put

theorem Pending.supported {d : Disk δ} (pending : Pending before staged d path)
    (old : Supported (before path)) (new : Supported (staged path)) : Supported (d.published path) := by
  rcases pending with same | ⟨gone | moved, _⟩
  · rw [same]
    exact old
  · rw [gone]
    intro record member
    cases member
  · rw [moved]
    exact new

/-- A path that no longer looks as before holds the new content or nothing, and has its backup. -/
theorem Rolling.clearing {d : Disk δ} (rolling : Rolling host before staged done d) (waiting : path ∉ done)
    (present : staged path ≠ []) (changed : contentOf host (d.published path) ≠ contentOf host (before path)) :
    (contentOf host (d.published path) = none ∨
      contentOf host (d.published path) = some (host.digest (staged path))) ∧
    Clearing host before staged done path d := by
  rcases rolling.pending path with old | ⟨either, backup⟩
  · exact absurd (congrArg (contentOf host) old) changed
  · refine ⟨?_, rolling.journal, rolling.committed, rolling.real, rolling.supported,
      fun other _ => rolling.pending other, rolling.restored, backup, waiting⟩
    rcases either with gone | new
    · rw [gone]
      exact .inl rfl
    · rw [new, contentOf, if_neg present]
      exact .inr rfl

theorem Rolling.append {d : Disk δ} (rolling : Rolling host before staged done d)
    (restored : d.published path = before path) : Rolling host before staged (done ++ [path]) d := by
  refine ⟨rolling.toPrepared, fun other member => ?_⟩
  rcases List.mem_append.mp member with earlier | last
  · exact rolling.restored other earlier
  · rw [List.mem_singleton.mp last]
    exact restored

/-- The path is emptied, whatever was seen there. -/
theorem clear_cleared (collisionFree : Function.Injective host.digest) (waiting : path ∉ done)
    (present : staged path ≠ []) {seen : Option δ} (changed : seen ≠ contentOf host (before path)) :
    Triple
      (fun p => contentOf host (p.disk.published path) = seen ∧
        Under regime.before past (Rolling host before staged done) p)
      (onlyIf seen.isSome (remove host path))
      (fun _ => Under regime.before past (Cleared host before staged done path))
      (regime.stops (RecoverableOr host before staged)) := by
  apply Triple.ite
  · intro _
    refine remove_cleared.strengthen ?_
    rintro p ⟨rfl, starts, same, rolling⟩
    exact ⟨starts, same, rolling, (rolling.clearing waiting present changed).2⟩
  · intro absent
    apply Triple.pure
    rintro p ⟨rfl, starts, same, rolling⟩
    refine ⟨starts, same, (rolling.clearing waiting present changed).2, ?_⟩
    have nothing : contentOf host (p.disk.published path) = none := by simpa using absent
    have empty : contentOf host [] = none := rfl
    exact contentOf_inj collisionFree (nothing.trans empty.symm)

/-- A path without old content is done once it is empty. -/
theorem restore_rolling [DecidableEq δ] (index : Nat) :
    Triple (Under regime.before past (Cleared host before staged done path))
      (onlyIf (contentOf host (before path)).isSome
        (restoreBackup host (Plan.entry index (unitOf host before staged path))))
      (fun _ => Under regime.before past (Rolling host before staged (done ++ [path])))
      (regime.stops (RecoverableOr host before staged)) := by
  apply Triple.ite
  · intro existed
    exact restoreBackup_restored index (contentOf_isSome.mp existed)
  · intro absent
    apply Triple.pure
    rintro p ⟨starts, same, cleared⟩
    have nothing : before path = [] := by
      by_contra content
      exact absent (contentOf_isSome.mpr content)
    exact ⟨starts, same, cleared.rolling.append (cleared.2.trans nothing.symm)⟩

theorem recoverEntry_rolling [DecidableEq δ] (collisionFree : Function.Injective host.digest)
    (stageable : ∀ path, staged path ≠ [] ∧ Supported (staged path)) (index : Nat) (waiting : path ∉ done) :
    Triple (Under regime.before past (Rolling host before staged done))
      (recoverEntry host (Plan.entry index (unitOf host before staged path)))
      (fun _ => Under regime.before past (Rolling host before staged (done ++ [path])))
      (regime.stops (RecoverableOr host before staged)) := by
  obtain ⟨present, new⟩ := stageable path
  refine Triple.given (∀ path, host.realParents path = true) (fun p under => under.2.2.real) fun real => ?_
  refine Triple.bind (demand_holds (real path)) fun _ => ?_
  refine reads_bind_triple (fun d => contentOf host (d.published path)) ?_ fun seen => ?_
  · rintro p ⟨_, _, rolling⟩
    exact observe_run ((rolling.pending path).supported (rolling.supported path) new)
  apply Triple.ite
  · intro unchanged
    apply Triple.pure
    rintro p ⟨rfl, starts, same, rolling⟩
    exact ⟨starts, same, rolling.append (contentOf_inj collisionFree unchanged)⟩
  · intro changed
    refine Triple.given (seen = none ∨ seen = some (host.digest (staged path))) ?_ fun known => ?_
    · rintro p ⟨rfl, _, _, rolling⟩
      exact (rolling.clearing waiting present changed).1
    refine Triple.bind (demand_holds known) fun _ => ?_
    refine Triple.bind (clear_cleared collisionFree waiting present changed) fun _ => ?_
    refine Triple.bind (demand_holds (real path)) fun _ => disk_bind_triple fun now => ?_
    refine Triple.given (now.published path = []) ?_ fun gone => ?_
    · rintro p ⟨rfl, _, _, cleared⟩
      exact cleared.2
    refine Triple.bind (demand_holds gone) fun _ => Triple.strengthen ?_ fun _ holds => holds.2
    exact Triple.bind (restore_rolling index) fun _ => Regime.sync fun d => Rolling.safe

/-- Recovery of a prepared journal visits the paths from the last to the first. -/
theorem recoverEntries_settled [DecidableEq δ] (collisionFree : Function.Injective host.digest)
    (stageable : ∀ path, staged path ≠ [] ∧ Supported (staged path)) :
    Triple (Under regime.before past (Prepared host before staged))
      ((journalFor host before staged .prepared).entries.reverse.forM (recoverEntry host))
      (fun _ => Under regime.before past
        (Settled (some (journalFor host before staged .prepared)) before false))
      (regime.stops (RecoverableOr host before staged)) := by
  have paths : (journalFor host before staged .prepared).entries.map (·.relative) = publicationPaths := rfl
  have apart : ((journalFor host before staged .prepared).entries.reverse.map (·.relative)).Nodup := by
    rw [List.map_reverse, paths]
    decide
  have visited : Triple (Under regime.before past (Rolling host before staged []))
      ((journalFor host before staged .prepared).entries.reverse.forM (recoverEntry host))
      (fun _ => Under regime.before past (Rolling host before staged
        ((journalFor host before staged .prepared).entries.reverse.map (·.relative))))
      (regime.stops (RecoverableOr host before staged)) := by
    refine forM_triple (fun done => Under regime.before past (Rolling host before staged (done.map Entry.relative))) ?_
    intro done entry rest whole
    have member : entry ∈ (journalFor host before staged .prepared).entries := by
      rw [← List.mem_reverse, ← whole]
      exact List.mem_append_right _ List.mem_cons_self
    obtain ⟨index, path, rfl⟩ := journalFor_entry member
    rw [← whole, List.map_append, List.map_cons] at apart
    rw [List.map_append]
    apply recoverEntry_rolling collisionFree stageable index
    exact fun earlier => (List.nodup_append.mp apart).2.2 _ earlier _ List.mem_cons_self rfl
  refine visited.weaken ?_ ?_ fun _ _ => id
  · rintro p ⟨starts, same, prepared⟩
    exact ⟨starts, same, prepared, fun _ member => by cases member⟩
  · rintro _ p ⟨starts, same, rolling⟩
    refine ⟨starts, same, rolling.journal, ?_, rolling.committed⟩
    funext path
    apply rolling.restored path
    rw [List.map_reverse, paths]
    cases path <;> decide

/-- The checks of the journal accept what `publish` writes. -/
theorem journalEntries_accepts {state : JournalState} {pre : Assertion (Process Point HandoffError (Disk δ))}
    {fails : Stop HandoffError → Assertion (Process Point HandoffError (Disk δ))} :
    Triple pre (journalEntries host (journalFor host before staged state))
      (fun entries p => entries = (journalFor host before staged state).entries ∧ pre p) fails := by
  refine Triple.bind (demand_holds ⟨rfl, rfl⟩) fun _ => Triple.bind (demand_holds rfl) fun _ => ?_
  exact Triple.bind (demand_holds ⟨rfl, rfl⟩) fun _ => Triple.pure fun p holds => ⟨rfl, holds⟩

/-- Where recovery ends: no journal, and the content the commit mark stands for. -/
def Finished (before staged : Publication → Tree) (d : Disk δ) : Prop :=
  Settled none before false d ∨ Settled none staged true d

theorem Settled.safe_prepared {struck : List Point} {d : Disk δ}
    (settled : Settled (some (journalFor host before staged .prepared)) before false d)
    (real : ∀ path, host.realParents path = true) (supported : ∀ path, Supported (before path)) :
    RecoverableOr host before staged struck d := by
  refine .inl (.inr (.inl ⟨settled.journal, settled.committed, real, supported, fun path => .inl ?_⟩))
  rw [settled.published]

theorem recover_absent [DecidableEq δ] {target : Publication → Tree} {mark : Bool} :
    Triple (Under regime.before past (Settled none target mark)) (recover host)
      (fun _ => Under regime.before past (Settled none target mark))
      (regime.stops (RecoverableOr host before staged)) := by
  refine disk_bind_triple fun now => Triple.given (now.journal = none) ?_ fun absent => ?_
  · rintro p ⟨rfl, _, _, settled⟩
    exact settled.journal
  rw [absent]
  exact Triple.pure fun p holds => holds.2

theorem recover_prepared [DecidableEq δ] (collisionFree : Function.Injective host.digest)
    (stageable : ∀ path, staged path ≠ [] ∧ Supported (staged path)) :
    Triple (Under regime.before past (Prepared host before staged)) (recover host)
      (fun _ => Under regime.before past (Settled none before false))
      (regime.stops (RecoverableOr host before staged)) := by
  refine Triple.given _ (fun p under => And.intro under.2.2.real under.2.2.supported) fun facts => ?_
  refine disk_bind_triple fun now => ?_
  refine Triple.given (now.journal = some (journalFor host before staged .prepared)) ?_ fun found => ?_
  · rintro p ⟨rfl, _, _, prepared⟩
    exact prepared.journal
  rw [found]
  refine Triple.strengthen ?_ fun _ holds => holds.2
  refine Triple.bind journalEntries_accepts fun entries => Triple.assume fun same => ?_
  subst same
  refine Triple.bind validateScratchPath_holds fun _ => ?_
  refine Triple.bind (recoverEntries_settled collisionFree stageable) fun _ => ?_
  apply cleanupTransaction_settled
  · exact fun d settled => settled.safe_prepared facts.1 facts.2
  · exact fun d settled => .inl (.inl settled)

/-- Nothing is raised here, so the journal does not survive as a warning. -/
theorem recover_committed [DecidableEq δ] (silent : ∀ faults, ¬regime.after faults) :
    Triple (Under regime.before past (Settled (some (journalFor host before staged .committed)) staged true))
      (recover host) (fun _ => Under regime.before past (Settled none staged true))
      (regime.stops (RecoverableOr host before staged)) := by
  refine disk_bind_triple fun now => ?_
  refine Triple.given (now.journal = some (journalFor host before staged .committed)) ?_ fun found => ?_
  · rintro p ⟨rfl, _, _, committed⟩
    exact committed.journal
  rw [found]
  refine Triple.strengthen ?_ fun _ holds => holds.2
  refine Triple.bind journalEntries_accepts fun entries => Triple.assume fun same => ?_
  refine Triple.bind validateScratchPath_holds fun _ => ?_
  refine Regime.unhandled silent (cleanupTransaction_settled ?_ ?_)
  · exact fun d settled => .inl (.inr (.inr (.inl settled)))
  · exact fun d settled => .inl (.inr (.inr (.inr settled)))

/-- Recovery from any disk a stop can leave. -/
theorem recover_finished [DecidableEq δ] (silent : ∀ faults, ¬regime.after faults)
    (collisionFree : Function.Injective host.digest)
    (stageable : ∀ path, staged path ≠ [] ∧ Supported (staged path)) :
    Triple (Under regime.before past (Recoverable host before staged)) (recover host)
      (fun _ => Under regime.before past (Finished before staged))
      (regime.stops (RecoverableOr host before staged)) := by
  rintro p ⟨starts, same, original | prepared | committed | finished⟩
  · exact (recover_absent.conclude (fun _ p => Under.weaken (fun _ => id) (fun _ => .inl) p)
      fun _ _ => id) p ⟨starts, same, original⟩
  · exact ((recover_prepared collisionFree stageable).conclude
      (fun _ p => Under.weaken (fun _ => id) (fun _ => .inl) p) fun _ _ => id) p ⟨starts, same, prepared⟩
  · exact ((recover_committed silent).conclude (fun _ p => Under.weaken (fun _ => id) (fun _ => .inr) p)
      fun _ _ => id) p ⟨starts, same, committed⟩
  · exact (recover_absent.conclude (fun _ p => Under.weaken (fun _ => id) (fun _ => .inr) p)
      fun _ _ => id) p ⟨starts, same, finished⟩

end Rollback

end Darling.Handoff
