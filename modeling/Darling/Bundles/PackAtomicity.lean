import Darling.Bundles.Pack

/-! A crash at any step of `pack`, and crashes of the recoveries after it, leave the old output or the
new package. -/
namespace Darling.Bundles

variable {ρ : Type}

/-- What the output has to become. -/
def target (initial : Option (Node ρ)) (package : List ρ) (committed : Bool) : Option (Node ρ) :=
  if committed then some (.directory package) else initial

def journalOf (host : Host ρ) (initial : Option (Node ρ)) (state : Status) : Journal :=
  { version := 1, state, output := host.output, existed := initial.isSome }

/-- The output is what it has to be; the journal, if it is still there, has nothing left to undo. -/
structure Settled (host : Host ρ) (initial : Option (Node ρ)) (package : List ρ) (committed : Bool) (d : Disk ρ) :
    Prop where
  mark : d.committed = committed
  output : d.output = target initial package committed
  journal : d.journal = none ∨ committed = true ∧ d.journal = some (journalOf host initial .committed) ∨
    committed = false ∧ d.journal = some (journalOf host initial .prepared) ∧ d.backup = none

/-- The journal is prepared and the old output is in the backup, or there was none. -/
structure Displaced (host : Host ρ) (initial : Option (Node ρ)) (d : Disk ρ) : Prop where
  mark : d.committed = false
  journal : d.journal = some (journalOf host initial .prepared)
  backup : d.backup = initial

/-- What a crash may leave. -/
def Recoverable (host : Host ρ) (initial : Option (Node ρ)) (package : List ρ) (committed : Bool) (d : Disk ρ) : Prop :=
  Settled host initial package committed d ∨ committed = false ∧ Displaced host initial d

structure Finished (initial : Option (Node ρ)) (package : List ρ) (committed : Bool) (d : Disk ρ) : Prop where
  mark : d.committed = committed
  output : d.output = target initial package committed
  journal : d.journal = none
  backup : d.backup = none
  staged : d.staged = none
  temporary : d.temporary = none

section Disks

@[simp] theorem node_put (d : Disk ρ) (place : Place) (node : Option (Node ρ)) :
    (d.put place node).node place = node := by
  cases place <;> rfl

theorem put_node {d : Disk ρ} {place : Place} {node : Option (Node ρ)} (same : d.node place = node) :
    d.put place node = d := by
  subst same
  cases place <;> rfl

end Disks

section Recovery

variable {host : Host ρ} {initial : Option (Node ρ)} {package : List ρ} {committed : Bool}
  {regime : Regime PackError} {past : List Point}

/-- A removal keeps what does not depend on a node that is there. -/
theorem packRemove_removes [DecidableEq ρ] {place : Place} {holds : Disk ρ → Prop} {left : List Point → Disk ρ → Prop}
    (keeps : ∀ d node, holds d → d.node place ≠ none → holds (d.put place node))
    (safe : ∀ d, holds d → left (past ++ [.remove place]) d) :
    Triple (Under regime.before past holds) (packRemove host place)
      (fun _ => Under regime.before past fun d => holds d ∧ d.node place = none) (regime.stops left) := by
  have emptied (d : Disk ρ) (held : holds d) : holds (d.put place none) := by
    by_cases absent : d.node place = none
    · rwa [put_node absent]
    · exact keeps d none held absent
  have last : Triple (Under regime.before past holds) (write (.remove place) fun d => d.put place none)
      (fun _ => Under regime.before past fun d => holds d ∧ d.node place = none) (regime.stops left) :=
    Regime.write safe fun d held => ⟨emptied d held, node_put d place none⟩
  refine disk_bind_triple fun now => ?_
  cases there : now.node place with
  | none =>
    apply Triple.pure
    rintro p ⟨rfl, starts, same, held⟩
    exact ⟨starts, same, held, there⟩
  | some node =>
    refine Triple.strengthen ?_ fun _ given => given.2
    cases node with
    | file bytes => exact last
    | directory entries =>
      refine Triple.bind (forM_invariant fun entry _ => ?_) fun _ => last
      refine Regime.write safe fun d held => ?_
      unfold Disk.unlink
      split
      · rename_i found
        exact keeps d _ held (by rw [found]; nofun)
      · exact held

theorem packCleanup_finishes [DecidableEq ρ] {left : List Point → Disk ρ → Prop}
    (safe : ∀ points d, Settled host initial package committed d → left points d) :
    Triple (Under regime.before past (Settled host initial package committed)) (packCleanup host)
      (fun _ => Under regime.before past (Finished initial package committed)) (regime.stops left) := by
  have backups : Triple (Under regime.before past (Settled host initial package committed)) (packRemove host .backup)
      (fun _ => Under regime.before past fun d => Settled host initial package committed d ∧ d.backup = none)
      (regime.stops left) := by
    refine packRemove_removes (fun d node settled there => ⟨settled.mark, settled.output, ?_⟩) (safe _)
    rcases settled.journal with absent | ⟨mark, journal⟩ | ⟨_, _, absent⟩
    · exact .inl absent
    · exact .inr (.inl ⟨mark, journal⟩)
    · exact absurd absent there
  have stages : Triple
      (Under regime.before past fun d => Settled host initial package committed d ∧ d.backup = none)
      (packRemove host .staged)
      (fun _ => Under regime.before past fun d =>
        (Settled host initial package committed d ∧ d.backup = none) ∧ d.staged = none) (regime.stops left) :=
    packRemove_removes (fun d node held _ => ⟨⟨held.1.mark, held.1.output, held.1.journal⟩, held.2⟩)
      fun d held => safe _ d held.1
  refine Triple.bind backups fun _ => Triple.bind stages fun _ => ?_
  -- the journal goes last but for its temporary
  have journals (now : Disk ρ) : Triple
      (fun p => p.disk = now ∧ Under regime.before past (fun d =>
        (Settled host initial package committed d ∧ d.backup = none) ∧ d.staged = none) p)
      (onlyIf now.journal.isSome (write .cleanup fun d => { d with journal := none }))
      (fun _ => Under regime.before past fun d =>
        Settled host initial package committed d ∧ d.backup = none ∧ d.staged = none ∧ d.journal = none)
      (regime.stops left) := by
    apply Triple.ite
    · intro _
      refine Triple.strengthen (Regime.write (fun d held => safe _ d held.1.1) fun d held => ?_) fun _ given => given.2
      exact ⟨⟨held.1.1.mark, held.1.1.output, .inl rfl⟩, held.1.2, held.2, rfl⟩
    · intro absent
      apply Triple.pure
      rintro p ⟨rfl, starts, same, held⟩
      exact ⟨starts, same, held.1.1, held.1.2, held.2, Option.not_isSome_iff_eq_none.mp absent⟩
  refine disk_bind_triple fun now => Triple.bind (journals now) fun _ => ?_
  have temporaries (now : Disk ρ) : Triple
      (fun p => p.disk = now ∧ Under regime.before past (fun d =>
        Settled host initial package committed d ∧ d.backup = none ∧ d.staged = none ∧ d.journal = none) p)
      (onlyIf now.temporary.isSome (write .cleanup fun d => { d with temporary := none }))
      (fun _ => Under regime.before past (Finished initial package committed)) (regime.stops left) := by
    apply Triple.ite
    · intro _
      refine Triple.strengthen (Regime.write (fun d held => safe _ d held.1) fun d held => ?_) fun _ given => given.2
      exact ⟨held.1.mark, held.1.output, held.2.2.2, held.2.1, held.2.2.1, rfl⟩
    · intro absent
      apply Triple.pure
      rintro p ⟨rfl, starts, same, held⟩
      exact ⟨starts, same, held.1.mark, held.1.output, held.2.2.2, held.2.1, held.2.2.1,
        Option.not_isSome_iff_eq_none.mp absent⟩
  refine disk_bind_triple fun now => Triple.bind (temporaries now) fun _ => ?_
  exact Regime.sync fun d finished => safe _ d ⟨finished.mark, finished.output, .inl finished.journal⟩

/-- A prepared journal over a recoverable disk: the old output is in the backup, or already in place. -/
theorem Recoverable.prepared {d : Disk ρ} (recoverable : Recoverable host initial package false d)
    (journal : d.journal = some (journalOf host initial .prepared)) :
    Displaced host initial d ∨ Settled host initial package false d ∧ d.backup = none := by
  rcases recoverable with settled | ⟨_, displaced⟩
  · rcases settled.journal with absent | ⟨mark, _⟩ | ⟨_, _, absent⟩
    · rw [absent] at journal
      cases journal
    · cases mark
    · exact .inr ⟨settled, absent⟩
  · exact .inl displaced

/-- A removal of the output while the backup keeps the old one, or there was none. -/
theorem removeOutput_displaced [DecidableEq ρ] {left : List Point → Disk ρ → Prop}
    (safe : ∀ points d, Recoverable host initial package false d → left points d) :
    Triple (Under regime.before past (Displaced host initial)) (packRemove host .output)
      (fun _ => Under regime.before past fun d => Displaced host initial d ∧ d.output = none) (regime.stops left) :=
  packRemove_removes (fun _ _ displaced _ => ⟨displaced.mark, displaced.journal, displaced.backup⟩)
    fun d displaced => safe _ d (.inr ⟨rfl, displaced⟩)

/-- The backup goes back to the output. -/
theorem restore_settles {node : Node ρ} {left : List Point → Disk ρ → Prop}
    (safe : ∀ points d, Recoverable host (some node) package false d → left points d) :
    Triple (Under regime.before past fun d => Displaced host (some node) d ∧ d.output = none)
      (act .restore (Disk.replace .backup .output))
      (fun _ => Under regime.before past (Settled host (some node) package false)) (regime.stops left) := by
  refine Regime.act (fun d held => safe _ d (.inr ⟨rfl, held.1⟩)) fun d held => ?_
  obtain ⟨displaced, gone⟩ := held
  refine ⟨(), { d with backup := none, output := some node }, ?_, displaced.mark, rfl,
    .inr (.inr ⟨rfl, displaced.journal, rfl⟩)⟩
  have there : d.node .backup = some node := displaced.backup
  have free : d.node .output = none := gone
  simp only [Disk.replace, there, free, replaceable, if_true]
  rfl

/-- A rollback ends with the old output in place. -/
theorem rollBack_settles [DecidableEq ρ] {left : List Point → Disk ρ → Prop}
    (safe : ∀ points d, Recoverable host initial package false d → left points d) :
    Triple
      (Under regime.before past fun d =>
        Recoverable host initial package false d ∧ d.journal = some (journalOf host initial .prepared))
      (rollBack host (journalOf host initial .prepared))
      (fun _ => Under regime.before past (Settled host initial package false)) (regime.stops left) := by
  have settling (points : List Point) (d : Disk ρ) (settled : Settled host initial package false d) : left points d :=
    safe points d (.inl settled)
  refine disk_bind_triple fun now => ?_
  cases initial with
  | none =>
    refine Triple.given (now.backup.isSome = false) ?_ fun absent => ?_
    · rintro p ⟨rfl, _, _, recoverable, journal⟩
      rcases recoverable.prepared journal with displaced | ⟨_, absent⟩
      · rw [displaced.backup]
        rfl
      · rw [absent]
        rfl
    rw [absent]
    have entered : ∀ p : Process Point PackError (Disk ρ),
        (p.disk = now ∧ Under regime.before past (fun d => Recoverable host none package false d ∧
          d.journal = some (journalOf host none .prepared)) p) → Under regime.before past (Displaced host none) p := by
      rintro p ⟨_, starts, same, recoverable, journal⟩
      refine ⟨starts, same, ?_⟩
      rcases recoverable.prepared journal with displaced | ⟨settled, absent⟩
      · exact displaced
      · exact ⟨settled.mark, journal, absent⟩
    refine Triple.bind ((removeOutput_displaced safe).strengthen entered) fun _ => ?_
    have removed (d : Disk ρ) (held : Displaced host none d ∧ d.output = none) : Settled host none package false d :=
      ⟨held.1.mark, held.2, .inr (.inr ⟨rfl, held.1.journal, held.1.backup⟩)⟩
    exact (Regime.sync fun d held => settling _ d (removed d held)).conclude
      (fun _ p => Under.weaken (fun _ => id) removed p) fun _ _ => id
  | some node =>
    apply Triple.ite
    · intro kept
      have entered : ∀ p : Process Point PackError (Disk ρ),
          (p.disk = now ∧ Under regime.before past (fun d => Recoverable host (some node) package false d ∧
            d.journal = some (journalOf host (some node) .prepared)) p) →
            Under regime.before past (Displaced host (some node)) p := by
        rintro p ⟨rfl, starts, same, recoverable, journal⟩
        refine ⟨starts, same, ?_⟩
        rcases recoverable.prepared journal with displaced | ⟨_, absent⟩
        · exact displaced
        · rw [absent] at kept
          cases kept
      refine Triple.bind ((removeOutput_displaced safe).strengthen entered) fun _ => ?_
      exact Triple.bind (restore_settles safe) fun _ => Regime.sync (settling _)
    · intro absent
      have entered : ∀ p : Process Point PackError (Disk ρ),
          (p.disk = now ∧ Under regime.before past (fun d => Recoverable host (some node) package false d ∧
            d.journal = some (journalOf host (some node) .prepared)) p) →
            now.output.isSome = true ∧ Under regime.before past (Settled host (some node) package false) p := by
        rintro p ⟨rfl, starts, same, recoverable, journal⟩
        rcases recoverable.prepared journal with displaced | ⟨settled, _⟩
        · rw [displaced.backup] at absent
          exact absurd rfl absent
        · refine ⟨?_, starts, same, settled⟩
          rw [settled.output]
          rfl
      refine Triple.given (now.output.isSome = true) (fun p given => (entered p given).1) fun there => ?_
      exact Triple.strengthen (demand_holds there) fun p given => (entered p given).2

theorem recoverPack_finishes [DecidableEq ρ] :
    Triple (Under regime.before past (Recoverable host initial package committed)) (recoverPack host)
      (fun _ => Under regime.before past (Finished initial package committed))
      (regime.stops fun _ => Recoverable host initial package committed) := by
  have cleaning : Triple (Under regime.before past (Settled host initial package committed)) (packCleanup host)
      (fun _ => Under regime.before past (Finished initial package committed))
      (regime.stops fun _ => Recoverable host initial package committed) :=
    packCleanup_finishes fun _ _ => .inl
  refine disk_bind_triple fun now => ?_
  cases found : now.journal with
  | none =>
    refine cleaning.strengthen ?_
    rintro p ⟨rfl, starts, same, settled | ⟨_, displaced⟩⟩
    · exact ⟨starts, same, settled⟩
    · rw [displaced.journal] at found
      cases found
  | some journal =>
    refine Triple.given (committed = true ∧ journal = journalOf host initial .committed ∨
      committed = false ∧ journal = journalOf host initial .prepared) ?_ fun known => ?_
    · rintro p ⟨rfl, _, _, settled | ⟨mark, displaced⟩⟩
      · rcases settled.journal with absent | ⟨mark, same⟩ | ⟨mark, same, _⟩
        · rw [absent] at found
          cases found
        · exact .inl ⟨mark, Option.some.inj (found.symm.trans same)⟩
        · exact .inr ⟨mark, Option.some.inj (found.symm.trans same)⟩
      · exact .inr ⟨mark, Option.some.inj (found.symm.trans displaced.journal)⟩
    rcases known with ⟨rfl, rfl⟩ | ⟨rfl, rfl⟩
    · refine Triple.bind (demand_holds ⟨rfl, rfl⟩) fun _ => ?_
      refine cleaning.strengthen ?_
      rintro p ⟨_, starts, same, settled | ⟨mark, _⟩⟩
      · exact ⟨starts, same, settled⟩
      · cases mark
    · refine Triple.bind (demand_holds ⟨rfl, rfl⟩) fun _ => ?_
      refine Triple.bind ((rollBack_settles fun _ _ => id).strengthen ?_) fun _ => cleaning
      rintro p ⟨rfl, starts, same, recoverable⟩
      exact ⟨starts, same, recoverable, found⟩

end Recovery

section Packing

variable {host : Host ρ} {initial : Option (Node ρ)} {package : List ρ} {regime : Regime PackError} {past : List Point}

/-- A crash of `pack` leaves a disk that the recovery understands. -/
def Interrupted (host : Host ρ) (initial : Option (Node ρ)) (package : List ρ) (d : Disk ρ) : Prop :=
  ∃ committed, Recoverable host initial package committed d

/-- The package is staged beside the old output. -/
structure Staged (initial : Option (Node ρ)) (package : List ρ) (d : Disk ρ) : Prop where
  mark : d.committed = false
  output : d.output = initial
  journal : d.journal = none
  backup : d.backup = none
  staged : d.staged = some (.directory package)

theorem unjournaled_interrupted {d : Disk ρ} (mark : d.committed = false) (output : d.output = initial)
    (journal : d.journal = none) : Interrupted host initial package d :=
  ⟨false, .inl ⟨mark, output, .inl journal⟩⟩

theorem writePackage_stages :
    Triple (Under regime.before past (Finished initial package false)) (writePackage package)
      (fun _ => Under regime.before past (Staged initial package))
      (regime.stops fun _ => Interrupted host initial package) := by
  let written (count : Nat) (d : Disk ρ) : Prop :=
    d.committed = false ∧ d.output = initial ∧ d.journal = none ∧ d.backup = none ∧
      d.staged = some (.directory (package.take count))
  have safe (count : Nat) (d : Disk ρ) (held : written count d) : Interrupted host initial package d :=
    unjournaled_interrupted held.1 held.2.1 held.2.2.1
  refine disk_bind_triple fun now => Triple.given (now.staged.isNone = true) ?_ fun free => ?_
  · rintro p ⟨rfl, _, _, finished⟩
    rw [finished.staged]
    rfl
  refine Triple.bind (demand_holds free) fun _ => Triple.strengthen ?_ fun _ given => given.2
  have made : Triple (Under regime.before past (Finished initial package false))
      (write .writePackage fun d => d.put .staged (some (.directory [])))
      (fun _ => Under regime.before past (written 0)) (regime.stops fun _ => Interrupted host initial package) :=
    Regime.write (fun d finished => unjournaled_interrupted finished.mark finished.output finished.journal)
      fun d finished => ⟨finished.mark, finished.output, finished.journal, finished.backup, rfl⟩
  refine Triple.bind made fun _ => ?_
  have filled : Triple (Under regime.before past (written 0))
      ((List.range package.length).forM fun index =>
        write .writePackage fun d => d.put .staged (some (.directory (package.take (index + 1)))))
      (fun _ => Under regime.before past (written package.length))
      (regime.stops fun _ => Interrupted host initial package) := by
    refine forM_range_triple (fun count => Under regime.before past (written count)) fun index _ => ?_
    exact Regime.write (safe index) fun d held => ⟨held.1, held.2.1, held.2.2.1, held.2.2.2.1, rfl⟩
  refine Triple.bind filled fun _ => (Regime.sync (safe package.length)).conclude ?_ fun _ _ => id
  rintro _ p ⟨starts, same, mark, output, journal, backup, staged⟩
  rw [List.take_length] at staged
  exact ⟨starts, same, mark, output, journal, backup, staged⟩

/-- The journal changes in one step; only its temporary changes before. -/
theorem packWriteJournal_writes {payload : Journal} {holds ends : Disk ρ → Prop} {left : List Point → Disk ρ → Prop}
    (unread : ∀ d temporary, holds d → holds { d with temporary }) (safe : ∀ points d, holds d → left points d)
    (safe' : ∀ points d, ends d → left points d)
    (goes : ∀ d, holds d → ends { d with
      journal := some payload, temporary := none, committed := d.committed || payload.state = .committed }) :
    Triple (Under regime.before past holds) (packWriteJournal payload) (fun _ => Under regime.before past ends)
      (regime.stops left) := by
  refine Triple.bind (Regime.write (safe _) fun d held => unread d _ held) fun _ => ?_
  refine Triple.bind (Regime.write (safe _) fun d held => unread d _ held) fun _ => ?_
  refine Triple.bind (Regime.sync (safe _)) fun _ => ?_
  refine Triple.bind (Regime.write (safe _) goes) fun _ => ?_
  exact Regime.sync (safe' _)

/-- The journal is prepared, and nothing has moved yet. -/
structure Prepared (host : Host ρ) (initial : Option (Node ρ)) (package : List ρ) (d : Disk ρ) : Prop where
  mark : d.committed = false
  output : d.output = initial
  journal : d.journal = some (journalOf host initial .prepared)
  backup : d.backup = none
  staged : d.staged = some (.directory package)

theorem Prepared.interrupted {d : Disk ρ} (prepared : Prepared host initial package d) :
    Interrupted host initial package d :=
  ⟨false, .inl ⟨prepared.mark, prepared.output, .inr (.inr ⟨rfl, prepared.journal, prepared.backup⟩)⟩⟩

theorem Displaced.interrupted {d : Disk ρ} (displaced : Displaced host initial d) :
    Interrupted host initial package d := ⟨false, .inr ⟨rfl, displaced⟩⟩

theorem writeJournal_prepares :
    Triple (Under regime.before past (Staged initial package)) (packWriteJournal (journalOf host initial .prepared))
      (fun _ => Under regime.before past (Prepared host initial package))
      (regime.stops fun _ => Interrupted host initial package) := by
  refine packWriteJournal_writes ?_ ?_ (fun _ _ => Prepared.interrupted) ?_
  · exact fun d temporary staged => ⟨staged.mark, staged.output, staged.journal, staged.backup, staged.staged⟩
  · exact fun _ d staged => unjournaled_interrupted staged.mark staged.output staged.journal
  · intro d staged
    exact ⟨by simp [staged.mark, journalOf], staged.output, rfl, staged.backup, staged.staged⟩

/-- The old output moves to the backup when there is one. -/
theorem displace_displaces (now : Disk ρ) :
    Triple (fun p => p.disk = now ∧ Under regime.before past (Prepared host initial package) p)
      (onlyIf now.output.isSome do
        act .displace (Disk.replace .output .backup)
        sync .displace
        sync .displace)
      (fun _ => Under regime.before past fun d =>
        Displaced host initial d ∧ d.output = none ∧ d.staged = some (.directory package))
      (regime.stops fun _ => Interrupted host initial package) := by
  apply Triple.ite
  · intro there
    refine Triple.given (now.output = initial) ?_ fun same => ?_
    · rintro p ⟨rfl, _, _, prepared⟩
      exact prepared.output
    rw [same] at there
    obtain ⟨node, rfl⟩ := Option.isSome_iff_exists.mp there
    have safe (d : Disk ρ) (held : Displaced host (some node) d ∧ d.output = none ∧
        d.staged = some (.directory package)) :
        Interrupted host (some node) package d := held.1.interrupted
    have moved : Triple (Under regime.before past (Prepared host (some node) package))
        (act .displace (Disk.replace .output .backup))
        (fun _ => Under regime.before past fun d =>
          Displaced host (some node) d ∧ d.output = none ∧ d.staged = some (.directory package))
        (regime.stops fun _ => Interrupted host (some node) package) := by
      refine Regime.act (fun _ => Prepared.interrupted) fun d prepared => ?_
      refine ⟨(), { d with output := none, backup := some node }, ?_,
        ⟨prepared.mark, prepared.journal, rfl⟩, rfl, prepared.staged⟩
      have here : d.node .output = some node := prepared.output
      have free : d.node .backup = none := prepared.backup
      simp only [Disk.replace, here, free, replaceable, if_true]
      rfl
    refine Triple.bind (moved.strengthen fun _ given => given.2) fun _ => ?_
    exact Triple.bind (Regime.sync safe) fun _ => Regime.sync safe
  · intro absent
    apply Triple.pure
    rintro p ⟨rfl, starts, same, prepared⟩
    have gone := Option.not_isSome_iff_eq_none.mp absent
    exact ⟨starts, same, ⟨prepared.mark, prepared.journal, by rw [prepared.backup, ← prepared.output, gone]⟩, gone,
      prepared.staged⟩

theorem exchange_commits :
    Triple (Under regime.before past (Prepared host initial package)) (exchange host initial.isSome)
      (fun _ => Under regime.before past (Settled host initial package true))
      (regime.stops fun _ => Interrupted host initial package) := by
  refine disk_bind_triple fun now => Triple.bind (displace_displaces now) fun _ => ?_
  let published (d : Disk ρ) : Prop := Displaced host initial d ∧ d.output = some (.directory package)
  have moved : Triple
      (Under regime.before past fun d =>
        Displaced host initial d ∧ d.output = none ∧ d.staged = some (.directory package))
      (act .publish (Disk.replace .staged .output)) (fun _ => Under regime.before past published)
      (regime.stops fun _ => Interrupted host initial package) := by
    refine Regime.act (fun d held => held.1.interrupted) fun d held => ?_
    obtain ⟨displaced, gone, staged⟩ := held
    refine ⟨(), { d with staged := none, output := some (.directory package) }, ?_,
      ⟨displaced.mark, displaced.journal, displaced.backup⟩, rfl⟩
    have here : d.node .staged = some (.directory package) := staged
    have free : d.node .output = none := gone
    simp only [Disk.replace, here, free, replaceable, if_true]
    rfl
  refine Triple.bind moved fun _ => Triple.bind (Regime.sync fun d held => held.1.interrupted) fun _ => ?_
  refine packWriteJournal_writes ?_ (fun _ d held => held.1.interrupted) (fun _ d settled => ⟨true, .inl settled⟩) ?_
  · exact fun d temporary held => ⟨⟨held.1.mark, held.1.journal, held.1.backup⟩, held.2⟩
  · intro d held
    exact ⟨by simp, held.2, .inr (.inl ⟨rfl, rfl⟩)⟩

/-- A `pack` that can only die leaves a disk that the recovery understands. -/
theorem pack_interrupted [DecidableEq ρ] (silent : ∀ faults, ¬regime.after faults) :
    Triple (Under regime.before past fun d => d = { output := initial }) (pack host package)
      (fun _ => Under regime.before past (Finished initial package true))
      (regime.stops fun _ => Interrupted host initial package) := by
  let started (d : Disk ρ) : Prop := d = { output := initial }
  have fresh (d : Disk ρ) (same : started d) : Interrupted host initial package d := by
    rw [same]
    exact unjournaled_interrupted rfl rfl rfl
  refine Triple.bind (Regime.sync fresh) fun _ => Triple.bind (Regime.sync fresh) fun _ => ?_
  refine Triple.bind (Regime.sync fresh) fun _ => ?_
  have recovered : Triple (Under regime.before past started) (recoverPack host)
      (fun _ => Under regime.before past (Finished initial package false))
      (regime.stops fun _ => Interrupted host initial package) := by
    refine recoverPack_finishes.weaken ?_ (fun _ _ => id) ?_
    · rintro p ⟨starts, same, idle⟩
      have idle : p.disk = { output := initial } := idle
      refine ⟨starts, same, ?_⟩
      rw [idle]
      exact .inl ⟨rfl, rfl, .inl rfl⟩
    · rintro stop p ⟨recoverable, rest⟩
      exact ⟨⟨false, recoverable⟩, rest⟩
  refine Triple.bind recovered fun _ => Triple.bind writePackage_stages fun _ => ?_
  refine disk_bind_triple fun now => Triple.given (now.output = initial) ?_ fun output => ?_
  · rintro p ⟨rfl, _, _, staged⟩
    exact staged.output
  rw [output]
  refine Triple.bind (writeJournal_prepares.strengthen fun _ given => given.2) fun _ => ?_
  refine Triple.bind (Regime.unhandled silent exchange_commits) fun _ => ?_
  exact Regime.unhandled silent (packCleanup_finishes fun _ d settled => ⟨true, .inl settled⟩)

end Packing

section Runs

variable [DecidableEq ρ] (host : Host ρ) (initial : Option (Node ρ)) (package : List ρ)

/-- The disk after a `pack` that dies before its step number `after`, if it has that many. -/
def packed (after : Nat) (d : Disk ρ) : Disk ρ := (finalState (pack host package ⟨d, crashAfter after, []⟩)).disk

/-- The disk after recoveries that die before the given steps. -/
def recovered : List Nat → Disk ρ → Disk ρ
  | [], d => d
  | after :: rest, d => recovered rest (finalState (recoverPack host ⟨d, crashAfter after, []⟩)).disk

theorem packed_interrupted (after : Nat) : Interrupted host initial package
    (packed host package after { output := initial }) := by
  have contract : Triple (Under Regime.crashing.before [] fun d => d = { output := initial }) (pack host package)
      (fun _ p => Interrupted host initial package p.disk) (fun _ p => Interrupted host initial package p.disk) := by
    refine (pack_interrupted fun _ => id).conclude ?_ fun _ _ stopped => stopped.1
    rintro _ p ⟨_, _, finished⟩
    exact ⟨true, .inl ⟨finished.mark, finished.output, .inl finished.journal⟩⟩
  exact contract.ended ⟨crashAfter_crashing after, rfl, rfl⟩

/-- Recoveries keep the disk recoverable and never change which way it has to go. -/
theorem recovered_recoverable {committed : Bool} (restarts : List Nat) {d : Disk ρ}
    (recoverable : Recoverable host initial package committed d) :
    Recoverable host initial package committed (recovered host restarts d) := by
  induction restarts generalizing d with
  | nil => exact recoverable
  | cons after rest ih =>
    have contract : Triple (Under Regime.crashing.before [] (Recoverable host initial package committed))
        (recoverPack host)
        (fun _ p => Recoverable host initial package committed p.disk)
        (fun _ p => Recoverable host initial package committed p.disk) := by
      refine recoverPack_finishes.conclude ?_ fun _ _ stopped => stopped.1
      rintro _ p ⟨_, _, finished⟩
      exact .inl ⟨finished.mark, finished.output, .inl finished.journal⟩
    exact ih (contract.ended ⟨crashAfter_crashing after, rfl, recoverable⟩)

omit [DecidableEq ρ] in
theorem Recoverable.committed_eq {committed : Bool} {d : Disk ρ}
    (recoverable : Recoverable host initial package committed d) :
    d.committed = committed := by
  rcases recoverable with settled | ⟨rfl, displaced⟩
  · exact settled.mark
  · exact displaced.mark

/-- Wherever `pack` and the recoveries after it die, the next recovery succeeds, clears the transaction and
leaves the new package if a committed journal was ever in place, and the old output otherwise. -/
theorem pack_crash_atomic (after : Nat) (restarts : List Nat) :
    ∃ p, recoverPack host ⟨recovered host restarts (packed host package after { output := initial }), [],
      []⟩ = .ok () p ∧
      p.disk.journal = none ∧ p.disk.staged = none ∧ p.disk.backup = none ∧ p.disk.temporary = none ∧
      p.disk.output =
        if (recovered host restarts (packed host package after { output := initial })).committed
        then some (.directory package) else initial := by
  obtain ⟨committed, interrupted⟩ := packed_interrupted host initial package after
  have recoverable := recovered_recoverable host initial package restarts interrupted
  have contract : Triple
      (Regime.quiet.exactly [] (recovered host restarts (packed host package after { output := initial })))
      (recoverPack host) (fun _ => Under Regime.quiet.before [] (Finished initial package committed))
      (Regime.quiet.stops fun _ => Recoverable host initial package committed) :=
    recoverPack_finishes.strengthen fun p exact_ => ⟨exact_.1, exact_.2.1, by rw [exact_.2.2]; exact recoverable⟩
  obtain ⟨_, p, ran, _, _, finished⟩ := Regime.quiet_returns contract Schedule.Quiet.nil
  refine ⟨p, ran, finished.journal, finished.staged, finished.backup, finished.temporary, ?_⟩
  rw [recoverable.committed_eq, finished.output]
  rfl

end Runs

end Darling.Bundles
