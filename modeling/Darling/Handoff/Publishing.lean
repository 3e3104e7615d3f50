import Darling.Handoff.Recovery

/-! The forward path of the transaction: where `publish` can be stopped and what it has reached. -/
namespace Darling.Handoff

variable {δ : Type}

/-- The step between the committed journal and the return of its write. -/
def commitPoint : Point := .journal .committed .directory

/-- The commit write is over before the new content counts as published. -/
def Reached (host : Host δ) (before staged : Publication → Tree) (struck : List Point) (d : Disk δ) : Prop :=
  (Settled none before false d ∨ Prepared host before staged d) ∧ commitPoint ∉ struck ∨
    Settled (some (journalFor host before staged .committed)) staged true d ∧ commitPoint ∈ struck

/-- `publish` on its own raises only while there is no journal. -/
def Unpublished (regime : Regime HandoffError) (host : Host δ) (before staged : Publication → Tree)
    (stop : Stop HandoffError) : Assertion (Process Point HandoffError (Disk δ)) :=
  fun p => regime.stops (Reached host before staged) stop p ∨
    stop ≠ .crash ∧ Under regime.before [] (Settled none before false) p

/-- The storage exists and holds the backups of the listed paths. -/
structure Storing (host : Host δ) (before staged : Publication → Tree) (done : List Publication) (d : Disk δ) :
    Prop extends Settled none before false d where
  temporary : d.temporary = none
  staged : d.staged = staged
  backups : d.backups.isSome
  displaced : d.displaced.isSome
  checked : ∀ path ∈ done, host.realParents path = true ∧ Supported (before path) ∧
    (before path ≠ [] → d.tree (.backup path) = before path)

section Storage

variable {host : Host δ} {before staged : Publication → Tree} {regime : Regime HandoffError}
  {done : List Publication} {path : Publication}

theorem Settled.reached {point : Point} {d : Disk δ} (settled : Settled none before false d)
    (early : point ≠ commitPoint) : Reached host before staged ([] ++ [point]) d := by
  refine .inl ⟨.inl settled, fun member => ?_⟩
  exact early (List.mem_singleton.mp member).symm

theorem Disk.backup_put {d : Disk δ} {tree : Tree} (stored : d.backups.isSome) :
    (d.put (.backup path) tree).tree (.backup path) = tree := by
  obtain ⟨held, same⟩ := Option.isSome_iff_exists.mp stored
  simp [Disk.tree, Disk.put, same]

/-- The backup of a path that has none yet may be written. -/
theorem Storing.putBackup {d : Disk δ} (storing : Storing host before staged done d) (waiting : path ∉ done)
    (tree : Tree) : Storing host before staged done (d.put (.backup path) tree) := by
  refine ⟨⟨storing.journal, storing.published, storing.committed⟩, storing.temporary, storing.staged, ?_,
    storing.displaced, fun other member => ?_⟩
  · simpa [Disk.put] using storing.backups
  · obtain ⟨real, supported, backup⟩ := storing.checked other member
    have apart : other ≠ path := fun same => waiting (same ▸ member)
    exact ⟨real, supported, fun full => (Disk.backup_put_ne apart).trans (backup full)⟩

theorem copyBackup_stored (waiting : path ∉ done) (full : before path ≠ []) :
    Triple (Under regime.before [] (Storing host before staged done)) (copyBackup host path)
      (fun _ => Under regime.before [] fun d =>
        Storing host before staged done d ∧ d.tree (.backup path) = before path)
      (Unpublished regime host before staged) := by
  refine disk_bind_triple fun now => ?_
  refine Triple.given (now.tree (.published path) = before path) ?_ fun held => ?_
  · rintro p ⟨rfl, _, _, storing⟩
    exact congrFun storing.published path
  extract_lets tree
  have same : tree = before path := held
  let copied (written : List Nat) (d : Disk δ) : Prop :=
    Storing host before staged done d ∧ (written ≠ [] → d.tree (.backup path) = tree.take written.length)
  have copying : Triple (Under regime.before [] (copied []))
      ((List.range tree.length).forM fun index =>
        write (.copy path) fun d => d.put (.backup path) (tree.take (index + 1)))
      (fun _ => Under regime.before [] (copied (List.range tree.length)))
      (Unpublished regime host before staged) := by
    refine forM_triple (fun written => Under regime.before [] (copied written)) ?_
    intro written index rest whole
    have position : index = written.length := by
      have seen := congrArg (·[written.length]?) whole
      have inside : written.length < tree.length := by
        have lengths := congrArg List.length whole
        simp only [List.length_append, List.length_cons, List.length_range] at lengths
        omega
      simpa [inside] using seen
    refine (Regime.write ?_ ?_).fallback fun _ _ => .inl
    · exact fun d copied => copied.1.toSettled.reached nofun
    · intro d copied
      refine ⟨copied.1.putBackup waiting _, fun _ => ?_⟩
      rw [Disk.backup_put copied.1.backups, position, List.length_append]
      rfl
  refine Triple.bind (copying.strengthen ?_) fun _ => ?_
  · rintro p ⟨_, starts, struck, storing⟩
    exact ⟨starts, struck, storing, fun never => absurd rfl never⟩
  refine Triple.bind (demand_triple fun _ p under => .inr ⟨nofun, under.1, under.2.1, under.2.2.1.toSettled⟩)
    fun _ => ?_
  refine Triple.strengthen (Triple.fallback (Regime.sync fun d stored => ?_) fun _ _ => .inl) ?_
  · exact stored.1.toSettled.reached nofun
  · rintro p ⟨_, starts, struck, storing, written⟩
    refine ⟨starts, struck, storing, ?_⟩
    have some' : List.range tree.length ≠ [] := by
      simpa [same] using full
    rw [written some', List.length_range, List.take_length, same]

theorem observe_unsupported {place : Place} {p : Process Point HandoffError (Disk δ)}
    (unsupported : ¬Supported (p.disk.tree place)) :
    observe host place p = .error (.raised .unsupportedType) p := by
  have present : p.disk.tree place ≠ [] := by
    intro absent
    rw [absent] at unsupported
    exact unsupported fun _ member => by cases member
  have found : (p.disk.tree place).any (·.node = .other) = true := by
    simpa [Supported] using unsupported
  have refused : snapshot host (p.disk.tree place) = .error .unsupportedType := by
    rw [snapshot, if_neg present, if_pos found]
  unfold observe
  rw [bind_run, show disk p = .ok p.disk p from rfl]
  simp only [present, if_false]
  apply bind_run_error
  unfold snapshotAt
  rw [bind_run, show disk p = .ok p.disk p from rfl]
  simp only [refused]
  rfl

theorem Storing.append {d : Disk δ} (storing : Storing host before staged done d)
    (real : host.realParents path = true) (supported : Supported (before path))
    (backup : before path ≠ [] → d.tree (.backup path) = before path) :
    Storing host before staged (done ++ [path]) d := by
  refine ⟨storing.toSettled, storing.temporary, storing.staged, storing.backups, storing.displaced, ?_⟩
  intro other member
  rcases List.mem_append.mp member with earlier | last
  · exact storing.checked other earlier
  · rw [List.mem_singleton.mp last]
    exact ⟨real, supported, backup⟩

theorem prepareUnit_stored (waiting : path ∉ done) :
    Triple (Under regime.before [] (Storing host before staged done))
      (prepareUnit host (fun path => host.digest (staged path)) path)
      (fun unit p => unit = unitOf host before staged path ∧
        Under regime.before [] (Storing host before staged (done ++ [path])) p)
      (Unpublished regime host before staged) := by
  have raises (p : Process Point HandoffError (Disk δ)) (error : HandoffError)
      (under : Under regime.before [] (Storing host before staged done) p) :
      Unpublished regime host before staged (.raised error) p :=
    .inr ⟨nofun, under.1, under.2.1, under.2.2.toSettled⟩
  refine Triple.bind (demand_triple fun _ p => raises p _) fun _ => Triple.assume fun real => ?_
  by_cases supported : Supported (before path)
  · refine reads_bind_triple (fun d => contentOf host (d.published path)) ?_ fun seen => ?_
    · rintro p ⟨_, _, storing⟩
      apply observe_run
      rw [show p.disk.tree (.published path) = before path from congrFun storing.published path]
      exact supported
    refine Triple.given (seen = contentOf host (before path)) ?_ fun known => ?_
    · rintro p ⟨rfl, _, _, storing⟩
      rw [storing.published]
    subst known
    have copied : Triple (Under regime.before [] (Storing host before staged done))
        (onlyIf (contentOf host (before path)).isSome (copyBackup host path))
        (fun _ => Under regime.before [] (Storing host before staged (done ++ [path])))
        (Unpublished regime host before staged) := by
      apply Triple.ite
      · intro existed
        refine (copyBackup_stored waiting (contentOf_isSome.mp existed)).conclude ?_ fun _ _ => id
        rintro _ p ⟨starts, struck, storing, backup⟩
        exact ⟨starts, struck, storing.append real supported fun _ => backup⟩
      · intro absent
        apply Triple.pure
        rintro p ⟨starts, struck, storing⟩
        exact ⟨starts, struck, storing.append real supported fun full => absurd (contentOf_isSome.mpr full) absent⟩
    refine Triple.strengthen (Triple.bind copied fun _ => ?_) fun _ holds => holds.2
    exact Triple.pure fun p under => ⟨rfl, under⟩
  · rintro p under
    have unsupported : ¬Supported (p.disk.tree (.published path)) := by
      rw [show p.disk.tree (.published path) = before path from congrFun under.2.2.published path]
      exact supported
    rw [bind_run_error (observe_unsupported unsupported)]
    exact raises p _ under

theorem prepareUnits_stored (paths : List Publication) (apart : (done ++ paths).Nodup) :
    Triple (Under regime.before [] (Storing host before staged done))
      (prepareUnits host (fun path => host.digest (staged path)) paths)
      (fun units p => units = paths.map (unitOf host before staged) ∧
        Under regime.before [] (Storing host before staged (done ++ paths)) p)
      (Unpublished regime host before staged) := by
  induction paths generalizing done with
  | nil =>
    rw [List.append_nil]
    exact Triple.pure fun p under => ⟨rfl, under⟩
  | cons path rest induction =>
    have waiting : path ∉ done := fun member =>
      (List.nodup_append.mp apart).2.2 path member path List.mem_cons_self rfl
    have assoc : done ++ path :: rest = done ++ [path] ++ rest := by simp
    rw [assoc] at apart ⊢
    refine Triple.bind (prepareUnit_stored waiting) fun unit => Triple.assume fun first => ?_
    refine Triple.bind (induction apart) fun units => Triple.assume fun others => ?_
    refine Triple.pure fun p under => ⟨?_, under⟩
    rw [first, others, List.map_cons]

end Storage

section Writing

variable {host : Host δ} {before staged : Publication → Tree} {regime : Regime HandoffError}

/-- As the disk was, up to the temporary journal. -/
def UpToTemporary (holds : Disk δ → Prop) (d : Disk δ) : Prop :=
  ∃ original temporary, holds original ∧ d = { original with temporary := temporary }

theorem UpToTemporary.set {holds : Disk δ → Prop} {d : Disk δ} (upTo : UpToTemporary holds d)
    (temporary : Option (Option (Journal δ))) : UpToTemporary holds { d with temporary := temporary } := by
  obtain ⟨original, earlier, held, rfl⟩ := upTo
  exact ⟨original, temporary, held, rfl⟩

/-- The handler of a failed write runs undisturbed. -/
theorem undo_triple {holds : Disk δ → Prop} {left : List Point → Disk δ → Prop} {past : List Point}
    {post : Unit → Assertion (Process Point HandoffError (Disk δ))}
    (calm : ∀ faults, regime.after faults → faults.Quiet)
    (safe : ∀ d, UpToTemporary holds d → left past d) (error : HandoffError) :
    Triple (Under regime.after past (UpToTemporary holds))
      (do
        write .undo fun d => { d with temporary := none }
        raise error)
      post (regime.stops left) := by
  have undone : Triple (Under regime.after past (UpToTemporary holds))
      (write .undo fun d => { d with temporary := none } : HandoffM δ Unit)
      (fun _ => Under regime.after past (UpToTemporary holds)) (regime.stops left) := by
    apply write_triple
    · intro p fault under head
      rw [(calm _ under.1).head] at head
      cases head
    · intro p under
      exact ⟨regime.rests under.1, under.2.1, under.2.2.set none⟩
  refine Triple.bind undone fun _ => raise_triple fun p under => ⟨?_, under.1⟩
  rw [under.2.1]
  exact safe p.disk under.2.2

/-- A journal write that starts without a temporary: every stop before the rename leaves the disk as
it was, up to the temporary. -/
theorem durableJson_written {payload : Journal δ} {holds reached : Disk δ → Prop} {left : List Point → Disk δ → Prop}
    (calm : ∀ faults, regime.after faults → faults.Quiet)
    (absent : ∀ d, holds d → d.temporary = none)
    (early : ∀ d step, UpToTemporary holds d → step ≠ .directory → left [.journal payload.state step] d)
    (renamed : ∀ d, UpToTemporary holds d → reached { d with
      journal := some payload, temporary := none, committed := d.committed || payload.state = .committed })
    (late : ∀ d, reached d → left [.journal payload.state .directory] d) :
    Triple (Under regime.before [] holds) (durableJson payload)
      (fun _ => Under regime.before [] reached) (regime.stops left) := by
  have created : Triple (Under regime.before [] holds)
      (act (.journal payload.state .create) fun d =>
        if d.temporary.isSome then .error .unsafeJournal else .ok ((), { d with temporary := some none }))
      (fun _ => Under regime.before [] (UpToTemporary holds)) (regime.stops left) := by
    apply Regime.act
    · exact fun d held => early d _ ⟨d, d.temporary, held, rfl⟩ nofun
    · intro d held
      refine ⟨(), _, ?_, d, some none, held, rfl⟩
      rw [absent d held]
      rfl
  let struck (struck : List Point) (d : Disk δ) : Prop :=
    UpToTemporary holds d ∧ ∃ step, step ≠ .directory ∧ struck = [.journal payload.state step]
  have filled : Triple (Under regime.before [] (UpToTemporary holds))
      (handle
        (do
          write (.journal payload.state .write) fun d => { d with temporary := some (some payload) }
          sync (.journal payload.state .sync))
        fun error => do
          write .undo fun d => { d with temporary := none }
          raise error)
      (fun _ => Under regime.before [] (UpToTemporary holds)) (regime.stops left) := by
    have early' (names : List Point) (d : Disk δ) (stopped : struck names d) : left names d := by
      obtain ⟨upTo, step, apart, rfl⟩ := stopped
      exact early d step upTo apart
    apply Regime.handled struck
    · refine Triple.bind (Regime.write ?_ fun d upTo => upTo.set _) fun _ => Regime.sync ?_
      · exact fun d upTo => ⟨upTo, .write, nofun, rfl⟩
      · exact fun d upTo => ⟨upTo, .sync, nofun, rfl⟩
    · exact fun _ => early'
    · intro error p stopped
      obtain ⟨⟨upTo, step, apart, same⟩, after⟩ := stopped
      refine undo_triple calm ?_ error p ⟨after, rfl, upTo⟩
      exact fun d upTo => early' _ d ⟨upTo, step, apart, same⟩
  have moved : Triple (Under regime.before [] (UpToTemporary holds))
      (write (.journal payload.state .rename) fun d => { d with
        journal := some payload, temporary := none
        committed := d.committed || payload.state = .committed })
      (fun _ => Under regime.before [] reached) (regime.stops left) :=
    Regime.write (fun d upTo => early d _ upTo nofun) renamed
  exact Triple.bind created fun _ => Triple.bind filled fun _ => Triple.bind moved fun _ => Regime.sync late

end Writing

/-- Between the two journal writes: the listed paths are published, and every old content has its
backup. -/
structure Underway (host : Host δ) (before staged current : Publication → Tree) (done : List Publication)
    (d : Disk δ) : Prop where
  journal : d.journal = some (journalFor host before staged .prepared)
  committed : d.committed = false
  temporary : d.temporary = none
  displaced : d.displaced.isSome
  real : ∀ path, host.realParents path = true
  supported : ∀ path, Supported (before path)
  published : d.published = current
  waiting : ∀ path, path ∉ done → d.staged path = staged path
  backup : ∀ path, before path ≠ [] → d.tree (.backup path) = before path

/-- The listed paths hold the new content, the others the old one. -/
def mixture (before staged : Publication → Tree) (done : List Publication) (path : Publication) : Tree :=
  if path ∈ done then staged path else before path

section Forward

variable {host : Host δ} {before staged current : Publication → Tree} {regime : Regime HandoffError}
  {done : List Publication} {path : Publication}

theorem Underway.prepared {d : Disk δ} (underway : Underway host before staged current done d)
    (known : ∀ path, current path = before path ∨ current path = [] ∨ current path = staged path) :
    Prepared host before staged d := by
  refine ⟨underway.journal, underway.committed, underway.real, underway.supported, fun path => ?_⟩
  rw [Pending, underway.published]
  rcases known path with old | changed
  · exact .inl old
  · exact .inr ⟨changed, underway.backup path⟩

theorem mixture_known (path : Publication) :
    mixture before staged done path = before path ∨ mixture before staged done path = [] ∨
      mixture before staged done path = staged path := by
  unfold mixture
  split
  · exact .inr (.inr rfl)
  · exact .inl rfl

theorem emptied_known (other : Publication) :
    let emptied := Function.update (mixture before staged done) path []
    emptied other = before other ∨ emptied other = [] ∨ emptied other = staged other := by
  by_cases same : other = path
  · subst same
    exact .inr (.inl (Function.update_self ..))
  · simp only [Function.update_of_ne same]
    exact mixture_known other

theorem Underway.reached {point : Point} {d : Disk δ} (underway : Underway host before staged current done d)
    (known : ∀ path, current path = before path ∨ current path = [] ∨ current path = staged path)
    (early : point ≠ commitPoint) : Reached host before staged ([] ++ [point]) d := by
  refine .inl ⟨.inr (underway.prepared known), fun member => ?_⟩
  exact early (List.mem_singleton.mp member).symm

theorem mixture_waiting (waiting : path ∉ done) : mixture before staged done path = before path := if_neg waiting

theorem mixture_append (waiting : path ∉ done) :
    Function.update (mixture before staged done) path (staged path) = mixture before staged (done ++ [path]) := by
  funext other
  by_cases same : other = path
  · subst same
    simp [mixture]
  · simp [mixture, same]

theorem mixture_empty (waiting : path ∉ done) (nothing : before path = []) :
    Function.update (mixture before staged done) path [] = mixture before staged done := by
  have same : mixture before staged done path = [] := (mixture_waiting waiting).trans nothing
  rw [← same]
  exact Function.update_eq_self ..

theorem Disk.displaced_put {d : Disk δ} {tree : Tree} (stored : d.displaced.isSome) :
    (d.put (.displaced path) tree).tree (.displaced path) = tree := by
  obtain ⟨held, same⟩ := Option.isSome_iff_exists.mp stored
  simp [Disk.tree, Disk.put, same]

/-- The old content steps aside and is found again where it was put. -/
theorem displace_emptied [DecidableEq δ] (waiting : path ∉ done) (full : before path ≠ []) :
    Triple (Under regime.before [] (Underway host before staged (mixture before staged done) done))
      (displace host (unitOf host before staged path))
      (fun _ => Under regime.before []
        (Underway host before staged (Function.update (mixture before staged done) path []) done))
      (regime.stops (Reached host before staged)) := by
  let emptied (d : Disk δ) : Prop :=
    Underway host before staged (Function.update (mixture before staged done) path []) done d ∧
      d.tree (.displaced path) = before path
  have moved : Triple (Under regime.before [] (Underway host before staged (mixture before staged done) done))
      (act (.displace path) (Disk.replace (.published path) (.displaced path)))
      (fun _ => Under regime.before [] emptied) (regime.stops (Reached host before staged)) := by
    apply Regime.act
    · exact fun d underway => underway.reached mixture_known nofun
    · intro d underway
      have held : d.tree (.published path) = before path :=
        (congrFun underway.published path).trans (mixture_waiting waiting)
      refine ⟨(), _, Disk.replace_ok held full, ⟨underway.journal, underway.committed, underway.temporary, ?_,
        underway.real, underway.supported, ?_, underway.waiting, underway.backup⟩, ?_⟩
      · simpa [Disk.put] using underway.displaced
      · exact congrArg (Function.update · path []) underway.published
      · exact Disk.displaced_put underway.displaced
  have synced : Triple (Under regime.before [] emptied) (sync (.displace path))
      (fun _ => Under regime.before [] emptied) (regime.stops (Reached host before staged)) :=
    Regime.sync fun d holds => holds.1.reached emptied_known nofun
  refine Triple.bind moved fun _ => Triple.bind synced fun _ => Triple.bind synced fun _ => ?_
  refine reads_bind_triple (fun d => host.digest (d.tree (.displaced path))) ?_ fun seen => ?_
  · rintro p ⟨_, _, underway, held⟩
    exact snapshotAt_run (held ▸ full) (held ▸ underway.supported path)
  refine Triple.given (some seen = contentOf host (before path)) ?_ fun known => ?_
  · rintro p ⟨rfl, _, _, _, held⟩
    rw [held, contentOf, if_neg full]
  rw [show (unitOf host before staged path).before = contentOf host (before path) from rfl, if_pos known]
  exact Triple.pure fun p holds => ⟨holds.2.1, holds.2.2.1, holds.2.2.2.1⟩

theorem publishUnit_underway [DecidableEq δ] (stageable : ∀ path, staged path ≠ [] ∧ Supported (staged path))
    (waiting : path ∉ done) :
    Triple (Under regime.before [] (Underway host before staged (mixture before staged done) done))
      (publishUnit host (unitOf host before staged path))
      (fun _ => Under regime.before []
        (Underway host before staged (mixture before staged (done ++ [path])) (done ++ [path])))
      (regime.stops (Reached host before staged)) := by
  obtain ⟨present, new⟩ := stageable path
  refine Triple.given (∀ path, host.realParents path = true) (fun p under => under.2.2.real) fun real => ?_
  refine Triple.bind (demand_holds (real path)) fun _ => ?_
  refine reads_bind_triple (fun d => contentOf host (d.published path)) ?_ fun seen => ?_
  · rintro p ⟨_, _, underway⟩
    have held : p.disk.tree (.published path) = before path :=
      (congrFun underway.published path).trans (mixture_waiting waiting)
    exact observe_run (held.symm ▸ underway.supported path)
  refine Triple.given (seen = contentOf host (before path)) ?_ fun known => ?_
  · rintro p ⟨rfl, _, _, underway⟩
    rw [underway.published, mixture_waiting waiting]
  refine Triple.bind (demand_holds known) fun _ => Triple.strengthen ?_ fun _ holds => holds.2
  have emptied : Triple (Under regime.before [] (Underway host before staged (mixture before staged done) done))
      (onlyIf (contentOf host (before path)).isSome (displace host (unitOf host before staged path)))
      (fun _ => Under regime.before []
        (Underway host before staged (Function.update (mixture before staged done) path []) done))
      (regime.stops (Reached host before staged)) := by
    apply Triple.ite
    · intro existed
      exact displace_emptied waiting (contentOf_isSome.mp existed)
    · intro absent
      have nothing : before path = [] := by
        by_contra content
        exact absent (contentOf_isSome.mpr content)
      rw [mixture_empty waiting nothing]
      exact Triple.skip
  refine Triple.bind emptied fun _ => Triple.bind (demand_holds (real path)) fun _ => ?_
  refine disk_bind_triple fun now => Triple.given (now.published path = []) ?_ fun gone => ?_
  · rintro p ⟨rfl, _, _, underway⟩
    rw [underway.published]
    exact Function.update_self ..
  refine Triple.bind (demand_holds gone) fun _ => Triple.strengthen ?_ fun _ holds => holds.2
  have placed : Triple
      (Under regime.before []
        (Underway host before staged (Function.update (mixture before staged done) path []) done))
      (act (.publish path) (Disk.replace (.staged path) (.published path)))
      (fun _ => Under regime.before []
        (Underway host before staged (mixture before staged (done ++ [path])) (done ++ [path])))
      (regime.stops (Reached host before staged)) := by
    apply Regime.act
    · exact fun d underway => underway.reached emptied_known nofun
    · intro d underway
      refine ⟨(), _, Disk.replace_ok (underway.waiting path waiting) present, underway.journal, underway.committed,
        underway.temporary, underway.displaced, underway.real, underway.supported, ?_, ?_, underway.backup⟩
      · rw [← mixture_append waiting]
        refine (congrArg (Function.update · path (staged path)) underway.published).trans ?_
        exact Function.update_idem ..
      · intro other later
        have apart : other ≠ path := fun same => later (List.mem_append_right _ (List.mem_singleton.mpr same))
        have before : other ∉ done := fun member => later (List.mem_append_left _ member)
        exact (Function.update_of_ne apart ..).trans (underway.waiting other before)
  refine Triple.bind placed fun _ => Triple.bind (Regime.sync ?_) fun _ => ?_
  · exact fun d underway => underway.reached mixture_known nofun
  have held (d : Disk δ)
      (underway : Underway host before staged (mixture before staged (done ++ [path])) (done ++ [path]) d) :
      d.tree (.published path) = staged path := by
    refine (congrFun underway.published path).trans ?_
    simp [mixture]
  refine reads_bind_triple (fun d => host.digest (d.tree (.published path))) ?_ fun found => ?_
  · rintro p ⟨_, _, underway⟩
    exact snapshotAt_run ((held _ underway).symm ▸ present) ((held _ underway).symm ▸ new)
  refine Triple.given (found = host.digest (staged path)) ?_ fun same => ?_
  · rintro p ⟨rfl, _, _, underway⟩
    rw [held _ underway]
  exact (demand_holds same).conclude (fun _ p holds => holds.2) fun _ _ => id

/-- A clean transaction over the given contents. -/
def Started (before staged : Publication → Tree) (d : Disk δ) : Prop :=
  Settled none before false d ∧ d.temporary = none ∧ d.staged = staged

theorem prepared_written (calm : ∀ faults, regime.after faults → faults.Quiet) :
    Triple (Under regime.before [] (Storing host before staged publicationPaths))
      (durableJson (journalFor host before staged .prepared))
      (fun _ => Under regime.before [] (Underway host before staged (mixture before staged []) []))
      (regime.stops (Reached host before staged)) := by
  have every (path : Publication) : path ∈ publicationPaths := by
    cases path <;> decide
  have underway (d : Disk δ) (upTo : UpToTemporary (Storing host before staged publicationPaths) d) :
      Underway host before staged (mixture before staged []) [] { d with
        journal := some (journalFor host before staged .prepared), temporary := none
        committed := d.committed || (JournalState.prepared = .committed : Bool) } := by
    obtain ⟨original, temporary, storing, rfl⟩ := upTo
    refine ⟨rfl, by simp [storing.committed], rfl, storing.displaced, ?_, ?_, ?_, ?_, ?_⟩
    · exact fun path => (storing.checked path (every path)).1
    · exact fun path => (storing.checked path (every path)).2.1
    · exact storing.published
    · exact fun path _ => congrFun storing.staged path
    · exact fun path => (storing.checked path (every path)).2.2
  apply durableJson_written calm
  · exact fun d storing => storing.temporary
  · rintro d step ⟨original, temporary, storing, rfl⟩ _
    exact Settled.reached ⟨storing.journal, storing.published, storing.committed⟩ nofun
  · exact underway
  · exact fun d reached => reached.reached mixture_known nofun

theorem committed_written (calm : ∀ faults, regime.after faults → faults.Quiet) :
    Triple
      (Under regime.before []
        (Underway host before staged (mixture before staged publicationPaths) publicationPaths))
      (durableJson (journalFor host before staged .committed))
      (fun _ => Under regime.before [] (Settled (some (journalFor host before staged .committed)) staged true))
      (regime.stops (Reached host before staged)) := by
  have new : mixture before staged publicationPaths = staged := by
    funext path
    cases path <;> rfl
  apply durableJson_written calm
  · exact fun d underway => underway.temporary
  · rintro d step ⟨original, temporary, underway, rfl⟩ early
    have kept : Underway host before staged (mixture before staged publicationPaths) publicationPaths
        { original with temporary := none } :=
      ⟨underway.journal, underway.committed, rfl, underway.displaced, underway.real, underway.supported,
        underway.published, underway.waiting, underway.backup⟩
    have prepared := kept.prepared mixture_known
    refine .inl ⟨.inr ⟨prepared.journal, prepared.committed, prepared.real, prepared.supported, prepared.pending⟩, ?_⟩
    intro member
    cases List.mem_singleton.mp member
    exact early rfl
  · rintro d ⟨original, temporary, underway, rfl⟩
    exact ⟨rfl, underway.published.trans new, Bool.or_true _⟩
  · exact fun d settled => .inr ⟨settled, List.mem_cons_self⟩

theorem publishUnits_underway [DecidableEq δ] (stageable : ∀ path, staged path ≠ [] ∧ Supported (staged path)) :
    Triple (Under regime.before [] (Underway host before staged (mixture before staged []) []))
      ((unitsOf host before staged).forM (publishUnit host))
      (fun _ => Under regime.before []
        (Underway host before staged (mixture before staged publicationPaths) publicationPaths))
      (regime.stops (Reached host before staged)) := by
  have paths : (unitsOf host before staged).map Plan.path = publicationPaths := rfl
  rw [← paths]
  refine forM_triple (fun done => Under regime.before []
    (Underway host before staged (mixture before staged (done.map Plan.path)) (done.map Plan.path))) ?_
  intro done unit rest whole
  have member : unit ∈ unitsOf host before staged := by
    rw [← whole]
    exact List.mem_append_right _ List.mem_cons_self
  obtain ⟨path, _, rfl⟩ := List.mem_map.mp member
  have apart : ((unitsOf host before staged).map Plan.path).Nodup := by
    rw [paths]
    decide
  rw [← whole, List.map_append, List.map_cons] at apart
  rw [List.map_append]
  apply publishUnit_underway stageable
  exact fun earlier => (List.nodup_append.mp apart).2.2 _ earlier _ List.mem_cons_self rfl

/-- `publish` up to its commit point, under one kind of fault. -/
theorem publishAll_committed [DecidableEq δ] (calm : ∀ faults, regime.after faults → faults.Quiet)
    (stageable : ∀ path, staged path ≠ [] ∧ Supported (staged path)) :
    Triple (Under regime.before [] (Started before staged))
      (publishAll host fun path => host.digest (staged path))
      (fun _ => Under regime.before [] (Settled (some (journalFor host before staged .committed)) staged true))
      (Unpublished regime host before staged) := by
  have backups : Triple (Under regime.before [] (Started before staged))
      (write .storage fun d => { d with backups := some fun _ => [] } : HandoffM δ Unit)
      (fun _ => Under regime.before [] fun d => Started before staged d ∧ d.backups.isSome)
      (Unpublished regime host before staged) := by
    refine (Regime.write ?_ ?_).fallback fun _ _ => .inl
    · exact fun d started => started.1.reached nofun
    · rintro d ⟨settled, absent, same⟩
      exact ⟨⟨⟨settled.journal, settled.published, settled.committed⟩, absent, same⟩, rfl⟩
  have displaced : Triple (Under regime.before [] fun d => Started before staged d ∧ d.backups.isSome)
      (write .storage fun d => { d with displaced := some fun _ => [] } : HandoffM δ Unit)
      (fun _ => Under regime.before [] (Storing host before staged []))
      (Unpublished regime host before staged) := by
    refine (Regime.write ?_ ?_).fallback fun _ _ => .inl
    · exact fun d started => started.1.1.reached nofun
    · rintro d ⟨⟨settled, absent, same⟩, stored⟩
      exact ⟨⟨settled.journal, settled.published, settled.committed⟩, absent, same, stored, rfl, nofun⟩
  refine Triple.bind backups fun _ => Triple.bind displaced fun _ => ?_
  refine Triple.bind (prepareUnits_stored publicationPaths (by decide)) fun units => Triple.assume fun same => ?_
  subst same
  refine Triple.bind (Triple.fallback (Regime.sync fun d storing => ?_) fun _ _ => .inl) fun _ => ?_
  · exact storing.toSettled.reached nofun
  refine Triple.fallback (Triple.bind (prepared_written calm) fun _ => ?_) fun _ _ => .inl
  exact Triple.bind (publishUnits_underway stageable) fun _ => committed_written calm

end Forward

end Darling.Handoff
