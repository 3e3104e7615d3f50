import Darling.Review.Package

/-! What a package receipt says when one step of `execute_package` raises. -/
namespace Darling.Review

variable {past : List Point} {left : List Point → World → Prop} {label : WriteStep → Point}

section Steps

variable {regime : Regime Failure} {point : Point} {holds : World → Prop}

theorem look_runs {see : World → α} (safe : ∀ w, holds w → left (past ++ [point]) w) :
    Triple (Under regime.before past holds) (look point see)
      (fun value => Under regime.before past fun w => value = see w ∧ holds w) (regime.stops left) :=
  Regime.act safe fun w held => ⟨see w, w, rfl, rfl, held⟩

theorem look_calm {see : World → α} {fails : Stop Failure → Assertion (Process Point Failure World)} :
    Triple (Under Schedule.Quiet past holds) (look point see) (fun _ => Under Schedule.Quiet past holds) fails :=
  Regime.calm_act (Regime.single_calm : Regime.Calm (Regime.single : Regime Failure)) fun w held =>
    ⟨see w, w, rfl, held⟩

theorem check_runs {failure : Failure} {test : World → Bool} (safe : ∀ w, holds w → left (past ++ [point]) w)
    (passes : ∀ w, holds w → test w = true) :
    Triple (Under regime.before past holds) (check point failure test) (fun _ => Under regime.before past holds)
      (regime.stops left) :=
  Regime.act safe fun w held => ⟨(), w, by simp [passes w held], held⟩

theorem remember_runs {change : Memory → Memory} {fails : Stop Failure → Assertion (Process Point Failure World)}
    (ends : World → Prop)
    (goes : ∀ w, holds w → ends { w with memory := change w.memory }) :
    Triple (Under regime.before past holds) (remember change) (fun _ => Under regime.before past ends) fails :=
  assign_triple fun p under => ⟨under.1, under.2.1, goes p.disk under.2.2⟩

end Steps

/-- Both directories' other contents, the local variables and the evidence, whatever the temporary is. -/
structure At (s : Site) (m : Memory) (e : Evidence) (w : World) : Prop where
  site : w.site = s
  memory : w.memory = m
  evidence : w.journal.evidence = e
  fresh : e.identity < w.journal.fresh

/-- The temporary is there as well. -/
structure Drafted (s : Site) (m : Memory) (e draft : Evidence) (w : World) : Prop extends At s m e w where
  temporary : w.journal.temporary = some draft
  other : draft.identity ≠ e.identity
  numbered : draft.identity < w.journal.fresh

/-- The steps of `_atomic_json` after the new evidence stands. -/
def WriteStep.late : WriteStep → Bool
  | .sync | .verify | .parentAfter | .close | .unlink => true
  | _ => false

/-- Where a step of `_atomic_json` that raises leaves the evidence. -/
def Left (s : Site) (m : Memory) (e : Evidence) (step : WriteStep) (w : World) : Prop :=
  if step.late then ∃ identity, identity ≠ e.identity ∧ At s m ⟨identity, m.record⟩ w else At s m e w

section Writing

variable {s : Site} {m : Memory} {e : Evidence} {regime : Regime Failure}

theorem At.draft {w : World} {identity : Identity} (at_ : At s m ⟨identity, m.record⟩ w) (other : identity ≠ e.identity)
    {step : WriteStep} (late : step.late = true) : Left s m e step w := by
  rw [Left, if_pos late]
  exact ⟨identity, other, at_⟩

theorem At.early {w : World} (at_ : At s m e w) {step : WriteStep} (early : step.late = false) : Left s m e step w := by
  rw [Left, if_neg (by simp [early])]
  exact at_

variable (alive : ¬ regime.dies) (calm : regime.Calm)

include alive calm

/-- The evidence is not touched on the way to the new temporary. -/
theorem writeJsonTemp_runs (safe : ∀ step w, step.late = false → At s m e w → left (past ++ [label step]) w) :
    Triple (Under regime.before past (At s m e)) (writeJsonTemp label)
      (fun _ => Under regime.before past fun w => ∃ identity, Drafted s m e ⟨identity, m.record⟩ w)
        (regime.stops left) := by
  have created : Triple (Under regime.before past (At s m e))
      (write (label .create) (onJournal fun j =>
        { j with temporary := some ⟨j.fresh, ⟨.active, none⟩⟩, fresh := j.fresh + 1 }) : ReviewM Unit)
      (fun _ => Under regime.before past fun w => ∃ identity r, Drafted s m e ⟨identity, r⟩ w) (regime.stops left) := by
    refine Regime.write (fun w at_ => safe .create w rfl at_) fun w at_ => ?_
    refine ⟨w.journal.fresh, ⟨.active, none⟩,
      ⟨at_.site, at_.memory, at_.evidence, Nat.lt_succ_of_lt at_.fresh⟩, rfl, ?_, ?_⟩
    · exact Nat.ne_of_gt at_.fresh
    · exact Nat.lt_succ_self _
  have filled : Triple (Under regime.before past fun w => ∃ identity r, Drafted s m e ⟨identity, r⟩ w)
      (do
        write (label .fill) fun w => { w with journal := { w.journal with
          temporary := w.journal.temporary.map fun file => { file with record := w.memory.record } } }
        sync (label .flush) : ReviewM Unit)
      (fun _ => Under regime.before past fun w => ∃ identity, Drafted s m e ⟨identity, m.record⟩ w)
      (regime.stops fun struck w => ∃ step, step.late = false ∧ struck = past ++ [label step] ∧ At s m e w) := by
    refine Triple.bind (Regime.write ?_ ?_) fun _ => Regime.sync ?_
    · exact fun w ⟨_, _, drafted⟩ => ⟨.fill, rfl, rfl, drafted.toAt⟩
    · intro w ⟨identity, r, drafted⟩
      refine ⟨identity, ⟨drafted.site, drafted.memory, drafted.evidence, drafted.fresh⟩, ?_, drafted.other,
        drafted.numbered⟩
      simp [drafted.temporary, drafted.memory]
    · exact fun w ⟨_, drafted⟩ => ⟨.flush, rfl, rfl, drafted.toAt⟩
  refine Triple.bind created fun _ =>
    Triple.bind (Regime.handled _ filled (fun dies => absurd dies alive) fun failure => ?_) fun _ => ?_
  · intro p ⟨⟨step, early, struck, at_⟩, after⟩
    have closed : Triple (Under regime.after p.struck (At s m e)) (do
        sync (label .abandon)
        raise failure : ReviewM Unit)
        (fun _ => Under regime.before past fun w => ∃ identity, Drafted s m e ⟨identity, m.record⟩ w)
          (regime.stops left) := by
      refine Triple.bind (Regime.calm_sync calm) fun _ => raise_triple fun p under => ⟨?_, under.1⟩
      rw [under.2.1, struck]
      exact safe step p.disk early under.2.2
    exact closed p ⟨after, rfl, at_⟩
  · refine assign_triple fun p under => ⟨under.1, under.2.1, ?_⟩
    obtain ⟨identity, drafted⟩ := under.2.2
    exact ⟨identity, ⟨drafted.site, drafted.memory, drafted.evidence, drafted.fresh⟩, drafted.temporary, drafted.other,
      drafted.numbered⟩

/-- The new evidence replaces the one that memory knows. -/
theorem replaceJson_runs (known : e.identity = m.evidenceIdentity)
    (safe : ∀ step w, Left s m e step w → left (past ++ [label step]) w) :
    Triple (Under regime.before past (At s m e)) (replaceJson label)
      (fun identity => Under regime.before past fun w => identity ≠ e.identity ∧ At s m ⟨identity, m.record⟩ w)
      (regime.stops left) := by
  have early (step : WriteStep) (is : step.late = false) (w : World) (at_ : At s m e w) :
      left (past ++ [label step]) w :=
    safe step w (at_.early is)
  have begun : Triple (Under regime.before past (At s m e))
      (assign (onJournal fun j => { j with opened := false }) : ReviewM Unit) (fun _ =>
        Under regime.before past (At s m e))
      (regime.stops left) :=
    assign_triple fun p under => ⟨under.1, under.2.1, under.2.2.site, under.2.2.memory, under.2.2.evidence,
      under.2.2.fresh⟩
  refine Triple.bind begun fun _ => Triple.bind (Regime.sync (early .parent rfl)) fun _ => ?_
  refine Triple.bind (writeJsonTemp_runs alive calm fun step w is at_ => early step is w at_) fun _ => ?_
  refine Triple.bind (look_runs fun w ⟨_, drafted⟩ => early .stat rfl w drafted.toAt) fun identity => ?_
  have seen : Triple (Under regime.before past fun w => Drafted s m e ⟨identity, m.record⟩ w)
      (do
        check (label .current) .devCheck fun w => w.journal.evidence.identity = w.memory.evidenceIdentity
        sync (label .parentAgain)
        write (label .replace) (onJournal fun j =>
          { j with evidence := j.temporary.getD j.evidence, temporary := none })
        sync (label .sync)
        check (label .verify) .devCheck fun w => w.journal.evidence.identity = identity
        sync (label .parentAfter)
        return identity)
      (fun identity => Under regime.before past fun w => identity ≠ e.identity ∧ At s m ⟨identity, m.record⟩ w)
      (regime.stops left) := by
    refine Triple.bind (check_runs (fun w drafted => early .current rfl w drafted.toAt) ?_) fun _ => ?_
    · intro w drafted
      simp [drafted.evidence, drafted.memory, known]
    refine Triple.bind (Regime.sync fun w drafted => early .parentAgain rfl w drafted.toAt) fun _ => ?_
    have late (step : WriteStep) (is : step.late = true) (w : World)
        (at_ : identity ≠ e.identity ∧ At s m ⟨identity, m.record⟩ w) : left (past ++ [label step]) w :=
      safe step w (at_.2.draft at_.1 is)
    have replaced : Triple (Under regime.before past fun w => Drafted s m e ⟨identity, m.record⟩ w)
        (write (label .replace) (onJournal fun j =>
          { j with evidence := j.temporary.getD j.evidence, temporary := none }) : ReviewM Unit)
        (fun _ => Under regime.before past fun w => identity ≠ e.identity ∧ At s m ⟨identity, m.record⟩ w)
        (regime.stops left) := by
      refine Regime.write (fun w drafted => early .replace rfl w drafted.toAt) fun w drafted => ?_
      refine ⟨drafted.other, drafted.site, drafted.memory, ?_, drafted.numbered⟩
      simp [onJournal, drafted.temporary]
    refine Triple.bind replaced fun _ => Triple.bind (Regime.sync (late .sync rfl)) fun _ => ?_
    refine Triple.bind (check_runs (late .verify rfl) fun w at_ => by simp [at_.2.evidence]) fun _ => ?_
    exact Triple.bind (Regime.sync (late .parentAfter rfl)) fun _ => Triple.pure fun _ => id
  refine seen.strengthen fun p under => ⟨under.1, under.2.1, ?_⟩
  obtain ⟨value, other, drafted⟩ := under.2.2
  have same : identity = other := by simp [value, drafted.temporary]
  rwa [same]

omit alive in
/-- The `finally` block of a failed write. -/
theorem dropTemporary_calm {e : Evidence} {fails : Stop Failure → Assertion (Process Point Failure World)} :
    Triple (Under regime.after past (At s m e)) (dropTemporary label) (fun _ =>
      Under regime.after past (At s m e)) fails := by
  refine disk_bind_triple fun w => Triple.strengthen ?_ fun _ => And.right
  refine Triple.bind (Triple.onlyIf _ (Regime.calm_sync calm)) fun _ => ?_
  exact Regime.calm_write calm fun w at_ => ⟨at_.site, at_.memory, at_.evidence, at_.fresh⟩

/-- `_atomic_json` with the identity that memory knows. -/
theorem atomicJson_runs (known : e.identity = m.evidenceIdentity)
    (safe : ∀ step w, Left s m e step w → left (past ++ [label step]) w) :
    Triple (Under regime.before past (At s m e)) (atomicJson label)
      (fun identity => Under regime.before past fun w => identity ≠ e.identity ∧ At s m ⟨identity, m.record⟩ w)
      (regime.stops left) := by
  have replaced : Triple (Under regime.before past (At s m e)) (replaceJson label)
      (fun identity => Under regime.before past fun w => identity ≠ e.identity ∧ At s m ⟨identity, m.record⟩ w)
      (regime.stops fun struck w => ∃ step, struck = past ++ [label step] ∧ Left s m e step w) :=
    replaceJson_runs alive calm known fun step w stopped => ⟨step, rfl, stopped⟩
  refine Triple.bind (Regime.handled _ replaced (fun dies => absurd dies alive) fun failure => ?_) fun identity => ?_
  · intro p ⟨⟨step, struck, stopped⟩, after⟩
    -- The temporary goes; the evidence stays where the step left it.
    have cleaned (e' : Evidence) (ends : ∀ w, At s m e' w → Left s m e step w) :
        Triple (Under regime.after p.struck (At s m e')) (do
          dropTemporary label
          raise failure : ReviewM Identity)
          (fun identity => Under regime.before past fun w => identity ≠ e.identity ∧ At s m ⟨identity, m.record⟩ w)
          (regime.stops left) := by
      refine Triple.bind (dropTemporary_calm calm) fun _ => raise_triple fun q under => ⟨?_, under.1⟩
      rw [under.2.1, struck]
      exact safe step q.disk (ends q.disk under.2.2)
    unfold Left at stopped cleaned
    by_cases late : step.late = true
    · simp only [late, ↓reduceIte] at stopped cleaned
      obtain ⟨identity, other, at_⟩ := stopped
      exact cleaned _ (fun w at_ => ⟨identity, other, at_⟩) p ⟨after, rfl, at_⟩
    · simp only [late] at stopped cleaned
      exact cleaned e (fun _ => id) p ⟨after, rfl, stopped⟩
  · have late (step : WriteStep) (is : step.late = true) (w : World)
        (at_ : identity ≠ e.identity ∧ At s m ⟨identity, m.record⟩ w) : left (past ++ [label step]) w :=
      safe step w (at_.2.draft at_.1 is)
    have dropped : Triple (Under regime.before past fun w => identity ≠ e.identity ∧ At s m ⟨identity, m.record⟩ w)
        (dropTemporary label)
        (fun _ => Under regime.before past fun w => identity ≠ e.identity ∧ At s m ⟨identity, m.record⟩ w)
        (regime.stops left) := by
      refine disk_bind_triple fun w => Triple.strengthen ?_ fun _ => And.right
      refine Triple.bind (Triple.onlyIf _ (Regime.sync (late .close rfl))) fun _ => ?_
      exact Regime.write (late .unlink rfl) fun w at_ => ⟨at_.1, at_.2.site, at_.2.memory, at_.2.evidence, at_.2.fresh⟩
    exact Triple.bind dropped fun _ => Triple.pure fun _ => id

omit alive calm in
theorem atomicJson_quiet {fails : Stop Failure → Assertion (Process Point Failure World)}
    (known : e.identity = m.evidenceIdentity) :
    Triple (Under Schedule.Quiet past (At s m e)) (atomicJson label)
      (fun identity => Under Schedule.Quiet past (At s m ⟨identity, m.record⟩)) fails := by
  have ran : Triple (Under Regime.quiet.before past (At s m e)) (atomicJson label)
      (fun identity => Under Regime.quiet.before past fun w => identity ≠ e.identity ∧ At s m ⟨identity, m.record⟩ w)
      (Regime.quiet.stops fun _ _ => True) :=
    atomicJson_runs id Regime.quiet_calm known fun _ _ _ => True.intro
  exact (Regime.quiet_fallback ran).conclude (fun _ _ under => ⟨under.1, under.2.1, under.2.2.2⟩) fun _ _ => id

omit alive calm in
/-- With another identity on the disk than in memory nothing is replaced. -/
theorem atomicJson_refused (stale : e.identity ≠ m.evidenceIdentity) :
    Triple (Under Schedule.Quiet past (At s m e)) (atomicJson label) (fun _ _ => False)
      (fun _ => Under Schedule.Quiet past (At s m e)) := by
  have calm : Regime.Calm (Regime.single : Regime Failure) := Regime.single_calm
  have drafted : Triple (Under Regime.quiet.before past (At s m e)) (writeJsonTemp label)
      (fun _ => Under Regime.quiet.before past fun w => ∃ identity, Drafted s m e ⟨identity, m.record⟩ w)
      (Regime.quiet.stops fun _ _ => True) :=
    writeJsonTemp_runs id Regime.quiet_calm fun _ _ _ _ => True.intro
  have refused : Triple (Under Schedule.Quiet past (At s m e)) (replaceJson label) (fun _ _ => False)
      (fun _ => Under Schedule.Quiet past (At s m e)) := by
    have begun : Triple (Under Schedule.Quiet past (At s m e))
        (assign (onJournal fun j => { j with opened := false }) : ReviewM Unit) (fun _ =>
          Under Schedule.Quiet past (At s m e))
        (fun _ => Under Schedule.Quiet past (At s m e)) :=
      assign_triple fun p under => ⟨under.1, under.2.1, under.2.2.site, under.2.2.memory, under.2.2.evidence,
        under.2.2.fresh⟩
    refine Triple.bind begun fun _ => Triple.bind (Regime.calm_sync calm) fun _ => ?_
    refine Triple.bind (Regime.quiet_fallback drafted) fun _ => ?_
    have looked : Triple (Under Schedule.Quiet past fun w => ∃ identity, Drafted s m e ⟨identity, m.record⟩ w)
        (look (label .stat) fun w => (w.journal.temporary.map (·.identity)).getD 0)
        (fun _ => Under Schedule.Quiet past (At s m e)) (fun _ => Under Schedule.Quiet past (At s m e)) :=
      Regime.calm_act calm fun w ⟨_, drafted⟩ => ⟨_, w, rfl, drafted.toAt⟩
    refine Triple.bind looked fun identity => Triple.bind (act_triple ?_ ?_ ?_) fun _ _ => False.elim
    · intro p fault under head
      rw [under.1.head] at head
      cases head
    · intro p value d under passed
      simp [under.2.2.evidence, under.2.2.memory, stale] at passed
    · exact fun p failure under _ => ⟨under.1.tail, under.2.1, under.2.2⟩
  refine Triple.bind (Triple.rescue refused fun stop => ?_) fun _ _ => False.elim
  cases stop with
  | crash => exact Triple.throw fun _ => id
  | raised failure => exact Triple.bind (dropTemporary_calm calm) fun _ => raise_triple fun _ => id

end Writing

section Phases

/-- What holds of the directories, the local variables and the evidence. -/
def Standing (holds : Site → Memory → Evidence → Prop) (w : World) : Prop :=
  holds w.site w.memory w.journal.evidence ∧ w.journal.evidence.identity < w.journal.fresh

/-- Nothing is published, as far as memory and the evidence know. -/
def Early (_ : Site) (m : Memory) (e : Evidence) : Prop :=
  m.record = ⟨.active, none⟩ ∧ e.record = ⟨.active, none⟩ ∧ m.published = none

/-- The package is at its output path. -/
def Out (identity : Identity) (s : Site) (m : Memory) : Prop :=
  s.output = some identity ∧ s.staging = none ∧ m.published = some identity ∧ m.rootFd.isSome = true

/-- Published, and the evidence is still the active one. -/
def Published (s : Site) (m : Memory) (e : Evidence) : Prop :=
  ∃ identity, Out identity s m ∧ m.receiptCommitted = false ∧ e.record = ⟨.active, none⟩ ∧
    e.identity = m.evidenceIdentity

/-- The committed evidence stands, and memory has the identity of the one before. -/
def Committing (s : Site) (m : Memory) (e : Evidence) : Prop :=
  ∃ identity, Out identity s m ∧ m.receiptCommitted = false ∧ e.record = ⟨.committed, some identity⟩ ∧
    e.identity ≠ m.evidenceIdentity

/-- The committed evidence stands, and memory knows it. -/
def Committed (s : Site) (m : Memory) (e : Evidence) : Prop :=
  ∃ identity, Out identity s m ∧ m.receiptCommitted = true ∧ e.record = ⟨.committed, some identity⟩ ∧
    m.record = ⟨.committed, some identity⟩ ∧ e.identity = m.evidenceIdentity

/-- It has been written once more, and memory has the identity of the one before. -/
def Confirmed (s : Site) (m : Memory) (e : Evidence) : Prop :=
  ∃ identity, Out identity s m ∧ m.receiptCommitted = true ∧ e.record = ⟨.committed, some identity⟩ ∧
    e.identity ≠ m.evidenceIdentity

/-- Where the step leaves the run when it raises. -/
def Point.phase : Point → Site → Memory → Evidence → Prop
  | .syncOutput | .treeAgain => Published
  | .commit step => if step.late then Committing else Published
  | .checkOutput => Committed
  | .confirm step => if step.late then Confirmed else Committed
  | _ => Early

/-- The steps after which the handler goes wrong: from the rename that commits the evidence until memory knows of
it, and from there until the evidence has been renamed once more. -/
def Point.breaks : Point → Bool
  | .commit step => step.late
  | .checkOutput => true
  | .confirm step => !step.late
  | _ => false

/-- The evidence says committed exactly when the output path has the identity that it records. -/
def Truthful (w : World) : Prop :=
  w.journal.evidence.record.state = .committed ↔
    ∃ identity, w.journal.evidence.record.package = some identity ∧ w.site.output = some identity

instance (w : World) : Decidable (Truthful w) :=
  decidable_of_iff (w.journal.evidence.record.state = .committed ↔
    w.journal.evidence.record.package.isSome ∧ w.site.output = w.journal.evidence.record.package) (by
      unfold Truthful
      cases w.journal.evidence.record.package with
      | none => simp
      | some identity => simp)

variable {holds : Site → Memory → Evidence → Prop} {kind : Schedule Failure → Prop} {body : ReviewM α}
  {post : α → Assertion (Process Point Failure World)} {fails : Stop Failure → Assertion (Process Point Failure World)}

theorem at_each (each : ∀ s m e, holds s m e → Triple (Under kind past (At s m e)) body post fails) :
    Triple (Under kind past (Standing holds)) body post fails :=
  fun p under => each _ _ _ under.2.2.1 p ⟨under.1, under.2.1, rfl, rfl, rfl, under.2.2.2⟩

theorem At.standing {s : Site} {m : Memory} {e : Evidence} {w : World} (at_ : At s m e w) (held : holds s m e) :
    Standing holds w := by
  obtain ⟨rfl, rfl, rfl, fresh⟩ := at_
  exact ⟨held, fresh⟩

end Phases

section Handler

variable {s : Site} {m : Memory} {e : Evidence} {fails : Stop Failure → Assertion (Process Point Failure World)}

/-- A package that is not published, or whose receipt is committed, stays where it is. -/
theorem takeBack_skips (stays : m.receiptCommitted = true ∨ m.published = none) :
    Triple (Under Schedule.Quiet past (At s m e)) takeBack (fun _ => Under Schedule.Quiet past (At s m e)) fails := by
  refine disk_bind_triple fun w => ?_
  refine Triple.given (w.memory = m) (fun p under => under.1 ▸ under.2.2.2.memory) fun same => ?_
  have skipped : (!w.memory.receiptCommitted && w.memory.published.isSome && w.memory.rootFd.isSome) = false := by
    rw [same]
    rcases stays with committed | unpublished
    · simp [committed]
    · simp [unpublished]
  simp only [skipped, onlyIf]
  exact Triple.pure fun _ under => under.2

/-- A published package goes back into the staging root. -/
theorem takeBack_restores {identity : Identity} (out : Out identity s m) (uncommitted : m.receiptCommitted = false) :
    Triple (Under Schedule.Quiet past (At s m e)) takeBack
      (fun _ => Under Schedule.Quiet past (At { s with staging := some identity, output := none } m e)) fails := by
  have calm : Regime.Calm (Regime.single : Regime Failure) := Regime.single_calm
  obtain ⟨output, staging, published, root⟩ := out
  refine disk_bind_triple fun w => ?_
  refine Triple.given (w.memory = m) (fun p under => under.1 ▸ under.2.2.2.memory) fun same => ?_
  have entered : (!w.memory.receiptCommitted && w.memory.published.isSome && w.memory.rootFd.isSome) = true := by
    simp [same, uncommitted, published, root]
  simp only [entered, onlyIf, ↓reduceIte]
  have seen : Triple (Under Schedule.Quiet past (At s m e)) (look .sameOutput fun v =>
      v.site.output == w.memory.published)
      (fun value => Under Schedule.Quiet past fun v => value = true ∧ At s m e v) (fun _ _ => False) := by
    refine Regime.calm_act calm fun v at_ => ⟨_, v, rfl, ?_, at_⟩
    simp [at_.site, output, same, published]
  refine Triple.strengthen (Triple.bind (Triple.rescue seen fun _ _ => False.elim) fun value => ?_) fun _ => And.right
  refine Triple.given (value = true) (fun p under => under.2.2.1) fun yes => ?_
  subst yes
  have vacant : Triple (Under Schedule.Quiet past fun v => True ∧ At s m e v) (look .stagingFree fun v =>
      v.site.staging.isNone)
      (fun value => Under Schedule.Quiet past fun v => value = true ∧ At s m e v) fails := by
    refine Regime.calm_act calm fun v at_ => ⟨_, v, rfl, ?_, at_.2⟩
    simp [at_.2.site, staging]
  refine Triple.strengthen (Triple.bind vacant fun value => ?_) fun p under =>
    ⟨under.1, under.2.1, True.intro, under.2.2.2⟩
  refine Triple.given (value = true) (fun p under => under.2.2.1) fun yes => ?_
  subst yes
  have moved : Triple (Under Schedule.Quiet past fun v => true = true ∧ At s m e v) (do
      restore
      sync .restoreSync
      sync .restoreSyncRoot)
      (fun _ => Under Schedule.Quiet past (At { s with staging := some identity, output := none } m e))
        (fun _ _ => False) := by
    have back : Triple (Under Schedule.Quiet past fun v => true = true ∧ At s m e v) restore
        (fun _ => Under Schedule.Quiet past (At { s with staging := some identity, output := none } m e))
          (fun _ _ => False) := by
      refine Regime.calm_act calm fun v at_ =>
        ⟨(), { v with site := { s with staging := some identity, output := none } }, ?_, ?_⟩
      · simp [at_.2.site, staging, output, onSite]
      · exact ⟨rfl, at_.2.memory, at_.2.evidence, at_.2.fresh⟩
    exact Triple.bind back fun _ => Triple.bind (Regime.calm_sync calm) fun _ => Regime.calm_sync calm
  exact Triple.rescue moved fun _ _ => False.elim

/-- The handler leaves the evidence as it was, or with the state of a failure and what memory has of the package. -/
theorem recordFailure_writes {s' : Site} (failure : Failure)
    (taken : ∀ fails, Triple (Under Schedule.Quiet past (At s m e)) takeBack (fun _ =>
      Under Schedule.Quiet past (At s' m e)) fails)
    (known : e.identity = m.evidenceIdentity) :
    Triple (Under Schedule.Quiet past (At s m e)) (recordFailure failure)
      (fun _ => Under Schedule.Quiet past fun w => w.site = s' ∧
        w.journal.evidence.record = ⟨finishState failure, m.record.package⟩) fails := by
  refine Triple.bind (taken _) fun _ => ?_
  let marked : Memory := { m with record := { m.record with state := finishState failure } }
  have noted : Triple (Under Schedule.Quiet past (At s' m e))
      (remember fun m => { m with record := { m.record with state := finishState failure } })
      (fun _ => Under Schedule.Quiet past (At s' marked e)) fails :=
    assign_triple fun p under => ⟨under.1, under.2.1,
      under.2.2.site, by rw [under.2.2.memory], under.2.2.evidence, under.2.2.fresh⟩
  refine Triple.bind noted fun _ => Triple.bind (atomicJson_quiet known) fun identity => ?_
  refine Triple.pure fun p under => ⟨under.1, under.2.1, under.2.2.site, ?_⟩
  rw [under.2.2.evidence]

theorem recordFailure_refused {s' : Site} (failure : Failure)
    (taken : ∀ fails, Triple (Under Schedule.Quiet past (At s m e)) takeBack (fun _ =>
      Under Schedule.Quiet past (At s' m e)) fails)
    (stale : e.identity ≠ m.evidenceIdentity) :
    Triple (Under Schedule.Quiet past (At s m e)) (recordFailure failure) (fun _ _ => False)
      (fun _ => Under Schedule.Quiet past fun w => w.site = s' ∧ w.journal.evidence = e) := by
  refine Triple.bind (taken _) fun _ => ?_
  let marked : Memory := { m with record := { m.record with state := finishState failure } }
  have noted : Triple (Under Schedule.Quiet past (At s' m e))
      (remember fun m => { m with record := { m.record with state := finishState failure } })
      (fun _ => Under Schedule.Quiet past (At s' marked e))
      (fun _ => Under Schedule.Quiet past fun w => w.site = s' ∧ w.journal.evidence = e) :=
    assign_triple fun p under => ⟨under.1, under.2.1,
      under.2.2.site, by rw [under.2.2.memory], under.2.2.evidence, under.2.2.fresh⟩
  have still : e.identity ≠ marked.evidenceIdentity := stale
  refine Triple.bind noted fun _ => Triple.bind ((atomicJson_refused still).fallback fun _ p under =>
    ?_) fun _ _ => False.elim
  exact ⟨under.1, under.2.1, under.2.2.site, under.2.2.evidence⟩

/-- A step that raises and what the handler makes of it. -/
def Judged (p : Process Point Failure World) : Prop := Truthful p.disk ↔ ∀ point ∈ p.struck, point.breaks = false

theorem Judged.of_one {p : Process Point Failure World} {point : Point} (struck : p.struck = [point])
    (verdict : Truthful p.disk ↔ point.breaks = false) : Judged p := by
  rw [Judged, struck, verdict]
  simp

theorem finishState_uncommitted (failure : Failure) : finishState failure ≠ .committed := by
  cases failure <;> simp [finishState]

/-- The verdict on a run that ends with an uncommitted evidence, by what stands at the output path. -/
theorem truthful_uncommitted {w : World} {r : Record} (record : w.journal.evidence.record = r)
    (state : r.state ≠ .committed) :
    Truthful w ↔ ¬ ∃ identity, r.package = some identity ∧ w.site.output = some identity := by
  rw [Truthful, record]
  simp [state]

theorem truthful_committed {w : World} {identity : Identity}
    (record : w.journal.evidence.record = ⟨.committed, some identity⟩) :
    Truthful w ↔ w.site.output = some identity := by
  rw [Truthful, record]
  simp

theorem recordFailure_judged (point : Point) (failure : Failure) :
    Triple (Under Schedule.Quiet [point] (Standing point.phase)) (recordFailure failure) (fun _ =>
      Judged) (fun _ => Judged) := by
  refine at_each fun s m e phase => ?_
  have early (held : Early s m e) (fine : point.breaks = false) :
      Triple (Under Schedule.Quiet [point] (At s m e)) (recordFailure failure) (fun _ => Judged) (fun _ => Judged) := by
    obtain ⟨record, evidence, published⟩ := held
    by_cases known : e.identity = m.evidenceIdentity
    · refine (recordFailure_writes failure (fun _ => takeBack_skips (.inr published)) known).conclude
        (fun _ p under => ?_)
        fun _ _ => id
      refine Judged.of_one under.2.1 ?_
      rw [truthful_uncommitted under.2.2.2 (finishState_uncommitted failure)]
      simp [record, fine]
    · refine (recordFailure_refused failure (fun _ => takeBack_skips (.inr published)) known).conclude (fun _ _ =>
        False.elim) ?_
      refine fun _ p under => Judged.of_one under.2.1 ?_
      rw [truthful_uncommitted (congrArg Evidence.record under.2.2.2) (by simp [evidence])]
      simp [evidence, fine]
  have published (held : Published s m e) (fine : point.breaks = false) :
      Triple (Under Schedule.Quiet [point] (At s m e)) (recordFailure failure) (fun _ => Judged) (fun _ => Judged) := by
    obtain ⟨identity, out, uncommitted, evidence, known⟩ := held
    refine (recordFailure_writes failure (fun _ => takeBack_restores out uncommitted) known).conclude
      (fun _ p under => ?_)
      fun _ _ => id
    refine Judged.of_one under.2.1 ?_
    rw [truthful_uncommitted under.2.2.2 (finishState_uncommitted failure), under.2.2.1]
    simp [fine]
  have committing (held : Committing s m e) (bad : point.breaks = true) :
      Triple (Under Schedule.Quiet [point] (At s m e)) (recordFailure failure) (fun _ => Judged) (fun _ => Judged) := by
    obtain ⟨identity, out, uncommitted, evidence, stale⟩ := held
    refine (recordFailure_refused failure (fun _ => takeBack_restores out uncommitted) stale).conclude (fun _ _ =>
      False.elim) ?_
    refine fun _ p under => Judged.of_one under.2.1 ?_
    rw [truthful_committed (under.2.2.2 ▸ evidence), under.2.2.1]
    simp [bad]
  have committed (held : Committed s m e) (bad : point.breaks = true) :
      Triple (Under Schedule.Quiet [point] (At s m e)) (recordFailure failure) (fun _ => Judged) (fun _ => Judged) := by
    obtain ⟨identity, out, committed, evidence, record, known⟩ := held
    refine (recordFailure_writes failure (fun _ => takeBack_skips (.inl committed)) known).conclude
      (fun _ p under => ?_)
      fun _ _ => id
    refine Judged.of_one under.2.1 ?_
    rw [truthful_uncommitted under.2.2.2 (finishState_uncommitted failure), under.2.2.1]
    simp [record, out.1, bad]
  have confirmed (held : Confirmed s m e) (fine : point.breaks = false) :
      Triple (Under Schedule.Quiet [point] (At s m e)) (recordFailure failure) (fun _ => Judged) (fun _ => Judged) := by
    obtain ⟨identity, out, committed, evidence, stale⟩ := held
    refine (recordFailure_refused failure (fun _ => takeBack_skips (.inl committed)) stale).conclude (fun _ _ =>
      False.elim) ?_
    refine fun _ p under => Judged.of_one under.2.1 ?_
    rw [truthful_committed (under.2.2.2 ▸ evidence), under.2.2.1]
    simp [out.1, fine]
  cases point with
  | syncOutput => exact published phase rfl
  | treeAgain => exact published phase rfl
  | checkOutput => exact committed phase rfl
  | commit step =>
    by_cases late : step.late = true
    · exact committing (by simpa [Point.phase, late] using phase) late
    · exact published (by simpa [Point.phase, late] using phase) (by simpa [Point.breaks] using late)
  | confirm step =>
    by_cases late : step.late = true
    · exact confirmed (by simpa [Point.phase, late] using phase) (by simp [Point.breaks, late])
    · exact committed (by simpa [Point.phase, late] using phase) (by simp [Point.breaks, late])
  | _ => exact early phase rfl

end Handler

section Body

/-- One step raised, and left the run in its phase. -/
def Halted (struck : List Point) (w : World) : Prop := ∃ point, struck = [point] ∧ Standing point.phase w

/-- On the way to the publication. -/
def Running (more : Site → Memory → Prop) (s : Site) (m : Memory) (e : Evidence) : Prop :=
  Early s m e ∧ e.identity = m.evidenceIdentity ∧ m.receiptCommitted = false ∧ s.output = none ∧ more s m

variable {more : Site → Memory → Prop} {regime : Regime Failure}

theorem Running.halted {w : World} (running : Standing (Running more) w) {point : Point} (early : point.phase = Early) :
    Halted ([] ++ [point]) w :=
  ⟨point, rfl, early ▸ running.1.1, running.2⟩

/-- The handler of `_create_package_marker` only touches the staging root, and raises again. -/
theorem undoMarker_raises (failure : Failure) :
    Triple (Under Schedule.Quiet past (Standing Early)) (undoMarker failure) (fun _ _ => False)
      (fun stop p => stop = .raised failure ∧ Under Schedule.Quiet past (Standing Early) p) := by
  have calm : Regime.Calm (Regime.single : Regime Failure) := Regime.single_calm
  refine disk_bind_triple fun w => Triple.strengthen ?_ fun _ => And.right
  refine Triple.bind (Triple.onlyIf _ (Triple.bind (Triple.onlyIf _ ?_) fun _ => Regime.calm_sync calm)) fun _ => ?_
  · exact Triple.bind look_calm fun same => Triple.onlyIf _ (Regime.calm_write calm fun v early => early)
  have emptied : Triple (Under Schedule.Quiet past (Standing Early))
      (act (.marker .rmdir) fun w =>
        if w.site.marker.isSome then .error Failure.os else .ok ((), onSite (fun s => { s with root := none }) w))
      (fun _ => Under Schedule.Quiet past (Standing Early))
      (fun stop p => stop = .raised .os ∧ Under Schedule.Quiet past (Standing Early) p) := by
    apply act_triple
    · intro p fault under head
      rw [under.1.head] at head
      cases head
    · intro p value v under changed
      split at changed
      · cases changed
      · cases changed
        exact ⟨under.1.tail, under.2.1, under.2.2⟩
    · intro p error under changed
      split at changed
      · cases changed
        exact ⟨rfl, under.1.tail, under.2.1, under.2.2⟩
      · cases changed
  refine Triple.bind (Triple.rescue emptied fun stop => Triple.assume fun same => ?_) fun _ => ?_
  · subst same
    exact Triple.skip
  · exact raise_triple fun p under => ⟨rfl, under⟩

/-- The staging root is made. -/
theorem createPackageMarker_runs :
    Triple (Under Regime.single.before [] (Standing (Running fun s _ => s.root = none ∧ s.staging = none)))
      createPackageMarker
      (fun _ => Under Regime.single.before [] (Standing (Running fun s m => s.staging = none ∧ m.rootFd.isSome = true)))
      (Regime.single.stops Halted) := by
  let begun (s : Site) (_ : Memory) : Prop := s.root.isSome = true ∧ s.staging = none
  let opened (s : Site) (m : Memory) : Prop := s.staging = none ∧ m.newRoot.isSome = true
  let stopped (struck : List Point) (w : World) : Prop := ∃ step, struck = [.marker step] ∧ Standing Early w
  have stops {more : Site → Memory → Prop} (step : MarkerStep) (w : World) (running : Standing (Running more) w) :
      stopped ([] ++ [.marker step]) w := ⟨step, rfl, running.1.1, running.2⟩
  have made : Triple (Under Regime.single.before [] (Standing (Running fun s _ => s.root = none ∧ s.staging = none)))
      (act (.marker .mkdir) fun w =>
        if w.site.root.isSome then .error Failure.os
        else .ok ((), { w with site := { w.site with root := some w.journal.fresh }
                               journal := { w.journal with fresh := w.journal.fresh + 1 } }))
      (fun _ => Under Regime.single.before [] (Standing (Running begun))) (Regime.single.stops stopped) := by
    refine Regime.act (stops .mkdir) fun w running => ?_
    obtain ⟨⟨early, known, uncommitted, output, root, staging⟩, fresh⟩ := running
    refine ⟨(), { w with site := { w.site with root := some w.journal.fresh }
                         journal := { w.journal with fresh := w.journal.fresh + 1 } }, by simp [root], ?_⟩
    exact ⟨⟨early, known, uncommitted, output, rfl, staging⟩, Nat.lt_succ_of_lt fresh⟩
  have root : Triple (Under Regime.single.before [] (Standing (Running begun))) (look (.marker .openRoot) (·.site.root))
      (fun value => Under Regime.single.before [] fun w => value.isSome = true ∧ Standing (Running begun) w)
      (Regime.single.stops stopped) :=
    (look_runs (stops .openRoot)).conclude (fun _ p under =>
      ⟨under.1, under.2.1, under.2.2.1 ▸ under.2.2.2.1.2.2.2.2.1, under.2.2.2⟩) fun _ _ => id
  have created : Triple (Under Regime.single.before [] (Standing (Running opened)))
      (write (.marker .create) fun w =>
        { w with site := { w.site with marker := some w.journal.fresh }
                 journal := { w.journal with fresh := w.journal.fresh + 1 } } : ReviewM Unit)
      (fun _ => Under Regime.single.before [] (Standing (Running opened))) (Regime.single.stops stopped) := by
    refine Regime.write (stops .create) fun w running => ?_
    obtain ⟨⟨early, known, uncommitted, output, staging, opened⟩, fresh⟩ := running
    exact ⟨⟨early, known, uncommitted, output, staging, opened⟩, Nat.lt_succ_of_lt fresh⟩
  have marker : Triple (Under Regime.single.before [] (Standing (Running opened)))
      (look (.marker .stat) (·.site.marker))
      (fun _ => Under Regime.single.before [] (Standing (Running opened))) (Regime.single.stops stopped) :=
    (look_runs (stops .stat)).conclude (fun _ p under => ⟨under.1, under.2.1, under.2.2.2⟩) fun _ _ => id
  have noted : Triple (Under Regime.single.before [] (Standing (Running opened)))
      (remember fun m => { m with rootFd := m.newRoot, markerCreated := true })
      (fun _ => Under Regime.single.before [] (Standing (Running fun s m => s.staging = none ∧ m.rootFd.isSome = true)))
      (Regime.single.stops Halted) := by
    refine remember_runs _ fun w running => ?_
    obtain ⟨⟨early, known, uncommitted, output, staging, opened⟩, fresh⟩ := running
    exact ⟨⟨early, known, uncommitted, output, staging, opened⟩, fresh⟩
  refine Triple.bind (Regime.handled stopped ?_ nofun fun failure => ?_) fun _ => noted
  · refine Triple.bind made fun _ => Triple.bind root fun value => ?_
    refine Triple.bind (remember_runs (Standing (Running opened)) fun w ⟨there, running⟩ => ?_) fun _ => ?_
    · obtain ⟨⟨early, known, uncommitted, output, -, staging⟩, fresh⟩ := running
      exact ⟨⟨early, known, uncommitted, output, staging, there⟩, fresh⟩
    refine Triple.bind (Regime.sync (stops .statRoot)) fun _ => Triple.bind created fun _ =>
      Triple.bind marker fun identity => ?_
    refine Triple.bind (remember_runs (Standing (Running opened)) fun w running => ?_) fun _ => ?_
    · obtain ⟨⟨early, known, uncommitted, output, staging, opened⟩, fresh⟩ := running
      exact ⟨⟨early, known, uncommitted, output, staging, opened⟩, fresh⟩
    refine Triple.bind (Regime.sync (stops .fill)) fun _ => Triple.bind (Regime.sync (stops .flush)) fun _ => ?_
    exact Triple.bind (Regime.sync (stops .syncRoot)) fun _ => Regime.sync (stops .syncParent)
  · intro p ⟨⟨step, struck, early⟩, quiet⟩
    have undone : Triple (Under Schedule.Quiet p.struck (Standing Early)) (undoMarker failure)
        (fun _ => Under Regime.single.before [] (Standing (Running opened))) (Regime.single.stops Halted) :=
      (undoMarker_raises failure).conclude (fun _ _ => False.elim) fun stop q raised => by
        obtain ⟨rfl, quiet, same, early⟩ := raised
        exact ⟨⟨.marker step, same.trans struck, early⟩, quiet⟩
    exact undone p ⟨quiet, rfl, early⟩

/-- The package directory is made and pinned. -/
theorem createStaging_runs :
    Triple (Under Regime.single.before [] (Standing (Running fun s m => s.staging = none ∧ m.rootFd.isSome = true)))
      createStaging
      (fun _ => Under Regime.single.before [] (Standing (Running fun s m =>
        s.files = [] ∧ s.staging.isSome = true ∧ m.rootFd.isSome = true)))
      (Regime.single.stops Halted) := by
  let made (s : Site) (m : Memory) : Prop := s.files = [] ∧ s.staging.isSome = true ∧ m.rootFd.isSome = true
  let owned (s : Site) (m : Memory) : Prop := m.stagingIdentity = s.staging ∧ made s m
  let pinned (s : Site) (m : Memory) : Prop := m.packageFd = m.stagingIdentity ∧ made s m
  have created : Triple (Under Regime.single.before []
        (Standing (Running fun s m => s.staging = none ∧ m.rootFd.isSome = true)))
      (write .mkdir fun w =>
        { w with site := { w.site with staging := some w.journal.fresh, files := [] }
                 journal := { w.journal with fresh := w.journal.fresh + 1 } } : ReviewM Unit)
      (fun _ => Under Regime.single.before [] (Standing (Running made))) (Regime.single.stops Halted) := by
    refine Regime.write (fun w running => Running.halted running rfl) fun w running => ?_
    obtain ⟨⟨early, known, uncommitted, output, -, root⟩, fresh⟩ := running
    exact ⟨⟨early, known, uncommitted, output, rfl, rfl, root⟩, Nat.lt_succ_of_lt fresh⟩
  refine Triple.bind created fun _ => Triple.bind (look_runs fun w running =>
    Running.halted running rfl) fun identity => ?_
  refine Triple.bind (remember_runs (Standing (Running owned)) fun w ⟨seen, running⟩ => ?_) fun _ => ?_
  · obtain ⟨⟨early, known, uncommitted, output, made⟩, fresh⟩ := running
    exact ⟨⟨early, known, uncommitted, output, seen, made⟩, fresh⟩
  refine Triple.bind (look_runs fun w running => Running.halted running rfl) fun opened => ?_
  refine Triple.bind (remember_runs (Standing (Running pinned)) fun w ⟨seen, running⟩ => ?_) fun _ => ?_
  · obtain ⟨⟨early, known, uncommitted, output, owned, made⟩, fresh⟩ := running
    exact ⟨⟨early, known, uncommitted, output, seen.trans owned.symm, made⟩, fresh⟩
  have checked : Triple (Under Regime.single.before [] (Standing (Running pinned)))
      (check .pin .devCheck fun w => w.memory.packageFd = w.memory.stagingIdentity)
      (fun _ => Under Regime.single.before [] (Standing (Running pinned))) (Regime.single.stops Halted) :=
    check_runs (fun w running => Running.halted running rfl) fun w running => decide_eq_true running.1.2.2.2.2.1
  refine checked.conclude (fun _ p under => ⟨under.1, under.2.1, ?_⟩) fun _ _ => id
  obtain ⟨⟨early, known, uncommitted, output, -, made⟩, fresh⟩ := under.2.2
  exact ⟨⟨early, known, uncommitted, output, made⟩, fresh⟩

/-- The package has its files, and memory knows them. -/
theorem writePackage_runs (host : Host) :
    Triple (Under Regime.single.before [] (Standing (Running fun s m =>
        s.files = [] ∧ s.staging.isSome = true ∧ m.rootFd.isSome = true))) (writePackage host)
      (fun _ => Under Regime.single.before [] (Standing (Running fun s m =>
        s.files = m.tree ∧ s.staging.isSome = true ∧ m.rootFd.isSome = true)))
      (Regime.single.stops Halted) := by
  let filled (done : List String) (s : Site) (m : Memory) : Prop :=
    s.files = done ∧ s.staging.isSome = true ∧ m.rootFd.isSome = true
  refine Triple.bind (forM_triple (fun done => Under Regime.single.before [] (Standing (Running (filled done))))
    ?_) fun _ => ?_
  · intro done path rest _
    refine Regime.write (fun w running => Running.halted running rfl) fun w running => ?_
    obtain ⟨⟨early, known, uncommitted, output, files, more⟩, fresh⟩ := running
    exact ⟨⟨early, known, uncommitted, output, congrArg (· ++ [path]) files, more⟩, fresh⟩
  refine Triple.bind (Regime.sync fun w running => Running.halted running rfl) fun _ => ?_
  have checked : Triple (Under Regime.single.before [] (Standing (Running (filled host.payloads))))
      (check .verifyTree .devCheck fun w => w.site.files = host.payloads)
      (fun _ => Under Regime.single.before [] (Standing (Running (filled host.payloads))))
        (Regime.single.stops Halted) :=
    check_runs (fun w running => Running.halted running rfl) fun w running => decide_eq_true running.1.2.2.2.2.1
  refine Triple.bind checked fun _ => Triple.bind (look_runs fun w running => Running.halted running rfl) fun tree => ?_
  refine remember_runs _ fun w ⟨seen, running⟩ => ?_
  obtain ⟨⟨early, known, uncommitted, output, -, more⟩, fresh⟩ := running
  exact ⟨⟨early, known, uncommitted, output, seen.symm, more⟩, fresh⟩

/-- The evidence is written, and memory knows the new one. -/
theorem updateEvidence_runs {s : Site} {m : Memory} {e : Evidence} (known : e.identity = m.evidenceIdentity)
    (safe : ∀ step w, Left s m e step w → Halted [label step] w) :
    Triple (Under Regime.single.before [] (At s m e)) (updateEvidence label)
      (fun _ => Under Regime.single.before [] fun w =>
        ∃ identity, At s { m with evidenceIdentity := identity } ⟨identity, m.record⟩ w)
      (Regime.single.stops Halted) := by
  refine Triple.bind (atomicJson_runs id Regime.single_calm known safe) fun identity => ?_
  refine remember_runs _ fun w ⟨_, at_⟩ => ⟨identity, at_.site, ?_, at_.evidence, at_.fresh⟩
  exact congrArg (fun m : Memory => { m with evidenceIdentity := identity }) at_.memory

/-- The results of the planned step are in the evidence, which stays active. -/
theorem results_runs {vacant : Site → Prop} :
    Triple (Under Regime.single.before [] (Standing (Running fun s _ => vacant s))) (updateEvidence .results)
      (fun _ => Under Regime.single.before [] (Standing (Running fun s _ => vacant s)))
        (Regime.single.stops Halted) := by
  refine at_each fun s m e running => ?_
  obtain ⟨⟨record, evidence, published⟩, known, uncommitted, output, held⟩ := running
  have halted (step : WriteStep) (w : World) (stopped : Left s m e step w) : Halted [.results step] w := by
    refine ⟨.results step, rfl, ?_⟩
    unfold Left at stopped
    split at stopped
    · obtain ⟨identity, -, at_⟩ := stopped
      exact at_.standing ⟨record, record, published⟩
    · exact stopped.standing ⟨record, evidence, published⟩
  refine (updateEvidence_runs known halted).conclude (fun _ p under => ⟨under.1, under.2.1, ?_⟩) fun _ _ => id
  obtain ⟨identity, at_⟩ := under.2.2
  exact at_.standing ⟨⟨record, record, published⟩, rfl, uncommitted, output, held⟩

/-- The package is at its output path, and memory does not know its identity yet. -/
def Moved (s : Site) (m : Memory) (e : Evidence) : Prop :=
  Early s m e ∧ e.identity = m.evidenceIdentity ∧ m.receiptCommitted = false ∧ s.output.isSome = true ∧
    s.staging = none ∧
    s.files = m.tree ∧ m.rootFd.isSome = true

theorem publish_runs :
    Triple (Under Regime.single.before [] (Standing (Running fun s m =>
        s.files = m.tree ∧ s.staging.isSome = true ∧ m.rootFd.isSome = true))) publish
      (fun _ => Under Regime.single.before [] (Standing Moved)) (Regime.single.stops Halted) := by
  refine Regime.act (fun w running => Running.halted running rfl) fun w running => ?_
  obtain ⟨⟨early, known, uncommitted, output, files, staging, root⟩, fresh⟩ := running
  refine ⟨(), onSite (fun s => { s with output := s.staging, staging := none }) w, ?_, ?_⟩
  · have there : w.site.staging ≠ none := Option.isSome_iff_ne_none.mp staging
    simp [output, there]
  · exact ⟨⟨early, known, uncommitted, staging, rfl, files, root⟩, fresh⟩

theorem Moved.published {s : Site} {m : Memory} {e : Evidence} (moved : Moved s m e) :
    Published s { m with published := s.output } e ∧ s.files = m.tree := by
  obtain ⟨early, known, uncommitted, output, staging, files, root⟩ := moved
  obtain ⟨identity, there⟩ := Option.isSome_iff_exists.mp output
  exact ⟨⟨identity, ⟨there, staging, there, root⟩, uncommitted, early.2.1, known⟩, files⟩

/-- The evidence is committed. -/
theorem commit_runs :
    Triple (Under Regime.single.before [] (Standing fun s m e => Published s m e ∧
      m.record = ⟨.committed, m.published⟩))
      (updateEvidence .commit)
      (fun _ => Under Regime.single.before [] (Standing fun s m e => Committed s { m with receiptCommitted := true } e))
      (Regime.single.stops Halted) := by
  refine at_each fun s m e ⟨published, record⟩ => ?_
  obtain ⟨identity, out, uncommitted, evidence, known⟩ := published
  rw [out.2.2.1] at record
  have halted (step : WriteStep) (w : World) (stopped : Left s m e step w) : Halted [.commit step] w := by
    refine ⟨.commit step, rfl, ?_⟩
    by_cases late : step.late = true
    · simp only [Left, late, ↓reduceIte] at stopped
      simp only [Point.phase, late, ↓reduceIte]
      obtain ⟨fresh, other, at_⟩ := stopped
      exact at_.standing ⟨identity, out, uncommitted, record, fun same => other (same.trans known.symm)⟩
    · simp only [Left, late] at stopped
      simp only [Point.phase, late]
      exact stopped.standing ⟨identity, out, uncommitted, evidence, known⟩
  refine (updateEvidence_runs known halted).conclude (fun _ p under => ⟨under.1, under.2.1, ?_⟩) fun _ _ => id
  obtain ⟨fresh, at_⟩ := under.2.2
  exact at_.standing ⟨identity, out, rfl, record, record, rfl⟩

theorem confirm_runs :
    Triple (Under Regime.single.before [] (Standing Committed)) (updateEvidence .confirm)
      (fun _ => Under Regime.single.before [] (Standing Committed)) (Regime.single.stops Halted) := by
  refine at_each fun s m e committed => ?_
  obtain ⟨identity, out, noted, evidence, record, known⟩ := committed
  have halted (step : WriteStep) (w : World) (stopped : Left s m e step w) : Halted [.confirm step] w := by
    refine ⟨.confirm step, rfl, ?_⟩
    by_cases late : step.late = true
    · simp only [Left, late, ↓reduceIte] at stopped
      simp only [Point.phase, late, ↓reduceIte]
      obtain ⟨fresh, other, at_⟩ := stopped
      exact at_.standing ⟨identity, out, noted, record, fun same => other (same.trans known.symm)⟩
    · simp only [Left, late] at stopped
      simp only [Point.phase, late]
      exact stopped.standing ⟨identity, out, noted, evidence, record, known⟩
  refine (updateEvidence_runs known halted).conclude (fun _ p under => ⟨under.1, under.2.1, ?_⟩) fun _ _ => id
  obtain ⟨fresh, at_⟩ := under.2.2
  exact at_.standing ⟨identity, out, noted, record, record, rfl⟩

/-- Where `execute_package` stands when the active evidence has been written: nothing is staged or published, and
the source is as planned. -/
structure Ready (host : Host) (w : World) : Prop where
  returncode : host.returncode = 0
  snapshot : host.snapshotSame = true
  receipt : host.receiptSame = true
  evidence : w.journal.evidence = ⟨w.memory.evidenceIdentity, ⟨.active, none⟩⟩
  fresh : w.memory.evidenceIdentity < w.journal.fresh
  site : w.site = {}
  memory : w.memory = { record := ⟨.active, none⟩, evidenceIdentity := w.memory.evidenceIdentity }

theorem Ready.running {host : Host} {w : World} (ready : Ready host w) :
    Standing (Running fun s _ => s.root = none ∧ s.staging = none) w := by
  obtain ⟨-, -, -, evidence, fresh, site, memory⟩ := ready
  unfold Standing
  rw [evidence, site]
  refine ⟨⟨⟨?_, rfl, ?_⟩, rfl, ?_, rfl, rfl, rfl⟩, fresh⟩
  · rw [memory]
  · rw [memory]
  · rw [memory]

/-- The body without an error ends with a committed package. With one it stops in the phase of the step that raised. -/
theorem publishPackage_runs {host : Host} (returncode : host.returncode = 0) (snapshot : host.snapshotSame = true)
    (receipt : host.receiptSame = true) :
    Triple (Under Regime.single.before [] (Standing (Running fun s _ => s.root = none ∧ s.staging = none)))
      (publishPackage host)
      (fun _ => Under Regime.single.before [] (Standing Committed)) (Regime.single.stops Halted) := by
  refine Triple.bind (Regime.sync fun w running => Running.halted running rfl) fun _ =>
    Triple.bind results_runs fun _ => ?_
  refine Triple.bind (check_runs (fun w running =>
    Running.halted running rfl) fun _ _ => by simp [returncode]) fun _ => ?_
  refine Triple.bind (check_runs (fun w running => Running.halted running rfl) fun _ _ => snapshot) fun _ => ?_
  refine Triple.bind (check_runs (fun w running => Running.halted running rfl) fun _ _ => receipt) fun _ => ?_
  refine Triple.bind createPackageMarker_runs fun _ => Triple.bind createStaging_runs fun _ => ?_
  refine Triple.bind (writePackage_runs host) fun _ => ?_
  refine Triple.bind (check_runs (fun w running => Running.halted running rfl) fun w running => ?_) fun _ => ?_
  · exact decide_eq_true running.1.2.2.2.1
  refine Triple.bind publish_runs fun _ => Triple.bind (look_runs fun w moved => ?_) fun identity => ?_
  · exact ⟨.statOutput, rfl, moved.1.1, moved.2⟩
  refine Triple.bind (remember_runs (Standing fun s m e => Published s m e ∧ s.files = m.tree) fun w ⟨seen, moved⟩ =>
    ?_) fun _ => ?_
  · subst seen
    exact ⟨moved.1.published, moved.2⟩
  refine Triple.bind (Regime.sync fun w waiting => ?_) fun _ => ?_
  · exact ⟨.syncOutput, rfl, waiting.1.1, waiting.2⟩
  refine Triple.bind (check_runs (fun w waiting => ?_) fun w waiting => decide_eq_true waiting.1.2) fun _ => ?_
  · exact ⟨.treeAgain, rfl, waiting.1.1, waiting.2⟩
  refine Triple.bind (remember_runs _ fun w waiting => ?_) fun _ => Triple.bind commit_runs fun _ => ?_
  · exact ⟨⟨waiting.1.1, rfl⟩, waiting.2⟩
  refine Triple.bind (remember_runs (Standing Committed) fun w committed => committed) fun _ => ?_
  refine Triple.bind (check_runs (fun w committed => ?_) fun w committed => ?_) fun _ => confirm_runs
  · exact ⟨.checkOutput, rfl, committed⟩
  · obtain ⟨⟨identity, out, -⟩, -⟩ := committed
    exact decide_eq_true (out.1.trans out.2.2.1.symm)

end Body

section Closing

/-- A step that changes neither the evidence nor the output path. -/
theorem judged_act {point : Point} {change : World → Except Failure (α × World)} (fine : point.breaks = false)
    (same : ∀ w value w', change w = .ok (value, w') → w'.journal = w.journal ∧ w'.site.output = w.site.output) :
    Keeps Judged (act point change) := by
  apply act_triple
  · intro p fault judged _
    unfold Judged at judged ⊢
    rw [Process.strike_disk, judged, Process.strike_struck, List.forall_mem_append]
    simp [fine]
  · intro p value w judged changed
    obtain ⟨journal, output⟩ := same p.disk value w changed
    unfold Judged Truthful at judged ⊢
    rwa [Process.step_disk, Process.step_struck, journal, output]
  · exact fun p failure judged _ => judged

theorem judged_sync {point : Point} (fine : point.breaks = false) : Keeps Judged (sync point : ReviewM Unit) := by
  unfold sync write
  refine judged_act fine fun w value w' changed => ?_
  cases changed
  exact ⟨rfl, rfl⟩

theorem closePackage_judged : Keeps Judged closePackage := by
  have removed {step : CleanupStep} {change : Site → Site} (same : ∀ s, (change s).output = s.output) :
      Keeps Judged (write (.cleanup step) (onSite change) : ReviewM Unit) := by
    refine judged_act rfl fun w value w' changed => ?_
    cases changed
    exact ⟨rfl, same w.site⟩
  have checked : Keeps Judged (check (.cleanup .marker) .devCheck fun w =>
      w.site.marker.isSome && w.site.root == w.memory.rootFd) := by
    refine judged_act rfl fun w value w' changed => ?_
    split at changed
    · cases changed
      exact ⟨rfl, rfl⟩
    · cases changed
  have looked : Keeps Judged (look (.cleanup .staging) (·.site.staging)) := by
    refine judged_act rfl fun w value w' changed => ?_
    cases changed
    exact ⟨rfl, rfl⟩
  have cleaned : Keeps Judged cleanupPackageStaging := by
    refine Keeps.bind (judged_sync rfl) fun _ => Keeps.bind checked fun _ => Keeps.bind looked fun standing => ?_
    refine Keeps.bind (Keeps.onlyIf (Keeps.bind Keeps.disk fun w => Keeps.bind Keeps.demand fun _ => removed fun _ =>
      rfl)) fun _ => ?_
    exact Keeps.bind (removed fun _ => rfl) fun _ => Keeps.bind (removed fun _ => rfl) fun _ => judged_sync rfl
  refine Keeps.bind Keeps.disk fun w => Keeps.bind (Keeps.onlyIf (judged_sync rfl)) fun _ => ?_
  refine Keeps.bind (Keeps.onlyIf (Keeps.handle cleaned fun _ => Keeps.pure)) fun _ => ?_
  exact Keeps.bind (Keeps.onlyIf (judged_sync rfl)) fun _ => Keeps.bind (judged_sync rfl) fun _ => judged_sync rfl

end Closing

/-- With at most one step that raises, the receipt of a package is right unless that step is one of those after
which the handler goes wrong. -/
theorem package_receipt_truthful {host : Host} {w : World} (ready : Ready host w) {faults : Schedule Failure}
    (single : Schedule.Single faults) :
    let p := finalState (executePackage host ⟨w, faults, []⟩)
    Truthful p.disk ↔ ∀ point ∈ p.struck, point.breaks = false := by
  have ran : Triple (Under Regime.single.before [] (Standing (Running fun s _ => s.root = none ∧ s.staging = none)))
      (handle (publishPackage host) recordFailure) (fun _ => Judged) (fun _ => Judged) := by
    have committed := publishPackage_runs ready.returncode ready.snapshot ready.receipt
    refine Triple.rescue (committed.conclude (fun _ p under => ?_) fun _ _ => id) fun stop => ?_
    · obtain ⟨⟨identity, out, -, evidence, -⟩, -⟩ := under.2.2
      rw [Judged, under.2.1, truthful_committed evidence]
      simp [out.1]
    · cases stop with
      | crash => exact fun p stopped => stopped.2.elim
      | raised failure =>
        intro p ⟨⟨point, struck, standing⟩, quiet⟩
        exact recordFailure_judged point failure p ⟨quiet, struck, standing⟩
  have closed : Triple (Under Regime.single.before [] (Standing (Running fun s _ => s.root = none ∧ s.staging = none)))
      (executePackage host) (fun _ => Judged) (fun _ => Judged) := by
    refine Triple.bind (Triple.rescue ran fun stop => ?_) fun _ => Triple.bind closePackage_judged fun _ => Triple.skip
    cases stop with
    | crash => exact Triple.throw fun _ => id
    | raised failure => exact Triple.bind closePackage_judged fun _ => raise_triple fun _ => id
  exact closed.ended ⟨single, rfl, ready.running⟩

/-- A plan for a package of one file, right after the active evidence was written. -/
def plannedHost : Host := ⟨0, true, true, ["README.md"]⟩

def plannedWorld : World where
  journal := { evidence := ⟨1, ⟨.active, none⟩⟩, fresh := 2 }
  site := {}
  memory := { record := ⟨.active, none⟩, evidenceIdentity := 1 }

theorem planned_ready : Ready plannedHost plannedWorld := ⟨rfl, rfl, rfl, rfl, by decide, rfl, rfl⟩

/-- The rename to the output path raises, and the receipt says that nothing was committed. -/
theorem package_receipt_after_publish :
    let p := finalState (executePackage plannedHost ⟨plannedWorld, raiseAfter 35 .os, []⟩)
    Truthful p.disk ∧ p.struck = [.publish] := by
  intro p
  have struck : p.struck = [.publish] := by decide +kernel
  have verdict : Truthful p.disk ↔ ∀ point ∈ p.struck, point.breaks = false :=
    package_receipt_truthful planned_ready (raiseAfter_single 35 .os)
  clear_value p
  refine ⟨verdict.mpr ?_, struck⟩
  rw [struck]
  decide

/-- The directory sync after the rename that commits the evidence raises: the handler takes the package back, and
cannot write the evidence since it only knows the one before. -/
theorem committed_receipt_without_package :
    Ready plannedHost plannedWorld ∧ Schedule.Single (raiseAfter 47 Failure.os) ∧
      (let p := finalState (executePackage plannedHost ⟨plannedWorld, raiseAfter 47 .os, []⟩)
       p.struck = [.commit .sync] ∧ p.disk.journal.evidence.record = ⟨.committed, some 5⟩ ∧ p.disk.site.output = none ∧
         ¬ Truthful p.disk) :=
  ⟨planned_ready, raiseAfter_single 47 .os, by decide +kernel⟩

end Darling.Review
