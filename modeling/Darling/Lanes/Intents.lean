import Darling.Lanes.Ancestry
import Darling.Library.Courses

/-! A pending commit can be finished by the next caller as long as no import raises between the moment
its intent is published and the moment its commit takes effect: the import's own cleanup then removes
the snapshot that the intent still needs. -/
namespace Darling.Lanes

/-- The pending commit has taken effect, or its active snapshot is still as the intent says. -/
def Completable (snapshots : Snapshots) (pending : Intent) : Prop :=
  (∃ snapshot, snapshots.lookup pending.name = some snapshot ∧ snapshot.kind = .committed ∧
    snapshot.parent = pending.parent) ∨
  (∃ snapshot, snapshots.lookup pending.active = some snapshot ∧ snapshot.kind = .active ∧
    snapshot.parent = pending.parent ∧ snapshot.labels = pending.labels)

/-- The steps of an import at which its intent is published and its commit has not taken effect. -/
def ImportWindow (point : Point) : Prop := point = .pendingIntent .importing ∨ point = .commit .importing

/-- The steps of a call at which an error was raised; a crash is the last step that struck it. -/
def raisedAt {α : Type} (result : EStateM.Result (Stop LaneError) (Process Point LaneError Disk) α) : List Point :=
  match result with
  | .error .crash p => p.struck.dropLast
  | .error (.raised _) p => p.struck
  | .ok _ p => p.struck

/-- The states of one lane root in whose calls no import raises in its window. -/
inductive Untroubled (digest : Digest) : Disk → Prop
  | start : Untroubled digest {}
  | call {d : Disk} (reached : Untroubled digest d) (call : Call) (faults : Schedule LaneError)
      (clear : ∀ point ∈ raisedAt (call.program digest ⟨d, faults, []⟩), ¬ImportWindow point) :
      Untroubled digest (finalState (call.program digest ⟨d, faults, []⟩)).disk
  | outside {d d' : Disk} (reached : Untroubled digest d) (changed : Outside d d') : Untroubled digest d'

section Pending

/-- The commit has taken effect. -/
def Done (snapshots : Snapshots) (pending : Intent) : Prop :=
  pending.name.permanent ∧
  ∃ snapshot, snapshots.lookup pending.name = some snapshot ∧ snapshot.kind = .committed ∧
    snapshot.parent = pending.parent

/-- The commit has not taken effect, and nothing stands in its way. -/
def Ready (snapshots : Snapshots) (pending : Intent) : Prop :=
  pending.name.permanent ∧ snapshots.lookup pending.name = none ∧
  ∃ snapshot, snapshots.lookup pending.active = some snapshot ∧ snapshot.kind = .active ∧
    snapshot.parent = pending.parent ∧ snapshot.labels = pending.labels

def Calm (v : View) : Prop := v.intent = none

/-- If a commit is pending, it has taken effect. -/
def Effected (v : View) : Prop := ∀ pending, v.intent = some pending →
  pending.labels.owned = true ∧ Done v.snapshots pending

def Finishable (v : View) : Prop := ∀ pending, v.intent = some pending →
  pending.labels.owned = true ∧ (Done v.snapshots pending ∨ Ready v.snapshots pending)

theorem Calm.effected {v : View} (calm : Calm v) : Effected v := by
  intro pending same
  cases same.symm.trans calm

theorem Effected.finishable {v : View} (effected : Effected v) : Finishable v :=
  fun pending same => ⟨(effected pending same).1, .inl (effected pending same).2⟩

theorem Calm.finishable {v : View} (calm : Calm v) : Finishable v := calm.effected.finishable

theorem Finishable.completable {v : View} (finishable : Finishable v) {pending : Intent}
    (same : v.intent = some pending) : Completable v.snapshots pending := by
  rcases (finishable pending same).2 with done | ready
  · exact .inl done.2
  · exact .inr ready.2.2

theorem Done.relabel {snapshots : Snapshots} {pending : Intent} (done : Done snapshots pending) {key : Key}
    {old new : Snapshot} (found : snapshots.lookup key = some old) (kind : new.kind = old.kind)
    (linked : new.parent = old.parent) : Done (snapshots.insert key new) pending := by
  obtain ⟨permanent, snapshot, present, committed, parent⟩ := done
  refine ⟨permanent, ?_⟩
  by_cases same : pending.name = key
  · subst key
    rw [present] at found
    cases found
    exact ⟨new, Finmap.lookup_insert _, kind.trans committed, linked.trans parent⟩
  · exact ⟨snapshot, by rw [Finmap.lookup_insert_of_ne _ same, present], committed, parent⟩

theorem Done.erase {snapshots : Snapshots} {pending : Intent} (done : Done snapshots pending) {key : Key}
    (passing : ¬key.permanent) : Done (snapshots.erase key) pending := by
  obtain ⟨permanent, snapshot, present, rest⟩ := done
  refine ⟨permanent, snapshot, ?_, rest⟩
  rw [Finmap.lookup_erase_ne, present]
  rintro rfl
  exact passing permanent

theorem Ready.commit {d d' : Disk} {pending : Intent} {value : Unit} (ready : Ready d.snapshots pending)
    (changed : d.commit pending.name pending.active = .ok (value, d')) : Done d'.snapshots pending := by
  obtain ⟨permanent, _, snapshot, found, _, parent, _⟩ := ready
  obtain ⟨other, present, _, _, rfl⟩ := commit_ok changed
  rw [found] at present
  cases present
  exact ⟨permanent, _, lookup_commit_name, rfl, parent⟩

/-- The snapshotter does not refuse a commit that is ready. -/
theorem Ready.accepted {d : Disk} {pending : Intent} (ready : Ready d.snapshots pending) {error : LaneError} :
    d.commit pending.name pending.active ≠ .error error := by
  obtain ⟨_, fresh, snapshot, found, active, _, _⟩ := ready
  unfold Disk.commit
  rw [found]
  show (if snapshot.kind = .active ∧ d.snapshots.lookup pending.name = none then _ else _) ≠ _
  rw [if_pos ⟨active, fresh⟩]
  nofun

end Pending

section Store

variable {window : Point → Prop} {raised : View → Prop} {stage : Stage} {pending : Intent}

/-- The commit of this intent is pending and has taken effect. -/
def Standing (pending : Intent) (v : View) : Prop :=
  v.intent = some pending ∧ pending.labels.owned = true ∧ Done v.snapshots pending

/-- The commit of this intent is pending and ready. -/
def Waiting (pending : Intent) (v : View) : Prop :=
  v.intent = some pending ∧ pending.labels.owned = true ∧ Ready v.snapshots pending

theorem Standing.effected {v : View} (standing : Standing pending v) : Effected v := by
  intro other same
  cases same.symm.trans standing.1
  exact standing.2

theorem Waiting.finishable {v : View} (waiting : Waiting pending v) : Finishable v := by
  intro other same
  cases same.symm.trans waiting.1
  exact ⟨waiting.2.1, .inr waiting.2.2⟩

/-- From a commit that has taken effect to the end of `_finish_commit`. -/
theorem finishStanding_runs {committed : Option Snapshot} (effected : ∀ v, Effected v → raised v) :
    Runs Disk.view window (Standing pending)
      (do
        demand (∃ snapshot ∈ committed, snapshot.kind = .committed ∧ snapshot.parent = pending.parent)
          .destinationChanged
        act (.finishIntent stage) (Disk.label pending.name pending.labels)
        write (.finishIntent stage) fun d => { d with intent := none }
        sync (.finishIntent stage) : LaneM Unit)
      (fun _ => Calm) raised Finishable := by
  have raises : ∀ v, Standing pending v → raised v := fun v standing => effected v standing.effected
  have crashes : ∀ v, Standing pending v → Finishable v := fun v standing => standing.effected.finishable
  refine Runs.silent_bind Silent.demand raises crashes fun _ => ?_
  have labelled : Runs Disk.view window (Standing pending)
      (act (.finishIntent stage) (Disk.label pending.name pending.labels)) (fun _ => Standing pending) raised
      Finishable := by
    refine Runs.act crashes (fun _ => raises) ?_ fun _ _ held _ => raises _ held
    rintro d value d' ⟨same, owned, done⟩ changed
    obtain ⟨snapshot, found, rfl⟩ := label_ok changed
    exact ⟨same, owned, done.relabel found rfl rfl⟩
  refine Runs.bind labelled fun _ => ?_
  have dropped : Runs Disk.view window (Standing pending)
      (write (.finishIntent stage) fun d => { d with intent := none } : LaneM Unit) (fun _ => Calm) raised Finishable :=
    Runs.write crashes (fun _ => raises) fun _ _ => rfl
  refine Runs.bind dropped fun _ => Runs.sync (fun v calm => calm.finishable) fun _ v calm => ?_
  exact effected v calm.effected

/-- A ready commit is made. -/
theorem commitWaiting_runs (effected : ∀ v, Effected v → raised v)
    (before : ¬window (.pendingIntent stage) → ∀ v, Finishable v → raised v)
    (during : ¬window (.commit stage) → ∀ v, Finishable v → raised v) :
    Runs Disk.view window (Waiting pending) (SnapshotStore.commitPending stage pending none)
      (fun _ => Standing pending) raised Finishable := by
  have crashes : ∀ v, Waiting pending v → Finishable v := fun v waiting => waiting.finishable
  refine Runs.bind (info_runs_windowed (fun outside v held => before outside v held.finishable) crashes)
    fun active => ?_
  refine Runs.bind (Runs.demand_met ?_) fun _ => ?_
  · rintro v ⟨found, _, _, _, _, snapshot, present, rest⟩
    exact ⟨snapshot, found.symm.trans present, rest⟩
  have committed : Runs Disk.view window (fun v => v.snapshots.lookup pending.active = active ∧ Waiting pending v)
      (act (.commit stage) (Disk.commit pending.name pending.active)) (fun _ => Standing pending) raised
      Finishable := by
    refine Runs.act (fun v held => crashes v held.2) (fun outside v held => during outside v held.2.finishable) ?_ ?_
    · rintro d value d' ⟨_, same, owned, ready⟩ changed
      have done := ready.commit changed
      obtain ⟨_, _, _, _, rfl⟩ := commit_ok changed
      exact ⟨same, owned, done⟩
    · rintro d error ⟨_, _, _, ready⟩ refused
      exact absurd refused ready.accepted
  refine Runs.bind committed fun _ => ?_
  have asked : Runs Disk.view window (Standing pending) (info (.finishIntent stage) pending.name)
      (fun _ => Standing pending) raised Finishable :=
    Runs.silent info_silent (fun v held => effected v held.effected) fun v held => held.effected.finishable
  exact asked

theorem finishCommit_finishes (effected : ∀ v, Effected v → raised v)
    (before : ¬window (.pendingIntent stage) → ∀ v, Finishable v → raised v)
    (during : ¬window (.commit stage) → ∀ v, Finishable v → raised v) :
    Runs Disk.view window Finishable (SnapshotStore.finishCommit stage) (fun _ => Calm) raised Finishable := by
  refine Runs.disk_bind fun d => ?_
  cases expected : d.intent with
  | none =>
    refine Runs.pure ?_
    rintro v ⟨rfl, _⟩
    exact expected
  | some pending =>
    have start : ∀ v, (d.view = v ∧ Finishable v) → Standing pending v ∨ Waiting pending v := by
      rintro v ⟨rfl, finishable⟩
      obtain ⟨owned, done | ready⟩ := finishable pending expected
      · exact .inl ⟨expected, owned, done⟩
      · exact .inr ⟨expected, owned, ready⟩
    have crashes : ∀ v, (Standing pending v ∨ Waiting pending v) → Finishable v := by
      rintro v (standing | waiting)
      · exact standing.effected.finishable
      · exact waiting.finishable
    refine Runs.strengthen ?_ start
    refine Runs.bind (Runs.sync crashes fun outside v held => before outside v (crashes v held)) fun _ => ?_
    refine Runs.bind (Runs.demand_met ?_) fun _ => ?_
    · rintro v (standing | waiting)
      · exact standing.2.1
      · exact waiting.2.1
    refine Runs.bind (info_runs_windowed (fun outside v held => before outside v (crashes v held)) crashes)
      fun found => ?_
    have transition : Runs Disk.view window
        (fun v => v.snapshots.lookup pending.name = found ∧ (Standing pending v ∨ Waiting pending v))
        (SnapshotStore.commitPending stage pending found) (fun _ => Standing pending) raised Finishable := by
      cases found with
      | some snapshot =>
        refine Runs.pure ?_
        rintro v ⟨found, standing | waiting⟩
        · exact standing
        · cases found.symm.trans waiting.2.2.2.1
      | none =>
        refine (commitWaiting_runs effected before during).strengthen ?_
        rintro v ⟨found, standing | waiting⟩
        · obtain ⟨_, snapshot, present, _⟩ := standing.2.2
          cases found.symm.trans present
        · exact waiting
    exact Runs.bind transition fun _ => finishStanding_runs effected

/-- `commit` leaves its intent pending only where it can be finished. -/
theorem commit_finishes {name active : Key} (permanent : name.permanent) (effected : ∀ v, Effected v → raised v)
    (before : ¬window (.pendingIntent stage) → ∀ v, Finishable v → raised v)
    (during : ¬window (.commit stage) → ∀ v, Finishable v → raised v) :
    Runs Disk.view window Calm (SnapshotStore.commit stage name active) (fun _ => Calm) raised Finishable := by
  have raises : ∀ v, Calm v → raised v := fun v calm => effected v calm.effected
  have crashes : ∀ v, Calm v → Finishable v := fun v calm => calm.finishable
  refine Runs.bind (info_runs raises crashes) fun found => ?_
  cases found with
  | none => exact Runs.raise fun v held => raises v held.2
  | some snapshot =>
    refine Runs.bind (Runs.demand fun v held => raises v held.2) fun _ => ?_
    refine Runs.bind (info_runs (fun v held => raises v held.2.2) fun v held => crashes v held.2.2) fun other => ?_
    refine Runs.bind (Runs.demand fun v held => raises v held.2.2.2) fun _ => ?_
    refine Runs.bind (Runs.sync (fun v held => crashes v held.2.2.2.2) fun _ v held =>
      raises v held.2.2.2.2) fun _ => ?_
    have published : Runs Disk.view window
        (fun v => other = none ∧ v.snapshots.lookup name = other ∧
          (snapshot.kind = .active ∧ snapshot.labels.owned = true) ∧
          v.snapshots.lookup active = some snapshot ∧ Calm v)
        (write (.publishIntent stage) fun d =>
          { d with intent := some { name, active, parent := snapshot.parent, labels := snapshot.labels } } : LaneM Unit)
        (fun _ => Finishable) raised Finishable := by
      refine Runs.write (fun v held => crashes v held.2.2.2.2) (fun _ v held => raises v held.2.2.2.2) ?_
      rintro d ⟨rfl, fresh, ⟨kind, owned⟩, found, _⟩ pending same
      cases same
      exact ⟨owned, .inr ⟨permanent, fresh, snapshot, found, kind, rfl, rfl⟩⟩
    refine Runs.bind published fun _ => ?_
    refine Runs.bind (Runs.sync (fun _ => id) before) fun _ => ?_
    exact finishCommit_finishes effected before during

end Store

section Uncommitting

variable {α : Type} {body : LaneM α} {name : String} {key : Key}

/-- The program does not touch the intent. -/
def Uncommitting (body : LaneM α) : Prop := Silent (View.intent ∘ Disk.view) body

theorem Silent.uncommitting (quiet : Silent Disk.view body) : Uncommitting body := quiet.part View.intent

theorem label_uncommitting {point : Point} {labels : Disk → Labels} :
    Uncommitting (act point fun d => d.label key (labels d)) := by
  refine Silent.act fun d value d' changed => ?_
  obtain ⟨_, _, rfl⟩ := label_ok changed
  rfl

theorem onLane_uncommitting {point : Point} {change : Lane → Lane} :
    Uncommitting (act point (Disk.onLane name change)) := by
  refine Silent.act fun d value d' changed => ?_
  obtain ⟨_, _, rfl⟩ := onLane_ok changed
  rfl

theorem prepare_uncommitting {owner : Owner} {parent : Option Key} :
    Uncommitting (SnapshotStore.prepare owner key parent) := by
  have prepared : Uncommitting (act (.prepare owner) (Disk.prepare key parent)) := by
    refine Silent.act fun d value d' changed => ?_
    unfold Disk.prepare at changed
    split at changed
    · cases changed
      rfl
    · cases changed
  exact Silent.bind prepared fun _ => Silent.bind Silent.sync fun _ =>
    Silent.bind label_uncommitting fun _ => Silent.pure

theorem remove_uncommitting : Uncommitting (SnapshotStore.remove key) := by
  refine Silent.bind (Silent.uncommitting info_silent) fun _ => Silent.bind Silent.demand fun _ => Silent.act ?_
  intro d value d' changed
  obtain ⟨_, _, rfl⟩ := remove_ok changed
  rfl

theorem collectBase_uncommitting : Uncommitting (collectBase key) := by
  refine Silent.bind (Silent.uncommitting info_silent) fun found => ?_
  cases found with
  | none => exact Silent.pure
  | some snapshot =>
    exact Silent.onlyIf (Silent.bind (Silent.uncommitting children_silent) fun _ => Silent.onlyIf remove_uncommitting)

theorem writeRecord_uncommitting {first : Bool} {record : Record} : Uncommitting (writeRecord first name record) := by
  refine Silent.bind onLane_uncommitting fun _ => Silent.bind Silent.sync fun _ => ?_
  exact Silent.bind onLane_uncommitting fun _ => Silent.uncommitting inspect_silent

theorem writeDraft_uncommitting {first : Bool} : Uncommitting (writeDraft first name) := by
  refine Silent.bind Silent.disk fun d => ?_
  cases d.draft with
  | none => exact Silent.raise
  | some record => exact writeRecord_uncommitting

theorem retireLane_uncommitting {record : Record} : Uncommitting (retireLane name record) := by
  refine Silent.bind (Silent.uncommitting laneNamespace_silent) fun lane => ?_
  refine Silent.bind Silent.demand fun _ => Silent.bind Silent.demand fun _ => ?_
  refine Silent.bind (Silent.forM fun _ => onLane_uncommitting) fun _ => ?_
  refine Silent.bind (Silent.onlyIf onLane_uncommitting) fun _ =>
    Silent.bind (Silent.onlyIf onLane_uncommitting) fun _ => ?_
  refine Silent.bind (Silent.uncommitting writeRetired_silent) fun _ => ?_
  exact Silent.bind onLane_uncommitting fun _ => Silent.uncommitting inspect_silent

theorem retireDraft_uncommitting : Uncommitting (retireDraft name) := by
  refine Silent.bind Silent.disk fun d => ?_
  cases d.draft with
  | none => exact Silent.raise
  | some record => exact retireLane_uncommitting

theorem revise_uncommitting {change : Record → Record} : Uncommitting (revise change) := Silent.assign fun _ => rfl

theorem checkDraft_uncommitting : Uncommitting checkDraft := by
  refine Silent.bind Silent.disk fun d => ?_
  cases d.draft with
  | none => exact Silent.raise
  | some record => exact Silent.uncommitting checkSnapshotLayers_silent

theorem adoptMount_uncommitting : Uncommitting (adoptMount name) := by
  refine Silent.bind Silent.disk fun d => ?_
  cases (d.lanes name).bind Lane.mount with
  | none => exact Silent.raise
  | some identity => exact revise_uncommitting

theorem publish_uncommitting {active parentKey : Key} : Uncommitting (publish name active parentKey) := by
  refine Silent.bind writeDraft_uncommitting fun _ => Silent.bind onLane_uncommitting fun _ => ?_
  refine Silent.bind (Silent.forM fun _ => Silent.uncommitting makeSubdir_silent) fun _ => ?_
  refine Silent.bind (Silent.uncommitting inspect_silent) fun _ => Silent.bind prepare_uncommitting fun _ => ?_
  refine Silent.bind revise_uncommitting fun _ => Silent.bind writeDraft_uncommitting fun _ => ?_
  refine Silent.bind checkDraft_uncommitting fun _ => Silent.bind (Silent.uncommitting mount_silent) fun _ => ?_
  refine Silent.bind (Silent.uncommitting inspect_silent) fun _ => ?_
  exact Silent.bind adoptMount_uncommitting fun _ => writeDraft_uncommitting

theorem rollBack_uncommitting {active parentKey : Key} : Uncommitting (rollBack name active parentKey) := by
  refine Silent.bind (Silent.uncommitting laneNamespace_silent) fun _ => ?_
  refine Silent.bind (Silent.uncommitting info_silent) fun found => ?_
  have checked : Uncommitting (checkRollback active parentKey found) := by
    cases found with
    | none => exact Silent.pure
    | some snapshot =>
      exact Silent.bind Silent.demand fun _ => Silent.bind (Silent.uncommitting children_silent) fun _ => Silent.demand
  refine Silent.bind checked fun _ => Silent.bind (Silent.uncommitting inspect_silent) fun _ => ?_
  refine Silent.bind revise_uncommitting fun _ => Silent.bind writeDraft_uncommitting fun _ => ?_
  refine Silent.bind (Silent.uncommitting unmount_silent) fun _ => ?_
  refine Silent.bind (Silent.onlyIf remove_uncommitting) fun _ => Silent.bind collectBase_uncommitting fun _ => ?_
  exact retireDraft_uncommitting

theorem reserve_uncommitting : Uncommitting (reserve name) := by
  refine Silent.bind Silent.disk fun d => Silent.bind (Silent.ite ?_ (Silent.write fun _ => rfl)) fun _ => ?_
  · exact Silent.uncommitting requireRetiredLane_silent
  refine Silent.bind (Silent.uncommitting claim_silent) fun _ => Silent.ite ?_ ?_
  · exact Silent.uncommitting requireRetiredLane_silent
  · exact Silent.bind (Silent.uncommitting laneNamespace_silent) fun _ => Silent.uncommitting writeRetired_silent

theorem frozenParent_uncommitting {digest : Digest} {parent : String} : Uncommitting (frozenParent digest parent) := by
  refine Silent.bind Silent.disk fun d => ?_
  cases d.record parent with
  | none => exact Silent.raise
  | some record =>
    refine Silent.bind Silent.demand fun _ => Silent.bind (Silent.uncommitting recordProblems_silent) fun _ => ?_
    refine Silent.bind (Silent.uncommitting inspect_silent) fun _ => ?_
    exact Silent.bind (Silent.uncommitting checkSnapshotLayers_silent) fun _ => Silent.pure

end Uncommitting

section Calls

variable {α : Type} {digest : Digest} {body : LaneM α} {name : String}

theorem calm_keeps {window : Point → Prop} {raised crashed : View → Prop} (quiet : Uncommitting body)
    (raises : ∀ v, Calm v → raised v) (crashes : ∀ v, Calm v → crashed v) :
    Runs Disk.view window Calm body (fun _ => Calm) raised crashed :=
  Runs.silent_part View.intent (· = none) quiet raises crashes

theorem calm_runs {window : Point → Prop} (quiet : Uncommitting body) :
    Runs Disk.view window Calm body (fun _ => Calm) Finishable Finishable :=
  calm_keeps quiet (fun _ calm => calm.finishable) fun _ calm => calm.finishable

/-- A commit elsewhere than in an import may fail anywhere. -/
theorem locked_finishes {create : Bool} {post : α → View → Prop}
    (inside : Runs Disk.view ImportWindow Calm body post Finishable Finishable) :
    Runs Disk.view ImportWindow Finishable (SnapshotStore.locked create body) post Finishable Finishable := by
  refine Runs.silent_bind openRoot_silent (fun _ => id) (fun _ => id) fun _ => ?_
  refine Runs.silent_bind inspect_silent (fun _ => id) (fun _ => id) fun _ => ?_
  refine Runs.silent_bind start_silent (fun _ => id) (fun _ => id) fun _ => ?_
  refine Runs.bind (finishCommit_finishes (fun v held => held.finishable) (fun _ _ => id) fun _ _ => id) fun _ => ?_
  exact inside

/-- The cleanup of an import only runs where its intent can spare the snapshot. -/
theorem importBase_finishes {request : Request} :
    Runs Disk.view ImportWindow Calm (importBase digest request) (fun _ => Calm) Finishable Finishable := by
  refine Runs.bind (calm_runs (Silent.uncommitting info_silent)) fun found => ?_
  cases found with
  | some existing => exact Runs.bind (calm_runs Silent.demand) fun _ => Runs.pure fun _ => id
  | none =>
    refine Runs.bind (calm_runs prepare_uncommitting) fun recipe => ?_
    refine Runs.bind (Runs.handle Effected ?_ fun error => ?_) fun _ => Runs.pure fun _ => id
    · have raises : ∀ v, Calm v → Effected v := fun v calm => calm.effected
      have crashes : ∀ v, Calm v → Finishable v := fun v calm => calm.finishable
      refine Runs.silent_bind (Silent.write fun _ => rfl) raises crashes fun _ => ?_
      refine Runs.silent_bind Silent.sync raises crashes fun _ => ?_
      refine Runs.bind (calm_keeps label_uncommitting raises crashes) fun _ => ?_
      exact commit_finishes True.intro (fun _ => id) (fun outside => absurd (.inl rfl) outside)
        fun outside => absurd (.inr rfl) outside
    · have crashes : ∀ v, Effected v → Finishable v := fun v held => held.finishable
      have removed : Runs Disk.view ImportWindow Effected
          (SnapshotStore.remove (.imported (digest.base request.base))) (fun _ => Effected) Finishable Finishable := by
        refine (remove_runs ?_).weaken (fun _ => id) (fun _ _ => id) crashes crashes
        intro v effected _ pending same
        obtain ⟨owned, done⟩ := effected pending same
        exact ⟨owned, done.erase id⟩
      exact Runs.bind removed fun _ => Runs.raise crashes

theorem createLane_finishes {request : Request} :
    Runs Disk.view ImportWindow Finishable (createLane digest request) (fun _ => Finishable) Finishable Finishable := by
  refine Runs.silent_bind Silent.disk (fun _ => id) (fun _ => id) fun d => ?_
  refine Runs.silent_bind (Silent.onlyIf requireRetiredLane_silent) (fun _ => id) (fun _ => id) fun _ => ?_
  refine Runs.silent_bind (Silent.bind Silent.disk fun _ => Silent.demand) (fun _ => id) (fun _ => id) fun _ => ?_
  refine Runs.silent_bind inspect_silent (fun _ => id) (fun _ => id) fun _ => ?_
  refine locked_finishes ?_
  refine Runs.bind (calm_runs reserve_uncommitting) fun _ => ?_
  refine Runs.bind (calm_runs (Silent.uncommitting info_silent)) fun _ =>
    Runs.bind (calm_runs Silent.demand) fun _ => ?_
  refine Runs.bind (calm_runs (Silent.uncommitting info_silent)) fun _ =>
    Runs.bind (calm_runs Silent.demand) fun _ => ?_
  have selected : Runs Disk.view ImportWindow Calm (selectParent digest request) (fun _ =>
      Calm) Finishable Finishable := by
    refine Runs.bind (calm_runs (Silent.uncommitting inspect_silent)) fun _ => ?_
    cases request.parent with
    | none => exact Runs.bind (calm_runs (Silent.uncommitting inspect_silent)) fun _ => importBase_finishes
    | some parent => exact calm_runs frozenParent_uncommitting
  refine Runs.bind selected fun parentKey => ?_
  refine Runs.bind (calm_runs (Silent.assign fun _ => rfl)) fun _ => ?_
  have attempted : Uncommitting (handle (publish request.name (digest.active request.name) parentKey) fun error => do
      handle (rollBack request.name (digest.active request.name) parentKey) fun _ => do
        revise fun record => { record with mode := .failed }
        writeDraft false request.name
        raise .rollbackRefused
      SnapshotStore.stopIfEmpty
      raise error) := by
    refine Silent.handle publish_uncommitting fun error => Silent.bind ?_ fun _ => ?_
    · refine Silent.handle rollBack_uncommitting fun _ => Silent.bind revise_uncommitting fun _ => ?_
      exact Silent.bind writeDraft_uncommitting fun _ => Silent.raise
    · exact Silent.bind (Silent.uncommitting stopIfEmpty_silent) fun _ => Silent.raise
  exact (calm_runs attempted).weaken (fun _ => id) (fun _ v calm => calm.finishable) (fun _ => id) (fun _ => id)

theorem freezeLane_finishes :
    Runs Disk.view ImportWindow Finishable (freezeLane digest name) (fun _ => Finishable) Finishable Finishable := by
  have calms : ∀ v, Calm v → Finishable v := fun v calm => calm.finishable
  refine locked_finishes (Runs.bind (calm_runs Silent.disk) fun d => ?_)
  cases d.record name with
  | none => exact Runs.raise calms
  | some record =>
    refine Runs.bind (calm_runs (Silent.uncommitting recordProblems_silent)) fun _ => Runs.ite (fun _ => ?_) fun _ => ?_
    · exact (calm_runs (Silent.uncommitting checkSnapshotLayers_silent)).weaken (fun _ => id) (fun _ => calms)
        (fun _ => id) (fun _ => id)
    refine Runs.bind (calm_runs Silent.demand) fun _ => ?_
    refine Runs.bind (calm_runs (Silent.uncommitting inspect_silent)) fun _ => ?_
    refine Runs.bind (calm_runs (Silent.uncommitting claim_silent)) fun _ => ?_
    refine Runs.bind (calm_runs (Silent.uncommitting inspect_silent)) fun _ => ?_
    refine Runs.bind (calm_runs (Silent.uncommitting checkSnapshotLayers_silent)) fun _ => ?_
    refine Runs.bind (calm_runs writeRecord_uncommitting) fun _ => ?_
    refine Runs.bind (calm_runs (Silent.uncommitting info_silent)) fun committed => ?_
    have frozen : Runs Disk.view ImportWindow Calm (onlyIf (committed = none) do
        inspect
        act .labelFrozen fun d => d.label (digest.active name)
          { kind := some .frozen, tree := record.recipe.map fun recipe => d.trees recipe.upper }
        SnapshotStore.commit .freezing (digest.committed name) (digest.active name))
        (fun _ => Calm) Finishable Finishable := by
      refine Runs.onlyIf (fun _ => ?_) fun _ _ => id
      refine Runs.bind (calm_runs (Silent.uncommitting inspect_silent)) fun _ => ?_
      refine Runs.bind (calm_runs label_uncommitting) fun _ => ?_
      exact commit_finishes True.intro (fun v held => held.finishable) (fun _ _ => id) fun _ _ => id
    refine Runs.bind frozen fun _ => ?_
    refine Runs.bind (calm_runs (Silent.uncommitting checkSnapshotLayers_silent)) fun _ => ?_
    exact (calm_runs writeRecord_uncommitting).weaken (fun _ => id) (fun _ => calms) (fun _ => id) (fun _ => id)

theorem destroyLane_finishes :
    Runs Disk.view ImportWindow Finishable (destroyLane digest name) (fun _ => Finishable) Finishable Finishable := by
  refine Runs.silent_bind Silent.disk (fun _ => id) (fun _ => id) fun _ => ?_
  refine Runs.silent_bind Silent.demand (fun _ => id) (fun _ => id) fun _ => ?_
  refine locked_finishes (Runs.bind (calm_runs Silent.disk) fun d => ?_)
  cases d.record name with
  | none => exact Runs.raise fun v calm => calm.finishable
  | some record =>
    refine (calm_runs ?_).weaken (fun _ => id) (fun _ v calm => calm.finishable) (fun _ => id) (fun _ => id)
    refine Silent.bind (Silent.uncommitting inspect_silent) fun _ => ?_
    refine Silent.bind Silent.demand fun _ => Silent.bind Silent.demand fun _ => ?_
    refine Silent.bind (Silent.uncommitting laneNamespace_silent) fun _ => Silent.bind Silent.demand fun _ => ?_
    have selected : Uncommitting (selectKey digest name record) :=
      Silent.ite (Silent.bind (Silent.uncommitting info_silent) fun _ => Silent.pure) Silent.pure
    refine Silent.bind selected fun key => ?_
    refine Silent.bind (Silent.uncommitting info_silent) fun found => ?_
    refine Silent.bind (Silent.uncommitting checkDoomed_silent) fun _ => ?_
    refine Silent.bind (Silent.uncommitting info_silent) fun _ => Silent.bind Silent.demand fun _ => ?_
    refine Silent.bind (Silent.uncommitting children_silent) fun _ => Silent.bind Silent.demand fun _ => ?_
    refine Silent.bind Silent.disk fun _ => Silent.bind Silent.demand fun _ => ?_
    refine Silent.bind (Silent.uncommitting inspect_silent) fun _ => ?_
    refine Silent.bind (Silent.uncommitting claim_silent) fun _ => ?_
    refine Silent.bind Silent.disk fun _ => Silent.bind Silent.demand fun _ => ?_
    refine Silent.bind writeRecord_uncommitting fun _ => Silent.bind (Silent.uncommitting inspect_silent) fun _ => ?_
    refine Silent.bind (Silent.uncommitting unmount_silent) fun _ => ?_
    refine Silent.bind (Silent.onlyIf remove_uncommitting) fun _ => Silent.bind collectBase_uncommitting fun _ => ?_
    exact Silent.bind retireLane_uncommitting fun _ => Silent.uncommitting stopIfEmpty_silent

theorem program_finishes (digest : Digest) (call : Call) :
    Runs Disk.view ImportWindow Finishable (call.program digest) (fun _ => Finishable) Finishable Finishable := by
  cases call with
  | create request => exact createLane_finishes
  | freeze name => exact freezeLane_finishes
  | destroy name => exact destroyLane_finishes

theorem untroubled_finishable {d : Disk} (reached : Untroubled digest d) : Finishable d.view := by
  induction reached with
  | start => exact Calm.finishable rfl
  | call _ call faults clear induction =>
    have result := program_finishes digest call ⟨_, faults, []⟩ (.inl induction)
    cases ran : call.program digest ⟨_, faults, []⟩ with
    | ok value p =>
      rw [ran] at result clear
      exact result.resolve_right fun ⟨point, member, inside⟩ => clear point member inside
    | error stop p =>
      rw [ran] at result clear
      cases stop with
      | crash => exact result.resolve_right fun ⟨point, member, inside⟩ => clear point member inside
      | raised error => exact result.resolve_right fun ⟨point, member, inside⟩ => clear point member inside
  | outside _ changed induction =>
    obtain ⟨snapshots, intent, _⟩ := changed
    intro pending same
    rw [view_intent, intent] at same
    rw [view_snapshots, snapshots]
    exact induction pending same

end Calls

section Completion

/-- The destination of the intent gets its labels. -/
def Disk.relabelled (d : Disk) (pending : Intent) (snapshot : Snapshot) : Disk :=
  let labelled := { snapshot with labels := snapshot.labels.update pending.labels }
  { d with snapshots := d.snapshots.insert pending.name labelled }

def Disk.transferred (d : Disk) (pending : Intent) (snapshot : Snapshot) : Disk :=
  { d with snapshots := d.snapshots.commit pending.name pending.active snapshot }

/-- The snapshot as the commit leaves it. -/
def Snapshot.settled (snapshot : Snapshot) : Snapshot := { snapshot with kind := .committed, labels := {} }

def Disk.dropIntent (d : Disk) : Disk := { d with intent := none }

/-- What the disk is once the pending commit is finished. -/
inductive Finishes : Disk → Disk → Prop
  | calm {d : Disk} (calm : d.intent = none) : Finishes d d
  | done {d : Disk} {pending : Intent} {snapshot : Snapshot} (same : d.intent = some pending)
      (owned : pending.labels.owned = true) (found : d.snapshots.lookup pending.name = some snapshot)
      (committed : snapshot.kind = .committed) (parent : snapshot.parent = pending.parent) :
      Finishes d (d.relabelled pending snapshot).dropIntent
  | ready {d : Disk} {pending : Intent} {snapshot : Snapshot} (same : d.intent = some pending)
      (owned : pending.labels.owned = true) (fresh : d.snapshots.lookup pending.name = none)
      (found : d.snapshots.lookup pending.active = some snapshot) (active : snapshot.kind = .active)
      (parent : snapshot.parent = pending.parent) (labels : snapshot.labels = pending.labels) :
      Finishes d ((d.transferred pending snapshot).relabelled pending snapshot.settled).dropIntent

theorem Finishes.calmed {d d' : Disk} (finishes : Finishes d d') : d'.intent = none := by
  cases finishes with
  | calm calm => exact calm
  | done => rfl
  | ready => rfl

theorem Finishable.finishes {d : Disk} (finishable : Finishable d.view) : ∃ d', Finishes d d' := by
  cases same : d.intent with
  | none => exact ⟨d, .calm same⟩
  | some pending =>
    obtain ⟨owned, done | ready⟩ := finishable pending same
    · obtain ⟨_, snapshot, found, committed, parent⟩ := done
      exact ⟨_, .done same owned found committed parent⟩
    · obtain ⟨_, fresh, snapshot, found, active, parent, labels⟩ := ready
      exact ⟨_, .ready same owned fresh found active parent labels⟩

theorem update_twice (old new : Labels) : (old.update new).update new = old.update new := by
  obtain ⟨owned, kind, tree⟩ := new
  unfold Labels.update
  cases kind <;> cases tree <;> simp

theorem relabelled_twice (d : Disk) (pending : Intent) (snapshot : Snapshot) :
    (d.relabelled pending snapshot).relabelled pending
      { snapshot with labels := snapshot.labels.update pending.labels } = d.relabelled pending snapshot := by
  unfold Disk.relabelled
  simp only [update_twice, Finmap.insert_insert]

variable {regime : Regime LaneError} {stage : Stage} {d : Disk} {pending : Intent} {snapshot : Snapshot}

/-- After the commit took effect, every later step leaves a disk that is finished in the same way. -/
theorem finishDone_course (mute : regime.Mute) {committed : Option Snapshot} (same : d.intent = some pending)
    (owned : pending.labels.owned = true) (found : d.snapshots.lookup pending.name = some snapshot)
    (kind : snapshot.kind = .committed) (parent : snapshot.parent = pending.parent) (shown : committed =
      some snapshot) :
    Course regime (· = d)
      (do
        demand (∃ snapshot ∈ committed, snapshot.kind = .committed ∧ snapshot.parent = pending.parent)
          .destinationChanged
        act (.finishIntent stage) (Disk.label pending.name pending.labels)
        write (.finishIntent stage) fun d => { d with intent := none }
        sync (.finishIntent stage) : LaneM Unit)
      (fun _ reached => reached = (d.relabelled pending snapshot).dropIntent)
      (fun _ reached => Finishes reached (d.relabelled pending snapshot).dropIntent) (fun _ => False) := by
  refine Course.demand_bind ⟨snapshot, shown, kind, parent⟩ ?_
  have relabels : d.label pending.name pending.labels = .ok ((), d.relabelled pending snapshot) := by
    simp only [Disk.label, found]
    rfl
  refine Course.act_bind mute relabels (.done same owned found kind parent) ?_
  have again : Finishes (d.relabelled pending snapshot) (d.relabelled pending snapshot).dropIntent := by
    have finishes : Finishes (d.relabelled pending snapshot) _ := .done same owned (Finmap.lookup_insert _) kind parent
    rwa [relabelled_twice] at finishes
  refine Course.write_bind mute again ?_
  exact Course.sync_last mute (.calm rfl) rfl

/-- `_finish_commit` reaches the finished disk, and so does whoever comes after a crash in it. -/
theorem finishCommit_course (mute : regime.Mute) {d' : Disk} (finishes : Finishes d d') :
    Course regime (· = d) (SnapshotStore.finishCommit stage) (fun _ reached => reached = d')
      (fun _ reached => Finishes reached d') (fun _ => False) := by
  refine Course.read_bind ?_
  have start := finishes
  cases finishes with
  | calm calm =>
    rw [calm]
    exact Course.pure fun _ => id
  | @done pending snapshot same owned found committed parent =>
    rw [same]
    refine Course.sync_bind mute start (Course.demand_bind owned ?_)
    refine Course.act_bind mute rfl start ?_
    rw [found]
    exact finishDone_course mute same owned found committed parent rfl
  | @ready pending snapshot same owned fresh found active parent labels =>
    rw [same]
    refine Course.sync_bind mute start (Course.demand_bind owned ?_)
    refine Course.act_bind mute rfl start ?_
    rw [fresh]
    have transfers : d.commit pending.name pending.active = .ok ((), d.transferred pending snapshot) := by
      simp only [Disk.commit, found, active, fresh]
      rfl
    have committed : (d.transferred pending snapshot).snapshots.lookup pending.name = some snapshot.settled :=
      lookup_commit_name
    have after : Finishes (d.transferred pending snapshot)
        ((d.transferred pending snapshot).relabelled pending snapshot.settled).dropIntent :=
      .done same owned committed rfl parent
    have transition : Course regime (· = d) (SnapshotStore.commitPending stage pending none)
        (fun answer reached => answer = some snapshot.settled ∧ reached = d.transferred pending snapshot)
        (fun _ reached => Finishes reached
          ((d.transferred pending snapshot).relabelled pending snapshot.settled).dropIntent) (fun _ => False) := by
      refine Course.act_bind mute rfl start (Course.demand_bind ⟨snapshot, found, active, parent, labels⟩ ?_)
      exact Course.act_bind mute transfers start (Course.act_last mute rfl after ⟨committed, rfl⟩)
    refine Course.bind transition fun answer => Course.from_each ?_
    rintro _ ⟨shown, rfl⟩
    exact finishDone_course mute same owned committed rfl parent shown

/-- In every state that such calls reach a pending commit is completable, and with working commands
the next caller completes it. -/
theorem untroubled_completes {digest : Digest} {d : Disk} (reached : Untroubled digest d) {pending : Intent}
    (same : d.intent = some pending) :
    Completable d.snapshots pending ∧
      ∃ p, SnapshotStore.finishCommit .resumed ⟨d, [], []⟩ = .ok () p ∧ p.disk.intent = none := by
  have finishable := untroubled_finishable reached
  refine ⟨finishable.completable same, ?_⟩
  obtain ⟨d', finishes⟩ := finishable.finishes
  obtain ⟨_, p, ran, rfl⟩ := Course.returns (finishCommit_course Regime.quiet_mute finishes) rfl
  exact ⟨p, ran, finishes.calmed⟩

def importRequest : Request := { name := "first", base := ⟨"/base", 1, 2, "tree"⟩, copied := "tree" }

/-- A lane whose freeze died before its commit. -/
def interruptedFreeze : Disk :=
  let created := (finalState ((Call.create importRequest).program plainDigest ⟨{}, [], []⟩)).disk
  (finalState ((Call.freeze "first").program plainDigest ⟨created, crashAfter 28, []⟩)).disk

theorem interruptedFreeze_untroubled : Untroubled plainDigest interruptedFreeze := by
  refine .call (.call .start (.create importRequest) [] ?_) (.freeze "first") (crashAfter 28) ?_
  · have none : raisedAt ((Call.create importRequest).program plainDigest ⟨{}, [], []⟩) = [] := by decide +kernel
    rw [none]
    exact fun _ member => absurd member List.not_mem_nil
  · have none : raisedAt ((Call.freeze "first").program plainDigest
        ⟨(finalState ((Call.create importRequest).program plainDigest ⟨{}, [], []⟩)).disk, crashAfter 28,
          []⟩) = [] := by
      decide +kernel
    rw [none]
    exact fun _ member => absurd member List.not_mem_nil

theorem interruptedFreeze_completes : ∃ pending, interruptedFreeze.intent = some pending ∧
    Completable interruptedFreeze.snapshots pending ∧
      ∃ p, SnapshotStore.finishCommit .resumed ⟨interruptedFreeze, [], []⟩ = .ok () p ∧ p.disk.intent = none := by
  have waiting : interruptedFreeze.intent.isSome = true := by decide +kernel
  obtain ⟨pending, same⟩ := Option.isSome_iff_exists.mp waiting
  exact ⟨pending, same, untroubled_completes interruptedFreeze_untroubled same⟩

/-- The first lane of a base, whose import meets one failing commit command. -/
def failedImport : Disk :=
  (finalState ((Call.create importRequest).program plainDigest ⟨{}, raiseAfter 38 .command, []⟩)).disk

theorem failedImport_blocked : ¬∀ (digest : Digest) (d : Disk), Reached digest d →
    ∀ pending, d.intent = some pending → Completable d.snapshots pending := by
  intro claimed
  have waiting : failedImport.intent.isSome = true := by decide +kernel
  obtain ⟨pending, same⟩ := Option.isSome_iff_exists.mp waiting
  have gone : ∀ intent ∈ failedImport.intent, failedImport.snapshots.lookup intent.name = none ∧
      failedImport.snapshots.lookup intent.active = none := by decide +kernel
  obtain ⟨unnamed, inactive⟩ := gone pending same
  rcases claimed plainDigest failedImport (.call .start _ _) pending same with done | ready
  · obtain ⟨snapshot, found, _⟩ := done
    cases unnamed.symm.trans found
  · obtain ⟨snapshot, found, _⟩ := ready
    cases inactive.symm.trans found

end Completion

end Darling.Lanes
