import Darling.Start.Journal

/-! What one journal update does, step by step, when nobody else writes. -/
namespace Darling.Start

variable {regime : Regime Failure} {past : List Point} {point : Point} {w : World} {α β : Type}
  {left : List Point → World → Prop} {post : β → Assertion (Process Point Failure World)}

theorem exactly_step {apply : World → Except Failure (α × World)} (value : α) (w' : World) {next : α → StartM β}
    (alone : w.visits = none) (goes : apply w = .ok (value, w')) (safe : left (past ++ [point]) w)
    (rest : Triple (regime.exactly past w') (next value) post (regime.stops left)) :
    Triple (regime.exactly past w) (step point apply >>= next) post (regime.stops left) := by
  have acted := Regime.exactly_act goes safe rest
  rintro p ⟨starts, same, rfl⟩
  have result := acted p ⟨starts, same, rfl⟩
  rwa [bind_run, ← step_alone alone, ← bind_run] at result

theorem exactly_look {see : World → Except Failure α} (value : α) {next : α → StartM β}
    (alone : w.visits = none) (sees : see w = .ok value) (safe : left (past ++ [point]) w)
    (rest : Triple (regime.exactly past w) (next value) post (regime.stops left)) :
    Triple (regime.exactly past w) (look point see >>= next) post (regime.stops left) := by
  refine exactly_step value w alone ?_ safe rest
  rw [sees]
  rfl

theorem exactly_change {apply : World → World} {next : Unit → StartM β}
    (alone : w.visits = none) (safe : left (past ++ [point]) w)
    (rest : Triple (regime.exactly past (apply w)) (next ()) post (regime.stops left)) :
    Triple (regime.exactly past w) (change point apply >>= next) post (regime.stops left) :=
  exactly_step () (apply w) alone rfl safe rest

theorem exactly_settle {next : Unit → StartM β} (alone : w.visits = none) (safe : left (past ++ [point]) w)
    (rest : Triple (regime.exactly past w) (next ()) post (regime.stops left)) :
    Triple (regime.exactly past w) (settle point >>= next) post (regime.stops left) :=
  exactly_change alone safe rest

theorem exactly_stepped {apply : World → Except Failure (α × World)} (value : α) (w' : World)
    (alone : w.visits = none) (goes : apply w = .ok (value, w')) (safe : left (past ++ [point]) w) :
    Triple (regime.exactly past w) (step point apply) (fun seen p => seen = value ∧ regime.exactly past w' p)
      (regime.stops left) := by
  have stepped : Triple (regime.exactly past w) (step point apply)
      (fun seen => Under regime.before past fun reached => seen = value ∧ reached = w') (regime.stops left) := by
    have acted : Triple (regime.exactly past w) (act point apply)
        (fun seen => Under regime.before past fun reached => seen = value ∧ reached = w') (regime.stops left) := by
      apply Regime.act
      · rintro _ rfl
        exact safe
      · rintro seen rfl
        exact ⟨value, w', goes, rfl, rfl⟩
    exact step_triple (fun p under => under.2.2 ▸ alone) acted
  exact stepped.conclude (fun _ _ under => ⟨under.2.2.1, under.1, under.2.1, under.2.2.2⟩) fun _ _ => id

theorem exactly_looked {see : World → Except Failure α} (value : α) (alone : w.visits = none)
    (sees : see w = .ok value) (safe : left (past ++ [point]) w) :
    Triple (regime.exactly past w) (look point see) (fun seen p => seen = value ∧ regime.exactly past w p)
      (regime.stops left) := by
  refine exactly_stepped value w alone ?_ safe
  rw [sees]
  rfl

theorem exactly_settled (alone : w.visits = none) (safe : left (past ++ [point]) w) :
    Triple (regime.exactly past w) (settle point) (fun _ => regime.exactly past w) (regime.stops left) := by
  unfold settle change
  exact (exactly_stepped () w alone rfl safe).conclude (fun _ _ under => under.2) fun _ _ => id

theorem exactly_revise {edit : Artifact → Artifact} {next : Unit → StartM β}
    (rest : Triple (regime.exactly past { w with payload := edit w.payload }) (next ()) post
      (regime.stops left)) :
    Triple (regime.exactly past w) (revise edit >>= next) post (regime.stops left) :=
  Regime.exactly_assign rest

theorem exactly_payload {next : Artifact → StartM β}
    (rest : Triple (regime.exactly past w) (next w.payload) post (regime.stops left)) :
    Triple (regime.exactly past w) (payload >>= next) post (regime.stops left) := by
  change Triple _ (disk >>= fun seen => next seen.payload) _ _
  exact Regime.exactly_disk rest

namespace World

/-- The temporary stands, with nothing in it. -/
def begun (w : World) : World := (w.allocate.setFile w.fresh none).setTemporary (some w.fresh)

/-- The payload in memory names the temporary's inode. -/
def drafted (w : World) : World := { w.begun with payload := w.payload.stamped w.fresh }

def filled (w : World) : World := w.drafted.setFile w.fresh (some (w.payload.stamped w.fresh))

def exchanged (w : World) (inode : Nat) : World :=
  (w.filled.setEvidence (some w.fresh)).setTemporary (some inode)

def updated (w : World) (inode : Nat) : World := ((w.exchanged inode).setTemporary none).removed (.file inode)

def published (w : World) : World := (w.filled.setTemporary none).setEvidence (some w.fresh)

end World

/-- The payload is accepted as an update of the evidence. -/
structure Accepted (accepts : Inputs → Bool) (w : World) (inode : Nat) (old : Artifact) : Prop where
  alone : w.visits = none
  evidence : w.journal.evidence = some inode
  content : w.journal.files inode = some (some old)
  bounded : inode < w.fresh
  temporary : w.journal.temporary = none
  oldValid : old.Valid accepts
  oldIdentity : old.evidenceIdentity = some inode
  valid : w.payload.Valid accepts
  follows : Follows inode old w.payload

/-- What an update leaves when it stops at the step. -/
inductive UpdateLeft (w : World) (inode : Nat) : JournalStep → World → Prop where
  | inspect : UpdateLeft w inode .inspect w
  | create : UpdateLeft w inode .create w
  | stat : UpdateLeft w inode .stat w.begun
  | fill : UpdateLeft w inode .fill w.drafted
  | flush : UpdateLeft w inode .flush w.filled
  | recheck : UpdateLeft w inode .recheck w.filled
  | exchange : UpdateLeft w inode .exchange w.filled
  | verify : UpdateLeft w inode .verify (w.exchanged inode)
  | unlink : UpdateLeft w inode .unlink (w.exchanged inode)
  | sync : UpdateLeft w inode .sync (w.updated inode)

/-- The steps before the handler of a journal write is in place. -/
def JournalStep.early : JournalStep → Bool
  | .inspect | .create | .stat => true
  | _ => false

section Updating

variable {accepts : Inputs → Bool} {label : JournalStep → Point} {inode : Nat} {old : Artifact}
  (accepted : Accepted accepts w inode old)

include accepted

theorem Accepted.inspects : inspectJournal accepts w = .ok (some inode) := by
  unfold inspectJournal readJournal
  simp only [accepted.evidence, accepted.content]
  simp [require, accepted.valid, accepted.oldValid, accepted.oldIdentity, accepted.follows, accepted.temporary,
    bind, Except.bind, pure, Except.pure]

theorem publishUpdate_runs
    (safe : ∀ step d, step.early = false → UpdateLeft w inode step d → left (past ++ [label step]) d) :
    Triple (regime.exactly past w.filled) (publishUpdate label inode w.fresh)
      (fun _ => regime.exactly past (w.updated inode)) (regime.stops left) := by
  have apart : inode ≠ w.fresh := Nat.ne_of_lt accepted.bounded
  have alone := accepted.alone
  have oldThere : (w.filled.journal.files inode).isSome := by
    simp [World.filled, World.drafted, World.begun, apart, accepted.content]
  have newThere : (w.filled.journal.files w.fresh).isSome := by simp [World.filled]
  unfold publishUpdate
  refine exactly_look true alone ?_ (safe _ _ rfl .recheck) (Regime.exactly_demand rfl ?_)
  · simp [World.filled, World.drafted, World.begun, World.sameFile, accepted.evidence, pure, Except.pure,
      apart, accepted.content]
  refine exactly_step () (w.exchanged inode) alone ?_ (safe _ _ rfl .exchange) ?_
  · simp [World.exchanged, World.filled, World.drafted, World.begun, accepted.evidence, pure, Except.pure]
  refine exactly_look true alone ?_ (safe _ _ rfl .verify) ?_
  · simp [World.exchanged, World.sameFile, oldThere, newThere, pure, Except.pure]
  refine exactly_look true alone ?_ (safe _ _ rfl .verify) ?_
  · simp [World.exchanged, World.sameFile, oldThere, pure, Except.pure]
  refine exactly_step () (w.updated inode) alone ?_ (safe _ _ rfl .unlink) ?_
  · simp [World.updated, World.exchanged, pure, Except.pure]
  exact exactly_settled alone (safe _ _ rfl .sync)

theorem writeAndPublish_runs
    (safe : ∀ step d, step.early = false → UpdateLeft w inode step d → left (past ++ [label step]) d) :
    Triple (regime.exactly past w.begun) (writeAndPublish accepts label (some inode) w.fresh w.fresh)
      (fun _ => regime.exactly past (w.updated inode)) (regime.stops left) := by
  refine exactly_revise (exactly_payload (Regime.exactly_demand accepted.valid ?_))
  have filled : Triple (regime.exactly past w.drafted) (fillTemporary label w.fresh)
      (fun _ => regime.exactly past w.filled) (regime.stops left) :=
    exactly_change accepted.alone (safe _ _ rfl .fill) (exactly_settled accepted.alone (safe _ _ rfl .flush))
  exact Triple.bind filled fun _ => publishUpdate_runs accepted safe

/-- An update, by what its handler makes of an error after the temporary was created. -/
theorem durableWrite_handles
    (safe : ∀ step d, UpdateLeft w inode step d → regime.dies ∨ step.early = true → left (past ++ [label step]) d)
    (undoes : ∀ failure, Triple (fun p => (∃ step, p.struck = past ++ [label step] ∧ step.early = false ∧
      UpdateLeft w inode step p.disk) ∧ regime.after p.faults) (do
        undoWrite label w.payload w.fresh
        raise failure) (fun (_ : Unit) _ => False) (regime.stops left)) :
    Triple (regime.exactly past w) (durableWrite accepts label)
      (fun _ => regime.exactly past (w.updated inode)) (regime.stops left) := by
  refine exactly_look (some inode) accepted.alone accepted.inspects (safe _ _ .inspect (.inr rfl)) ?_
  refine exactly_payload ?_
  refine exactly_step w.fresh w.begun accepted.alone ?_ (safe _ _ .create (.inr rfl)) ?_
  · simp [World.begun, require, accepted.temporary, bind, Except.bind, pure, Except.pure]
  refine exactly_look w.fresh accepted.alone ?_ (safe _ _ .stat (.inr rfl)) ?_
  · simp [World.begun, pure, Except.pure]
  refine Regime.handled (fun struck d => ∃ step, struck = past ++ [label step] ∧ step.early = false ∧
    UpdateLeft w inode step d) (writeAndPublish_runs accepted fun step d late stopped => ⟨step, rfl, late, stopped⟩) ?_
    fun failure => (undoes failure).conclude (fun _ _ => False.elim) fun _ _ => id
  rintro dies struck d ⟨step, rfl, -, stopped⟩
  exact safe step d stopped (.inl dies)

/-- An update that no handler cuts into: it goes through, or the process dies in one of the listed worlds. -/
theorem durableWrite_runs (silent : ∀ faults, ¬regime.after faults)
    (safe : ∀ step d, UpdateLeft w inode step d → left (past ++ [label step]) d) :
    Triple (regime.exactly past w) (durableWrite accepts label)
      (fun _ => regime.exactly past (w.updated inode)) (regime.stops left) :=
  durableWrite_handles accepted (fun step d stopped _ => safe step d stopped) fun _ p still =>
    absurd still.2 (silent p.faults)

end Updating

end Darling.Start
