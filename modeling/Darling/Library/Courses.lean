import Darling.Library.Interruptions

/-! Runs in which no step fails by itself: the process may die at a step, the disk may refuse one, and
otherwise the program goes on. A contract says what the disk is like at each of the three ends; the
regime says whether the process may die at all. -/
namespace Darling

variable {ι ε σ α β : Type}

/-- How a course ends early: it is cut at a point, or the program refuses to go on. -/
def Regime.ends (regime : Regime ε) (cut : ι → σ → Prop) (refused : σ → Prop) : Stop ε → Assertion (Process ι ε σ)
  | .crash => fun p => regime.dies ∧ ∃ point, p.struck = [point] ∧ cut point p.disk
  | .raised _ => fun p => p.struck = [] ∧ refused p.disk

def Course (regime : Regime ε) (pre : σ → Prop) (body : Program ι ε σ α) (post : α → σ → Prop) (cut : ι → σ → Prop)
    (refused : σ → Prop) : Prop :=
  Triple (Under regime.before [] pre) body (fun value => Under regime.before [] (post value)) (regime.ends cut refused)

/-- Nothing is raised by itself. -/
def Regime.Mute (regime : Regime ε) : Prop := ∀ faults, ¬regime.after faults

theorem Regime.quiet_mute : (Regime.quiet : Regime ε).Mute := fun _ => id

theorem Regime.crashing_mute : (Regime.crashing : Regime ε).Mute := fun _ => id

namespace Course

variable {regime : Regime ε} {pre pre' refused refused' : σ → Prop} {cut cut' : ι → σ → Prop}
  {post post' : α → σ → Prop} {body : Program ι ε σ α} {point : ι}

theorem weaken (course : Course regime pre body post cut refused) (stronger : ∀ d, pre' d → pre d)
    (returned : ∀ value d, post value d → post' value d) (cuts : ∀ point d, cut point d → cut' point d)
    (refuses : ∀ d, refused d → refused' d) : Course regime pre' body post' cut' refused' := by
  apply Triple.weaken course
  · exact fun p under => ⟨under.1, under.2.1, stronger _ under.2.2⟩
  · exact fun value p under => ⟨under.1, under.2.1, returned value _ under.2.2⟩
  · intro stop p ended
    cases stop with
    | crash =>
      obtain ⟨dies, point, struck, held⟩ := ended
      exact ⟨dies, point, struck, cuts point _ held⟩
    | raised error => exact ⟨ended.1, refuses _ ended.2⟩

theorem bind {middle : α → σ → Prop} {next : α → Program ι ε σ β} {post : β → σ → Prop}
    (first : Course regime pre body middle cut refused)
    (second : ∀ value, Course regime (middle value) (next value) post cut refused) :
    Course regime pre (body >>= next) post cut refused :=
  Triple.bind first second

/-- Nothing follows a part that never returns. -/
theorem stuck {next : α → Program ι ε σ β} {post : β → σ → Prop}
    (first : Course regime pre body (fun _ _ => False) cut refused) :
    Course regime pre (body >>= next) post cut refused := by
  refine bind first fun value => ?_
  rintro p ⟨_, _, impossible⟩
  exact impossible.elim

theorem act (mute : regime.Mute) {change : σ → Except ε (α × σ)} (cuts : ∀ d, pre d → cut point d)
    (goes : ∀ d value d', pre d → change d = .ok (value, d') → post value d')
    (refuses : ∀ d error, pre d → change d = .error error → refused d) :
    Course regime pre (act point change) post cut refused := by
  apply act_triple
  · rintro p fault ⟨starts, clean, held⟩ head
    cases fault with
    | crash => exact ⟨regime.crashed starts head, point, by rw [Process.strike_struck, clean]; rfl, cuts _ held⟩
    | raise error => exact absurd (regime.raised starts head) (mute _)
  · exact fun p value disk under changed => ⟨regime.tail under.1, under.2.1, goes _ _ _ under.2.2 changed⟩
  · exact fun p error under changed => ⟨under.2.1, refuses _ _ under.2.2 changed⟩

theorem assign {change : σ → σ} {post : Unit → σ → Prop} (goes : ∀ d, pre d → post () (change d)) :
    Course regime pre (assign change : Program ι ε σ Unit) post cut refused :=
  assign_triple fun p under => ⟨under.1, under.2.1, goes p.disk under.2.2⟩

theorem pure {value : α} (holds : ∀ d, pre d → post value d) :
    Course regime pre (pure value : Program ι ε σ α) post cut refused :=
  Triple.pure fun _ under => ⟨under.1, under.2.1, holds _ under.2.2⟩

theorem raise {error : ε} (holds : ∀ d, pre d → refused d) :
    Course regime pre (raise error : Program ι ε σ α) post cut refused :=
  raise_triple fun _ under => ⟨under.2.1, holds _ under.2.2⟩

/-- A contract for each disk the course may start on. -/
theorem from_each (each : ∀ d, pre d → Course regime (· = d) body post cut refused) :
    Course regime pre body post cut refused := by
  rintro p ⟨starts, clean, held⟩
  exact each p.disk held p ⟨starts, clean, rfl⟩

theorem demand {condition : Prop} [Decidable condition] {error : ε} (broken : ¬condition → ∀ d, pre d → refused d) :
    Course regime pre (demand condition error : Program ι ε σ Unit) (fun _ d => condition ∧ pre d) cut refused := by
  refine (demand_triple fun fallen p under => ⟨under.2.1, broken fallen _ under.2.2⟩).conclude ?_ fun _ _ => id
  rintro _ p ⟨holds, under⟩
  exact ⟨under.1, under.2.1, holds, under.2.2⟩

theorem demand_met {condition : Prop} [Decidable condition] {error : ε} (met : condition) :
    Course regime pre (Darling.demand condition error : Program ι ε σ Unit) (fun _ => pre) cut refused :=
  demand_holds met

theorem ite {condition : Prop} [Decidable condition] {other : Program ι ε σ α}
    (holds : condition → Course regime pre body post cut refused)
    (fallback : ¬condition → Course regime pre other post cut refused) :
    Course regime pre (if condition then body else other) post cut refused :=
  Triple.ite holds fallback

theorem onlyIf {condition : Bool} {body : Program ι ε σ Unit} {post : Unit → σ → Prop}
    (holds : condition = true → Course regime pre body post cut refused)
    (skipped : condition = false → ∀ d, pre d → post () d) :
    Course regime pre (onlyIf condition body) post cut refused := by
  unfold Darling.onlyIf
  refine ite holds fun off => pure fun d held => skipped ?_ d held
  simpa using off

/-- A handler sees what the body refuses. -/
theorem handle {handler : ε → Program ι ε σ α} (inner : σ → Prop)
    (first : Course regime pre body post cut inner)
    (second : ∀ error, Triple (fun p => p.struck = [] ∧ inner p.disk) (handler error)
      (fun value => Under regime.before [] (post value)) (regime.ends cut refused)) :
    Course regime pre (handle body handler) post cut refused := by
  refine Triple.rescue first fun stop => ?_
  cases stop with
  | crash => exact Triple.throw fun _ => id
  | raised error => exact second error

/-- A body that refuses nothing never reaches its handler. -/
theorem unhandled {handler : ε → Program ι ε σ α} (first : Course regime pre body post cut fun _ => False) :
    Course regime pre (Darling.handle body handler) post cut refused := by
  refine handle (fun _ => False) first fun error => ?_
  rintro p ⟨_, impossible⟩
  exact impossible.elim

theorem forM {items : List β} {body : β → Program ι ε σ Unit} (holds : List β → σ → Prop)
    (each : ∀ done item rest, done ++ item :: rest = items →
      Course regime (holds done) (body item) (fun _ => holds (done ++ [item])) cut refused) :
    Course regime (holds []) (items.forM body) (fun _ => holds items) cut refused :=
  forM_triple (fun done => Under regime.before [] (holds done)) each

section Exact

variable {d d' : σ} {value : α} {next : α → Program ι ε σ β} {post : β → σ → Prop}

theorem act_bind (mute : regime.Mute) {change : σ → Except ε (α × σ)} (goes : change d = .ok (value, d'))
    (cuts : cut point d) (rest : Course regime (· = d') (next value) post cut refused) :
    Course regime (· = d) (Darling.act point change >>= next) post cut refused := by
  have first : Course regime (· = d) (Darling.act point change)
      (fun seen reached => seen = value ∧ reached = d') cut refused := by
    refine act mute ?_ ?_ ?_
    · rintro _ rfl
      exact cuts
    · rintro _ seen reached rfl changed
      cases goes.symm.trans changed
      exact ⟨rfl, rfl⟩
    · rintro _ error rfl changed
      cases goes.symm.trans changed
  refine bind first fun seen => ?_
  rintro p ⟨starts, clean, rfl, same⟩
  exact rest p ⟨starts, clean, same⟩

theorem write_bind (mute : regime.Mute) {change : σ → σ} {next : Unit → Program ι ε σ β} (cuts : cut point d)
    (rest : Course regime (· = change d) (next ()) post cut refused) :
    Course regime (· = d) (Darling.write point change >>= next) post cut refused :=
  act_bind mute rfl cuts rest

theorem sync_bind (mute : regime.Mute) {next : Unit → Program ι ε σ β} (cuts : cut point d)
    (rest : Course regime (· = d) (next ()) post cut refused) :
    Course regime (· = d) (Darling.sync point >>= next) post cut refused := by
  unfold Darling.sync
  exact write_bind mute cuts rest

theorem assign_bind {change : σ → σ} {next : Unit → Program ι ε σ β}
    (rest : Course regime (· = change d) (next ()) post cut refused) :
    Course regime (· = d) (Darling.assign change >>= next) post cut refused := by
  rintro p ⟨starts, clean, rfl⟩
  exact rest { p with disk := change p.disk } ⟨starts, clean, rfl⟩

theorem read_bind {next : σ → Program ι ε σ β} (rest : Course regime (· = d) (next d) post cut refused) :
    Course regime (· = d) (disk >>= next) post cut refused := by
  rintro p ⟨starts, clean, rfl⟩
  exact rest p ⟨starts, clean, rfl⟩

theorem demand_bind {condition : Prop} [Decidable condition] {error : ε} {next : Unit → Program ι ε σ β}
    (met : condition) (rest : Course regime (· = d) (next ()) post cut refused) :
    Course regime (· = d) (Darling.demand condition error >>= next) post cut refused :=
  bind (demand_met met) fun _ => rest

theorem act_last (mute : regime.Mute) {change : σ → Except ε (α × σ)} {post : α → σ → Prop}
    (goes : change d = .ok (value, d')) (cuts : cut point d) (ends : post value d') :
    Course regime (· = d) (Darling.act point change) post cut refused := by
  refine act mute ?_ ?_ ?_
  · rintro _ rfl
    exact cuts
  · rintro _ seen reached rfl changed
    cases goes.symm.trans changed
    exact ends
  · rintro _ error rfl changed
    cases goes.symm.trans changed

theorem sync_last (mute : regime.Mute) {post : Unit → σ → Prop} (cuts : cut point d) (ends : post () d) :
    Course regime (· = d) (Darling.sync point) post cut refused := by
  unfold Darling.sync Darling.write
  exact act_last mute rfl cuts ends

end Exact

end Course

/-- Where a program that dies at other steps at most ends. -/
theorem Course.settles {pre kept : σ → Prop} {body : Program ι ε σ α} {fatal : ι → Prop}
    (course : Course Regime.crashing pre body (fun _ => kept) (fun point d => ¬fatal point → kept d) kept) {d : σ}
    {faults : Schedule ε} (held : pre d) (crashing : faults.Crashing)
    (spared : ∀ point ∈ (finalState (body ⟨d, faults, []⟩)).struck, ¬fatal point) :
    kept (finalState (body ⟨d, faults, []⟩)).disk := by
  have result := course ⟨d, faults, []⟩ ⟨crashing, rfl, held⟩
  cases ran : body ⟨d, faults, []⟩ with
  | ok value p =>
    rw [ran] at result
    exact result.2.2
  | error stop p =>
    rw [ran] at result spared
    cases stop with
    | crash =>
      obtain ⟨_, point, struck, held⟩ := result
      exact held (spared point (struck ▸ List.mem_singleton_self point))
    | raised error => exact result.2

/-- With working steps a program that refuses nothing returns. -/
theorem Course.returns {pre : σ → Prop} {body : Program ι ε σ α} {post : α → σ → Prop} {cut : ι → σ → Prop}
    (course : Course Regime.quiet pre body post cut fun _ => False) {d : σ} (held : pre d) :
    ∃ value p, body ⟨d, [], []⟩ = .ok value p ∧ post value p.disk := by
  have result := course ⟨d, [], []⟩ ⟨Schedule.Quiet.nil, rfl, held⟩
  cases ran : body ⟨d, [], []⟩ with
  | ok value p =>
    rw [ran] at result
    exact ⟨value, p, rfl, result.2.2⟩
  | error stop p =>
    rw [ran] at result
    cases stop with
    | crash => exact result.1.elim
    | raised error => exact result.2.elim

end Darling
