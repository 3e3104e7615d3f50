import Darling.Ring.Plane
import Mathlib.Data.Fintype.Basic
import Mathlib.Data.List.Infix

/-! Whose completion an urgent call returns. -/
namespace Darling.Ring
open Interleavings

section Slots

variable {n : Nat}

/-- The slot that a thread has claimed and not yet published. -/
def PlanePc.filling : PlanePc n → Option (Fin n)
  | .urgent _ (.fill u _ (_ :: _)) => some u
  | _ => none

/-- The slot of a call that has claimed it and still uses it; the publisher that does not wait leaves it with its
publication. -/
def PlanePc.occupies : PlanePc n → Option (Fin n)
  | .urgent _ (.fill u _ (_ :: _)) => some u
  | .urgent call (.fill u _ []) => if call.waits then some u else none
  | .urgent _ (.poll u _) => some u
  | .urgent _ (.pollSeq u _) => some u
  | .urgent _ (.status u) => some u
  | .urgent _ (.extra u _) => some u
  | .urgent _ (.free u _ _) => some u
  | .urgent _ (.timeout u) => some u
  | _ => none

namespace Plane

variable {T : Type}

/-- A completed slot is reaped only while no call uses it, a slot is claimed only while the server has no
transaction on it, and the server takes a slot only behind its publication. -/
def Undisturbed (s : Plane T n) : PlaneAction T n → Prop
  | .advance t _ =>
    match s.pc t with
    | .urgent _ (.reap u) => ∀ bound : u < n, (s.urgent ⟨u, bound⟩).state = .done → ∀ v,
        (s.pc v).occupies ≠ some ⟨u, bound⟩
    | .urgent _ (.claim u) => (s.urgent u).state = .idle → s.urgentTaken u = none
    | _ => True
  | .serve (.takeUrgent u) => ∀ v, (s.pc v).filling ≠ some u
  | _ => True

/-- Every call that waited and was answered returns what the server wrote for it. -/
def OwnAnswers (s : Plane T n) : Prop :=
  ∀ r ∈ s.returned, r.call.waits = true → r.value ≠ -1 → r.value ≠ -2 →
    ∃ extra, r.extra = some extra ∧ (r.call.id, r.value, extra) ∈ s.answers

/-- The slot is claimed and the server has not seen it. -/
def Filled (s : Plane T n) (u : Fin n) : Prop := (s.urgent u).state = .pending ∧ s.urgentTaken u = none

/-- The slot holds what the server wrote for the call. -/
def Answered (s : Plane T n) (u : Fin n) (id : Nat) : Prop :=
  (s.urgent u).state = .done ∧ s.urgentTaken u = none ∧
    (id, (s.urgent u).replyStatus, (s.urgent u).payload 6) ∈ s.answers

/-- What is written of the reply stands in the slot. -/
def Written (slot : UrgentSlot) (id : Nat) (taken : UrgentTaken) : Prop :=
  taken.call = some id ∧ (∀ status, taken.status = some status → slot.replyStatus = status) ∧
    ∀ extra, taken.extra = some extra → slot.payload 6 = extra

/-- The call has published and its answer is on the way, or in the slot. -/
def Awaited (s : Plane T n) (u : Fin n) (id : Nat) : Prop :=
  (s.published u = some id ∧ (s.urgent u).state = .pending ∧ ∀ taken, s.urgentTaken u = some taken →
    Written (s.urgent u) id taken) ∨
    Answered s u id

/-- What a thread may rely on where it is. -/
def Fine (s : Plane T n) : PlanePc n → Prop
  | .urgent call (.fill u _ rest) =>
    rest <:+ call.stores ∧ (rest ≠ [] → Filled s u) ∧ (rest = [] → call.waits = true → Awaited s u call.id)
  | .urgent call (.poll u _) => Awaited s u call.id
  | .urgent call (.pollSeq u _) => Answered s u call.id
  | .urgent call (.status u) => Answered s u call.id
  | .urgent call (.extra u status) => Answered s u call.id ∧ status = (s.urgent u).replyStatus
  | .urgent call (.free u status extra) =>
    Answered s u call.id ∧ status = (s.urgent u).replyStatus ∧ extra = (s.urgent u).payload 6
  | .urgent call (.timeout u) => Awaited s u call.id
  | _ => True

/-- Each slot is used by one call at most, as that call expects. -/
structure Served (s : Plane T n) : Prop where
  fine : ∀ t, s.Fine (s.pc t)
  unique : ∀ t v u, (s.pc t).occupies = some u → (s.pc v).occupies = some u → t = v
  returned : OwnAnswers s

/-- A slot stays as it is. -/
def SameSlot (s s' : Plane T n) (u : Fin n) : Prop :=
  s'.urgent u = s.urgent u ∧ s'.urgentTaken u = s.urgentTaken u ∧ s'.published u = s.published u

end Plane

end Slots

namespace Plane

section Moves

variable {T : Type} {n : Nat} {s s' : Plane T n} {t : T} {u : Fin n}

theorem SameSlot.filled (same : SameSlot s s' u) (filled : Filled s u) : Filled s' u := by
  rwa [Filled, same.1, same.2.1]

theorem SameSlot.answered (same : SameSlot s s' u) (answers : s.answers ⊆ s'.answers) {id : Nat}
    (answered : Answered s u id) :
    Answered s' u id := by
  rw [Answered, same.1, same.2.1]
  exact ⟨answered.1, answered.2.1, answers answered.2.2⟩

theorem SameSlot.awaited (same : SameSlot s s' u) (answers : s.answers ⊆ s'.answers) {id : Nat}
    (awaited : Awaited s u id) :
    Awaited s' u id := by
  refine awaited.imp (fun pending => ?_) (same.answered answers)
  rwa [same.1, same.2.1, same.2.2]

/-- A thread whose slot stays as it is can go on relying on it. -/
theorem Fine.keep {pc : PlanePc n} (fine : s.Fine pc) (same : ∀ u, pc.occupies = some u → SameSlot s s' u)
    (answers : s.answers ⊆ s'.answers) : s'.Fine pc := by
  cases pc with
  | out => trivial
  | request ask pc => trivial
  | urgent call pc =>
    cases pc with
    | reap u => trivial
    | claim u => trivial
    | fill u mine rest =>
      obtain ⟨ordered, filled, awaited⟩ := fine
      refine ⟨ordered, fun more => ?_, fun none waits => ?_⟩
      · cases rest with
        | nil => exact absurd rfl more
        | cons next rest => exact (same u rfl).filled (filled more)
      · subst none
        exact (same u (if_pos waits)).awaited answers (awaited rfl waits)
    | poll u mine => exact (same u rfl).awaited answers fine
    | pollSeq u mine => exact (same u rfl).answered answers fine
    | status u => exact (same u rfl).answered answers fine
    | extra u status =>
      obtain ⟨answered, read⟩ := fine
      have slot := same u rfl
      exact ⟨slot.answered answers answered, by rw [slot.1, read]⟩
    | free u status extra =>
      obtain ⟨answered, read, read'⟩ := fine
      have slot := same u rfl
      exact ⟨slot.answered answers answered, by rw [slot.1, read], by rw [slot.1, read']⟩
    | timeout u => exact (same u rfl).awaited answers fine

/-- A slot that a thread uses is being filled, or its call is awaited. -/
theorem Fine.slot {pc : PlanePc n} (fine : s.Fine pc) (uses : pc.occupies = some u) :
    Filled s u ∨ ∃ id, Awaited s u id := by
  unfold PlanePc.occupies at uses
  split at uses
  case h_2 =>
    split at uses
    next waits =>
      cases uses
      exact .inr ⟨_, fine.2.2 rfl waits⟩
    next => cases uses
  all_goals cases uses
  · exact .inl (fine.2.1 nofun)
  · exact .inr ⟨_, fine⟩
  · exact .inr ⟨_, .inr fine⟩
  · exact .inr ⟨_, .inr fine⟩
  · exact .inr ⟨_, .inr fine.1⟩
  · exact .inr ⟨_, .inr fine.1⟩
  · exact .inr ⟨_, fine⟩

/-- What a thread relies on when its slot changes while its answer is not there yet. -/
theorem Fine.change {pc : PlanePc n} (fine : s.Fine pc) (uses : pc.occupies = some u) (early : ∀ id, ¬ Answered s u id)
    (fills : Filled s u → pc.filling = some u → Filled s' u) (awaits : ∀ id, Awaited s u id → Awaited s' u id) :
    s'.Fine pc := by
  unfold PlanePc.occupies at uses
  split at uses
  case h_2 =>
    split at uses
    next waits =>
      cases uses
      exact ⟨fine.1, fun more => absurd rfl more, fun _ _ => awaits _ (fine.2.2 rfl waits)⟩
    next => cases uses
  all_goals cases uses
  · exact ⟨fine.1, fun more => fills (fine.2.1 more) rfl, nofun⟩
  · exact awaits _ fine
  · exact absurd fine (early _)
  · exact absurd fine (early _)
  · exact absurd fine.1 (early _)
  · exact absurd fine.1 (early _)
  · exact awaits _ fine

theorem OwnAnswers.keep (own : OwnAnswers s) (returned : s'.returned = s.returned) (answers : s.answers ⊆ s'.answers) :
    OwnAnswers s' := by
  intro r member waits failed late
  rw [returned] at member
  obtain ⟨extra, read, written⟩ := own r member waits failed late
  exact ⟨extra, read, answers written⟩

/-- One thread moves, and changes no slot that another one uses. -/
theorem Served.move (served : Served s) (others : ∀ v, v ≠ t → s'.pc v = s.pc v)
    (same : ∀ v u, v ≠ t → (s.pc v).occupies = some u → SameSlot s s' u) (answers : s'.answers = s.answers)
    (fine : s'.Fine (s'.pc t)) (takes : ∀ v u, v ≠ t → (s'.pc t).occupies = some u → (s.pc v).occupies ≠ some u)
    (returned : OwnAnswers s') : Served s' := by
  refine ⟨fun v => ?_, fun v w u first second => ?_, returned⟩
  · by_cases moved : v = t
    · rwa [moved]
    · rw [others v moved]
      exact (served.fine v).keep (fun u occupies => same v u moved occupies) (answers ▸ List.Subset.refl _)
  · by_cases left : v = t
    · by_cases right : w = t
      · rw [left, right]
      · rw [others w right] at second
        exact absurd second (takes w u right (left ▸ first))
    · rw [others v left] at first
      by_cases right : w = t
      · exact absurd first (takes v u left (right ▸ second))
      · exact served.unique v w u first (others w right ▸ second)

/-- The server writes to one slot. -/
theorem Served.serve (served : Served s) (pc : s'.pc = s.pc) (elsewhere : ∀ v, v ≠ u → SameSlot s s' v)
    (answers : s.answers ⊆ s'.answers) (returned : s'.returned = s.returned)
    (here : ∀ t, (s.pc t).occupies = some u → s'.Fine (s.pc t)) : Served s' := by
  refine ⟨fun t => ?_, pc ▸ served.unique, served.returned.keep returned answers⟩
  rw [pc]
  by_cases uses : (s.pc t).occupies = some u
  · exact here t uses
  · exact (served.fine t).keep (fun v occupies => elsewhere v fun same => uses (same ▸ occupies)) answers

theorem OwnAnswers.append (own : OwnAnswers s) {r : Returned} (answers : s'.answers = s.answers)
    (returned : s'.returned = s.returned ++ [r])
    (fits : r.call.waits = true → r.value ≠ -1 → r.value ≠ -2 → ∃ extra, r.extra = some extra ∧
      (r.call.id, r.value, extra) ∈ s.answers) :
    OwnAnswers s' := by
  intro other member
  rw [returned] at member
  rw [answers]
  obtain old | new := List.mem_append.mp member
  · exact own other old
  · rw [List.mem_singleton.mp new]
    exact fits

/-- A slot that a call uses is not idle. -/
theorem Served.busy (served : Served s) (uses : (s.pc t).occupies = some u) : (s.urgent u).state ≠ .idle := by
  obtain ⟨pending, -⟩ | ⟨id, ⟨-, pending, -⟩ | answered⟩ := (served.fine t).slot uses
  · rw [pending]; nofun
  · rw [pending]; nofun
  · rw [answered.1]; nofun

/-- A step that touches no urgent slot, of a thread that uses none. -/
theorem Served.aside (served : Served s) (others : ∀ v, v ≠ t → s'.pc v = s.pc v) (fine : s'.Fine (s'.pc t))
    (free : (s'.pc t).occupies = none) (slots : ∀ u, SameSlot s s' u) (answers : s'.answers = s.answers)
    (returned : s'.returned = s.returned) : Served s' := by
  refine served.move others (fun _ u _ _ => slots u) answers fine (fun v u _ takes => ?_) ?_
  · rw [free] at takes
    cases takes
  · exact served.returned.keep returned (answers ▸ List.Subset.refl _)

/-- The urgent slots and the other threads stay as they are. -/
structure RequestFrame (s s' : Plane T n) (t : T) : Prop where
  others : ∀ v, v ≠ t → s'.pc v = s.pc v
  slots : ∀ u, SameSlot s s' u
  answers : s'.answers = s.answers
  returned : s'.returned = s.returned
  own : s'.pc t = .out ∨ ∃ ask pc, s'.pc t = .request ask pc

theorem Served.frame (served : Served s) (frame : RequestFrame s s' t) : Served s' := by
  refine served.aside frame.others ?_ ?_ frame.slots frame.answers frame.returned
  · obtain out | ⟨ask, pc, request⟩ := frame.own
    · rw [out]; trivial
    · rw [request]; trivial
  · obtain out | ⟨ask, pc, request⟩ := frame.own
    · rw [out]; rfl
    · rw [request]; rfl

end Moves

section Stores

variable {T : Type} {n : Nat} {s : Plane T n} {u : Fin n} {call : Urge} {mine : UInt32} {next : UrgentStore}

theorem stores_last (call : Urge) : ∃ before, call.stores = before ++ [.publish] := by
  unfold Urge.stores
  split
  · exact ⟨_, rfl⟩
  · exact ⟨_, rfl⟩

theorem publish_of_last (last : [next] <:+ call.stores) : next = .publish := by
  obtain ⟨before, stores⟩ := stores_last call
  obtain ⟨front, split⟩ := stores ▸ last
  exact List.singleton_inj.mp (List.append_inj' split rfl).2

/-- A store of an urgent call changes its own slot alone. -/
theorem storeUrgent_elsewhere {v : Fin n} (other : v ≠ u) : SameSlot s (s.storeUrgent u call mine next) v := by
  cases next with
  | draw =>
    rw [storeUrgent, drawUrgent]
    split <;> exact ⟨rfl, rfl, rfl⟩
  | publish => exact ⟨Function.update_of_ne other .., rfl, Function.update_of_ne other ..⟩
  | _ => exact ⟨Function.update_of_ne other .., rfl, rfl⟩

theorem storeUrgent_rest : (s.storeUrgent u call mine next).pc = s.pc ∧
    (s.storeUrgent u call mine next).answers = s.answers ∧
    (s.storeUrgent u call mine next).returned = s.returned ∧
    (s.storeUrgent u call mine next).urgentTaken = s.urgentTaken := by
  cases next with
  | draw =>
    rw [storeUrgent, drawUrgent]
    split <;> exact ⟨rfl, rfl, rfl, rfl⟩
  | _ => exact ⟨rfl, rfl, rfl, rfl⟩

/-- The slot stays PENDING while it is filled. -/
theorem storeUrgent_filled (filled : Filled s u) : Filled (s.storeUrgent u call mine next) u := by
  obtain ⟨pending, untaken⟩ := filled
  refine ⟨?_, by rw [storeUrgent_rest.2.2.2, untaken]⟩
  cases next with
  | draw =>
    rw [storeUrgent, drawUrgent]
    split <;> exact pending
  | _ => simp [storeUrgent, setUrgent, pending]

end Stores

section Threads

variable {T : Type} {n : Nat} [DecidableEq T] {s s' : Plane T n} {t : T} {u : Fin n}

/-- A thread goes on and leaves the page. -/
theorem Served.goto (served : Served s) {old new : PlanePc n} (here : s.pc t = old)
    (occupies : ∀ u, new.occupies = some u → old.occupies = some u) (fine : s.Fine new) : Served (s.goto t new) := by
  refine served.move (goto_other _) (fun _ _ _ _ => ⟨rfl, rfl, rfl⟩) rfl ?_ (fun v u moved takes uses => ?_) ?_
  · rw [goto_self]
    exact fine.keep (fun _ _ => ⟨rfl, rfl, rfl⟩) (List.Subset.refl _)
  · rw [goto_self] at takes
    exact moved (served.unique v t u uses (here ▸ occupies u takes))
  · exact served.returned.keep rfl (List.Subset.refl _)

/-- A call that uses no slot returns. -/
theorem Served.leave (served : Served s) {call : Urge} {value : Int32} {extra : Option UInt64}
    (fits : call.waits = true → value ≠ -1 → value ≠ -2 → ∃ word, extra = some word ∧
      (call.id, value, word) ∈ s.answers) :
    Served (s.returnUrgent t call value extra) := by
  refine served.move (t := t) (goto_other _) (fun _ _ _ _ => ⟨rfl, rfl, rfl⟩) rfl ?_ (fun v u _ takes => ?_) ?_
  · rw [returnUrgent, goto_self]
    trivial
  · rw [returnUrgent, goto_self] at takes
    cases takes
  · exact served.returned.append rfl rfl fits

/-- A call frees its slot and returns. -/
theorem Served.release (served : Served s) {call : Urge} {value : Int32} {extra : Option UInt64} {slot : UrgentSlot}
    (mine : (s.pc t).occupies = some u)
    (fits : call.waits = true → value ≠ -1 → value ≠ -2 → ∃ word, extra = some word ∧
      (call.id, value, word) ∈ s.answers) :
    Served ((s.setUrgent u slot).returnUrgent t call value extra) := by
  refine served.move (t := t) (goto_other _) (fun v w moved uses => ?_) rfl ?_ (fun v w _ takes => ?_) ?_
  · have apart : w ≠ u := by
      rintro rfl
      exact moved (served.unique v t w uses mine)
    exact ⟨Function.update_of_ne apart .., rfl, rfl⟩
  · rw [returnUrgent, goto_self]
    trivial
  · rw [returnUrgent, goto_self] at takes
    cases takes
  · exact served.returned.append rfl rfl fits

theorem Served.reap (served : Served s) {call : Urge} (here : s.pc t = .urgent call (.reap u))
    (unused : (s.urgent u).state = .done → ∀ v, (s.pc v).occupies ≠ some u) :
    Served ((s.reapUrgent u).goto t (.urgent call (.claim u))) := by
  unfold reapUrgent
  split
  next completed =>
    refine served.move (t := t) (goto_other _) (fun v w _ uses => ?_) rfl ?_ (fun v w _ takes => ?_) ?_
    · have apart : w ≠ u := by
        rintro rfl
        exact unused completed v uses
      exact ⟨Function.update_of_ne apart .., rfl, rfl⟩
    · rw [goto_self]
      trivial
    · rw [goto_self] at takes
      cases takes
    · exact served.returned.keep rfl (List.Subset.refl _)
  next => exact served.goto here nofun trivial

theorem Served.claim (served : Served s) {call : Urge} (here : s.pc t = .urgent call (.claim u))
    (idle : (s.urgent u).state = .idle) (untaken : s.urgentTaken u = none) {slot : UrgentSlot}
    (pending : slot.state = .pending) :
    Served ({ s.setUrgent u slot with published := Function.update s.published u none }.goto t
      (.urgent call (.fill u 0 call.stores))) := by
  have free (v : T) : (s.pc v).occupies ≠ some u := fun uses => served.busy uses idle
  have taken (w : Fin n) (uses : (PlanePc.urgent call (.fill u 0 call.stores)).occupies = some w) : w = u := by
    unfold PlanePc.occupies at uses
    split at uses <;> simp_all
  refine served.move (t := t) (goto_other _) (fun v w _ uses => ?_) rfl ?_ (fun v w _ takes => ?_) ?_
  · have apart : w ≠ u := by
      rintro rfl
      exact free v uses
    exact ⟨Function.update_of_ne apart .., rfl, Function.update_of_ne apart ..⟩
  · rw [goto_self]
    refine ⟨List.suffix_refl _, fun _ => ⟨?_, untaken⟩, fun none => ?_⟩
    · simp [Plane.goto, setUrgent, pending]
    · obtain ⟨before, stores⟩ := stores_last call
      rw [stores] at none
      simp at none
  · rw [goto_self] at takes
    rw [taken w takes]
    exact free v
  · exact served.returned.keep rfl (List.Subset.refl _)

theorem Served.fill (served : Served s) {call : Urge} {mine mine' : UInt32} {next : UrgentStore}
    {rest : List UrgentStore}
    (here : s.pc t = .urgent call (.fill u mine (next :: rest))) :
    Served ((s.storeUrgent u call mine' next).goto t (.urgent call (.fill u mine' rest))) := by
  have fine := served.fine t
  have uses : (s.pc t).occupies = some u := by rw [here]; rfl
  rw [here] at fine
  obtain ⟨ordered, filled, -⟩ := fine
  have still : Filled (s.storeUrgent u call mine' next) u := storeUrgent_filled (filled nofun)
  have same (w : Fin n) (occupies : (PlanePc.urgent call (.fill u mine' rest)).occupies = some w) : w = u := by
    unfold PlanePc.occupies at occupies
    split at occupies <;> simp_all
  refine served.move (t := t) (fun v moved => ?_) (fun v w moved uses' => ?_) storeUrgent_rest.2.1 ?_
    (fun v w moved takes => ?_) ?_
  · rw [goto_other _ v moved, storeUrgent_rest.1]
  · have apart : w ≠ u := by
      rintro rfl
      exact moved (served.unique v t w uses' uses)
    exact storeUrgent_elsewhere apart
  · rw [goto_self]
    refine ⟨(List.suffix_cons _ _).trans ordered, fun _ => still, fun none _ => ?_⟩
    subst none
    obtain rfl := publish_of_last ordered
    refine .inl ⟨Function.update_self .., still.1, fun taken open_ => ?_⟩
    cases still.2.symm.trans open_
  · rw [goto_self] at takes
    rw [same w takes]
    exact fun uses' => moved (served.unique v t u uses' uses)
  · exact served.returned.keep storeUrgent_rest.2.2.1 (storeUrgent_rest.2.1 ▸ List.Subset.refl _)

theorem Served.advanceUrgent (served : Served s) {choice : Bool} {call : Urge} {pc : UrgentPc n}
    (allowed : Undisturbed s (.advance t choice)) (here : s.pc t = .urgent call pc) :
    Served (s.advanceUrgent t choice call pc) := by
  have fine := served.fine t
  rw [here] at fine
  rw [Undisturbed, here] at allowed
  cases pc with
  | reap u =>
    rw [Plane.advanceUrgent]
    split
    next bound => exact served.reap here (allowed bound)
    next => exact served.leave fun _ failed => absurd rfl failed
  | claim u =>
    rw [Plane.advanceUrgent]
    split
    next idle => exact served.claim here idle (allowed idle) rfl
    next => exact served.goto here nofun trivial
  | fill u mine rest =>
    cases rest with
    | nil =>
      rw [Plane.advanceUrgent]
      split
      next waits =>
        refine served.goto here (fun w same => ?_) (fine.2.2 rfl waits)
        rw [PlanePc.occupies, if_pos waits]
        exact same
      next silent => exact served.leave fun waits => absurd waits silent
    | cons next rest =>
      rw [Plane.advanceUrgent]
      exact served.fill here
  | poll u mine =>
    rw [Plane.advanceUrgent]
    split
    next done_ =>
      refine served.goto here (fun _ => id) (fine.resolve_left fun pending => ?_)
      cases pending.2.1.symm.trans done_
    next =>
      split
      · exact served.goto here (fun _ => id) fine
      · exact served
  | pollSeq u mine =>
    rw [Plane.advanceUrgent]
    split
    · exact served.goto here (fun _ => id) fine
    · split
      · exact served.goto here (fun _ => id) (.inr fine)
      · exact served.goto here (fun _ => id) (.inr fine)
  | status u => exact served.goto here (fun _ => id) ⟨fine, rfl⟩
  | extra u status => exact served.goto here (fun _ => id) ⟨fine.1, fine.2, rfl⟩
  | free u status extra =>
    obtain ⟨answered, rfl, rfl⟩ := fine
    exact served.release (by rw [here]; rfl) fun _ _ _ => ⟨_, rfl, answered.2.2⟩
  | timeout u => exact served.release (by rw [here]; rfl) fun _ _ late => absurd rfl late

end Threads

section Requests

variable {T : Type} {n : Nat} [DecidableEq T] {s s' : Plane T n} {t : T}

theorem RequestFrame.goto {ask : Ask} {pc : RequestPc} (same : s'.pc = s.pc) (slots : ∀ u, SameSlot s s' u)
    (answers : s'.answers = s.answers) (returned : s'.returned = s.returned) :
    RequestFrame s (s'.goto t (.request ask pc)) t :=
  ⟨fun v other => (goto_other _ v other).trans (congrFun same v), slots, answers, returned, .inr ⟨ask, pc, goto_self _⟩⟩

theorem RequestFrame.leave {mine : UInt32} {seen : Seen} (same : s'.pc = s.pc) (slots : ∀ u, SameSlot s s' u)
    (answers : s'.answers = s.answers) (returned : s'.returned = s.returned) :
    RequestFrame s (s'.leave t mine seen) t :=
  ⟨fun v other => (goto_other _ v other).trans (congrFun same v), slots, answers, returned, .inl (goto_self _)⟩

theorem advanceRequest_frame (choice : Bool) (ask : Ask) (pc : RequestPc) (here : s.pc t = .request ask pc) :
    RequestFrame s (s.advanceRequest t choice ask pc) t := by
  have slots (u : Fin n) : SameSlot s s u := ⟨rfl, rfl, rfl⟩
  have still : RequestFrame s s t := ⟨fun _ _ => rfl, slots, rfl, rfl, .inr ⟨ask, pc, here⟩⟩
  cases pc with
  | claim round =>
    rw [Plane.advanceRequest]
    split
    · exact .goto rfl slots rfl rfl
    · split
      · exact .goto rfl slots rfl rfl
      · exact ⟨goto_other _, slots, rfl, rfl, .inl (goto_self _)⟩
  | draw attempts => exact .goto rfl slots rfl rfl
  | fill attempts mine rest =>
    cases rest with
    | nil => exact .goto rfl slots rfl rfl
    | cons next rest =>
      rw [Plane.advanceRequest]
      cases next <;> exact .goto rfl slots rfl rfl
  | pollState attempts mine =>
    rw [Plane.advanceRequest]
    split
    · exact .goto rfl slots rfl rfl
    · split
      · exact .goto rfl slots rfl rfl
      · exact still
  | pollSeq attempts mine =>
    rw [Plane.advanceRequest]
    split
    · exact .goto rfl slots rfl rfl
    · split <;> exact .goto rfl slots rfl rfl
  | slow attempts mine =>
    rw [Plane.advanceRequest]
    split
    · exact .goto rfl slots rfl rfl
    · split <;> exact .goto rfl slots rfl rfl
  | giveUp attempts =>
    rw [Plane.advanceRequest]
    split <;> exact .goto rfl slots rfl rfl
  | giveBack attempts => exact .goto rfl slots rfl rfl
  | snapshot mine seen rest =>
    cases rest with
    | nil => exact .goto rfl slots rfl rfl
    | cons next rest => exact .goto rfl slots rfl rfl
  | check mine seen =>
    rw [Plane.advanceRequest]
    split
    · exact .leave rfl slots rfl rfl
    · exact .goto rfl slots rfl rfl
  | release mine seen => exact .leave rfl slots rfl rfl

theorem Served.enter (served : Served s) {pc : PlanePc n} (entered : s.enter t pc = some s') (fine : s.Fine pc)
    (free : pc.occupies = none) : Served s' := by
  unfold Plane.enter at entered
  split at entered
  next here =>
    cases entered
    exact served.goto here (fun u takes => by rw [free] at takes; cases takes) fine
  next => cases entered

end Requests

section Server

variable {T : Type} {n : Nat} {s s' : Plane T n} {u : Fin n}

theorem Served.same (served : Served s) (pc : s'.pc = s.pc) (slots : ∀ u, SameSlot s s' u)
    (answers : s'.answers = s.answers)
    (returned : s'.returned = s.returned) : Served s' := by
  have kept : s.answers ⊆ s'.answers := answers ▸ List.Subset.refl _
  refine ⟨fun t => ?_, pc ▸ served.unique, served.returned.keep returned kept⟩
  rw [pc]
  exact (served.fine t).keep (fun u _ => slots u) kept

theorem Answered.untaken {id : Nat} (answered : Answered s u id) {taken : UrgentTaken}
    (open_ : s.urgentTaken u = some taken) :
    False := by
  cases answered.2.1.symm.trans open_

/-- The server takes the publication that its call waits for. -/
theorem Served.takeUrgent (served : Served s) (allowed : ∀ t, (s.pc t).filling ≠ some u)
    (taken : s.serve (.takeUrgent u) = some s') : Served s' := by
  obtain ⟨⟨pending, -⟩, made⟩ := Option.ite_none_right_eq_some.mp taken
  cases made
  have early (id : Nat) : ¬ Answered s u id := fun answered => by cases answered.1.symm.trans pending
  refine served.serve (u := u) rfl (fun v other => ⟨rfl, Function.update_of_ne other .., rfl⟩) (List.Subset.refl _) rfl
    fun t uses => (served.fine t).change uses early (fun _ fills => absurd fills (allowed t)) fun id awaited => ?_
  obtain ⟨published, -, -⟩ := awaited.resolve_right (early id)
  refine .inl ⟨published, pending, fun taken open_ => ?_⟩
  have new : taken = { call := s.published u } := by simpa using open_.symm
  subst new
  exact ⟨published, nofun, nofun⟩

/-- The server writes a part of its reply to a slot that it has taken. -/
theorem Served.write (served : Served s) {taken next : UrgentTaken} {slot : UrgentSlot}
    (open_ : s.urgentTaken u = some taken)
    (state : slot.state = (s.urgent u).state) (written : ∀ id, Written (s.urgent u) id taken → Written slot id next) :
    Served { s.setUrgent u slot with urgentTaken := Function.update s.urgentTaken u (some next) } := by
  have early (id : Nat) : ¬ Answered s u id := fun answered => answered.untaken open_
  refine served.serve (u := u) rfl (fun v other =>
    ⟨Function.update_of_ne other .., Function.update_of_ne other .., rfl⟩)
    (List.Subset.refl _) rfl fun t uses => (served.fine t).change uses early ?_ fun id awaited => ?_
  · intro filled
    cases filled.2.symm.trans open_
  · obtain ⟨published, pending, known⟩ := awaited.resolve_right (early id)
    refine .inl ⟨published, ?_, fun taken' open' => ?_⟩
    · simp [setUrgent, state, pending]
    · have new : taken' = next := by simpa using open'.symm
      subst new
      simpa [setUrgent] using written id (known taken open_)

/-- The completion of a slot is noted for the call whose publication was taken. -/
theorem Served.finishUrgent (served : Served s) {call : Option Nat} {status : Int32} {extra : UInt64}
    (open_ : s.urgentTaken u = some ⟨call, some status, some extra⟩) :
    Served { s.setUrgent u { s.urgent u with state := .done } with
      urgentTaken := Function.update s.urgentTaken u none
      answers := s.answers ++ (call.toList.map fun id => (id, status, extra)) } := by
  have early (id : Nat) : ¬ Answered s u id := fun answered => answered.untaken open_
  refine served.serve (u := u) rfl (fun v other =>
    ⟨Function.update_of_ne other .., Function.update_of_ne other .., rfl⟩)
    (List.subset_append_left ..) rfl fun t uses => (served.fine t).change uses early ?_ fun id awaited => ?_
  · intro filled
    cases filled.2.symm.trans open_
  · obtain ⟨-, -, known⟩ := awaited.resolve_right (early id)
    obtain ⟨own, told, told'⟩ := known _ open_
    cases own
    refine .inr ⟨by simp [setUrgent], Function.update_self .., ?_⟩
    simp [setUrgent, told status rfl, told' extra rfl]

theorem Served.serveAction (served : Served s) {action : ServerAction n} (allowed : Undisturbed s (.serve action))
    (taken : s.serve action = some s') : Served s' := by
  have slots (u : Fin n) : SameSlot s s u := ⟨rfl, rfl, rfl⟩
  cases action with
  | takeUrgent u => exact served.takeUrgent allowed taken
  | urgentStatus u status =>
    rw [Plane.serve] at taken
    split at taken
    next call extra open_ =>
      cases taken
      refine served.write open_ rfl fun id written => ⟨written.1, fun other same => Option.some.inj same, written.2.2⟩
    next => cases taken
  | urgentExtra u extra =>
    rw [Plane.serve] at taken
    split at taken
    next call status open_ =>
      cases taken
      refine served.write open_ rfl fun id written => ⟨written.1, written.2.1, fun other same => ?_⟩
      cases same
      exact Function.update_self (6 : Fin 8) extra (s.urgent u).payload
    next => cases taken
  | finishUrgent u =>
    rw [Plane.serve] at taken
    split at taken
    next open_ =>
      cases taken
      exact served.finishUrgent open_
    next => cases taken
  | _ =>
    rw [Plane.serve] at taken
    split at taken
    all_goals cases taken
    all_goals exact served.same rfl slots rfl rfl

end Server

section Results

variable {T : Type} {n : Nat} [DecidableEq T]

theorem Served.step {s s' : Plane T n} (served : Served s) {action : PlaneAction T n} (allowed : Undisturbed s action)
    (taken : s.step action = some s') : Served s' := by
  cases action with
  | request t ask => exact served.enter taken trivial rfl
  | urgentPublishWait t op words tid =>
    have counted : Served { s with calls := s.calls + 1 } := served.same rfl (fun _ => ⟨rfl, rfl, rfl⟩) rfl rfl
    exact counted.enter taken trivial rfl
  | urgentPublish t op p0 p1 p2 p3 =>
    have counted : Served { s with calls := s.calls + 1 } := served.same rfl (fun _ => ⟨rfl, rfl, rfl⟩) rfl rfl
    exact counted.enter taken trivial rfl
  | advance t choice =>
    rw [Plane.step, Plane.advance] at taken
    split at taken
    next => cases taken
    next ask pc here =>
      cases taken
      exact served.frame (advanceRequest_frame choice ask pc here)
    next call pc here =>
      cases taken
      exact served.advanceUrgent allowed here
  | serve action => exact served.serveAction allowed taken

/-- In every run that keeps to the condition, a call that waited and was answered returned what the server wrote for
it. -/
theorem completions_own {s : Plane T n} (reached : Reached Plane.step Undisturbed {} s) : OwnAnswers s := by
  have start : Served ({} : Plane T n) := ⟨fun _ => trivial, nofun, nofun⟩
  have served : Served s := reached.invariant start fun s action s' held meets taken => held.step meets taken
  exact served.returned

instance [Fintype T] (s : Plane T n) (action : PlaneAction T n) : Decidable (Undisturbed s action) := by
  unfold Undisturbed
  split
  · split <;> infer_instance
  · infer_instance
  · infer_instance

/-- A call that waits, up to its poll, and the server that completes it. -/
def waited : List (PlaneAction (Fin 2) 1) :=
  .urgentPublishWait 0 1 [] 4 :: List.replicate 8 (.advance 0 false) ++
    [.serve (.takeUrgent 0), .serve (.urgentStatus 0 5), .serve (.urgentExtra 0 50), .serve (.finishUrgent 0)]

/-- Another thread reaps the completed slot and publishes in it, with the same number of the other counter. -/
def reused : List (PlaneAction (Fin 2) 1) :=
  .urgentPublish 1 2 0 0 0 0 :: List.replicate 11 (.advance 1 false) ++
    [.serve (.takeUrgent 0), .serve (.urgentStatus 0 7), .serve (.urgentExtra 0 70), .serve (.finishUrgent 0)]

/-- What the calls have returned, and what the server has written for whom. -/
structure Account where
  returned : List (Nat × Bool × Int32 × Option UInt64)
  answers : List (Nat × Int32 × UInt64)
  deriving DecidableEq

def account (s : Plane (Fin 2) 1) : Account :=
  ⟨s.returned.map fun r => (r.call.id, r.call.waits, r.value, r.extra), s.answers⟩

/-- The first call returns the completion of the second one. -/
theorem reused_foreign : ¬ ∀ s : Plane (Fin 2) 1, Reached Plane.step Unrestricted {} s → OwnAnswers s := by
  intro own
  have seen : (replay Plane.step Unrestricted {} (waited ++ reused ++ List.replicate 5 (.advance 0 false))).map account
      =
      some ⟨[(1, false, 0, none), (0, true, 7, some 70)], [(0, 5, 50), (1, 7, 70)]⟩ := by
    decide +kernel
  obtain ⟨s, replayed, view⟩ := Option.map_eq_some_iff.mp seen
  obtain ⟨returned, answers⟩ := Account.mk.inj view
  have foreign : (0, true, 7, some 70) ∈ s.returned.map fun r => (r.call.id, r.call.waits, r.value, r.extra) := by
    rw [returned]
    decide
  obtain ⟨r, member, same⟩ := List.mem_map.mp foreign
  simp only [Prod.mk.injEq] at same
  obtain ⟨id, waits, value, -⟩ := same
  have ends := own s (replay_reached .refl replayed) r member waits (by rw [value]; decide) (by rw [value]; decide)
  obtain ⟨extra, -, written⟩ := ends
  rw [answers, id, value] at written
  simp at written

theorem waited_own : ∃ s : Plane (Fin 2) 1, Reached Plane.step Undisturbed {} s ∧ OwnAnswers s ∧
    account s = ⟨[(0, true, 5, some 50)], [(0, 5, 50)]⟩ := by
  have seen : (replay Plane.step Undisturbed {} (waited ++ List.replicate 5 (.advance 0 false))).map account =
      some ⟨[(0, true, 5, some 50)], [(0, 5, 50)]⟩ := by
    decide +kernel
  obtain ⟨s, replayed, view⟩ := Option.map_eq_some_iff.mp seen
  have reached : Reached Plane.step Undisturbed {} s := replay_reached .refl replayed
  exact ⟨s, reached, completions_own reached, view⟩

end Results

end Plane

end Darling.Ring
