import Darling.Ring.Plane
import Mathlib.Data.Fintype.Basic

/-! Who owns the request slot of the control page. -/
namespace Darling.Ring
open Interleavings

section Ownership

variable {n : Nat}

/-- The thread has claimed the request slot and its call has not ended. -/
def PlanePc.InCall : PlanePc n → Prop
  | .request _ (.claim _) => False
  | .request _ _ => True
  | _ => False

/-- The thread has claimed the request slot and not yet read its whole answer. -/
def PlanePc.Owning : PlanePc n → Prop
  | .request _ (.claim _) => False
  | .request _ (.snapshot _ _ []) => False
  | .request _ (.check ..) => False
  | .request _ (.release ..) => False
  | .request _ _ => True
  | _ => False

/-- The thread has gone back to `plane_request_again` and not yet stored PENDING again. -/
def PlanePc.Republishing : PlanePc n → Prop
  | .request _ (.draw attempts) => 1 ≤ attempts
  | .request _ (.fill attempts _ rest) => 2 ≤ attempts ∧ .publish ∈ rest
  | _ => False

/-- The value of `plane_attempts` while an attempt is under way. -/
def PlanePc.attempt : PlanePc n → Option Nat
  | .request _ (.fill attempts _ _) => some attempts
  | .request _ (.pollState attempts _) => some attempts
  | .request _ (.pollSeq attempts _) => some attempts
  | .request _ (.slow attempts _) => some attempts
  | .request _ (.giveUp attempts) => some attempts
  | .request _ (.giveBack attempts) => some attempts
  | _ => none

namespace Plane

variable {T : Type}

/-- The next access of the thread stores to a request or reply field. -/
def Writes (s : Plane T n) (t : T) : Prop :=
  match s.pc t with
  | .request _ (.claim round) => s.request.state = expected round
  | .request _ (.fill _ _ rest) => rest ≠ []
  | .request _ (.giveBack _) => True
  | .request _ (.release _ _) => True
  | _ => False

/-- A claim takes a completed slot only while no other thread is in a call, and an idle one only while none
republishes. -/
def ClaimsAlone (s : Plane T n) : PlaneAction T n → Prop
  | .advance t _ => ∀ ask round, s.pc t = .request ask (.claim round) → s.request.state = expected round →
    (s.request.state = .done → ∀ u, u ≠ t → ¬ (s.pc u).InCall) ∧
      (s.request.state = .idle → ∀ u, u ≠ t → ¬ (s.pc u).Republishing)
  | _ => True

/-- One thread at most is in a call, and the slot is idle only while it republishes. -/
structure Single (s : Plane T n) : Prop where
  alone : ∀ t u, (s.pc t).InCall → (s.pc u).InCall → t = u
  busy : ∀ t, (s.pc t).InCall → ¬ (s.pc t).Republishing → s.request.state ≠ .idle
  counted : ∀ t, (s.pc t).attempt ≠ some 0

end Plane

instance (pc : PlanePc n) : Decidable pc.InCall :=
  match pc with
  | .out | .urgent .. | .request _ (.claim _) => .isFalse id
  | .request _ (.draw _) | .request _ (.fill ..) | .request _ (.pollState ..) | .request _ (.pollSeq ..)
  | .request _ (.slow ..) | .request _ (.giveUp _) | .request _ (.giveBack _) | .request _ (.snapshot ..)
  | .request _ (.check ..) | .request _ (.release ..) => .isTrue trivial

instance (pc : PlanePc n) : Decidable pc.Owning :=
  match pc with
  | .out | .urgent .. | .request _ (.claim _) | .request _ (.snapshot _ _ []) | .request _ (.check ..)
  | .request _ (.release ..) => .isFalse id
  | .request _ (.draw _) | .request _ (.fill ..) | .request _ (.pollState ..) | .request _ (.pollSeq ..)
  | .request _ (.slow ..) | .request _ (.giveUp _) | .request _ (.giveBack _) | .request _ (.snapshot _ _ (_ :: _)) =>
    .isTrue trivial

instance (pc : PlanePc n) : Decidable pc.Republishing :=
  match pc with
  | .request _ (.draw attempts) => inferInstanceAs (Decidable (1 ≤ attempts))
  | .request _ (.fill attempts _ rest) => inferInstanceAs (Decidable (2 ≤ attempts ∧ .publish ∈ rest))
  | .out | .urgent .. | .request _ (.claim _) | .request _ (.pollState ..) | .request _ (.pollSeq ..)
  | .request _ (.slow ..) | .request _ (.giveUp _) | .request _ (.giveBack _) | .request _ (.snapshot ..)
  | .request _ (.check ..) | .request _ (.release ..) => .isFalse id

theorem PlanePc.Owning.inCall {pc : PlanePc n} (owning : pc.Owning) : pc.InCall := by
  unfold PlanePc.Owning at owning
  split at owning
  case h_5 => simp_all [InCall]
  all_goals exact owning.elim

end Ownership

namespace Plane

section Moves

variable {T : Type} {n : Nat} {s s' : Plane T n} {t : T}

theorem counted_turn (single : Single s) (others : ∀ u, u ≠ t → s'.pc u = s.pc u)
    (counted : (s'.pc t).attempt ≠ some 0) (u : T) :
    (s'.pc u).attempt ≠ some 0 := by
  by_cases same : u = t
  · rwa [same]
  · rw [others u same]
    exact single.counted u

/-- The thread that is in a call moves. -/
theorem Single.turn (single : Single s) (others : ∀ u, u ≠ t → s'.pc u = s.pc u) (mine : (s.pc t).InCall)
    (counted : (s'.pc t).attempt ≠ some 0)
    (busy : (s'.pc t).InCall → ¬ (s'.pc t).Republishing → s'.request.state ≠ .idle) : Single s' := by
  have nobody {u : T} (other : u ≠ t) : ¬ (s'.pc u).InCall := by
    rw [others u other]
    exact fun inside => other (single.alone u t inside mine)
  refine ⟨fun u v first second => ?_, fun u inside fresh => ?_, counted_turn single others counted⟩
  · by_cases left : u = t
    · by_cases right : v = t
      · rw [left, right]
      · exact absurd second (nobody right)
    · exact absurd first (nobody left)
  · by_cases same : u = t
    · subst same
      exact busy inside fresh
    · exact absurd inside (nobody same)

/-- A thread moves outside of the calls of the request slot. -/
theorem Single.outside (single : Single s) (others : ∀ u, u ≠ t → s'.pc u = s.pc u) (out : ¬ (s'.pc t).InCall)
    (counted : (s'.pc t).attempt ≠ some 0) (state : s'.request.state = s.request.state) : Single s' := by
  have before {u : T} (inside : (s'.pc u).InCall) : s'.pc u = s.pc u := by
    by_cases same : u = t
    · subst same
      exact absurd inside out
    · exact others u same
  refine ⟨fun u v first second => ?_, fun u inside fresh => ?_, counted_turn single others counted⟩
  · exact single.alone u v (before first ▸ first) (before second ▸ second)
  · have same := before inside
    rw [same] at inside fresh
    rw [state]
    exact single.busy u inside fresh

/-- A claim of a slot that nobody uses. -/
theorem Single.claim (single : Single s) {ask : Ask} (others : ∀ u, u ≠ t → s'.pc u = s.pc u)
    (own : s'.pc t = .request ask (.draw 0)) (pending : s'.request.state = .pending)
    (free : ∀ u, u ≠ t → ¬ (s.pc u).InCall) : Single s' := by
  have nobody {u : T} (inside : (s'.pc u).InCall) : u = t := by
    by_contra other
    rw [others u other] at inside
    exact free u other inside
  refine ⟨fun u v first second => (nobody first).trans (nobody second).symm, fun u inside _ => ?_,
    counted_turn single others (own ▸ nofun)⟩
  rw [pending]
  decide

/-- The server changes no thread, and never makes the slot idle. -/
theorem Single.served (single : Single s) (pc : s'.pc = s.pc)
    (state : s.request.state ≠ .idle → s'.request.state ≠ .idle) :
    Single s' := by
  refine ⟨pc ▸ single.alone, fun u inside fresh => ?_, pc ▸ single.counted⟩
  rw [pc] at inside fresh
  exact state (single.busy u inside fresh)

end Moves

section Frames

variable {T : Type} {n : Nat} {s s' : Plane T n} {t : T}

theorem store_pc (ask : Ask) (mine : UInt32) (next : RequestStore) : (s.store ask mine next).pc = s.pc := by
  cases next <;> rfl

theorem storeUrgent_frame (u : Fin n) (call : Urge) (mine : UInt32) (next : UrgentStore) :
    (s.storeUrgent u call mine next).request = s.request ∧ (s.storeUrgent u call mine next).pc = s.pc := by
  cases next with
  | draw =>
    rw [storeUrgent, drawUrgent]
    split <;> exact ⟨rfl, rfl⟩
  | _ => exact ⟨rfl, rfl⟩

/-- Under the condition a claim succeeds only where no other thread is in a call. -/
theorem Single.free (single : Single s) {choice : Bool} {ask : Ask} {round : Nat}
    (allowed : ClaimsAlone s (.advance t choice))
    (here : s.pc t = .request ask (.claim round)) (succeeds : s.request.state = expected round) :
    ∀ u, u ≠ t → ¬ (s.pc u).InCall := by
  obtain ⟨completed, idle⟩ := allowed ask round here succeeds
  intro u other inside
  unfold expected at succeeds
  split at succeeds
  · exact single.busy u inside (idle succeeds u other) succeeds
  · exact completed succeeds u other inside

/-- The server stores CLAIMED and DONE to the request word, nothing else. -/
theorem Single.serve (single : Single s) {action : ServerAction n} (served : s.serve action = some s') : Single s' := by
  unfold Plane.serve at served
  split at served
  all_goals
    split at served
    all_goals cases served
    all_goals first
      | exact single.served rfl id
      | exact single.served rfl fun _ => nofun

/-- An urgent call keeps to its slots and to its own thread. -/
structure UrgentFrame (s s' : Plane T n) (t : T) : Prop where
  request : s'.request = s.request
  others : ∀ u, u ≠ t → s'.pc u = s.pc u
  own : s'.pc t = .out ∨ ∃ call pc, s'.pc t = .urgent call pc

theorem Single.frame (single : Single s) (frame : UrgentFrame s s' t) : Single s' := by
  refine single.outside frame.others ?_ ?_ (by rw [frame.request])
  · obtain out | ⟨call, pc, urgent⟩ := frame.own
    · rw [out]; exact id
    · rw [urgent]; exact id
  · obtain out | ⟨call, pc, urgent⟩ := frame.own
    · rw [out]; nofun
    · rw [urgent]; nofun

end Frames

section Steps

variable {T : Type} {n : Nat} [DecidableEq T] {s s' : Plane T n} {t : T}

/-- The thread goes on in its call and leaves the request word. -/
theorem Single.goto (single : Single s) {old pc : PlanePc n} (here : s.pc t = old) (inside : old.InCall)
    (stays : ¬ old.Republishing) (moved : s'.pc = Function.update s.pc t pc) (same : s'.request.state = s.request.state)
    (counted : pc.attempt ≠ some 0) : Single s' := by
  subst here
  have own : s'.pc t = pc := by rw [moved, Function.update_self]
  have others (u : T) (other : u ≠ t) : s'.pc u = s.pc u := by rw [moved, Function.update_of_ne other]
  refine single.turn others inside (own ▸ counted) fun _ _ => ?_
  rw [same]
  exact single.busy t inside stays

theorem Single.advanceRequest (single : Single s) {choice : Bool} {ask : Ask} {pc : RequestPc}
    (allowed : ClaimsAlone s (.advance t choice)) (here : s.pc t = .request ask pc) :
    Single (s.advanceRequest t choice ask pc) := by
  have counted := single.counted t
  rw [here] at counted
  cases pc with
  | claim round =>
    rw [Plane.advanceRequest]
    split
    next succeeds => exact single.claim (goto_other _) (goto_self _) rfl (single.free allowed here succeeds)
    next =>
      split
      · exact single.outside (goto_other _) (by rw [goto_self]; exact id) (by rw [goto_self]; nofun) rfl
      · exact single.outside (goto_other _) (by rw [goto_self]; exact id) (by rw [goto_self]; nofun) rfl
  | draw attempts =>
    have inside : (s.pc t).InCall := by rw [here]; trivial
    rw [Plane.advanceRequest]
    refine single.turn (goto_other _) inside (by rw [goto_self]; nofun) fun _ fresh => ?_
    refine single.busy t inside fun again => fresh ?_
    rw [here] at again
    rw [goto_self]
    exact ⟨Nat.succ_le_succ again, by decide⟩
  | fill attempts mine rest =>
    have inside : (s.pc t).InCall := by rw [here]; trivial
    cases rest with
    | nil => exact single.goto here trivial (fun again => nomatch again.2) rfl rfl counted
    | cons next rest =>
      rw [Plane.advanceRequest]
      have others (u : T) (other : u ≠ t) : ((s.store ask mine next).goto t
          (.request ask (.fill attempts mine rest))).pc u = s.pc u :=
        (goto_other _ u other).trans (congrFun (store_pc ..) u)
      refine single.turn others inside (by rw [goto_self]; exact counted) fun _ fresh => ?_
      rw [goto_self] at fresh
      cases next with
      | publish => nofun
      | _ =>
        refine single.busy t inside fun again => fresh ?_
        rw [here] at again
        exact ⟨again.1, by simpa using again.2⟩
  | pollState attempts mine =>
    rw [Plane.advanceRequest]
    split
    · exact single.goto here trivial id rfl rfl counted
    · split
      · exact single.goto here trivial id rfl rfl counted
      · exact single
  | pollSeq attempts mine =>
    rw [Plane.advanceRequest]
    split
    · exact single.goto here trivial id rfl rfl nofun
    · split
      · exact single.goto here trivial id rfl rfl counted
      · exact single.goto here trivial id rfl rfl counted
  | slow attempts mine =>
    rw [Plane.advanceRequest]
    split
    · exact single.goto here trivial id rfl rfl nofun
    · split
      · exact single.goto here trivial id rfl rfl counted
      · exact single.goto here trivial id rfl rfl counted
  | giveUp attempts =>
    rw [Plane.advanceRequest]
    split
    · exact single.goto here trivial id rfl rfl nofun
    · exact single.goto here trivial id rfl rfl counted
  | giveBack attempts =>
    have inside : (s.pc t).InCall := by rw [here]; trivial
    rw [Plane.advanceRequest]
    refine single.turn (goto_other _) inside (by rw [goto_self]; nofun) fun _ fresh => absurd ?_ fresh
    rw [goto_self]
    exact Nat.one_le_iff_ne_zero.mpr fun zero => counted (by rw [zero]; rfl)
  | snapshot mine seen rest =>
    cases rest with
    | nil => exact single.goto here trivial id rfl rfl nofun
    | cons next rest => exact single.goto here trivial id rfl rfl nofun
  | check mine seen =>
    rw [Plane.advanceRequest]
    split
    · exact single.outside (goto_other _) (by rw [Plane.leave, goto_self]; exact id)
        (by rw [Plane.leave, goto_self]; nofun) rfl
    · exact single.goto here trivial id rfl rfl nofun
  | release mine seen =>
    have inside : (s.pc t).InCall := by rw [here]; trivial
    rw [Plane.advanceRequest, Plane.leave]
    refine single.turn (goto_other _) inside (by rw [goto_self]; nofun) fun still => ?_
    rw [goto_self] at still
    exact still.elim

theorem UrgentFrame.goto {call : Urge} {pc : UrgentPc n} (request : s'.request = s.request) (same : s'.pc = s.pc) :
    UrgentFrame s (s'.goto t (.urgent call pc)) t :=
  ⟨request, fun u other => (goto_other _ u other).trans (congrFun same u), .inr ⟨call, pc, goto_self _⟩⟩

theorem UrgentFrame.leave {call : Urge} {value : Int32} {extra : Option UInt64} (request : s'.request = s.request)
    (same : s'.pc = s.pc) : UrgentFrame s (s'.returnUrgent t call value extra) t :=
  ⟨request, fun u other => (goto_other _ u other).trans (congrFun same u), .inl (goto_self _)⟩

theorem advanceUrgent_frame (choice : Bool) (call : Urge) (pc : UrgentPc n) (here : s.pc t = .urgent call pc) :
    UrgentFrame s (s.advanceUrgent t choice call pc) t := by
  have still : UrgentFrame s s t := ⟨rfl, fun _ _ => rfl, .inr ⟨call, pc, here⟩⟩
  cases pc with
  | reap u =>
    rw [Plane.advanceUrgent]
    split
    · unfold reapUrgent
      split <;> exact .goto rfl rfl
    · exact .leave rfl rfl
  | claim u =>
    rw [Plane.advanceUrgent]
    split <;> exact .goto rfl rfl
  | fill u mine rest =>
    cases rest with
    | nil =>
      rw [Plane.advanceUrgent]
      split
      · exact .goto rfl rfl
      · exact .leave rfl rfl
    | cons next rest =>
      rw [Plane.advanceUrgent]
      exact .goto (storeUrgent_frame ..).1 (storeUrgent_frame ..).2
  | poll u mine =>
    rw [Plane.advanceUrgent]
    split
    · exact .goto rfl rfl
    · split
      · exact .goto rfl rfl
      · exact still
  | pollSeq u mine =>
    rw [Plane.advanceUrgent]
    split
    · exact .goto rfl rfl
    · split <;> exact .goto rfl rfl
  | status u => exact .goto rfl rfl
  | extra u status => exact .goto rfl rfl
  | free u status extra => exact .leave rfl rfl
  | timeout u => exact .leave rfl rfl

theorem Single.enter (single : Single s) {pc : PlanePc n} (entered : s.enter t pc = some s') (out : ¬ pc.InCall)
    (uncounted : pc.attempt ≠ some 0) : Single s' := by
  unfold Plane.enter at entered
  split at entered
  · cases entered
    exact single.outside (goto_other _) (by rw [goto_self]; exact out) (by rw [goto_self]; exact uncounted) rfl
  · cases entered

theorem Single.step (single : Single s) {action : PlaneAction T n} (allowed : ClaimsAlone s action)
    (taken : s.step action = some s') : Single s' := by
  cases action with
  | request t ask => exact single.enter taken id nofun
  | urgentPublishWait t op words tid =>
    have counted : Single { s with calls := s.calls + 1 } := single.served rfl id
    exact counted.enter taken id nofun
  | urgentPublish t op p0 p1 p2 p3 =>
    have counted : Single { s with calls := s.calls + 1 } := single.served rfl id
    exact counted.enter taken id nofun
  | advance t choice =>
    rw [Plane.step, Plane.advance] at taken
    split at taken
    next => cases taken
    next ask pc here =>
      cases taken
      exact single.advanceRequest allowed here
    next call pc here =>
      cases taken
      exact single.frame (advanceUrgent_frame choice call pc here)
  | serve action => exact single.serve taken

end Steps

section Results

variable {T : Type} {n : Nat}

theorem Single.start : Single ({} : Plane T n) := ⟨nofun, nofun, nofun⟩

/-- A thread that writes is in a call, or claims the slot. -/
theorem Writes.inCall {s : Plane T n} {t : T} (writes : s.Writes t) :
    (s.pc t).InCall ∨ ∃ ask round, s.pc t = .request ask (.claim round) ∧ s.request.state = expected round := by
  unfold Writes at writes
  split at writes
  next ask round here => exact .inr ⟨ask, round, here, writes⟩
  next here => exact .inl (by rw [here]; trivial)
  next here => exact .inl (by rw [here]; trivial)
  next here => exact .inl (by rw [here]; trivial)
  next => exact writes.elim

variable [DecidableEq T]

instance (s : Plane T n) (t : T) : Decidable (s.Writes t) := by
  unfold Writes
  exact
    match s.pc t with
    | .request _ (.claim round) => inferInstanceAs (Decidable (s.request.state = expected round))
    | .request _ (.fill _ _ rest) => inferInstanceAs (Decidable (rest ≠ []))
    | .request _ (.giveBack _) | .request _ (.release ..) => .isTrue trivial
    | .out | .urgent .. | .request _ (.draw _) | .request _ (.pollState ..) | .request _ (.pollSeq ..)
    | .request _ (.slow ..) | .request _ (.giveUp _) | .request _ (.snapshot ..) | .request _ (.check ..) => .isFalse id

/-- In every run whose claims keep to the condition, no thread writes to the request or the reply while another one
owns the slot. -/
theorem slot_owned {s : Plane T n} (reached : Reached Plane.step ClaimsAlone {} s) {t u : T} {choice : Bool}
    (allowed : ClaimsAlone s (.advance u choice)) (writes : s.Writes u) (other : t ≠ u) : ¬ (s.pc t).Owning := by
  intro owning
  have single : Single s := reached.invariant Single.start fun s action s' held meets taken => held.step meets taken
  obtain inside | ⟨ask, round, here, succeeds⟩ := writes.inCall
  · exact other (single.alone t u owning.inCall inside)
  · exact single.free allowed here succeeds t other owning.inCall

instance [Fintype T] (s : Plane T n) (action : PlaneAction T n) : Decidable (ClaimsAlone s action) :=
  match action with
  | .advance t _ =>
    match here : s.pc t with
    | .request ask (.claim round) =>
      decidable_of_iff (s.request.state = expected round →
        (s.request.state = .done → ∀ u, u ≠ t → ¬ (s.pc u).InCall) ∧
          (s.request.state = .idle → ∀ u, u ≠ t → ¬ (s.pc u).Republishing))
        ⟨fun alone ask' round' same => by cases here.symm.trans same; exact alone, fun alone => alone ask round here⟩
    | .out | .urgent .. | .request _ (.draw _) | .request _ (.fill ..) | .request _ (.pollState ..) | .request
        _ (.pollSeq ..)
    | .request _ (.slow ..) | .request _ (.giveUp _) | .request _ (.giveBack _) | .request _ (.snapshot ..)
    | .request _ (.check ..) | .request _ (.release ..) => .isTrue fun _ _ same => nomatch here.symm.trans same
  | .request .. | .urgentPublishWait .. | .urgentPublish .. | .serve .. => .isTrue trivial

def checkin : Ask := ⟨9, fun _ => 0, 4⟩

/-- A request up to the poll of its answer, and the server that answers it. -/
def answered (t : Fin 2) : List (PlaneAction (Fin 2) 0) :=
  .request t checkin :: List.replicate 14 (.advance t false) ++
    [.serve .take, .serve (.answer 0 0 fun _ => 7), .serve (.finish 0), .serve (.close 0)]

/-- The second thread exchanges the DONE of the first one, which has not read its answer. -/
theorem answered_stolen : ¬ ∀ (s : Plane (Fin 2) 0) (t u : Fin 2), Reached Plane.step Unrestricted {} s →
    s.Writes u → t ≠ u →
    ¬ (s.pc t).Owning := by
  intro owned
  have seen : (replay Plane.step Unrestricted {} (answered 0 ++ [.request 1 checkin, .advance 1 false])).map
      (fun s => decide ((s.pc 0).Owning ∧ s.Writes 1)) = some true := by
    decide +kernel
  obtain ⟨s, replayed, view⟩ := Option.map_eq_some_iff.mp seen
  obtain ⟨owning, writes⟩ := of_decide_eq_true view
  exact owned s 0 1 (replay_reached .refl replayed) writes (by decide) owning

/-- The second thread claims the slot behind the release of the first one. -/
theorem released_owned : ∃ s : Plane (Fin 2) 0, Reached Plane.step ClaimsAlone {} s ∧ ClaimsAlone s (.advance 1 false) ∧
    s.Writes 1 ∧ ¬ (s.pc 0).Owning := by
  have seen : (replay Plane.step ClaimsAlone {}
      (answered 0 ++ List.replicate 10 (.advance 0 false) ++ [.request 1 checkin, .advance 1 false,
        .advance 1 false])).map
      (fun s => decide (ClaimsAlone s (.advance 1 false) ∧ s.Writes 1)) = some true := by
    decide +kernel
  obtain ⟨s, replayed, view⟩ := Option.map_eq_some_iff.mp seen
  obtain ⟨allowed, writes⟩ := of_decide_eq_true view
  have reached : Reached Plane.step ClaimsAlone {} s := replay_reached .refl replayed
  exact ⟨s, reached, allowed, writes, slot_owned reached allowed writes (by decide)⟩

end Results

end Plane

end Darling.Ring
