import Darling.Ring.Plane
import Mathlib.Data.List.Induction

/-! What the server can read of a slot that is PENDING. -/
namespace Darling.Ring

section Complete

/-- The request fields are those of the call. -/
def RequestSlot.Holds (slot : RequestSlot) (call : Ask × UInt32) : Prop :=
  slot.op = call.1.op ∧ slot.seq = call.2 ∧ slot.tid = call.1.tid ∧ slot.payload = call.1.payload

/-- The fields of an urgent slot are those of the call, the thread identity where the call writes it. -/
def UrgentSlot.Holds (slot : UrgentSlot) (call : Urge × UInt32) : Prop :=
  slot.op = call.1.op ∧ slot.seq = call.2 ∧ (call.1.waits → slot.tid = call.1.tid) ∧
    ∀ w : Fin 8, ∀ value, call.1.words[w.val]? = some value → slot.payload w = value

namespace Plane

variable {T : Type} {n : Nat}

/-- Each slot that is PENDING holds the values of one call. -/
def Complete (s : Plane T n) : Prop :=
  (s.request.state = .pending → ∃ call ∈ s.asked, s.request.Holds call) ∧
    ∀ u, (s.urgent u).state = .pending → ∃ call ∈ s.urged u, (s.urgent u).Holds call

/-- The action is a claim that succeeds. -/
def Claims (s : Plane T n) : PlaneAction T n → Prop
  | .advance t _ =>
    match s.pc t with
    | .request _ (.claim round) => s.request.state = expected round
    | .urgent _ (.claim u) => (s.urgent u).state = .idle
    | _ => False
  | _ => False

/-- The page behind the actions, if they can be taken. -/
def behind [DecidableEq T] (actions : List (PlaneAction T n)) : Option (Plane T n) := actions.foldlM Plane.step {}

end Plane

end Complete

section Untouched

variable {n : Nat}

/-- The thread has not claimed a slot. -/
def PlanePc.Unclaimed : PlanePc n → Prop
  | .out => True
  | .request _ (.claim _) => True
  | .urgent _ (.reap _) => True
  | .urgent _ (.claim _) => True
  | _ => False

namespace Plane

variable {T : Type}

/-- No slot has been claimed yet. -/
structure Untouched (s : Plane T n) : Prop where
  request : s.request.state = .idle
  urgent : ∀ u, (s.urgent u).state = .idle
  asked : s.asked = []
  urged : ∀ u, s.urged u = []
  taken : s.taken = []
  urgentTaken : ∀ u, s.urgentTaken u = none
  waiting : ∀ t, (s.pc t).Unclaimed

theorem Untouched.complete {s : Plane T n} (untouched : Untouched s) : Complete s := by
  refine ⟨fun pending => ?_, fun u pending => ?_⟩
  · cases untouched.request.symm.trans pending
  · cases (untouched.urgent u).symm.trans pending

variable [DecidableEq T] {s s' : Plane T n} {t : T}

theorem Untouched.goto (untouched : Untouched s) {pc : PlanePc n} (unclaimed : pc.Unclaimed) :
    Untouched (s.goto t pc) := by
  refine ⟨untouched.request, untouched.urgent, untouched.asked, untouched.urged, untouched.taken,
    untouched.urgentTaken, ?_⟩
  intro u
  by_cases same : u = t
  · rwa [same, goto_self]
  · rw [goto_other _ u same]
    exact untouched.waiting u

theorem Untouched.enter (untouched : Untouched s) {pc : PlanePc n} (entered : s.enter t pc = some s')
    (unclaimed : pc.Unclaimed) : Untouched s' := by
  unfold Plane.enter at entered
  split at entered
  · cases entered
    exact untouched.goto unclaimed
  · cases entered

omit [DecidableEq T] in
/-- The server finds nothing to take. -/
theorem Untouched.serve (untouched : Untouched s) {action : ServerAction n} : s.serve action = none := by
  cases action with
  | take => simp [Plane.serve, untouched.request]
  | takeUrgent u => simp [Plane.serve, untouched.urgent]
  | markRequest => simp [Plane.serve, untouched.taken]
  | markReply => simp [Plane.serve, untouched.taken]
  | answer i status payload => simp [Plane.serve, untouched.taken]
  | finish i => simp [Plane.serve, untouched.taken]
  | close i => simp [Plane.serve, untouched.taken]
  | urgentStatus u status => simp [Plane.serve, untouched.urgentTaken]
  | urgentExtra u extra => simp [Plane.serve, untouched.urgentTaken]
  | finishUrgent u => simp [Plane.serve, untouched.urgentTaken]

theorem Untouched.advance (untouched : Untouched s) {choice : Bool} (unclaimed : ¬ Claims s (.advance t choice))
    (taken : s.advance t choice = some s') : Untouched s' := by
  have waiting := untouched.waiting t
  unfold Plane.advance at taken
  split at taken
  next => cases taken
  next ask pc here =>
    cases taken
    rw [here] at waiting
    cases pc with
    | claim round =>
      have fails : s.request.state ≠ expected round := by simpa [Claims, here] using unclaimed
      rw [Plane.advanceRequest, if_neg fails]
      split
      · exact untouched.goto trivial
      · have noted : Untouched { s with replies := s.replies ++ [(t, -1, fun _ => 0)] } := { untouched with }
        exact noted.goto trivial
    | _ => exact waiting.elim
  next call pc here =>
    cases taken
    rw [here] at waiting
    cases pc with
    | reap u =>
      rw [Plane.advanceUrgent]
      split
      next bound =>
        have idle : (s.urgent ⟨u, bound⟩).state ≠ .done := by rw [untouched.urgent]; nofun
        rw [reapUrgent, if_neg idle]
        exact untouched.goto trivial
      next =>
        have noted : Untouched { s with returned := s.returned ++ [⟨call, -1, none⟩] } := { untouched with }
        exact noted.goto trivial
    | claim u =>
      have fails : (s.urgent u).state ≠ .idle := by simpa [Claims, here] using unclaimed
      exact absurd (untouched.urgent u) fails
    | _ => exact waiting.elim

theorem Untouched.step (untouched : Untouched s) {action : PlaneAction T n} (unclaimed : ¬ Claims s action)
    (taken : s.step action = some s') : Untouched s' := by
  cases action with
  | request t ask => exact untouched.enter taken trivial
  | urgentPublishWait t op words tid =>
    have counted : Untouched { s with calls := s.calls + 1 } := { untouched with }
    exact counted.enter taken trivial
  | urgentPublish t op p0 p1 p2 p3 =>
    have counted : Untouched { s with calls := s.calls + 1 } := { untouched with }
    exact counted.enter taken trivial
  | advance t choice => exact untouched.advance unclaimed taken
  | serve action => cases untouched.serve.symm.trans taken

/-- The first claim stores PENDING before any call has a sequence number. -/
theorem Untouched.claim (untouched : Untouched s) {action : PlaneAction T n} (claims : Claims s action) :
    ∃ s', s.step action = some s' ∧ ¬ Complete s' := by
  cases action with
  | advance t choice =>
    rw [Claims] at claims
    split at claims
    next ask round here =>
      have stepped : s.step (.advance t choice) = some (s.advanceRequest t choice ask (.claim round)) := by
        rw [Plane.step, Plane.advance, here]
      rw [Plane.advanceRequest, if_pos claims] at stepped
      refine ⟨_, stepped, fun complete => ?_⟩
      obtain ⟨call, asked, -⟩ := complete.1 rfl
      have none : call ∈ s.asked := asked
      rw [untouched.asked] at none
      cases none
    next call u here =>
      have stepped : s.step (.advance t choice) = some (s.advanceUrgent t choice call (.claim u)) := by
        rw [Plane.step, Plane.advance, here]
      rw [Plane.advanceUrgent, if_pos claims] at stepped
      refine ⟨_, stepped, fun complete => ?_⟩
      obtain ⟨call, urged, -⟩ := complete.2 u (by simp [Plane.goto, setUrgent])
      have none : call ∈ s.urged u := urged
      rw [untouched.urged] at none
      cases none
    next => exact claims.elim
  | _ => exact claims.elim

end Plane

end Untouched

section Results

variable {T : Type} {n : Nat} [DecidableEq T]

namespace Plane

omit [DecidableEq T] in
theorem Untouched.start : Untouched ({} : Plane T n) :=
  ⟨rfl, fun _ => rfl, rfl, fun _ => rfl, rfl, fun _ => rfl, fun _ => trivial⟩

theorem behind_concat (before : List (PlaneAction T n)) (action : PlaneAction T n) :
    behind (before ++ [action]) = (behind before).bind (Plane.step · action) := by
  rw [behind, List.foldlM_append, behind]
  simp only [List.foldlM_cons, List.foldlM_nil, bind_pure]
  rfl

/-- As long as an untouched page is not claimed, it stays untouched. -/
theorem untouched_behind {actions : List (PlaneAction T n)}
    (unclaimed : ∀ before action s, before ++ [action] <+: actions → behind before = some s → Untouched s →
      ¬ Claims s action)
    {before : List (PlaneAction T n)} {s : Plane T n} (part : before <+: actions) (ran : behind before = some s) :
    Untouched s := by
  induction before using List.reverseRecOn generalizing s with
  | nil =>
    cases ran
    exact .start
  | append_singleton before action ih =>
    rw [behind_concat] at ran
    obtain ⟨previous, reached, taken⟩ := Option.bind_eq_some_iff.mp ran
    have earlier := ih ((List.prefix_append _ _).trans part) reached
    exact earlier.step (unclaimed before action previous part reached earlier) taken

/-- Along a run every PENDING slot holds the values of one call exactly as long as no claim succeeds. -/
theorem pending_complete_iff (actions : List (PlaneAction T n)) :
    (∀ before s, before <+: actions → behind before = some s → Complete s) ↔
      ∀ before action s, before ++ [action] <+: actions → behind before = some s → ¬ Claims s action := by
  constructor
  · intro complete
    have first (before : List (PlaneAction T n)) (action : PlaneAction T n) (s : Plane T n)
        (part : before ++ [action] <+: actions) (ran : behind before = some s) (untouched : Untouched s) :
        ¬ Claims s action := by
      intro claims
      obtain ⟨next, stepped, incomplete⟩ := untouched.claim claims
      refine incomplete (complete _ next part ?_)
      rw [behind_concat, ran]
      exact stepped
    intro before action s part ran
    exact first before action s part ran (untouched_behind first ((List.prefix_append _ _).trans part) ran)
  · intro unclaimed before s part ran
    exact (untouched_behind (fun before action s part ran _ => unclaimed before action s part ran) part ran).complete

/-- A thread calls and claims the request slot. -/
def firstClaim : List (PlaneAction (Fin 1) 0) := [.request 0 ⟨9, fun _ => 0, 4⟩, .advance 0 false]

/-- The server reads PENDING over fields that no call has written. -/
theorem firstClaim_incomplete :
    ¬ ∀ before (s : Plane (Fin 1) 0), before <+: firstClaim → behind before = some s → Complete s := by
  intro complete
  have seen : (behind firstClaim).map (fun s => (s.request.state, s.asked.length)) = some (.pending, 0) := by
    decide +kernel
  obtain ⟨s, ran, view⟩ := Option.map_eq_some_iff.mp seen
  obtain ⟨pending, none⟩ := Prod.mk.inj view
  obtain ⟨call, asked, -⟩ := (complete firstClaim s (List.prefix_refl _) ran).1 pending
  rw [List.length_eq_zero_iff.mp none] at asked
  cases asked

end Plane

end Results

end Darling.Ring
