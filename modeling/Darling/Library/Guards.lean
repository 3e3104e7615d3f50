import Darling.Library.Interruptions

/-! Contracts of interrupted programs over a view of the disk. An error raised at one of the steps in
a window excuses the program from then on; a contract without a window excuses nothing. A crash is
judged by the errors before it only, since no handler runs after it. -/
namespace Darling

variable {ι ε σ ν α β : Type}

/-- An error was raised in the window. -/
def Excused (window : ι → Prop) (struck : List ι) : Prop := ∃ point ∈ struck, window point

def Guarded (view : σ → ν) (window : ι → Prop) (holds : ν → Prop) : Assertion (Process ι ε σ) :=
  fun p => holds (view p.disk) ∨ Excused window p.struck

/-- What the program leaves when it raises and when it dies. -/
def Leaves (view : σ → ν) (window : ι → Prop) (raised crashed : ν → Prop) : Stop ε → Assertion (Process ι ε σ)
  | .raised _ => Guarded view window raised
  | .crash => fun p => crashed (view p.disk) ∨ Excused window p.struck.dropLast

def Runs (view : σ → ν) (window : ι → Prop) (pre : ν → Prop) (body : Program ι ε σ α) (post : α → ν → Prop)
    (raised crashed : ν → Prop) : Prop :=
  Triple (Guarded view window pre) body (fun value => Guarded view window (post value))
    (Leaves view window raised crashed)

/-- The program changes nothing of the view. -/
def Silent (view : σ → ν) (body : Program ι ε σ α) : Prop :=
  ∀ (window : ι → Prop) (kept : ν → Prop), Runs view window kept body (fun _ => kept) kept kept

theorem Excused.grows {window : ι → Prop} {struck : List ι} (excused : Excused window struck) (point : ι) :
    Excused window (struck ++ [point]) := by
  obtain ⟨earlier, member, inside⟩ := excused
  exact ⟨earlier, List.mem_append_left _ member, inside⟩

namespace Runs

variable {view : σ → ν} {window : ι → Prop} {pre pre' raised raised' crashed crashed' : ν → Prop}
  {post post' : α → ν → Prop} {body : Program ι ε σ α} {point : ι}

theorem weaken (runs : Runs view window pre body post raised crashed) (stronger : ∀ v, pre' v → pre v)
    (returned : ∀ value v, post value v → post' value v) (raises : ∀ v, raised v → raised' v)
    (crashes : ∀ v, crashed v → crashed' v) : Runs view window pre' body post' raised' crashed' := by
  apply Triple.weaken runs
  · exact fun p => Or.imp_left (stronger _)
  · exact fun value p => Or.imp_left (returned value _)
  · intro stop p
    cases stop with
    | crash => exact Or.imp_left (crashes _)
    | raised error => exact Or.imp_left (raises _)

theorem strengthen (runs : Runs view window pre body post raised crashed) (stronger : ∀ v, pre' v → pre v) :
    Runs view window pre' body post raised crashed :=
  runs.weaken stronger (fun _ _ => id) (fun _ => id) (fun _ => id)

theorem bind {middle : α → ν → Prop} {next : α → Program ι ε σ β} {post : β → ν → Prop}
    (first : Runs view window pre body middle raised crashed)
    (second : ∀ value, Runs view window (middle value) (next value) post raised crashed) :
    Runs view window pre (body >>= next) post raised crashed :=
  Triple.bind first second

theorem act {change : σ → Except ε (α × σ)} (crashes : ∀ v, pre v → crashed v)
    (raises : ¬window point → ∀ v, pre v → raised v)
    (goes : ∀ d value d', pre (view d) → change d = .ok (value, d') → post value (view d'))
    (refused : ∀ d error, pre (view d) → change d = .error error → raised (view d)) :
    Runs view window pre (act point change) post raised crashed := by
  apply act_triple
  · intro p fault holds _
    cases fault with
    | crash =>
      show crashed (view p.disk) ∨ Excused window (p.struck ++ [point]).dropLast
      rw [List.dropLast_concat]
      exact Or.imp_left (crashes _) holds
    | raise error =>
      by_cases inside : window point
      · exact .inr ⟨point, List.mem_append_right _ List.mem_cons_self, inside⟩
      · exact holds.imp (raises inside _) (·.grows point)
  · exact fun p value disk holds changed => Or.imp_left (goes p.disk value disk · changed) holds
  · exact fun p error holds changed => Or.imp_left (refused p.disk error · changed) holds

theorem write {change : σ → σ} {post : Unit → ν → Prop} (crashes : ∀ v, pre v → crashed v)
    (raises : ¬window point → ∀ v, pre v → raised v) (goes : ∀ d, pre (view d) → post () (view (change d))) :
    Runs view window pre (write point change : Program ι ε σ Unit) post raised crashed := by
  refine act crashes raises ?_ ?_
  · intro d value d' holds same
    cases same
    exact goes d holds
  · intro d error holds same
    cases same

theorem sync (crashes : ∀ v, pre v → crashed v) (raises : ¬window point → ∀ v, pre v → raised v) :
    Runs view window pre (sync point : Program ι ε σ Unit) (fun _ => pre) raised crashed :=
  write crashes raises fun _ => id

theorem assign {change : σ → σ} {post : Unit → ν → Prop} (goes : ∀ d, pre (view d) → post () (view (change d))) :
    Runs view window pre (assign change : Program ι ε σ Unit) post raised crashed :=
  assign_triple fun p => Or.imp_left (goes p.disk)

theorem pure {value : α} (holds : ∀ v, pre v → post value v) :
    Runs view window pre (pure value : Program ι ε σ α) post raised crashed :=
  Triple.pure fun _ => Or.imp_left (holds _)

theorem raise {error : ε} (holds : ∀ v, pre v → raised v) :
    Runs view window pre (raise error : Program ι ε σ α) post raised crashed :=
  raise_triple fun _ => Or.imp_left (holds _)

theorem disk_bind {next : σ → Program ι ε σ β} {post : β → ν → Prop}
    (second : ∀ d, Runs view window (fun v => view d = v ∧ pre v) (next d) post raised crashed) :
    Runs view window pre (disk >>= next) post raised crashed := by
  apply disk_bind_triple
  intro d
  refine Triple.strengthen (second d) ?_
  rintro p ⟨rfl, holds⟩
  exact Or.imp_left (fun held => ⟨rfl, held⟩) holds

theorem demand {condition : Prop} [Decidable condition] {error : ε} (broken : ∀ v, pre v → raised v) :
    Runs view window pre (demand condition error : Program ι ε σ Unit) (fun _ v => condition ∧ pre v) raised
      crashed := by
  refine (demand_triple fun _ p => Or.imp_left (broken _)).conclude ?_ fun _ _ => id
  rintro _ p ⟨holds, held⟩
  exact Or.imp_left (fun known => ⟨holds, known⟩) held

/-- A demand that the precondition meets. -/
theorem demand_met {condition : Prop} [Decidable condition] {error : ε} (met : ∀ v, pre v → condition) :
    Runs view window pre (Darling.demand condition error : Program ι ε σ Unit) (fun _ => pre) raised crashed := by
  by_cases holds : condition
  · exact demand_holds holds
  · unfold Darling.demand ensure
    rw [if_neg holds]
    exact raise fun v held => absurd (met v held) holds

theorem ite {condition : Prop} [Decidable condition] {other : Program ι ε σ α}
    (holds : condition → Runs view window pre body post raised crashed)
    (fallback : ¬condition → Runs view window pre other post raised crashed) :
    Runs view window pre (if condition then body else other) post raised crashed :=
  Triple.ite holds fallback

theorem onlyIf {condition : Bool} {body : Program ι ε σ Unit} {post : Unit → ν → Prop}
    (holds : condition = true → Runs view window pre body post raised crashed)
    (skipped : condition = false → ∀ v, pre v → post () v) :
    Runs view window pre (onlyIf condition body) post raised crashed := by
  unfold Darling.onlyIf
  refine ite holds fun off => pure fun v held => skipped ?_ v held
  simpa using off

theorem handle {handler : ε → Program ι ε σ α} (inner : ν → Prop)
    (first : Runs view window pre body post inner crashed)
    (second : ∀ error, Runs view window inner (handler error) post raised crashed) :
    Runs view window pre (handle body handler) post raised crashed := by
  refine Triple.rescue first fun stop => ?_
  cases stop with
  | crash => exact Triple.throw fun _ => id
  | raised error => exact second error

theorem forM {items : List β} {body : β → Program ι ε σ Unit}
    (each : ∀ item, Runs view window pre (body item) (fun _ => pre) raised crashed) :
    Runs view window pre (items.forM body) (fun _ => pre) raised crashed :=
  forM_invariant fun item _ => each item

/-- A program that is silent on a part of the view keeps what is said of that part. -/
theorem silent_part {ν' : Type} (part : ν → ν') (kept : ν' → Prop) (quiet : Silent (part ∘ view) body)
    (raises : ∀ v, kept (part v) → raised v) (crashes : ∀ v, kept (part v) → crashed v) :
    Runs view window (fun v => kept (part v)) body (fun _ v => kept (part v)) raised crashed := by
  have runs : Runs view window (fun v => kept (part v)) body (fun _ v => kept (part v)) (fun v => kept (part v))
      (fun v => kept (part v)) := by
    have inner := quiet window kept
    apply Triple.conclude inner
    · exact fun _ _ => id
    · intro stop p
      cases stop with
      | crash => exact id
      | raised error => exact id
  exact runs.weaken (fun _ => id) (fun _ _ => id) raises crashes

/-- A silent part of a program. -/
theorem silent (quiet : Silent view body) (raises : ∀ v, pre v → raised v) (crashes : ∀ v, pre v → crashed v) :
    Runs view window pre body (fun _ => pre) raised crashed :=
  (quiet window pre).weaken (fun _ => id) (fun _ _ => id) raises crashes

theorem silent_bind {next : α → Program ι ε σ β} {post : β → ν → Prop} (quiet : Silent view body)
    (raises : ∀ v, pre v → raised v) (crashes : ∀ v, pre v → crashed v)
    (second : ∀ value, Runs view window pre (next value) post raised crashed) :
    Runs view window pre (body >>= next) post raised crashed :=
  bind (silent quiet raises crashes) second

end Runs

namespace Silent

variable {view : σ → ν} {body : Program ι ε σ α} {point : ι}

theorem act {change : σ → Except ε (α × σ)} (same : ∀ d value d', change d = .ok (value, d') → view d' = view d) :
    Silent view (act point change) := by
  intro window kept
  refine Runs.act (fun _ => id) (fun _ _ => id) ?_ fun _ _ held _ => held
  intro d value d' held changed
  rwa [same d value d' changed]

theorem write {change : σ → σ} (same : ∀ d, view (change d) = view d) :
    Silent view (write point change : Program ι ε σ Unit) := by
  refine act fun d value d' changed => ?_
  cases changed
  exact same d

theorem sync : Silent view (sync point : Program ι ε σ Unit) := write fun _ => rfl

theorem pure {value : α} : Silent view (pure value : Program ι ε σ α) := fun _ _ => Runs.pure fun _ => id

theorem raise {error : ε} : Silent view (raise error : Program ι ε σ α) := fun _ _ => Runs.raise fun _ => id

theorem disk : Silent view (disk : Program ι ε σ σ) := fun _ _ _ => id

theorem demand {condition : Prop} [Decidable condition] {error : ε} :
    Silent view (demand condition error : Program ι ε σ Unit) :=
  fun _ _ => (Runs.demand fun _ => id).weaken (fun _ => id) (fun _ _ => And.right) (fun _ => id) (fun _ => id)

theorem bind {next : α → Program ι ε σ β} (first : Silent view body) (second : ∀ value, Silent view (next value)) :
    Silent view (body >>= next) :=
  fun window kept => Runs.bind (first window kept) fun value => second value window kept

theorem ite {condition : Prop} [Decidable condition] {other : Program ι ε σ α} (first : Silent view body)
    (second : Silent view other) : Silent view (if condition then body else other) :=
  fun window kept => Runs.ite (fun _ => first window kept) fun _ => second window kept

theorem onlyIf {condition : Bool} {body : Program ι ε σ Unit} (first : Silent view body) :
    Silent view (onlyIf condition body) := ite first pure

theorem assign {change : σ → σ} (same : ∀ d, view (change d) = view d) :
    Silent view (assign change : Program ι ε σ Unit) := by
  refine fun window kept => Runs.assign fun d held => ?_
  rwa [same d]

theorem handle {handler : ε → Program ι ε σ α} (first : Silent view body)
    (second : ∀ error, Silent view (handler error)) : Silent view (handle body handler) :=
  fun window kept => Runs.handle kept (first window kept) fun error => second error window kept

/-- What is silent on the whole view is silent on a part of it. -/
theorem part {ν' : Type} (quiet : Silent view body) (part : ν → ν') : Silent (part ∘ view) body := by
  intro window kept
  have inner := quiet window fun v => kept (part v)
  apply Triple.conclude inner
  · exact fun _ _ => id
  · intro stop p
    cases stop with
    | crash => exact id
    | raised error => exact id

theorem forM {items : List β} {body : β → Program ι ε σ Unit} (each : ∀ item, Silent view (body item)) :
    Silent view (items.forM body) :=
  fun window kept => Runs.forM fun item => each item window kept

end Silent

end Darling
