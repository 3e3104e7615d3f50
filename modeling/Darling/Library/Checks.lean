import Mathlib.Data.List.Basic

/-! Computations that stop at their first failed check. A result is read back one check at
a time, so the proofs never unfold a bind. -/
namespace Darling

variable {ε α β σ : Type}

/-- Go on when the condition holds, stop with the error otherwise. -/
def require (condition : Prop) [Decidable condition] (error : ε) : Except ε Unit :=
  if condition then .ok () else .error error

@[simp] theorem require_ok {condition : Prop} [Decidable condition] {error : ε} {result : Unit} :
    require condition error = .ok result ↔ condition := by
  unfold require
  split <;> simp_all

def Accepted (computation : Except ε α) : Prop := ∃ value, computation = .ok value

theorem accepted_iff {computation : Except ε α} :
    Accepted computation ↔ computation.toBool = true := by
  cases computation <;> simp [Accepted, Except.toBool]

instance (computation : Except ε α) : Decidable (Accepted computation) :=
  decidable_of_iff _ accepted_iff.symm

theorem bind_ok {first : Except ε α} {next : α → Except ε β} {result : β} :
    first >>= next = .ok result ↔ ∃ value, first = .ok value ∧ next value = .ok result := by
  cases first <;> simp [bind, Except.bind]

theorem require_error {condition : Prop} [Decidable condition] {error other : ε} :
    require condition error = .error other ↔ ¬condition ∧ error = other := by
  unfold require
  split <;> simp_all

/-- A computation of two parts fails in the first or, after it, in the second. -/
theorem bind_error {first : Except ε α} {next : α → Except ε β} {error : ε} :
    first >>= next = .error error ↔ first = .error error ∨ ∃ value, first = .ok value ∧ next value = .error error := by
  cases first <;> simp [bind, Except.bind]

theorem require_bind_ok {condition : Prop} [Decidable condition] {error : ε}
    {next : Unit → Except ε β} {result : β} :
    require condition error >>= next = .ok result ↔ condition ∧ next () = .ok result := by
  simp only [bind_ok, require_ok]
  exact ⟨fun ⟨_, holds, rest⟩ => ⟨holds, rest⟩, fun ⟨holds, rest⟩ => ⟨(), holds, rest⟩⟩

@[simp] theorem pure_ok {value result : α} : (pure value : Except ε α) = .ok result ↔ value = result := by
  simp [pure, Except.pure]

theorem forM_ok {items : List α} {visit : α → Except ε Unit} {result : Unit} :
    items.forM visit = .ok result ↔ ∀ item ∈ items, visit item = .ok () := by
  induction items with
  | nil => exact iff_of_true rfl (by simp)
  | cons item rest ih =>
    change (visit item >>= fun _ => rest.forM visit) = .ok result ↔ _
    simp only [bind_ok, ih, List.mem_cons, forall_eq_or_imp]
    exact ⟨fun ⟨_, first, later⟩ => ⟨first, later⟩, fun ⟨first, later⟩ => ⟨(), first, later⟩⟩

/-- A traversal whose items all give a value gives them all. -/
theorem mapM_some {items : List α} {visit : α → Option β} {value : α → β}
    (each : ∀ item ∈ items, visit item = some (value item)) :
    items.mapM visit = some (items.map value) := by
  induction items with
  | nil => rfl
  | cons item rest induction =>
    rw [List.forall_mem_cons] at each
    rw [List.mapM_cons, each.1, induction each.2]
    rfl

/-- An error of a traversal is one of its items. -/
theorem mapM_error {items : List α} {visit : α → Except ε β} {error : ε} (failed : items.mapM visit = .error error) :
    ∃ item ∈ items, visit item = .error error := by
  induction items with
  | nil => cases failed
  | cons item rest induction =>
    rw [List.mapM_cons] at failed
    cases first : visit item with
    | error other =>
      rw [first] at failed
      cases failed
      exact ⟨item, List.mem_cons_self, first⟩
    | ok value =>
      rw [first] at failed
      cases later : rest.mapM visit with
      | error other =>
        simp only [later, bind, Except.bind] at failed
        cases failed
        obtain ⟨found, member, same⟩ := induction later
        exact ⟨found, List.mem_cons_of_mem _ member, same⟩
      | ok values =>
        simp only [later, bind, Except.bind] at failed
        cases failed

/-- Every item is fine up to and including the first one that does not pass. -/
def ReachedAll (passes fine : α → Prop) : List α → Prop
  | [] => True
  | item :: rest => fine item ∧ (passes item → ReachedAll passes fine rest)

/-- Two folds over the same list that keep a relation at every step end the same way. -/
theorem foldlM_simulates {σ' ε' : Type} {R : σ → σ' → Prop} {first : σ → α → Except ε σ}
    {second : σ' → α → Except ε' σ'}
    {items : List α} (step : ∀ s t item s', item ∈ items → R s t → first s item = .ok s' →
      ∃ t', second t item = .ok t' ∧ R s' t')
    {s s' : σ} {t : σ'} (start : R s t) (done : items.foldlM first s = .ok s') :
    ∃ t', items.foldlM second t = .ok t' ∧ R s' t' := by
  induction items generalizing s t with
  | nil =>
    simp only [List.foldlM_nil, pure_ok] at done ⊢
    subst done
    exact ⟨t, rfl, start⟩
  | cons item rest ih =>
    simp only [List.foldlM_cons, bind_ok] at done ⊢
    obtain ⟨middle, one, more⟩ := done
    obtain ⟨t', accepted, related⟩ := step s t item middle List.mem_cons_self start one
    obtain ⟨last, finished, final⟩ := ih
      (fun s t item s' later => step s t item s' (List.mem_cons_of_mem _ later)) related more
    exact ⟨last, ⟨t', accepted, finished⟩, final⟩

theorem foldlM_invariant {P : σ → Prop} {step : σ → α → Except ε σ} {items : List α} {s s' : σ}
    (kept : ∀ s item s', item ∈ items → P s → step s item = .ok s' → P s')
    (start : P s) (done : items.foldlM step s = .ok s') : P s' := by
  induction items generalizing s with
  | nil =>
    simp only [List.foldlM_nil, pure_ok] at done
    exact done ▸ start
  | cons item rest ih =>
    simp only [List.foldlM_cons, bind_ok] at done
    obtain ⟨middle, one, more⟩ := done
    apply ih _ (kept s item middle List.mem_cons_self start one) more
    intro s item s' later
    exact kept s item s' (List.mem_cons_of_mem _ later)

end Darling
