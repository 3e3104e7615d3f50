import Darling.Library.Interruptions

/-! Where one failing step gets through. On a given disk a program that nothing happens to takes a number
of steps and then returns or raises; a step that fails right after them hits what comes next. -/
namespace Darling

variable {ι ε σ α β : Type}

/-- Undisturbed from this disk the program returns the value after some steps. -/
def Returns (body : Program ι ε σ α) (d : σ) (value : α) (d' : σ) : Prop :=
  ∃ steps, ∀ later past,
    body ⟨d, List.replicate steps none ++ later, past⟩ = .ok value ⟨d', later, past⟩

/-- Undisturbed from this disk the program raises after some steps. -/
def Raises (body : Program ι ε σ α) (d : σ) (error : ε) (d' : σ) : Prop :=
  ∃ steps, ∀ later past,
    body ⟨d, List.replicate steps none ++ later, past⟩ = .error (.raised error) ⟨d', later, past⟩

theorem replicate_add_append (first second : Nat) (later : Schedule ε) :
    List.replicate (first + second) none ++ later =
      List.replicate first none ++ (List.replicate second none ++ later) := by
  rw [← List.append_assoc, List.replicate_append_replicate]

section Rules

variable {point : ι} {body : Program ι ε σ α} {next : α → Program ι ε σ β} {d d' : σ} {value : α} {error : ε}

theorem Returns.pure : Returns (pure value : Program ι ε σ α) d value d := ⟨0, fun _ _ => rfl⟩

theorem Returns.disk : Returns (disk : Program ι ε σ σ) d d d := ⟨0, fun _ _ => rfl⟩

theorem Returns.act {change : σ → Except ε (α × σ)} (changed : change d = .ok (value, d')) :
    Returns (act point change) d value d' := by
  refine ⟨1, fun later past => ?_⟩
  simp [Darling.act, changed, Process.step]

theorem Returns.write {change : σ → σ} : Returns (write point change : Program ι ε σ Unit) d () (change d) :=
  Returns.act rfl

theorem Raises.act {change : σ → Except ε (α × σ)} (refused : change d = .error error) :
    Raises (act point change : Program ι ε σ α) d error d := by
  refine ⟨1, fun later past => ?_⟩
  simp [Darling.act, refused, Process.step]

theorem Returns.bind {d'' : σ} {result : β} (first : Returns body d value d')
    (second : Returns (next value) d' result d'') :
    Returns (body >>= next) d result d'' := by
  obtain ⟨before, ran⟩ := first
  obtain ⟨steps, went⟩ := second
  refine ⟨before + steps, fun later past => ?_⟩
  rw [replicate_add_append, bind_run_ok (ran _ past), went]

theorem Raises.bind (first : Raises body d error d') : Raises (body >>= next) d error d' := by
  obtain ⟨steps, ran⟩ := first
  exact ⟨steps, fun later past => bind_run_error (ran later past)⟩

theorem Returns.handle {handler : ε → Program ι ε σ α} (first : Returns body d value d') :
    Returns (handle body handler) d value d' := by
  obtain ⟨steps, ran⟩ := first
  exact ⟨steps, fun later past => rescue_run_ok (ran later past)⟩

theorem Raises.handle_returns {d'' : σ} {handler : ε → Program ι ε σ α} (first : Raises body d error d')
    (second : Returns (handler error) d' value d'') : Returns (handle body handler) d value d'' := by
  obtain ⟨before, ran⟩ := first
  obtain ⟨steps, went⟩ := second
  refine ⟨before + steps, fun later past => ?_⟩
  rw [replicate_add_append]
  exact (rescue_run_error (ran _ past)).trans (went later past)

/-- A loop, by what holds of the disk after each part of the list. -/
theorem Returns.forM {items : List β} {body : β → Program ι ε σ Unit} (holds : List β → σ → Prop)
    (each : ∀ done item rest d, done ++ item :: rest = items → holds done d →
      ∃ d', Returns (body item) d () d' ∧ holds (done ++ [item]) d') (start : holds [] d) :
    ∃ d', Returns (items.forM body) d () d' ∧ holds items d' := by
  have run (done rest : List β) (d : σ) (whole : done ++ rest = items) (held : holds done d) :
      ∃ d', Returns (rest.forM body) d () d' ∧ holds items d' := by
    induction rest generalizing done d with
    | nil =>
      rw [List.append_nil] at whole
      exact ⟨d, Returns.pure, whole ▸ held⟩
    | cons item rest ih =>
      obtain ⟨d', ran, after⟩ := each done item rest d whole held
      obtain ⟨d'', went, ended⟩ := ih (done ++ [item]) d' (by simpa using whole) after
      exact ⟨d'', ran.bind went, ended⟩
  exact run [] items d rfl start

end Rules

end Darling
