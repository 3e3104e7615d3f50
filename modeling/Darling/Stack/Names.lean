import Darling.Stack.Extract

/-! The names of archive members: a path that is rendered and read again is the same. -/
namespace Darling.Stack

open FileTrees

/-- A name that a directory can hold. -/
def ValidName (name : Name) : Prop := name ≠ [] ∧ '/' ∉ name ∧ name ≠ ['.'] ∧ name ≠ ['.', '.']

instance (name : Name) : Decidable (ValidName name) := inferInstanceAs (Decidable (_ ∧ _))

def ValidPath (path : Path Name) : Prop := path ≠ [] ∧ ∀ name ∈ path, ValidName name

theorem ValidPath.beginning {first rest : Path Name} (valid : ValidPath (first ++ rest)) (nonempty : first ≠ []) :
    ValidPath first :=
  ⟨nonempty, fun name listed => valid.2 name (List.mem_append_left _ listed)⟩

variable {path : Path Name}

theorem render_split (valid : ValidPath path) : (render path).splitOn '/' = path := by
  rw [render, if_neg valid.1]
  exact List.splitOn_intercalate '/' (fun name listed => (valid.2 name listed).2.1) valid.1

theorem pureParts_render (valid : ValidPath path) : pureParts (render path) = path := by
  rw [Texts.pureParts, render_split valid, List.filter_eq_self]
  intro name listed
  obtain ⟨nonempty, -, notDot, -⟩ := valid.2 name listed
  simp [nonempty, notDot]

theorem render_injective {other : Path Name} (valid : ValidPath path) (otherValid : ValidPath other)
    (same : render path = render other) : path = other := by
  rw [← pureParts_render valid, same, pureParts_render otherValid]

theorem render_relative (valid : ValidPath path) : isAbsolute (render path) = false := by
  cases shape : render path with
  | nil => rfl
  | cons c rest =>
    have split := render_split valid
    rw [shape] at split
    by_cases slash : c = '/'
    · have empty : ([] : Name) ∈ path := by
        rw [← split, slash, List.splitOn, List.splitOnP_cons_eq_if_modifyHead, if_pos (by simp)]
        exact List.mem_cons_self
      exact absurd rfl (valid.2 [] empty).1
    · simp [isAbsolute, slash]

theorem render_end (valid : ValidPath path) : ∃ init c, render path = init ++ [c] ∧ c ≠ '/' := by
  have last (name : Name) (valid : ValidName name) : ∃ init c, name = init ++ [c] ∧ c ≠ '/' := by
    refine ⟨name.dropLast, name.getLast valid.1, (List.dropLast_append_getLast valid.1).symm, ?_⟩
    intro slash
    exact valid.2.1 (slash ▸ List.getLast_mem valid.1)
  rw [render, if_neg valid.1]
  obtain ⟨nonempty, names⟩ := valid
  induction path with
  | nil => exact absurd rfl nonempty
  | cons name rest ih =>
    cases rest with
    | nil => simpa [List.intercalate] using last name (names name List.mem_cons_self)
    | cons next rest =>
      obtain ⟨init, c, shape, other⟩ := ih (List.cons_ne_nil _ _) fun name listed =>
          names name (List.mem_cons_of_mem _ listed)
      refine ⟨name ++ '/' :: init, c, ?_, other⟩
      rw [List.intercalate] at shape ⊢
      rw [List.intersperse_cons_cons, List.flatten_cons, List.flatten_cons, shape]
      simp

theorem safeMember_render (valid : ValidPath path) : ∃ member, safeMember (render path) = .ok member ∧
    member.parts = path := by
  have parts := pureParts_render valid
  have stripped : rstripSlash (render path) = render path := by
    obtain ⟨init, c, shape, other⟩ := render_end valid
    rw [rstripSlash, shape]
    simp [other]
  have plain : ['.', '.'] ∉ path := fun listed => (valid.2 _ listed).2.2.2 rfl
  have accepted : isAbsolute (render path) = false ∧ pureParts (render path) ≠ [] ∧
      ['.', '.'] ∉ pureParts (render path) ∧
      render (pureParts (render path)) = rstripSlash (render path) := by
    rw [parts, stripped]
    exact ⟨render_relative valid, valid.1, plain, rfl⟩
  refine ⟨_, by rw [safeMember, dif_pos accepted], parts⟩

end Darling.Stack
