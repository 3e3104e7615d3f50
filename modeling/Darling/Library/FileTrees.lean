import Mathlib.Data.List.Infix
import Mathlib.Logic.Function.Basic

/-! File trees with symbolic links. A path is a list of names from the root; a walk follows links and
`..`, so it can leave the directory it starts in. -/
namespace Darling.FileTrees

variable {ν : Type}

/-- One part of a path as it is written. -/
inductive Part (ν : Type) where
  | name (name : ν)
  | up
  deriving DecidableEq, Repr

/-- Where a symbolic link leads, as it is written and in parts. -/
structure Target (ν : Type) where
  text : List Char
  absolute : Bool
  parts : List (Part ν)
  deriving DecidableEq, Repr

inductive Node (ν : Type) where
  | directory (mode : Nat)
  | file (content : List UInt8) (mode : Nat)
  | symlink (target : Target ν)
  deriving DecidableEq, Repr

def Node.isDirectory : Node ν → Bool
  | .directory _ => true
  | _ => false

def Node.isLink : Node ν → Bool
  | .symlink _ => true
  | _ => false

abbrev Path (ν : Type) := List ν

abbrev FileTree (ν : Type) := Path ν → Option (Node ν)

inductive Errno where
  | notFound
  | notDirectory
  | isDirectory
  | exists
  | loop
  | other
  deriving DecidableEq, Repr

/-- Where a walk ended, and how many links it went through. -/
structure Reached (ν : Type) where
  path : Path ν
  links : Nat
  deriving DecidableEq, Repr

/-- Walk the parts from a directory. The last name may be missing; a link there is followed on demand. The
fuel bounds the walk as the kernel's limits do. -/
def walk (tree : FileTree ν) (follow : Bool) : Nat → Path ν → Nat → List (Part ν) → Except Errno (Reached ν)
  | 0, _, _, _ => .error .loop
  | _ + 1, at_, links, [] => .ok ⟨at_, links⟩
  | fuel + 1, at_, links, .up :: rest => walk tree follow fuel at_.dropLast links rest
  | fuel + 1, at_, links, .name name :: rest =>
    match tree (at_ ++ [name]) with
    | some (.directory _) => walk tree follow fuel (at_ ++ [name]) links rest
    | some (.symlink target) =>
      if rest.isEmpty && !follow then .ok ⟨at_ ++ [name], links⟩
      else walk tree follow fuel (if target.absolute then [] else at_) (links + 1) (target.parts ++ rest)
    | some (.file _ _) => if rest.isEmpty then .ok ⟨at_ ++ [name], links⟩ else .error .notDirectory
    | none => if rest.isEmpty then .ok ⟨at_ ++ [name], links⟩ else .error .notFound

/-- No link stands in the way of the names; the last one counts when it is followed. -/
def Plain (tree : FileTree ν) (follow : Bool) (at_ names : Path ν) : Prop :=
  ∀ first rest, names = first ++ rest → first ≠ [] → (follow = true ∨ rest ≠ []) →
    ∀ target, tree (at_ ++ first) ≠ some (.symlink target)

theorem Plain.tail {tree : FileTree ν} {follow : Bool} {at_ names : Path ν} {name : ν}
    (plain : Plain tree follow at_ (name :: names)) : Plain tree follow (at_ ++ [name]) names := by
  intro first rest shape _ counts target
  rw [List.append_assoc]
  exact plain (name :: first) rest (by rw [shape]; rfl) (List.cons_ne_nil _ _) counts target

/-- A walk that meets no link ends where the names say. -/
theorem walk_plain {tree : FileTree ν} {follow : Bool} {fuel : Nat} {at_ names : Path ν} {links : Nat}
    {reached : Reached ν}
    (plain : Plain tree follow at_ names) (walked : walk tree follow fuel at_ links (names.map .name) = .ok reached) :
    reached = ⟨at_ ++ names, links⟩ := by
  induction fuel generalizing at_ names with
  | zero => cases walked
  | succ fuel ih =>
    cases names with
    | nil =>
      cases walked
      rw [List.append_nil]
    | cons name rest =>
      have ended (last : rest.map Part.name = [] ) (same : (.ok ⟨at_ ++ [name], links⟩ : Except Errno (Reached ν)) =
          .ok reached) :
          reached = ⟨at_ ++ name :: rest, links⟩ := by
        rw [List.map_eq_nil_iff.mp last]
        cases same
        rfl
      simp only [List.map_cons, walk] at walked
      cases found : tree (at_ ++ [name]) with
      | none =>
        simp only [found, List.isEmpty_iff] at walked
        split at walked
        · exact ended ‹_› walked
        · cases walked
      | some node =>
        cases node with
        | directory mode =>
          simp only [found] at walked
          rw [ih plain.tail walked, List.append_assoc]
          rfl
        | file content mode =>
          simp only [found, List.isEmpty_iff] at walked
          split at walked
          · exact ended ‹_› walked
          · cases walked
        | symlink target =>
          simp only [found, Bool.and_eq_true, List.isEmpty_iff, Bool.not_eq_true'] at walked
          split at walked
          · rename_i last
            exact ended last.1 walked
          · rename_i through
            refine absurd found (plain [name] rest rfl (List.cons_ne_nil _ _) ?_ target)
            by_cases follows : follow = true
            · exact .inl follows
            · exact .inr fun empty => through ⟨by rw [empty]; rfl, Bool.eq_false_iff.mpr follows⟩

/-- The parts of the names above the last one are directories, or missing. -/
def Open (tree : FileTree ν) (at_ names : Path ν) : Prop :=
  ∀ first rest, names = first ++ rest → first ≠ [] → rest ≠ [] →
    tree (at_ ++ first) = none ∨ ∃ mode, tree (at_ ++ first) = some (.directory mode)

/-- All the names above the last one are directories. -/
def Paved (tree : FileTree ν) (at_ names : Path ν) : Prop :=
  ∀ first rest, names = first ++ rest → first ≠ [] → rest ≠ [] → ∃ mode, tree (at_ ++ first) = some (.directory mode)

theorem Paved.tail {tree : FileTree ν} {at_ names : Path ν} {name : ν} (paved : Paved tree at_ (name :: names)) :
    Paved tree (at_ ++ [name]) names := by
  intro first rest shape _ more
  rw [List.append_assoc]
  exact paved (name :: first) rest (by rw [shape]; rfl) (List.cons_ne_nil _ _) more

theorem Open.tail {tree : FileTree ν} {at_ names : Path ν} {name : ν} (clear : Open tree at_ (name :: names)) :
    Open tree (at_ ++ [name]) names := by
  intro first rest shape _ more
  rw [List.append_assoc]
  exact clear (name :: first) rest (by rw [shape]; rfl) (List.cons_ne_nil _ _) more

/-- What stands at the end of a path does not matter for the way to it. -/
theorem Paved.update [DecidableEq ν] {tree tree' : FileTree ν} {at_ path : Path ν} {node : Option (Node ν)}
    (paved : Paved tree at_ path) (updated : tree' = Function.update tree (at_ ++ path) node) :
    Paved tree' at_ path := by
  intro first rest shape some more
  rw [updated, Function.update_of_ne]
  · exact paved first rest shape some more
  · intro equal
    have longer := congrArg List.length equal
    rw [List.length_append, List.length_append, shape, List.length_append] at longer
    have := List.length_pos_iff.mpr more
    omega

/-- A walk over directories ends where the names say, unless it has to follow a link there. -/
theorem walk_paved {tree : FileTree ν} {follow : Bool} {fuel : Nat} {at_ names : Path ν} {links : Nat}
    (paved : Paved tree at_ names) (ends : follow = true → ∀ target, tree (at_ ++ names) ≠ some (.symlink target))
    (enough : names.length < fuel) : walk tree follow fuel at_ links (names.map .name) = .ok ⟨at_ ++ names, links⟩ := by
  induction fuel generalizing at_ names with
  | zero => omega
  | succ fuel ih =>
    cases names with
    | nil => simp [walk]
    | cons name rest =>
      rw [List.length_cons] at enough
      simp only [List.map_cons, walk]
      by_cases last : rest = []
      · subst last
        cases found : tree (at_ ++ [name]) with
        | none => simp
        | some node =>
          cases node with
          | directory mode =>
            have further := ih paved.tail (by simpa using ends) (by simpa using enough)
            simpa using further
          | file content mode => simp
          | symlink target =>
            cases follow with
            | true => exact absurd found (ends rfl target)
            | false => simp
      · obtain ⟨mode, directory⟩ := paved [name] rest rfl (List.cons_ne_nil _ _) last
        have further := ih paved.tail (by simpa using ends) (by omega)
        simpa [directory] using further

/-- A walk over names that may be missing but stand for nothing else gets there or finds one missing. -/
theorem walk_open {tree : FileTree ν} {follow : Bool} {fuel : Nat} {at_ names : Path ν} {links : Nat}
    (clear : Open tree at_ names) (enough : names.length < fuel) :
    Paved tree at_ names ∨ walk tree follow fuel at_ links (names.map .name) = .error .notFound := by
  induction fuel generalizing at_ names with
  | zero => omega
  | succ fuel ih =>
    cases names with
    | nil =>
      refine .inl fun first rest shape nonempty _ => absurd ?_ nonempty
      exact (List.append_eq_nil_iff.mp shape.symm).1
    | cons name rest =>
      by_cases last : rest = []
      · subst last
        refine .inl fun first rest shape nonempty more => ?_
        rcases List.cons_eq_append_iff.mp shape with ⟨empty, -⟩ | ⟨_, -, impossible⟩
        · exact absurd empty nonempty
        · exact absurd (List.append_eq_nil_iff.mp impossible.symm).2 more
      · rcases clear [name] rest rfl (List.cons_ne_nil _ _) last with missing | ⟨mode, directory⟩
        · refine .inr ?_
          simp [walk, missing, last]
        · rcases ih clear.tail (by rw [List.length_cons] at enough; omega) with paved | stopped
          · refine .inl fun first more shape nonempty counts => ?_
            rcases List.cons_eq_append_iff.mp shape with ⟨empty, -⟩ | ⟨later, rfl, rfl⟩
            · exact absurd empty nonempty
            · by_cases only : later = []
              · rw [only]
                exact ⟨mode, directory⟩
              · have step := paved later more rfl only counts
                rwa [List.append_assoc] at step
          · refine .inr ?_
            simpa [walk, directory] using stopped

end Darling.FileTrees
