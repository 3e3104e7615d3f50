import Darling.Library.Associations
import Darling.Stack.Capture
import Darling.Stack.Names
import Mathlib.Data.List.Pairwise

/-! The members of a capture are what stands below its roots, less what lies in a directory kept empty. -/
namespace Darling.Stack

open FileTrees

mutual
/-- A tree of files, directories and links, as a file system holds them. -/
def Tree.Sound : Tree → Prop
  | .file _ _ _ => True
  | .directory _ children => (children.map (·.1)).Nodup ∧ SoundChildren children
  | .link target => target ≠ []
  | .special => False

def SoundChildren : List (Name × Tree) → Prop
  | [] => True
  | (name, tree) :: rest => ValidName name ∧ tree.Sound ∧ SoundChildren rest
end

/-- What stands at a path below the tree. -/
def Tree.find : Tree → Path Name → Option Tree
  | tree, [] => some tree
  | .directory _ children, name :: rest => (children.lookup name).bind fun child => child.find rest
  | _, _ :: _ => none

/-- The path below the name does not lead through a directory that is kept empty. -/
def Kept (empty : List (Path Name)) (name path : Path Name) : Prop :=
  ∀ first rest, path = first ++ rest → rest ≠ [] → name ++ first ∉ empty

mutual
theorem Tree.induction {motive : Tree → Prop}
    (leaf : ∀ tree, (∀ mode children, tree ≠ .directory mode children) → motive tree)
    (directory : ∀ mode children, (∀ child ∈ children, motive child.2) → motive (.directory mode children)) :
    (tree : Tree) → motive tree
  | .file _ _ _ => leaf _ nofun
  | .directory mode children => directory mode children (Tree.induction_children leaf directory children)
  | .link _ => leaf _ nofun
  | .special => leaf _ nofun

theorem Tree.induction_children {motive : Tree → Prop}
    (leaf : ∀ tree, (∀ mode children, tree ≠ .directory mode children) → motive tree)
    (directory : ∀ mode children, (∀ child ∈ children, motive child.2) → motive (.directory mode children)) :
    (children : List (Name × Tree)) → ∀ child ∈ children, motive child.2
  | [], _, listed => absurd listed List.not_mem_nil
  | (_, tree) :: rest, child, listed =>
    (List.mem_cons.mp listed).elim (fun same => same ▸ Tree.induction leaf directory tree)
      fun later => Tree.induction_children leaf directory rest child later
end

theorem SoundChildren.child {children : List (Name × Tree)} (sound : SoundChildren children) {name : Name} {tree : Tree}
    (listed : (name, tree) ∈ children) : ValidName name ∧ tree.Sound := by
  induction children with
  | nil => cases listed
  | cons child rest ih =>
    obtain ⟨first, found⟩ := child
    obtain ⟨valid, here, later⟩ := sound
    rcases List.mem_cons.mp listed with same | among
    · cases same
      exact ⟨valid, here⟩
    · exact ih later among

theorem Tree.find_nil (tree : Tree) : tree.find [] = some tree := by
  cases tree <;> rfl

theorem Tree.find_cons {tree found : Tree} {name : Name} {rest : Path Name}
    (at_ : tree.find (name :: rest) = some found) :
    ∃ mode children child, tree = .directory mode children ∧ (name, child) ∈ children ∧
      child.find rest = some found := by
  cases tree with
  | directory mode children =>
    obtain ⟨child, present, below⟩ := Option.bind_eq_some_iff.mp at_
    exact ⟨mode, children, child, rfl, mem_of_lookup present, below⟩
  | _ => cases at_

/-- What stands at a path of a sound tree is sound. -/
theorem Tree.Sound.found {tree found : Tree} {path : Path Name} (sound : tree.Sound)
    (at_ : tree.find path = some found) :
    found.Sound ∧ ∀ name ∈ path, ValidName name := by
  induction path generalizing tree with
  | nil =>
    rw [Tree.find_nil, Option.some.injEq] at at_
    exact ⟨at_ ▸ sound, by simp⟩
  | cons name rest ih =>
    obtain ⟨mode, children, child, rfl, listed, below⟩ := Tree.find_cons at_
    obtain ⟨valid, here⟩ := sound.2.child listed
    obtain ⟨ended, names⟩ := ih here below
    exact ⟨ended, List.forall_mem_cons.mpr ⟨valid, names⟩⟩

/-- Above something there is a directory. -/
theorem Tree.find_above {tree found : Tree} {first rest : Path Name} (at_ : tree.find (first ++ rest) = some found) :
    ∃ upper, tree.find first = some upper ∧ upper.find rest = some found := by
  induction first generalizing tree with
  | nil => exact ⟨tree, Tree.find_nil tree, at_⟩
  | cons name first ih =>
    cases tree with
    | directory mode children =>
      obtain ⟨child, present, below⟩ := Option.bind_eq_some_iff.mp at_
      obtain ⟨upper, here, lower⟩ := ih below
      exact ⟨upper, Option.bind_eq_some_iff.mpr ⟨child, present, here⟩, lower⟩
    | _ => cases at_

section Walk

variable {empty : List (Path Name)}

theorem Kept.nil (name : Path Name) : Kept empty name [] := by
  intro first rest shape more
  exact absurd (List.append_eq_nil_iff.mp shape.symm).2 more

theorem Kept.cons {base path : Path Name} {name : Name} (outside : base ∉ empty)
    (kept : Kept empty (base ++ [name]) path) :
    Kept empty base (name :: path) := by
  intro first rest shape more
  rcases List.cons_eq_append_iff.mp shape with ⟨rfl, -⟩ | ⟨later, rfl, rfl⟩
  · rwa [List.append_nil]
  · have below := kept later rest rfl more
    rwa [List.append_assoc] at below

theorem Kept.tail {base path : Path Name} {name : Name} (kept : Kept empty base (name :: path)) :
    base ∉ empty ∧ Kept empty (base ++ [name]) path := by
  refine ⟨by simpa using kept [] (name :: path) rfl (List.cons_ne_nil _ _), fun first rest shape more => ?_⟩
  rw [List.append_assoc]
  exact kept (name :: first) rest (by rw [shape]; rfl) more

theorem childMembers_eq {base : Path Name} (children : List (Name × Tree)) :
    childMembers empty base children = children.flatMap fun child => members empty (base ++ [child.1]) child.2 := by
  induction children with
  | nil => rfl
  | cons child rest ih => rw [childMembers, ih, List.flatMap_cons]

/-- The walk lists what can be found below the name. -/
theorem mem_members {tree : Tree} (sound : tree.Sound) (base path : Path Name) (found : Tree) :
    (path, found) ∈ members empty base tree ↔ ∃ rest, path = base ++ rest ∧ tree.find rest = some found ∧
      Kept empty base rest := by
  induction tree using Tree.induction generalizing base path with
  | leaf tree plain =>
    have only : members empty base tree = [(base, tree)] := by
      cases tree with
      | directory mode children => exact absurd rfl (plain mode children)
      | _ => rfl
    rw [only, List.mem_singleton]
    constructor
    · intro same
      cases same
      exact ⟨[], (List.append_nil _).symm, Tree.find_nil _, Kept.nil _⟩
    · intro ⟨rest, shape, at_, _⟩
      cases rest with
      | nil =>
        rw [Tree.find_nil, Option.some.injEq] at at_
        rw [shape, at_, List.append_nil]
      | cons name rest =>
        obtain ⟨mode, children, _, rfl, _⟩ := Tree.find_cons at_
        exact absurd rfl (plain mode children)
  | directory mode children ih =>
    obtain ⟨distinct, sound⟩ := sound
    -- The directory itself, and below it what its children list unless it is kept empty.
    have split : (path, found) ∈ members empty base (.directory mode children) ↔
        (path = base ∧ found = .directory mode children) ∨
          base ∉ empty ∧ ∃ child ∈ children, (path, found) ∈ members empty (base ++ [child.1]) child.2 := by
      rw [members, List.mem_cons, Prod.mk.injEq]
      by_cases outside : base ∈ empty
      · simp [outside]
      · rw [if_neg outside, childMembers_eq, List.mem_flatMap]
        simp [outside]
    rw [split]
    constructor
    · rintro (⟨rfl, rfl⟩ | ⟨outside, child, listed, below⟩)
      · exact ⟨[], (List.append_nil _).symm, Tree.find_nil _, Kept.nil _⟩
      · obtain ⟨rest, rfl, at_, kept⟩ := (ih child listed (sound.child listed).2 _ _).mp below
        refine ⟨child.1 :: rest, by simp, ?_, kept.cons outside⟩
        rw [Tree.find, lookup_of_mem distinct listed]
        exact at_
    · intro ⟨rest, shape, at_, kept⟩
      cases rest with
      | nil =>
        rw [Tree.find_nil, Option.some.injEq] at at_
        exact .inl ⟨by rw [shape, List.append_nil], at_.symm⟩
      | cons name rest =>
        obtain ⟨_, _, child, same, listed, below⟩ := Tree.find_cons at_
        cases same
        obtain ⟨outside, further⟩ := kept.tail
        refine .inr ⟨outside, (name, child), listed, ?_⟩
        refine (ih _ listed (sound.child listed).2 _ _).mpr ⟨rest, ?_, below, further⟩
        rw [shape, List.append_assoc]
        rfl

/-- Two roots of which neither lies below the other list different paths. -/
theorem members_disjoint {tree other : Tree} (sound : tree.Sound) (otherSound : other.Sound) {base base' : Path Name}
    (apart : ¬ base <+: base') (apart' : ¬ base' <+: base) :
    List.Disjoint ((members empty base tree).map (·.1)) ((members empty base' other).map (·.1)) := by
  intro path here there
  obtain ⟨⟨_, found⟩, member, rfl⟩ := List.mem_map.mp here
  obtain ⟨⟨_, found'⟩, member', same⟩ := List.mem_map.mp there
  obtain ⟨rest, rfl, -⟩ := (mem_members sound _ _ _).mp member
  obtain ⟨rest', rfl, -⟩ := (mem_members otherSound _ _ _).mp member'
  rcases List.prefix_or_prefix_of_prefix (List.prefix_append base rest) ⟨rest', same⟩ with below | above
  · exact apart below
  · exact apart' above

theorem members_nodup {tree : Tree} (sound : tree.Sound) (base : Path Name) :
    ((members empty base tree).map (·.1)).Nodup := by
  induction tree using Tree.induction generalizing base with
  | leaf tree plain =>
    cases tree with
    | directory mode children => exact absurd rfl (plain mode children)
    | _ => simp [members]
  | directory mode children ih =>
    obtain ⟨distinct, sound⟩ := sound
    have below : ((childMembers empty base children).map (·.1)).Nodup := by
      rw [childMembers_eq, List.map_flatMap, List.nodup_flatMap]
      refine ⟨fun child listed => ih child listed (sound.child listed).2 _, ?_⟩
      refine (List.pairwise_map.mp distinct).imp_of_mem fun {first second} here there different => ?_
      have apart {one two : Name} (h : one ≠ two) : ¬ base ++ [one] <+: base ++ [two] := by
        simpa using h
      exact members_disjoint (sound.child here).2 (sound.child there).2 (apart different) (apart (Ne.symm different))
    rw [members, List.map_cons, List.nodup_cons]
    split
    · simp
    · refine ⟨?_, below⟩
      rw [childMembers_eq]
      intro listed
      obtain ⟨⟨_, found⟩, member, same⟩ := List.mem_map.mp listed
      obtain ⟨child, among, member⟩ := List.mem_flatMap.mp member
      obtain ⟨rest, rfl, -⟩ := (mem_members (sound.child among).2 _ _ _).mp member
      simp at same

end Walk

section Roots

/-- Roots of sound trees, none below another. -/
structure SoundRoots (roots : List (Path Name × Option Tree)) : Prop where
  valid : ∀ root ∈ roots, ValidPath root.1
  sound : ∀ root tree, (root, some tree) ∈ roots → tree.Sound
  apart : roots.Pairwise fun one two => ¬ one.1 <+: two.1 ∧ ¬ two.1 <+: one.1

variable {roots : List (Path Name × Option Tree)}

/-- A path lies below one root. -/
theorem SoundRoots.same (sound : SoundRoots roots) {one two : Path Name × Option Tree} (here : one ∈ roots)
    (there : two ∈ roots)
    {path : Path Name} (below : one.1 <+: path) (also : two.1 <+: path) : one = two := by
  by_contra different
  have symmetric : Std.Symm fun one two : Path Name × Option Tree => ¬ one.1 <+: two.1 ∧ ¬ two.1 <+: one.1 :=
    ⟨fun _ _ both => ⟨both.2, both.1⟩⟩
  obtain ⟨apart, apart'⟩ := sound.apart.forall here there different
  exact (List.prefix_or_prefix_of_prefix below also).elim apart apart'

theorem mem_relativeMembers (sound : SoundRoots roots) (path : Path Name) (found : Tree) :
    (path, found) ∈ relativeMembers roots ↔ ∃ root tree rest, (root, some tree) ∈ roots ∧ path = root ++ rest ∧
      tree.find rest = some found ∧ Kept (emptyDirectories roots) root rest := by
  rw [relativeMembers, List.mem_flatMap]
  constructor
  · intro ⟨⟨root, standing⟩, among, member⟩
    cases standing with
    | none => cases member
    | some tree =>
      obtain ⟨rest, shape⟩ := (mem_members (sound.sound root tree among) _ _ _).mp member
      exact ⟨root, tree, rest, among, shape⟩
  · intro ⟨root, tree, rest, among, shape⟩
    exact ⟨_, among, (mem_members (sound.sound root tree among) _ _ _).mpr ⟨rest, shape⟩⟩

theorem relativeMembers_nodup (sound : SoundRoots roots) : ((relativeMembers roots).map (·.1)).Nodup := by
  rw [relativeMembers, List.map_flatMap, List.nodup_flatMap]
  refine ⟨fun root among => ?_, sound.apart.imp_of_mem fun {one two} here there apart => ?_⟩
  · obtain ⟨root, standing⟩ := root
    cases standing with
    | none => simp
    | some tree => exact members_nodup (sound.sound root tree among) root
  · obtain ⟨one, first⟩ := one
    obtain ⟨two, second⟩ := two
    cases first with
    | none => simp [Function.onFun]
    | some tree =>
      cases second with
      | none => simp [Function.onFun]
      | some other => exact members_disjoint (sound.sound one tree here) (sound.sound two other there) apart.1 apart.2

/-- The captured parts of a prefix are as a file system holds them, and hold files, directories and links only. -/
structure Prefix.Sound (pre : Prefix) : Prop where
  distinct : ((pre.locals.getD []).map (·.1)).Nodup
  locals : SoundChildren (pre.locals.getD [])
  workName : ValidName pre.workName
  work : ∀ tree, pre.work = some tree → tree.Sound

theorem Prefix.Sound.capturedRoots {pre : Prefix} (sound : pre.Sound) : SoundRoots (Stack.capturedRoots pre) := by
  have locals (root : Path Name × Option Tree) (among : root ∈ (pre.locals.getD []).map fun child =>
      (localRoot ++ [child.1], some child.2)) :
      ∃ name tree, ValidName name ∧ tree.Sound ∧ root = (localRoot ++ [name], some tree) := by
    obtain ⟨child, listed, rfl⟩ := List.mem_map.mp among
    obtain ⟨valid, below⟩ := sound.locals.child listed
    exact ⟨child.1, child.2, valid, below, rfl⟩
  refine ⟨?_, ?_, ?_⟩
  · intro root among
    rcases List.mem_append.mp among with local_ | work
    · obtain ⟨name, tree, valid, -, rfl⟩ := locals root local_
      refine ⟨by simp, fun part listed => ?_⟩
      simp only [localRoot, List.cons_append, List.nil_append, List.mem_cons, List.not_mem_nil, or_false] at listed
      rcases listed with rfl | rfl | rfl
      · decide
      · decide
      · exact valid
    · rw [List.mem_singleton.mp work]
      refine ⟨by simp [workRoot], fun part listed => ?_⟩
      simp only [workRoot, List.mem_cons, List.not_mem_nil, or_false] at listed
      rcases listed with rfl | rfl | rfl | rfl
      · decide
      · decide
      · decide
      · exact sound.workName
  · intro root tree among
    rcases List.mem_append.mp among with local_ | work
    · obtain ⟨name, child, -, below, same⟩ := locals _ local_
      cases same
      exact below
    · have same := List.mem_singleton.mp work
      rw [Prod.mk.injEq] at same
      exact sound.work tree same.2.symm
  · rw [Stack.capturedRoots, List.pairwise_append]
    refine ⟨?_, List.pairwise_singleton _ _, ?_⟩
    · rw [List.pairwise_map]
      refine (List.pairwise_map.mp sound.distinct).imp fun {first second} different => ?_
      simp only [List.prefix_append_right_inj, List.cons_prefix_cons, List.prefix_nil]
      exact ⟨fun same => different same.1, fun same => different same.1.symm⟩
    · intro root local_ work among
      obtain ⟨name, tree, -, -, rfl⟩ := locals root local_
      rw [List.mem_singleton.mp among]
      simp only [localRoot, workRoot, List.cons_append, List.cons_prefix_cons]
      exact ⟨fun same => absurd same.1 (by decide), fun same => absurd same.1 (by decide)⟩

end Roots

end Darling.Stack
