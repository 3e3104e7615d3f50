import Darling.Closure.Loading

/-! The order of `_cover_traversal` against the dependencies of the images. -/
namespace Darling.Covering

open Relation (ReflTransGen TransGen)
open Texts (Text)
open Traversals (Visiting PostOrdered Edge)

section Traversing

variable (images : List (Text × Record))

/-- What the load commands of an image lead to by the leaves of their names. -/
def childrenOf (name : Text) : Option (List Text) :=
  (images.lookup name).map fun record => record.dylibs.flatMap fun dylib => candidates images dylib.installName

theorem visit_eq (levels : Nat) (name : Text) (at_ : Visiting Text) :
    visit images levels name at_ = Traversals.visit (childrenOf images) levels name at_ := by
  induction levels generalizing name at_ with
  | zero => rfl
  | succ levels ih =>
    rw [visit, Traversals.visit, childrenOf]
    by_cases known : name ∈ at_.inProgress ∨ name ∈ at_.done
    · rw [if_pos known, if_pos known]
    · rw [if_neg known, if_neg known]
      cases images.lookup name with
      | none => rfl
      | some record => simp only [Option.map_some, List.foldl_flatMap, ih]

theorem coverTraversal_eq (entries : List Entry) :
    coverTraversal images entries = Traversals.visitAll (childrenOf images) 201 (rootsOf images entries) := by
  simp only [coverTraversal, Traversals.visitAll, visit_eq]

variable {images}

theorem byPath_key {path name : Text} (found : byPath images path = some name) : name ∈ images.map (·.1) := by
  obtain ⟨item, first, rfl⟩ := Option.map_eq_some_iff.mp found
  exact List.mem_map_of_mem (List.mem_reverse.mp (List.mem_of_find?_eq_some first))

theorem childrenOf_isSome {name : Text} (key : name ∈ images.map (·.1)) : (childrenOf images name).isSome := by
  obtain ⟨item, listed, rfl⟩ := List.mem_map.mp key
  rw [childrenOf, Option.isSome_map]
  cases none : images.lookup item.1 with
  | some record => rfl
  | none => simpa using List.lookup_eq_none_iff.mp none item listed

theorem edge_key {name other : Text} (leads : Edge (childrenOf images) name other) : other ∈ images.map (·.1) := by
  obtain ⟨next, found, member⟩ := leads
  obtain ⟨record, _, rfl⟩ := Option.map_eq_some_iff.mp found
  obtain ⟨dylib, _, named⟩ := List.mem_flatMap.mp member
  exact (List.mem_filter.mp named).1

end Traversing

section Dependencies

variable (g : Guest) (withoutImages : List Text) (walk : Walk) (entries : List Entry)

/-- The images that the load commands of an image were resolved to. -/
def dependenciesOf (name : Text) : List Text :=
  match walk.images.lookup name with
  | none => []
  | some record => record.dylibs.filterMap fun dylib =>
    (dependency g withoutImages dylib.installName record.path (rpathChain walk name)).bind (byPath walk.images)

def Depends (name other : Text) : Prop := other ∈ dependenciesOf g withoutImages walk name

def Acyclic : Prop := ∀ name, ¬TransGen (Depends g withoutImages walk) name name

/-- The order lists what the entries depend on, each image once and behind those that it depends on. -/
structure BindOrder (order : List Text) : Prop where
  ordered : PostOrdered (Depends g withoutImages walk) order
  listed : ∀ name, name ∈ order ↔
    ∃ root ∈ rootsOf walk.images entries, ReflTransGen (Depends g withoutImages walk) root name

/-- The leaves of the names tell apart the images that the entries depend on. -/
def Leafy : Prop := ∀ root ∈ rootsOf walk.images entries, ∀ name, ReflTransGen
    (Depends g withoutImages walk) root name →
  ∀ other, Edge (childrenOf walk.images) name other ↔ Depends g withoutImages walk name other

/-- A depth-first walk from the entries meets no new image further than 200 load commands below its entry. -/
def Shallow : Prop := (Traversals.exploreAll (childrenOf walk.images) 201 (rootsOf walk.images entries)).isSome

variable {g withoutImages walk entries} {root name : Text}

namespace Leafy

variable (leafy : Leafy g withoutImages walk entries) (rooted : root ∈ rootsOf walk.images entries)

include leafy rooted

theorem depends_of_edges (path : ReflTransGen (Edge (childrenOf walk.images)) root name) :
    ReflTransGen (Depends g withoutImages walk) root name := by
  induction path with
  | refl => exact .refl
  | tail _ last ih => exact ih.tail ((leafy root rooted _ ih _).mp last)

theorem edges_of_depends (path : ReflTransGen (Depends g withoutImages walk) root name) :
    ReflTransGen (Edge (childrenOf walk.images)) root name := by
  induction path with
  | refl => exact .refl
  | tail before last ih => exact ih.tail ((leafy root rooted _ before _).mpr last)

theorem cycle {other : Text} (reached : ReflTransGen (Depends g withoutImages walk) root name)
    (path : TransGen (Edge (childrenOf walk.images)) name other) :
    TransGen (Depends g withoutImages walk) name other := by
  induction path with
  | single only => exact .single ((leafy root rooted name reached _).mp only)
  | tail _ last ih => exact ih.tail ((leafy root rooted _ (reached.trans ih.to_reflTransGen) _).mp last)

end Leafy

theorem Leafy.graph (leafy : Leafy g withoutImages walk entries) (acyclic : Acyclic g withoutImages walk) :
    Traversals.Rooted (childrenOf walk.images) (rootsOf walk.images entries) where
  nodes root rooted := by
    obtain ⟨entry, _, found⟩ := List.mem_filterMap.mp rooted
    obtain ⟨path, _, found⟩ := Option.bind_eq_some_iff.mp found
    exact childrenOf_isSome (byPath_key found)
  closed _ _ leads := childrenOf_isSome (edge_key leads)
  acyclic root rooted name path cycle := acyclic name (leafy.cycle rooted (leafy.depends_of_edges rooted path) cycle)

/-- Where the leaves tell the images apart, an order can be judged by them. -/
theorem Leafy.bindOrder_iff (leafy : Leafy g withoutImages walk entries) (order : List Text) :
    BindOrder g withoutImages walk entries order ↔ PostOrdered (Edge (childrenOf walk.images)) order ∧
      ∀ name, name ∈ order ↔ ∃ root ∈ rootsOf walk.images entries,
        ReflTransGen (Edge (childrenOf walk.images)) root name := by
  have same (name : Text) : (∃ root ∈ rootsOf walk.images entries, ReflTransGen
      (Edge (childrenOf walk.images)) root name) ↔
      ∃ root ∈ rootsOf walk.images entries, ReflTransGen (Depends g withoutImages walk) root name := by
    constructor
    · rintro ⟨root, rooted, path⟩
      exact ⟨root, rooted, leafy.depends_of_edges rooted path⟩
    · rintro ⟨root, rooted, path⟩
      exact ⟨root, rooted, leafy.edges_of_depends rooted path⟩
  simp only [same]
  constructor
  · rintro ⟨ordered, listed⟩
    refine ⟨⟨ordered.distinct, fun before name after split other leads => ?_⟩, listed⟩
    obtain ⟨root, rooted, path⟩ := (listed name).mp (by rw [split]; simp)
    exact ordered.behind before name after split other ((leafy root rooted name path other).mp leads)
  · rintro ⟨ordered, listed⟩
    refine ⟨⟨ordered.distinct, fun before name after split other depends => ?_⟩, listed⟩
    obtain ⟨root, rooted, path⟩ := (listed name).mp (by rw [split]; simp)
    exact ordered.behind before name after split other ((leafy root rooted name path other).mpr depends)

/-- The traversal compares leaves and stops at a depth: where the leaves make no difference it is a post-order
exactly when the depth makes none. -/
theorem coverTraversal_bindOrder (acyclic : Acyclic g withoutImages walk) (leafy : Leafy g withoutImages walk entries)
    (withoutSymbols : List Text) :
    BindOrder g withoutImages walk entries (coverWalk g withoutImages withoutSymbols walk entries).order ↔
      Shallow walk entries := by
  have same : (coverWalk g withoutImages withoutSymbols walk entries).order =
      Traversals.visitAll (childrenOf walk.images) 201 (rootsOf walk.images entries) :=
    coverTraversal_eq walk.images entries
  rw [same, leafy.bindOrder_iff]
  exact Traversals.visitAll_postOrdered_iff (leafy.graph acyclic)

end Dependencies

section Samples

/-- The first phase for the executable. -/
def walkOf (g : Guest) : Walk := (walkQueue g [] 600 9 { queue := [("/app".toList, none)] }).getD { queue := [] }

def appRows (g : Guest) : List Entry := entryRows g "/app".toList

variable {g : Guest} {library : Text}

/-- Two images, of which the first depends on the second. -/
structure Pair (g : Guest) (library : Text) : Prop where
  differ : "/app".toList ≠ library
  keys : (walkOf g).images.map (·.1) = ["/app".toList, library]
  first : dependenciesOf g [] (walkOf g) "/app".toList = [library]
  second : dependenciesOf g [] (walkOf g) library = []

theorem Pair.depends (pair : Pair g library) {name other : Text} :
    Depends g [] (walkOf g) name other ↔ name = "/app".toList ∧ other = library := by
  constructor
  · intro depends
    have key : name ∈ (walkOf g).images.map (·.1) := by
      unfold Depends dependenciesOf at depends
      split at depends
      · cases depends
      · next record found => exact List.mem_map_of_mem (mem_of_lookup found)
    rw [pair.keys] at key
    simp only [List.mem_cons, List.not_mem_nil, or_false] at key
    rcases key with rfl | rfl
    · rw [Depends, pair.first] at depends
      exact ⟨rfl, List.mem_singleton.mp depends⟩
    · rw [Depends, pair.second] at depends
      cases depends
  · rintro ⟨rfl, rfl⟩
    rw [Depends, pair.first]
    exact List.mem_singleton_self _

theorem Pair.acyclic (pair : Pair g library) : Acyclic g [] (walkOf g) := by
  intro name cycle
  obtain ⟨_, first, _⟩ := TransGen.head'_iff.mp cycle
  obtain ⟨_, _, last⟩ := TransGen.tail'_iff.mp cycle
  exact pair.differ ((pair.depends.mp first).1.symm.trans (pair.depends.mp last).2)

theorem plainGuest_pair : Pair plainGuest "/usr/lib/libx.dylib".toList :=
  ⟨by decide, by decide +kernel, by decide +kernel, by decide +kernel⟩

theorem plainGuest_bindOrder : BindOrder plainGuest [] (walkOf plainGuest) (appRows plainGuest)
    (coverWalk plainGuest [] [] (walkOf plainGuest) (appRows plainGuest)).order := by
  have first : childrenOf (walkOf plainGuest).images "/app".toList = some ["/usr/lib/libx.dylib".toList] := by
    decide +kernel
  have second : childrenOf (walkOf plainGuest).images "/usr/lib/libx.dylib".toList = some [] := by decide +kernel
  have shallow : Shallow (walkOf plainGuest) (appRows plainGuest) := by
    unfold Shallow
    decide +kernel
  refine (coverTraversal_bindOrder plainGuest_pair.acyclic (fun root rooted name path other => ?_) []).mpr shallow
  rw [plainGuest_pair.depends]
  constructor
  · rintro ⟨next, found, member⟩
    obtain ⟨record, there, _⟩ := Option.map_eq_some_iff.mp found
    have key := List.mem_map_of_mem (f := fun item : Text × Record => item.1) (mem_of_lookup there)
    rw [plainGuest_pair.keys] at key
    simp only [List.mem_cons, List.not_mem_nil, or_false] at key
    rcases key with rfl | rfl
    · rw [first] at found
      obtain rfl := Option.some.inj found
      exact ⟨rfl, List.mem_singleton.mp member⟩
    · rw [second] at found
      obtain rfl := Option.some.inj found
      cases member
  · rintro ⟨rfl, rfl⟩
    exact ⟨_, first, List.mem_singleton_self _⟩

/-- The dependency is a file whose id has another leaf than the load command. -/
def relinkedGuest : Guest :=
  linked [("/usr/lib/libold.dylib", "/prefix/usr/lib/libnew.dylib", "/usr/lib/libnew.dylib")]

theorem relinkedGuest_pair : Pair relinkedGuest "/usr/lib/libnew.dylib".toList :=
  ⟨by decide, by decide +kernel, by decide +kernel, by decide +kernel⟩

/-- It is not listed. -/
theorem relinkedGuest_unordered :
    coverClosure relinkedGuest [] [] 600 9 ["/app".toList] =
      some (coverWalk relinkedGuest [] [] (walkOf relinkedGuest) (appRows relinkedGuest)) ∧
    Acyclic relinkedGuest [] (walkOf relinkedGuest) ∧
    ¬BindOrder relinkedGuest [] (walkOf relinkedGuest) (appRows relinkedGuest)
      (coverWalk relinkedGuest [] [] (walkOf relinkedGuest) (appRows relinkedGuest)).order := by
  refine ⟨by decide +kernel, relinkedGuest_pair.acyclic, fun bindOrder => ?_⟩
  have roots : rootsOf (walkOf relinkedGuest).images (appRows relinkedGuest) = ["/app".toList] := by decide +kernel
  have listed := (bindOrder.listed "/usr/lib/libnew.dylib".toList).mpr
    ⟨"/app".toList, by rw [roots]; exact List.mem_singleton_self _, .single (relinkedGuest_pair.depends.mpr ⟨rfl, rfl⟩)⟩
  exact absurd listed (by decide +kernel)

end Samples

end Darling.Covering
