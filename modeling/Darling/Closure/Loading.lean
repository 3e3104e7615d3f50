import Mathlib.Data.List.Perm.Subperm
import Darling.Library.Associations
import Darling.Closure.Covering

/-! The graph of `cover_closure` against the images that the entries load. -/
namespace Darling.Covering

open Texts (Text)

section Reaching

variable (g : Guest) (withoutImages : List Text)

/-- An image and the images that led to it, the nearest first. -/
abbrev Led := Text × List Text

/-- What the load commands of an image lead to. -/
def loadsOf (image : Led) : List Led :=
  (imageImports g image.1).dylibs.filterMap fun dylib =>
    (dependency g withoutImages dylib.installName image.1 image.2).map (·, image.1 :: image.2)

/-- The images that are loaded from a queue on: each once, with the chain of the image that first required it. -/
inductive Loads : List Led → List Led → List Led → Prop where
  | done {found : List Led} : Loads [] found found
  | again {image : Led} {queue found all : List Led} : image.1 ∈ found.map (·.1) → Loads queue found all →
      Loads (image :: queue) found all
  | load {image : Led} {queue found all : List Led} : image.1 ∉ found.map (·.1) →
      Loads (queue ++ loadsOf g withoutImages image) (found ++ [image]) all → Loads (image :: queue) found all

/-- The images that the entries start from. -/
def starts (entries : List Text) : List Led := (entries.flatMap (entryRows g)).filterMap fun row =>
    (row.start g).map (·, [])

variable {g withoutImages} {queue found all roots : List Led}

theorem Loads.grows (loads : Loads g withoutImages queue found all) : found <+: all := by
  induction loads with
  | done => exact List.prefix_refl _
  | again _ _ ih => exact ih
  | load _ _ ih => exact (List.prefix_append _ _).trans ih

end Reaching

section Tracking

variable (g : Guest) (withoutImages : List Text)

/-- The name of the image that required an image. -/
def requirer (image : Led) : Option Text := image.2.head?.map (nameOf g)

def recordOf (image : Led) : Record :=
  ⟨nameOf g image.1, image.1, (imageImports g image.1).dylibs, (imageImports g image.1).imports⟩

/-- The walk after the round for an image, with what is left of the queue. -/
def advance (walk : Walk) (image : Led) (queue : List Led) : Walk :=
  step g withoutImages { walk with queue := queue.map fun image => (image.1, requirer g image) } image.1
    (requirer g image)

/-- The walk has the images that were found, each under a name of its own. -/
structure Tracks (queue found : List Led) (walk : Walk) : Prop where
  paths : walk.closureOfPath = found.map (·.1)
  images : walk.images = found.map fun image => (nameOf g image.1, recordOf g image)
  names : (found.map fun image => nameOf g image.1).Nodup
  parents : ∀ image ∈ found, walk.parentOf.lookup (nameOf g image.1) = requirer g image
  others : ∀ name, (∀ image ∈ found, nameOf g image.1 ≠ name) → walk.parentOf.lookup name = none
  waiting : walk.queue = queue.map fun image => (image.1, requirer g image)
  chains : ∀ image ∈ queue ++ found, ∀ nearest rest, image.2 = nearest :: rest → (nearest, rest) ∈ found
  distinct : ∀ image ∈ found, (image.1 :: image.2).Nodup

variable {g withoutImages} {queue found all : List Led} {walk : Walk} {image : Led}

namespace Tracks

theorem chain_found (tracks : Tracks g queue found walk) {chain : List Text}
    (start : ∀ nearest rest, chain = nearest :: rest → (nearest, rest) ∈ found) :
    ∀ path ∈ chain, path ∈ found.map (·.1) := by
  induction chain with
  | nil => simp
  | cons nearest rest ih =>
    have here := start nearest rest rfl
    refine List.forall_mem_cons.mpr ⟨List.mem_map_of_mem here, ih fun next later same => ?_⟩
    exact tracks.chains _ (List.mem_append_right _ here) next later same

theorem name_injective (tracks : Tracks g queue found walk) {first second : Text} (listed : first ∈ found.map (·.1))
    (other : second ∈ found.map (·.1)) (same : nameOf g first = nameOf g second) : first = second := by
  obtain ⟨image, here, rfl⟩ := List.mem_map.mp listed
  obtain ⟨image', there, rfl⟩ := List.mem_map.mp other
  rw [List.inj_on_of_nodup_map tracks.names here there same]

theorem lookup_image (tracks : Tracks g queue found walk) (listed : image ∈ found) :
    walk.images.lookup (nameOf g image.1) = some (recordOf g image) := by
  have keys : (walk.images.map (·.1)).Nodup := by
    rw [tracks.images, List.map_map]
    exact tracks.names
  refine lookup_of_mem keys ?_
  rw [tracks.images]
  exact List.mem_map_of_mem listed

/-- The loop of `rpath_chain` gives the chain that led to the image. -/
theorem rpathsFrom_eq (tracks : Tracks g queue found walk) {chain : List Text}
    (start : ∀ nearest rest, chain = nearest :: rest → (nearest, rest) ∈ found) (distinct : chain.Nodup) :
    ∀ rounds seen, chain.length ≤ rounds → (∀ path ∈ chain, nameOf g path ∉ seen) →
      rpathsFrom walk rounds seen (chain.head?.map (nameOf g)) = chain := by
  induction chain with
  | nil =>
    intro rounds seen _ _
    cases rounds <;> rfl
  | cons nearest rest ih =>
    intro rounds seen long unseen
    have here := start nearest rest rfl
    have later : ∀ next others, rest = next :: others → (next, others) ∈ found := fun next others same =>
      tracks.chains _ (List.mem_append_right _ here) next others same
    obtain ⟨fresh, distinct⟩ := List.nodup_cons.mp distinct
    cases rounds with
    | zero => exact absurd long (by simp)
    | succ rounds =>
      have unseen_here : nameOf g nearest ∉ seen := unseen nearest List.mem_cons_self
      have record : walk.images.lookup (nameOf g nearest) = some (recordOf g (nearest, rest)) :=
        tracks.lookup_image here
      have parent : walk.parentOf.lookup (nameOf g nearest) = rest.head?.map (nameOf g) := tracks.parents _ here
      simp only [List.head?_cons, Option.map_some, rpathsFrom, if_neg unseen_here, record, parent]
      refine congrArg _ (ih later distinct rounds _ (Nat.le_of_succ_le_succ long) fun path listed => ?_)
      refine List.not_mem_cons_of_ne_of_not_mem (fun same => ?_) (unseen path (List.mem_cons_of_mem _ listed))
      have known := tracks.chain_found later path listed
      obtain rfl : path = nearest := tracks.name_injective known (List.mem_map_of_mem here) same
      exact fresh listed

theorem rpathChain_eq (tracks : Tracks g queue found walk) (listed : image ∈ found) :
    rpathChain walk (nameOf g image.1) = image.2 := by
  have start := tracks.chains image (List.mem_append_right _ listed)
  obtain ⟨fresh, distinct⟩ := List.nodup_cons.mp (tracks.distinct image listed)
  have inside := tracks.chain_found start
  have long : image.2.length ≤ walk.images.length := by
    rw [tracks.images, List.length_map, ← List.length_map (f := fun image : Led => image.1)]
    exact (distinct.subperm inside).length_le
  rw [rpathChain, tracks.parents image listed]
  refine tracks.rpathsFrom_eq start distinct _ _ long fun path later same => ?_
  have same := List.mem_singleton.mp same
  exact fresh (tracks.name_injective (inside path later) (List.mem_map_of_mem listed) same ▸ later)

end Tracks

theorem loads_eq (path name : Text) (chain : List Text) (dylibs : List Dylib) (walk : Walk) :
    ∃ unresolved, dylibs.foldl (load g withoutImages path name chain) walk =
      { walk with
        unresolved
        queue := walk.queue ++ dylibs.filterMap fun dylib =>
          (dependency g withoutImages dylib.installName path chain).map (·, some name) } := by
  induction dylibs generalizing walk with
  | nil => exact ⟨walk.unresolved, by simp⟩
  | cons dylib dylibs ih =>
    obtain ⟨unresolved, same⟩ := ih (load g withoutImages path name chain walk dylib)
    refine ⟨unresolved, ?_⟩
    rw [List.foldl_cons, same]
    unfold load
    cases resolved : dependency g withoutImages dylib.installName path chain with
    | none => simp [resolved]
    | some depPath => simp [resolved]

/-- The next image is read, under a new name. -/
theorem Tracks.step (tracks : Tracks g (image :: queue) found walk) (new : image.1 ∉ found.map (·.1))
    (fresh : nameOf g image.1 ∉ found.map fun image => nameOf g image.1) :
    Tracks g (queue ++ loadsOf g withoutImages image) (found ++ [image])
      (advance g withoutImages walk image queue) := by
  have unread : image.1 ∉ walk.closureOfPath := tracks.paths ▸ new
  set noted := note g { walk with queue := queue.map fun image => (image.1, requirer g image) } image.1
    (requirer g image) with noted_eq
  have images : noted.images = (found ++ [image]).map fun image => (nameOf g image.1, recordOf g image) := by
    have unused : nameOf g image.1 ∉ walk.images.map (·.1) := by
      rw [tracks.images, List.map_map]
      exact fresh
    change put walk.images (nameOf g image.1) (recordOf g image) = _
    rw [put_fresh unused, tracks.images, List.map_append, List.map_singleton]
  have lookups (name : Text) : noted.parentOf.lookup name = if name =
      nameOf g image.1 then requirer g image else walk.parentOf.lookup name := by
    cases parent : requirer g image with
    | some parent =>
      rw [noted_eq, parent]
      exact lookup_put
    | none =>
      rw [noted_eq, parent]
      split
      · next same =>
        subst same
        exact tracks.others _ fun other listed same => fresh (List.mem_map.mpr ⟨other, listed, same⟩)
      · rfl
  have inside : ∀ nearest rest, image.2 = nearest :: rest → (nearest, rest) ∈ found := tracks.chains image (by simp)
  have distinct : (image.1 :: image.2).Nodup := by
    refine List.nodup_cons.mpr ⟨fun listed => new (tracks.chain_found inside _ listed), ?_⟩
    cases chain : image.2 with
    | nil => exact List.nodup_nil
    | cons nearest rest => exact tracks.distinct _ (inside nearest rest chain)
  have tracked : Tracks g queue (found ++ [image]) noted := by
    refine ⟨?_, images, ?_, ?_, ?_, rfl, ?_, ?_⟩
    · change walk.closureOfPath ++ [image.1] = _
      rw [tracks.paths, List.map_append, List.map_singleton]
    · rw [List.map_append, List.map_singleton]
      exact List.Nodup.append tracks.names (List.nodup_singleton _) (by simpa using fresh)
    · intro other listed
      rw [lookups]
      rcases List.mem_append.mp listed with before | last
      · rw [if_neg fun same => fresh (List.mem_map.mpr ⟨other, before, same⟩), tracks.parents other before]
      · rw [List.mem_singleton.mp last, if_pos rfl]
    · intro name unnamed
      rw [lookups, if_neg fun same => unnamed image (by simp) same.symm]
      exact tracks.others name fun other listed => unnamed other (List.mem_append_left _ listed)
    · intro other listed nearest rest chain
      refine List.mem_append_left _ (tracks.chains other ?_ nearest rest chain)
      simp only [List.mem_append, List.mem_cons, List.not_mem_nil, or_false] at listed ⊢
      tauto
    · intro other listed
      rcases List.mem_append.mp listed with before | last
      · exact tracks.distinct other before
      · rw [List.mem_singleton.mp last]
        exact distinct
  have chain : rpathChain noted (nameOf g image.1) = image.2 := tracked.rpathChain_eq (by simp)
  obtain ⟨unresolved, loaded⟩ := @loads_eq g withoutImages image.1 (nameOf g image.1) image.2
      (imageImports g image.1).dylibs noted
  rw [advance, Covering.step, if_neg unread]
  simp only [← noted_eq, chain, loaded]
  refine ⟨tracked.paths, tracked.images, tracked.names, tracked.parents, tracked.others, ?_, ?_, tracked.distinct⟩
  · rw [tracked.waiting, List.map_append, loadsOf, List.map_filterMap]
    refine congrArg _ (List.filterMap_congr fun dylib _ => ?_)
    rw [Option.map_map]
    rfl
  · intro other listed nearest rest same
    simp only [List.mem_append, List.mem_singleton] at listed
    rcases listed with (waiting | next) | found'
    · exact tracked.chains other (List.mem_append_left _ waiting) nearest rest same
    · obtain ⟨dylib, _, resolved⟩ := List.mem_filterMap.mp next
      obtain ⟨depPath, _, rfl⟩ := Option.map_eq_some_iff.mp resolved
      obtain ⟨rfl, rfl⟩ := List.cons.inj same
      simp
    · exact tracked.chains other (List.mem_append_right _ (List.mem_append.mpr (found'.imp id List.mem_singleton.mpr)))
        nearest rest same

/-- The queue has a head that was read before. -/
theorem Tracks.skip (tracks : Tracks g (image :: queue) found walk) (known : image.1 ∈ found.map (·.1)) :
    Tracks g queue found (advance g withoutImages walk image queue) := by
  have read : image.1 ∈ walk.closureOfPath := tracks.paths ▸ known
  rw [advance, Covering.step, if_pos read]
  exact { tracks with
    waiting := rfl
    chains := fun other listed => tracks.chains other (List.mem_cons_of_mem _ listed) }

/-- One round of the loop over the queue. -/
theorem Tracks.round (tracks : Tracks g (image :: queue) found walk) {maxImages : Nat} (few : found.length < maxImages)
    (fuel : Nat) :
    walkQueue g withoutImages maxImages (fuel + 1) walk =
      walkQueue g withoutImages maxImages fuel (advance g withoutImages walk image queue) := by
  have images : walk.images.length < maxImages := by rwa [tracks.images, List.length_map]
  rw [walkQueue, tracks.waiting, List.map_cons]
  simp only [if_pos images, advance]

theorem Tracks.stop (tracks : Tracks g queue found walk) {maxImages : Nat} (full : maxImages ≤ found.length)
    (fuel : Nat) :
    walkQueue g withoutImages maxImages (fuel + 1) walk = some walk := by
  have images : ¬walk.images.length < maxImages := by rwa [tracks.images, List.length_map, Nat.not_lt]
  rw [walkQueue]
  cases walk.queue with
  | nil => rfl
  | cons head rest => simp only [if_neg images]

/-- With distinct names the walk finds what is loaded. By induction on the loading. -/
theorem Tracks.finds (loads : Loads g withoutImages queue found all) (tracks : Tracks g queue found walk)
    (names : (all.map fun image => nameOf g image.1).Nodup) {maxImages : Nat} (few : all.length ≤ maxImages) :
    ∃ fuel walk' queue', walkQueue g withoutImages maxImages fuel walk = some walk' ∧ Tracks g queue' all walk' := by
  induction loads generalizing walk with
  | done =>
    refine ⟨1, walk, [], ?_, tracks⟩
    rw [walkQueue, tracks.waiting]
    rfl
  | @again image queue found all known later ih =>
    by_cases room : found.length < maxImages
    · obtain ⟨fuel, walk', queue', run, last⟩ := ih (tracks.skip known) names few
      exact ⟨fuel + 1, walk', queue', by rw [tracks.round room]; exact run, last⟩
    · obtain rfl := later.grows.eq_of_length (by have := later.grows.length_le; omega)
      exact ⟨1, walk, _, tracks.stop (Nat.le_of_not_lt room) 0, tracks⟩
  | @load image queue found all new later ih =>
    have grows := later.grows
    have room : found.length < maxImages := by
      have := grows.length_le
      rw [List.length_append, List.length_singleton] at this
      omega
    have fresh : nameOf g image.1 ∉ found.map fun image => nameOf g image.1 := by
      have := (grows.sublist.map fun image => nameOf g image.1).nodup names
      rw [List.map_append, List.nodup_append] at this
      exact fun listed => this.2.2 _ listed _ (by simp) rfl
    obtain ⟨fuel, walk', queue', run, last⟩ := ih (tracks.step new fresh) names few
    exact ⟨fuel + 1, walk', queue', by rw [tracks.round room]; exact run, last⟩

end Tracking

section Losing

variable {g : Guest} {withoutImages : List Text} {queue found all : List Led} {walk walk' : Walk} {path : Text}

/-- The path was read and has no record. -/
structure Lost (path : Text) (walk : Walk) : Prop where
  read : path ∈ walk.closureOfPath
  absent : ∀ item ∈ walk.images, item.2.path ≠ path

theorem step_new {next : Text} {parent : Option Text} (unread : next ∉ walk.closureOfPath) :
    (step g withoutImages walk next parent).closureOfPath = walk.closureOfPath ++ [next] ∧
      (step g withoutImages walk next parent).images =
        put walk.images (nameOf g next) ⟨nameOf g next, next, (imageImports g next).dylibs,
          (imageImports g next).imports⟩ := by
  obtain ⟨unresolved, loaded⟩ := @loads_eq g withoutImages next (nameOf g next)
      (rpathChain (note g walk next parent) (nameOf g next))
    (imageImports g next).dylibs (note g walk next parent)
  rw [Covering.step, if_neg unread]
  simp only [loaded]
  exact ⟨rfl, rfl⟩

theorem Lost.step (lost : Lost path walk) (next : Text) (parent : Option Text) :
    Lost path (step g withoutImages walk next parent) := by
  by_cases read : next ∈ walk.closureOfPath
  · rwa [Covering.step, if_pos read]
  · obtain ⟨paths, images⟩ := @step_new g withoutImages walk next parent read
    refine ⟨paths ▸ List.mem_append_left _ lost.read, fun item listed => ?_⟩
    rw [images] at listed
    rcases mem_put listed with rfl | ⟨before, _⟩
    · rintro rfl
      exact read lost.read
    · exact lost.absent item before

theorem Lost.run {maxImages fuel : Nat} (lost : Lost path walk)
    (run : walkQueue g withoutImages maxImages fuel walk = some walk') :
    Lost path walk' := by
  induction fuel generalizing walk with
  | zero => cases run
  | succ fuel ih =>
    rw [walkQueue] at run
    split at run
    · cases run
      exact lost
    · split at run
      · refine ih (Lost.step ?_ _ _) run
        exact ⟨lost.read, lost.absent⟩
      · cases run
        exact lost

/-- A second image with the name of a first takes its place. -/
theorem Tracks.loses {image first : Led} (tracks : Tracks g (image :: queue) found walk)
    (new : image.1 ∉ found.map (·.1))
    (listed : first ∈ found) (same : nameOf g first.1 = nameOf g image.1) :
    Lost first.1 (advance g withoutImages walk image queue) := by
  have unread : image.1 ∉ walk.closureOfPath := tracks.paths ▸ new
  have before : first.1 ∈ walk.closureOfPath := tracks.paths ▸ List.mem_map_of_mem listed
  obtain ⟨paths, images⟩ := @step_new g withoutImages
      { walk with queue := queue.map fun image => (image.1, requirer g image) }
    image.1 (requirer g image) unread
  refine ⟨paths ▸ List.mem_append_left _ before, fun item kept path => ?_⟩
  rw [advance, images] at kept
  rcases mem_put kept with rfl | ⟨old, other⟩
  · exact new (List.mem_map.mpr ⟨first, listed, path.symm⟩)
  · rw [tracks.images] at old
    obtain ⟨image', _, rfl⟩ := List.mem_map.mp old
    exact other (by rw [← same, ← path]; rfl)

/-- Where two images have one name, a path that is loaded has no record. By induction on the loading. -/
theorem Tracks.misses (loads : Loads g withoutImages queue found all) (tracks : Tracks g queue found walk)
    (shared : ¬(all.map fun image => nameOf g image.1).Nodup) {maxImages fuel : Nat} (few : all.length ≤ maxImages)
    (run : walkQueue g withoutImages maxImages fuel walk = some walk') :
    ∃ image ∈ all, ∀ item ∈ walk'.images, item.2.path ≠ image.1 := by
  induction loads generalizing walk fuel with
  | done => exact absurd tracks.names shared
  | @again image queue found all known later ih =>
    cases fuel with
    | zero => cases run
    | succ fuel =>
      by_cases room : found.length < maxImages
      · rw [tracks.round room] at run
        exact ih (tracks.skip known) shared few run
      · obtain rfl := later.grows.eq_of_length (by have := later.grows.length_le; omega)
        exact absurd tracks.names shared
  | @load image queue found all new later ih =>
    cases fuel with
    | zero => cases run
    | succ fuel =>
      have room : found.length < maxImages := by
        have := later.grows.length_le
        rw [List.length_append, List.length_singleton] at this
        omega
      rw [tracks.round room] at run
      by_cases fresh : nameOf g image.1 ∈ found.map fun image => nameOf g image.1
      · obtain ⟨first, listed, same⟩ := List.mem_map.mp fresh
        have lost := (tracks.loses new listed same).run run
        exact ⟨first, later.grows.subset (List.mem_append_left _ listed), lost.absent⟩
      · exact ih (tracks.step new fresh) shared few run

end Losing

section Labelled

variable {g : Guest} {withoutImages withoutSymbols : List Text} {walk : Walk} {name : Text} {record : Record}

/-- Every import of the image has a label. -/
def Labelling.Has (at_ : Labelling) (name : Text) (record : Record) : Prop :=
  ∃ labelled, at_.labelled.lookup name = some labelled ∧ labelled.map (·.1) = record.imports

theorem labelImage_has (found : walk.images.lookup name = some record) (closurePaths : List Text) (at_ : Labelling)
    (other : Text)
    (has : other = name ∨ at_.Has name record) :
    (labelImage g withoutImages withoutSymbols walk closurePaths at_ other).Has name record := by
  unfold labelImage
  cases there : walk.images.lookup other with
  | none =>
    refine has.resolve_left ?_
    rintro rfl
    rw [found] at there
    cases there
  | some record' =>
    by_cases same : name = other
    · subst same
      rw [found] at there
      obtain rfl := Option.some.inj there
      exact ⟨_, by rw [lookup_put, if_pos rfl], by rw [List.map_map]; exact List.map_id _⟩
    · obtain ⟨labelled, before, all⟩ := has.resolve_left (Ne.symm same)
      exact ⟨labelled, by rw [lookup_put, if_neg same, before], all⟩

theorem labelImages_has (found : walk.images.lookup name = some record) (closurePaths names : List Text)
    (at_ : Labelling)
    (has : name ∈ names ∨ at_.Has name record) :
    (names.foldl (labelImage g withoutImages withoutSymbols walk closurePaths) at_).Has name record := by
  induction names generalizing at_ with
  | nil => exact has.resolve_left List.not_mem_nil
  | cons other names ih =>
    refine ih _ ?_
    rw [List.mem_cons] at has
    rcases has with (same | later) | before
    · exact .inr (labelImage_has found closurePaths at_ other (.inl same.symm))
    · exact .inl later
    · exact .inr (labelImage_has found closurePaths at_ other (.inr before))

/-- The graph has a record for the path, with all its imports labelled. -/
def Graph.Covers (g : Guest) (graph : Graph) (path : Text) : Prop :=
  ∃ item ∈ graph.images, item.2.record.path = path ∧ item.2.imports.map (·.1) = (imageImports g path).imports ∧
    ∀ imp ∈ item.2.imports, imp.2.isSome

theorem Tracks.covers {queue found : List Led} (tracks : Tracks g queue found walk) (rows : List Entry) {image : Led}
    (listed : image ∈ found) :
    (coverWalk g withoutImages withoutSymbols walk rows).Covers g image.1 := by
  have lookup := tracks.lookup_image listed
  have member := mem_of_lookup lookup
  set order := coverTraversal walk.images rows with order_eq
  have visited : nameOf g image.1 ∈ order ++ (walk.images.map (·.1)).filter (· ∉ order) := by
    by_cases early : nameOf g image.1 ∈ order
    · exact List.mem_append_left _ early
    · exact List.mem_append_right _ (List.mem_filter.mpr ⟨List.mem_map_of_mem member, by simpa using early⟩)
  obtain ⟨labelled, found, all⟩ := @labelImages_has g withoutImages withoutSymbols walk _ _ lookup
    (pathsOf walk (order ++ (walk.images.map (·.1)).filter (· ∉ order)))
    (order ++ (walk.images.map (·.1)).filter (· ∉ order)) {} (.inl visited)
  refine ⟨_, List.mem_map_of_mem member, rfl, ?_, ?_⟩
  · simp only [← order_eq, found, List.map_map]
    exact all
  · simp only [← order_eq, found, List.mem_map]
    rintro imp ⟨pair, _, rfl⟩
    rfl

end Labelled

section Completeness

variable {g : Guest} {withoutImages withoutSymbols : List Text} {maxImages : Nat} {entries : List Text}
    {found : List Led}

theorem tracks_start (entries : List Text) :
    Tracks g (starts g entries) []
      { queue := (entries.flatMap (entryRows g)).filterMap fun row => (row.start g).map (·, none) } where
  paths := rfl
  images := rfl
  names := List.nodup_nil
  parents := by simp
  others := by simp
  waiting := by
    rw [starts, List.map_filterMap]
    refine List.filterMap_congr fun row _ => ?_
    rw [Option.map_map]
    rfl
  chains := by
    intro image listed nearest rest chain
    rw [List.append_nil] at listed
    obtain ⟨row, _, start⟩ := List.mem_filterMap.mp listed
    obtain ⟨path, _, rfl⟩ := Option.map_eq_some_iff.mp start
    cases chain
  distinct := by simp

/-- Of images with one name, one has no record. -/
theorem uncovered (loads : Loads g withoutImages (starts g entries) [] found) (few : found.length ≤ maxImages)
    (shared : ¬(found.map fun image => nameOf g image.1).Nodup) {fuel : Nat} {graph : Graph}
    (returned : coverClosure g withoutImages withoutSymbols maxImages fuel entries = some graph) :
    ∃ image ∈ found, ¬graph.Covers g image.1 := by
  obtain ⟨walk, run, rfl⟩ := Option.map_eq_some_iff.mp returned
  obtain ⟨image, listed, absent⟩ := (tracks_start entries).misses loads shared few run
  refine ⟨image, listed, fun ⟨item, kept, path, _⟩ => ?_⟩
  obtain ⟨old, before, rfl⟩ := List.mem_map.mp kept
  exact absent old before path

/-- The walk skips paths that it has read but keeps the records by name: no image is lost exactly when no two have
one name. -/
theorem coverClosure_complete (loads : Loads g withoutImages (starts g entries) [] found)
    (few : found.length ≤ maxImages) :
    (∃ fuel graph, coverClosure g withoutImages withoutSymbols maxImages fuel entries = some graph ∧
      ∀ image ∈ found, graph.Covers g image.1) ↔ (found.map fun image => nameOf g image.1).Nodup := by
  constructor
  · rintro ⟨fuel, graph, returned, covers⟩
    by_contra shared
    obtain ⟨image, listed, missed⟩ := uncovered loads few shared returned
    exact missed (covers image listed)
  · intro names
    obtain ⟨fuel, walk, queue, run, tracks⟩ := (tracks_start entries).finds loads names few
    exact ⟨fuel, _, by rw [coverClosure, run]; rfl, fun image listed => tracks.covers _ listed⟩

/-- An executable and the files that its load commands lead to, each with an id. -/
def linked (loads : List (String × String × String)) : Guest where
  isFile path := path = "/app".toList
  runLog _ := none
  slice path :=
    if path = "/app".toList then some ⟨true, true, none, loads.map fun load => ⟨load.1.toList, false, false⟩, []⟩
    else (loads.find? fun load => load.2.1.toList = path).map fun load => ⟨true, true, some load.2.2.toList, [], []⟩
  resolver installName _ _ := (loads.find? fun load => load.1.toList = installName).map fun load => load.2.1.toList
  exportsDetail _ := ⟨[], []⟩
  reexportsOf _ := []
  real path := path

/-- One dependency with an id of its own. -/
def plainGuest : Guest := linked [("/usr/lib/libx.dylib", "/prefix/usr/lib/libx.dylib", "/usr/lib/libx.dylib")]

def plainFound : List Led := [("/app".toList, []), ("/prefix/usr/lib/libx.dylib".toList, ["/app".toList])]

theorem plainGuest_loads : Loads plainGuest [] (starts plainGuest ["/app".toList]) [] plainFound := by
  have entry : starts plainGuest ["/app".toList] = [("/app".toList, [])] := by decide +kernel
  have first : loadsOf plainGuest [] ("/app".toList, []) =
      [("/prefix/usr/lib/libx.dylib".toList, ["/app".toList])] := by
    decide +kernel
  have second : loadsOf plainGuest [] ("/prefix/usr/lib/libx.dylib".toList, ["/app".toList]) = [] := by decide +kernel
  rw [entry]
  refine .load (by simp) ?_
  rw [first]
  refine .load (by decide +kernel) ?_
  rw [second]
  exact .done

theorem plainGuest_complete : (∃ fuel graph, coverClosure plainGuest [] [] 600 fuel ["/app".toList] = some graph ∧
    ∀ image ∈ plainFound, graph.Covers plainGuest image.1) ∧ plainFound.length = 2 := by
  refine ⟨(coverClosure_complete plainGuest_loads (by decide)).mpr (by decide +kernel), rfl⟩

/-- Two dependencies that carry one id. -/
def twinGuest : Guest :=
  linked [("@rpath/libx.dylib", "/app.libs/libx.dylib", "/usr/lib/libx.dylib"),
    ("/usr/lib/libx.dylib", "/prefix/usr/lib/libx.dylib", "/usr/lib/libx.dylib")]

def twinFound : List Led :=
  [("/app".toList, []), ("/app.libs/libx.dylib".toList, ["/app".toList]),
    ("/prefix/usr/lib/libx.dylib".toList, ["/app".toList])]

/-- The second takes the place of the first. -/
theorem twinGuest_loses : Loads twinGuest [] (starts twinGuest ["/app".toList]) [] twinFound ∧
    ¬∃ fuel graph, coverClosure twinGuest [] [] 600 fuel ["/app".toList] = some graph ∧ ∀ image ∈ twinFound,
      graph.Covers twinGuest image.1 := by
  have entry : starts twinGuest ["/app".toList] = [("/app".toList, [])] := by decide +kernel
  have first : loadsOf twinGuest [] ("/app".toList, []) =
      [("/app.libs/libx.dylib".toList, ["/app".toList]), ("/prefix/usr/lib/libx.dylib".toList, ["/app".toList])] := by
    decide +kernel
  have second : loadsOf twinGuest [] ("/app.libs/libx.dylib".toList, ["/app".toList]) = [] := by decide +kernel
  have third : loadsOf twinGuest [] ("/prefix/usr/lib/libx.dylib".toList, ["/app".toList]) = [] := by decide +kernel
  have loads : Loads twinGuest [] (starts twinGuest ["/app".toList]) [] twinFound := by
    rw [entry]
    refine .load (by simp) ?_
    rw [first]
    refine .load (by decide +kernel) ?_
    rw [second]
    refine .load (by decide +kernel) ?_
    rw [third]
    exact .done
  refine ⟨loads, fun ⟨fuel, graph, returned, covers⟩ => ?_⟩
  obtain ⟨image, listed, missed⟩ := uncovered loads (by decide) (by decide +kernel) returned
  exact missed (covers image listed)

end Completeness

end Darling.Covering
