import Mathlib.Data.List.Nodup
import Mathlib.Logic.Relation

/-! Depth-first traversals that list a node after everything that it leads to. -/
namespace Darling.Traversals

open Relation (ReflTransGen TransGen)

variable {α : Type}

/-- The nodes that are listed and those on the way to the current one. -/
structure Visiting (α : Type) where
  done : List α := []
  inProgress : List α := []
  deriving DecidableEq

section Code

variable [DecidableEq α] (children : α → Option (List α))

/-- With so many levels left before the traversal is cut off; a node without children is no node. -/
def visit : Nat → α → Visiting α → Visiting α
  | 0, _, at_ => at_
  | levels + 1, a, at_ =>
    if a ∈ at_.inProgress ∨ a ∈ at_.done then at_
    else
      match children a with
      | none => at_
      | some next =>
        let within := next.foldl (fun at_ b => visit levels b at_) { at_ with inProgress := a :: at_.inProgress }
        { done := within.done ++ [a], inProgress := within.inProgress.filter (· ≠ a) }

def visitAll (levels : Nat) (roots : List α) : List α :=
  (roots.foldl (fun at_ root => visit children levels root at_) {}).done

/-- A depth-first walk that lists the nodes behind those it has listed, and gives up where it meets a new node with
no level left. -/
def explore : Nat → α → List α → Option (List α)
  | 0, a, done => if a ∈ done then some done else none
  | levels + 1, a, done =>
    if a ∈ done then some done
    else (((children a).getD []).foldlM (fun done b => explore levels b done) done).map (· ++ [a])

def exploreAll (levels : Nat) (roots : List α) : Option (List α) :=
  roots.foldlM (fun done root => explore children levels root done) []

end Code

/-- One node leads to another. -/
def Edge (children : α → Option (List α)) (a b : α) : Prop := ∃ next, children a = some next ∧ b ∈ next

/-- Each node is listed once, behind the nodes that it leads to. -/
structure PostOrdered (edge : α → α → Prop) (done : List α) : Prop where
  distinct : done.Nodup
  behind : ∀ before a after, done = before ++ a :: after → ∀ b, edge a b → b ∈ before

theorem PostOrdered.nil (edge : α → α → Prop) : PostOrdered edge [] := ⟨List.nodup_nil, by simp⟩

theorem PostOrdered.snoc {edge : α → α → Prop} {done : List α} {a : α} (ordered : PostOrdered edge done)
    (fresh : a ∉ done)
    (met : ∀ b, edge a b → b ∈ done) : PostOrdered edge (done ++ [a]) where
  distinct := List.Nodup.append ordered.distinct (List.nodup_singleton a) (by simpa using fresh)
  behind before c after split b leads := by
    rcases List.eq_nil_or_concat after with none | ⟨rest, last, more⟩
    · subst none
      obtain ⟨rfl, same⟩ := List.append_inj' split rfl
      obtain rfl : a = c := (List.cons.inj same).1
      exact met b leads
    · rw [List.concat_eq_append] at more
      subst more
      have earlier : done ++ [a] = (before ++ c :: rest) ++ [last] := by simpa using split
      exact ordered.behind before c rest (List.append_inj' earlier rfl).1 b leads

/-- What was listed first is in order by itself. -/
theorem PostOrdered.of_prefix {edge : α → α → Prop} {done more : List α} (grows : done <+: more)
    (ordered : PostOrdered edge more) : PostOrdered edge done := by
  obtain ⟨later, rfl⟩ := grows
  refine ⟨ordered.distinct.of_append_left, fun before a after split => ?_⟩
  exact ordered.behind before a (after ++ later) (by rw [split]; simp)

section Orders

variable [DecidableEq α] {children : α → Option (List α)} {roots : List α} {levels : Nat} {a : α}

/-- What the traversal may assume of the graph below its roots. -/
structure Rooted (children : α → Option (List α)) (roots : List α) : Prop where
  nodes : ∀ root ∈ roots, (children root).isSome
  closed : ∀ a b, Edge children a b → (children b).isSome
  acyclic : ∀ root ∈ roots, ∀ a, ReflTransGen (Edge children) root a → ¬TransGen (Edge children) a a

/-- A node that is met for the first time. -/
theorem visit_new {done way next : List α} (outside : a ∉ way) (fresh : a ∉ done) (here : children a = some next) :
    visit children (levels + 1) a ⟨done, way⟩ =
      { done := (next.foldl (fun at_ b => visit children levels b at_) ⟨done, a :: way⟩).done ++ [a]
        inProgress := (next.foldl (fun at_ b => visit children levels b at_) ⟨done, a :: way⟩).inProgress.filter
          (· ≠ a) } := by
  rw [visit, if_neg (not_or.mpr ⟨outside, fresh⟩), here]

theorem filter_way {way : List α} (outside : a ∉ way) : (a :: way).filter (· ≠ a) = way := by
  rw [List.filter_cons_of_neg (by simp)]
  exact List.filter_eq_self.mpr fun x inside => decide_eq_true fun here => outside (here ▸ inside)

/-- A visit only lists more, and leaves the way that led to it. -/
theorem visit_grows (levels : Nat) (a : α) (at_ : Visiting α) :
    at_.done <+: (visit children levels a at_).done ∧ (visit children levels a at_).inProgress = at_.inProgress := by
  induction levels generalizing a at_ with
  | zero => exact ⟨List.prefix_refl _, rfl⟩
  | succ levels ih =>
    have all (nodes : List α) (now : Visiting α) :
        now.done <+: (nodes.foldl (fun at_ b => visit children levels b at_) now).done ∧
          (nodes.foldl (fun at_ b => visit children levels b at_) now).inProgress = now.inProgress := by
      induction nodes generalizing now with
      | nil => exact ⟨List.prefix_refl _, rfl⟩
      | cons b nodes later =>
        obtain ⟨grows, same⟩ := later (visit children levels b now)
        exact ⟨(ih b now).1.trans grows, same.trans (ih b now).2⟩
    rw [visit]
    split
    · exact ⟨List.prefix_refl _, rfl⟩
    next fresh =>
      obtain ⟨outside, _⟩ := not_or.mp fresh
      cases children a with
      | none => exact ⟨List.prefix_refl _, rfl⟩
      | some next =>
        obtain ⟨grows, same⟩ := all next { at_ with inProgress := a :: at_.inProgress }
        refine ⟨grows.trans (List.prefix_append _ _), ?_⟩
        dsimp only
        rw [same, filter_way outside]

theorem foldl_grows (levels : Nat) (nodes : List α) (at_ : Visiting α) :
    at_.done <+: (nodes.foldl (fun at_ b => visit children levels b at_) at_).done := by
  induction nodes generalizing at_ with
  | nil => exact List.prefix_refl _
  | cons b nodes ih => exact (visit_grows levels b at_).1.trans (ih _)

/-- What a walk has listed once it is through with some nodes. -/
structure Explored (children : α → Option (List α)) (below : α → Prop) (before after : List α) : Prop where
  grows : before <+: after
  new : ∀ a ∈ after, a ∈ before ∨ below a
  ordered : PostOrdered (Edge children) before → PostOrdered (Edge children) after

omit [DecidableEq α] in
theorem Explored.refl (below : α → Prop) (done : List α) : Explored children below done done :=
  ⟨List.prefix_refl _, fun _ => .inl, id⟩

omit [DecidableEq α] in
theorem Explored.trans {below : α → Prop} {first second third : List α} (one : Explored children below first second)
    (two : Explored children below second third) : Explored children below first third where
  grows := one.grows.trans two.grows
  new a listed := (two.new a listed).elim (one.new a) .inr
  ordered := two.ordered ∘ one.ordered

omit [DecidableEq α] in
theorem Explored.mono {below wider : α → Prop} {first second : List α} (explored : Explored children below first second)
    (wide : ∀ a, below a → wider a) : Explored children wider first second :=
  { explored with new := fun a listed => (explored.new a listed).imp_right (wide a) }

/-- Walks one after the other, each of which the traversal follows and which lists its node. -/
theorem foldlM_explored {below : α → Prop} {nodes : List α} {done found : List α} {way : List α}
    (each : ∀ b ∈ nodes, ∀ now later, explore children levels b now = some later →
      visit children levels b ⟨now, way⟩ = ⟨later, way⟩ ∧ Explored children below now later ∧ b ∈ later)
    (walked : nodes.foldlM (fun done b => explore children levels b done) done = some found) :
    nodes.foldl (fun at_ b => visit children levels b at_) ⟨done, way⟩ = ⟨found, way⟩ ∧
      Explored children below done found ∧ ∀ b ∈ nodes, b ∈ found := by
  induction nodes generalizing done with
  | nil =>
    obtain rfl := Option.some.inj walked
    exact ⟨rfl, .refl below _, by simp⟩
  | cons b nodes ih =>
    rw [List.foldlM_cons, Option.bind_eq_bind, Option.bind_eq_some_iff] at walked
    obtain ⟨now, first, walked⟩ := walked
    obtain ⟨here, explored, listed⟩ := each b List.mem_cons_self done now first
    obtain ⟨rest, later, all⟩ := ih (fun c member => each c (List.mem_cons_of_mem b member)) walked
    refine ⟨?_, explored.trans later, List.forall_mem_cons.mpr ⟨later.grows.subset listed, all⟩⟩
    rw [List.foldl_cons, here, rest]

/-- The traversal follows a walk that does not give up, by induction on the levels that are left. -/
theorem visit_explored (graph : Rooted children roots) {root : α} (rooted : root ∈ roots) (levels : Nat) :
    ∀ a done found way, ReflTransGen (Edge children) root a → (children a).isSome →
      (∀ x ∈ way, TransGen (Edge children) x a) → explore children levels a done = some found →
      visit children levels a ⟨done, way⟩ = ⟨found, way⟩ ∧
        Explored children (ReflTransGen (Edge children) a) done found ∧ a ∈ found := by
  induction levels with
  | zero =>
    intro a done found way _ _ _ walked
    rw [explore] at walked
    split at walked
    next listed =>
      obtain rfl := Option.some.inj walked
      exact ⟨rfl, .refl _ _, listed⟩
    · cases walked
  | succ levels ih =>
    intro a done found way reached node above walked
    have below := graph.acyclic root rooted a reached
    have outside : a ∉ way := fun inside => below (above a inside)
    rw [explore] at walked
    split at walked
    next listed =>
      obtain rfl := Option.some.inj walked
      exact ⟨by rw [visit, if_pos (.inr listed)], .refl _ _, listed⟩
    next listed =>
      obtain ⟨next, here⟩ := Option.isSome_iff_exists.mp node
      rw [here, Option.getD_some, Option.map_eq_some_iff] at walked
      obtain ⟨within, walked, rfl⟩ := walked
      have leads (b : α) (member : b ∈ next) : Edge children a b := ⟨next, here, member⟩
      have each : ∀ b ∈ next, ∀ now later, explore children levels b now = some later →
          visit children levels b ⟨now, a :: way⟩ = ⟨later, a :: way⟩ ∧
            Explored children (TransGen (Edge children) a) now later ∧ b ∈ later := by
        intro b member now later first
        obtain ⟨same, explored, added⟩ := ih b now later (a :: way) (reached.tail (leads b member))
          (graph.closed a b (leads b member))
          (List.forall_mem_cons.mpr ⟨.single (leads b member), fun x inside =>
            (above x inside).tail (leads b member)⟩) first
        exact ⟨same, explored.mono fun c path => TransGen.head' (leads b member) path, added⟩
      obtain ⟨visited, explored, all⟩ := foldlM_explored each walked
      have fresh : a ∉ within := fun inside => (explored.new a inside).elim listed below
      refine ⟨?_, ⟨explored.grows.trans (List.prefix_append _ _), ?_, fun ordered => ?_⟩, by simp⟩
      · rw [visit_new outside listed here, visited, filter_way outside]
      · intro c member
        rcases List.mem_append.mp member with early | last
        · exact (explored.new c early).imp_right TransGen.to_reflTransGen
        · exact .inr (List.mem_singleton.mp last ▸ .refl)
      · refine (explored.ordered ordered).snoc fresh fun b leads => ?_
        obtain ⟨next', here', member⟩ := leads
        rw [here] at here'
        obtain rfl := Option.some.inj here'
        exact all b member

/-- Where walks one after the other give up, there is a first one that does. -/
theorem foldlM_stuck {nodes done : List α}
    (stuck : nodes.foldlM (fun done b => explore children levels b done) done = none) :
    ∃ before b after now, nodes = before ++ b :: after ∧
      before.foldlM (fun done b => explore children levels b done) done = some now ∧
      explore children levels b now = none := by
  induction nodes generalizing done with
  | nil => cases stuck
  | cons b nodes ih =>
    rw [List.foldlM_cons] at stuck
    cases first : explore children levels b done with
    | none => exact ⟨[], b, nodes, done, rfl, rfl, first⟩
    | some now =>
      rw [first] at stuck
      obtain ⟨before, c, after, later, split, walked, here⟩ := ih stuck
      refine ⟨b :: before, c, after, later, by rw [split]; rfl, ?_, here⟩
      rw [List.foldlM_cons, first]
      exact walked

/-- With no level left nothing is listed. -/
theorem foldl_cut (nodes : List α) (at_ : Visiting α) :
    nodes.foldl (fun at_ b => visit children 0 b at_) at_ = at_ := by
  induction nodes with
  | nil => rfl
  | cons b nodes ih => exact ih

theorem foldlM_cut {nodes done found : List α}
    (walked : nodes.foldlM (fun done b => explore children 0 b done) done = some found) : found = done := by
  induction nodes with
  | nil => exact (Option.some.inj walked).symm
  | cons b nodes ih =>
    rw [List.foldlM_cons, explore] at walked
    split at walked
    · exact ih walked
    · cases walked

/-- Where the walk gives up, the traversal lists a node without one that it leads to. -/
theorem visit_stuck (graph : Rooted children roots) {root : α} (rooted : root ∈ roots) (levels : Nat) :
    ∀ a done way, ReflTransGen (Edge children) root a → (children a).isSome →
      (∀ x ∈ way, TransGen (Edge children) x a) → explore children (levels + 1) a done = none →
      ¬PostOrdered (Edge children) (visit children (levels + 1) a ⟨done, way⟩).done := by
  induction levels with
  | zero =>
    intro a done way reached node above stuck ordered
    have outside : a ∉ way := fun inside => graph.acyclic root rooted a reached (above a inside)
    rw [explore] at stuck
    split at stuck
    · cases stuck
    next listed =>
      obtain ⟨next, here⟩ := Option.isSome_iff_exists.mp node
      rw [here, Option.getD_some, Option.map_eq_none_iff] at stuck
      obtain ⟨before, b, after, now, split, walked, new⟩ := foldlM_stuck stuck
      rw [visit_new outside listed here, foldl_cut] at ordered
      -- the first new child has to stand before the node, and nothing was added
      have met := ordered.behind done a [] rfl b ⟨next, here, by rw [split]; simp⟩
      rw [foldlM_cut walked, explore, if_pos met] at new
      cases new
  | succ levels ih =>
    intro a done way reached node above stuck ordered
    have below := graph.acyclic root rooted a reached
    have outside : a ∉ way := fun inside => below (above a inside)
    rw [explore] at stuck
    split at stuck
    · cases stuck
    next listed =>
      obtain ⟨next, here⟩ := Option.isSome_iff_exists.mp node
      rw [here, Option.getD_some, Option.map_eq_none_iff] at stuck
      obtain ⟨before, b, after, now, split, walked, new⟩ := foldlM_stuck stuck
      have leads (c : α) (member : c ∈ next) : Edge children a c := ⟨next, here, member⟩
      have wayTo (c : α) (member : c ∈ next) : ∀ x ∈ a :: way, TransGen (Edge children) x c :=
        List.forall_mem_cons.mpr ⟨.single (leads c member), fun x inside => (above x inside).tail (leads c member)⟩
      have each : ∀ c ∈ before, ∀ now later, explore children (levels + 1) c now = some later →
          visit children (levels + 1) c ⟨now, a :: way⟩ = ⟨later, a :: way⟩ ∧
            Explored children (fun _ => True) now later ∧ c ∈ later := by
        intro c member now later first
        have listed : c ∈ next := by
          rw [split]
          exact List.mem_append_left _ member
        obtain ⟨same, explored, added⟩ := visit_explored graph rooted (levels + 1) c now later (a :: way)
          (reached.tail (leads c listed)) (graph.closed a c (leads c listed)) (wayTo c listed) first
        exact ⟨same, explored.mono fun _ _ => trivial, added⟩
      have last : b ∈ next := by
        rw [split]
        simp
      refine ih b now (a :: way) (reached.tail (leads b last)) (graph.closed a b (leads b last)) (wayTo b last) new ?_
      refine ordered.of_prefix ?_
      rw [visit_new outside listed here, split, List.foldl_append, (foldlM_explored each walked).1, List.foldl_cons]
      exact (foldl_grows _ after _).trans (List.prefix_append _ _)

/-- Over a graph without cycles the traversal from the roots lists what they lead to, each node behind those that it
leads to, if and only if a depth-first walk gets by with the levels. -/
theorem visitAll_postOrdered_iff (graph : Rooted children roots) :
    (PostOrdered (Edge children) (visitAll children (levels + 1) roots) ∧
      ∀ a, a ∈ visitAll children (levels + 1) roots ↔ ∃ root ∈ roots, ReflTransGen (Edge children) root a) ↔
      (exploreAll children (levels + 1) roots).isSome := by
  have each : ∀ root ∈ roots, ∀ now later, explore children (levels + 1) root now = some later →
      visit children (levels + 1) root ⟨now, []⟩ = ⟨later, []⟩ ∧
        Explored children (fun a => ∃ root ∈ roots, ReflTransGen (Edge children) root a) now later ∧ root ∈ later := by
    intro root rooted now later first
    obtain ⟨same, explored, added⟩ :=
      visit_explored graph rooted (levels + 1) root now later [] .refl (graph.nodes root rooted) (by simp) first
    exact ⟨same, explored.mono fun a path => ⟨root, rooted, path⟩, added⟩
  constructor
  · rintro ⟨ordered, -⟩
    rw [Option.isSome_iff_ne_none]
    intro stuck
    obtain ⟨before, root, after, now, split, walked, new⟩ := foldlM_stuck stuck
    have rooted : root ∈ roots := by
      rw [split]
      simp
    refine visit_stuck graph rooted levels root now [] .refl (graph.nodes root rooted) (by simp) new
      (ordered.of_prefix ?_)
    have first := (foldlM_explored (fun c member =>
        each c (by rw [split]; exact List.mem_append_left _ member)) walked).1
    rw [visitAll, split, List.foldl_append, first, List.foldl_cons]
    exact foldl_grows _ after _
  · intro walks
    obtain ⟨found, walked⟩ := Option.isSome_iff_exists.mp walks
    obtain ⟨same, explored, all⟩ := foldlM_explored each walked
    have here : visitAll children (levels + 1) roots = found := congrArg Visiting.done same
    have ordered := explored.ordered (.nil _)
    rw [here]
    refine ⟨ordered, fun a => ⟨fun listed => (explored.new a listed).resolve_left List.not_mem_nil, ?_⟩⟩
    rintro ⟨root, rooted, path⟩
    induction path with
    | refl => exact all root rooted
    | @tail b c _ leads ih =>
      obtain ⟨before, after, split⟩ := List.append_of_mem ih
      rw [split]
      exact List.mem_append_left _ (ordered.behind before b after split c leads)

end Orders

end Darling.Traversals
