import Mathlib.Data.Finmap

/-! Keyed nodes that may name a parent. A lineage is the chain of keys from a node up to one without
a parent, all of them present; the lemmas say which changes of the map keep it. -/
namespace Darling

variable {κ β : Type} [DecidableEq κ]

inductive Lineage (parent : β → Option κ) (nodes : Finmap fun _ : κ => β) : κ → List κ → Prop
  | root {key : κ} {node : β} (found : nodes.lookup key = some node) (top : parent node = none) :
      Lineage parent nodes key [key]
  | child {key above : κ} {node : β} {line : List κ} (found : nodes.lookup key = some node)
      (linked : parent node = some above) (rest : Lineage parent nodes above line) :
      Lineage parent nodes key (key :: line)

/-- No node names the key as its parent. -/
def Childless (parent : β → Option κ) (nodes : Finmap fun _ : κ => β) (key : κ) : Prop :=
  ∀ other node, nodes.lookup other = some node → parent node ≠ some key

namespace Lineage

variable {parent : β → Option κ} {nodes : Finmap fun _ : κ => β} {key : κ} {line : List κ}

theorem found (lineage : Lineage parent nodes key line) : ∃ node, nodes.lookup key = some node := by
  cases lineage with
  | root found _ => exact ⟨_, found⟩
  | child found _ _ => exact ⟨_, found⟩

/-- A lineage only depends on the nodes it visits. -/
theorem transfer {nodes' : Finmap fun _ : κ => β} (lineage : Lineage parent nodes key line)
    (same : ∀ other ∈ line, ∀ node, nodes.lookup other = some node →
      ∃ node', nodes'.lookup other = some node' ∧ parent node' = parent node) :
    Lineage parent nodes' key line := by
  induction lineage with
  | root found top =>
    obtain ⟨node', found', linked'⟩ := same _ List.mem_cons_self _ found
    exact root found' (linked'.trans top)
  | child found linked _ induction =>
    obtain ⟨node', found', linked'⟩ := same _ List.mem_cons_self _ found
    exact child found' (linked'.trans linked) (induction fun other member => same other (List.mem_cons_of_mem _ member))

theorem insert_fresh (lineage : Lineage parent nodes key line) {added : κ} {node : β}
    (fresh : nodes.lookup added = none) : Lineage parent (nodes.insert added node) key line := by
  apply lineage.transfer
  intro other _ old found
  have apart : other ≠ added := by
    rintro rfl
    rw [fresh] at found
    cases found
  exact ⟨old, by rw [Finmap.lookup_insert_of_ne _ apart, found], rfl⟩

/-- A new version of a node with the same parent. -/
theorem insert_same (lineage : Lineage parent nodes key line) {changed : κ} {old new : β}
    (found : nodes.lookup changed = some old) (linked : parent new = parent old) :
    Lineage parent (nodes.insert changed new) key line := by
  apply lineage.transfer
  intro other _ node present
  by_cases same : other = changed
  · subst other
    rw [found] at present
    cases present
    exact ⟨new, Finmap.lookup_insert _, linked⟩
  · exact ⟨node, by rw [Finmap.lookup_insert_of_ne _ same, present], rfl⟩

theorem erase_childless (lineage : Lineage parent nodes key line) {gone : κ}
    (childless : Childless parent nodes gone) (apart : key ≠ gone) :
    Lineage parent (nodes.erase gone) key line := by
  induction lineage with
  | root found top => exact root (by rw [Finmap.lookup_erase_ne apart, found]) top
  | child found linked _ induction =>
    refine child (by rw [Finmap.lookup_erase_ne apart, found]) linked (induction ?_)
    rintro rfl
    exact childless _ _ found linked

end Lineage

end Darling
