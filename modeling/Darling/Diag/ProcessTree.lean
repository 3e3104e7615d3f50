import Darling.Diag.FutexTraces
import Darling.Library.Searches

/-! `process_tree`: the processes below a root, as the entries of the process table name their parents at the
moments at which they are read. -/
namespace Darling.Diag

open Darling.Searches

/-- An entry of `/proc`: its name, and its `status` file where that can still be read. -/
structure ProcEntry where
  name : Text
  status : Option Text

/-- `find_map` over the lines for the one that names the parent. Only the first such line is looked at. -/
def parentOf (status : Text) : Option Nat :=
  ((lines status).findSome? (valueOf "PPid:")).bind fun value => parseUnsigned 32 (trim value)

/-- The parent and the process of an entry; an entry that is no process, or whose process is gone, is left out. -/
def ProcEntry.edge (entry : ProcEntry) : Option (Nat × Nat) := do
  let pid ← parseUnsigned 32 entry.name
  let status ← entry.status
  let ppid ← parentOf status
  some (ppid, pid)

/-- `process_tree`. The map from a parent to its children is the list of the entries with that parent. -/
def processTree (entries : List ProcEntry) (root : Nat) : List Nat :=
  let edges := entries.filterMap ProcEntry.edge
  search edges (edges.length + 1) [root] []

/-- The second process was read as a child of the first. -/
def Parented (entries : List ProcEntry) (parent pid : Nat) : Prop := ∃ entry ∈ entries, entry.edge = some (parent, pid)

theorem edge_parented (entries : List ProcEntry) : Edge (entries.filterMap ProcEntry.edge) = Parented entries := by
  funext parent pid
  simp [Edge, Parented]

/-- Whatever the entries say of each other, also where they name each other as parents, the tree has the root and
the processes that were read as its descendants, each of them once and none before every process that was read as
its parent. -/
theorem processTree_descendants (entries : List ProcEntry) (root : Nat) :
    (processTree entries root).Nodup ∧
      (∀ pid, pid ∈ processTree entries root ↔ Relation.ReflTransGen (Parented entries) root pid) ∧
      ∀ before pid after, processTree entries root = before ++ pid :: after →
        pid = root ∨ ∃ parent ∈ before, Parented entries parent pid := by
  have reached := search_reaches (entries.filterMap ProcEntry.edge) root
  rw [edge_parented] at reached
  refine ⟨reached.1, reached.2.2, fun before pid after split => ?_⟩
  have preceded := reached.2.1 before pid after split
  rwa [edge_parented] at preceded

end Darling.Diag
