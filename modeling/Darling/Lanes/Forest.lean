import Darling.Lanes.Snapshotter

/-! The snapshots form a forest over the imported bases. -/
namespace Darling.Lanes

/-- Keys that snapshots may be prepared on. -/
def Key.permanent : Key → Prop
  | .base _ => True
  | .frozen _ => True
  | .lane _ => False
  | .imported _ => False

/-- Keys of imports, finished or not. -/
def Key.original : Key → Prop
  | .base _ => True
  | .imported _ => True
  | .lane _ => False
  | .frozen _ => False

section Forest

/-- The snapshots form a forest whose roots are imports. -/
structure Grown (snapshots : Snapshots) : Prop where
  lineage : ∀ {key snapshot}, snapshots.lookup key = some snapshot → ∃ line, Lineage Snapshot.parent snapshots key line
  parents : ∀ {key snapshot above}, snapshots.lookup key = some snapshot → snapshot.parent = some above →
    above.permanent
  roots : ∀ {key snapshot}, snapshots.lookup key = some snapshot → snapshot.parent = none → key.original
  bases : ∀ {key snapshot}, snapshots.lookup key = some snapshot → snapshot.labels.kind = some .base → key.original

variable {snapshots : Snapshots}

theorem Grown.empty : Grown ∅ := by
  constructor <;> intro key snapshot <;> simp

theorem childless_of_not_hasChildren {key : Key} (none : ¬snapshots.hasChildren key) :
    Childless Snapshot.parent snapshots key := by
  intro other snapshot found linked
  apply none
  refine ⟨other, ?_, snapshot, found, linked⟩
  rw [Finmap.mem_keys, ← Finmap.lookup_isSome, found]
  rfl

theorem Grown.childless (grown : Grown snapshots) {key : Key} (passing : ¬key.permanent) :
    Childless Snapshot.parent snapshots key :=
  fun _ _ found linked => passing (grown.parents found linked)

/-- A key of the changed map is the added one or an old one. -/
theorem lookup_insert_cases {key added : Key} {new snapshot : Snapshot}
    (found : (snapshots.insert added new).lookup key = some snapshot) :
    (key = added ∧ snapshot = new) ∨ (key ≠ added ∧ snapshots.lookup key = some snapshot) := by
  by_cases same : key = added
  · subst key
    rw [Finmap.lookup_insert] at found
    exact .inl ⟨rfl, (Option.some.inj found).symm⟩
  · rw [Finmap.lookup_insert_of_ne _ same] at found
    exact .inr ⟨same, found⟩

theorem lookup_erase_cases {key gone : Key} {snapshot : Snapshot}
    (found : (snapshots.erase gone).lookup key = some snapshot) :
    key ≠ gone ∧ snapshots.lookup key = some snapshot := by
  have apart : key ≠ gone := by
    rintro rfl
    rw [Finmap.lookup_erase] at found
    cases found
  rw [Finmap.lookup_erase_ne apart] at found
  exact ⟨apart, found⟩

theorem lookup_commit_other {key name active : Key} {snapshot : Snapshot} (named : key ≠ name)
    (other : key ≠ active) : (snapshots.commit name active snapshot).lookup key = snapshots.lookup key := by
  rw [Snapshots.commit, Finmap.lookup_insert_of_ne _ named, Finmap.lookup_erase_ne other]

theorem lookup_commit_active {name active : Key} {snapshot : Snapshot} (apart : active ≠ name) :
    (snapshots.commit name active snapshot).lookup active = none := by
  rw [Snapshots.commit, Finmap.lookup_insert_of_ne _ apart, Finmap.lookup_erase]

theorem lookup_commit_name {name active : Key} {snapshot : Snapshot} :
    (snapshots.commit name active snapshot).lookup name =
      some { snapshot with kind := .committed, labels := {} } :=
  Finmap.lookup_insert _

theorem Grown.prepare (grown : Grown snapshots) {key : Key} {snapshot : Snapshot}
    (fresh : snapshots.lookup key = none) (unlabelled : snapshot.labels.kind = none)
    (root : snapshot.parent = none → key.original)
    (child : ∀ above, snapshot.parent = some above → above.permanent ∧ ∃ upper, snapshots.lookup above = some upper) :
    Grown (snapshots.insert key snapshot) where
  lineage {other node} found := by
    obtain ⟨same, new⟩ | ⟨_, old⟩ := lookup_insert_cases found
    · subst other node
      cases linked : snapshot.parent with
      | none => exact ⟨_, .root found linked⟩
      | some above =>
        obtain ⟨_, upper, present⟩ := child above linked
        obtain ⟨line, lineage⟩ := grown.lineage present
        exact ⟨_, .child found linked (lineage.insert_fresh fresh)⟩
    · obtain ⟨line, lineage⟩ := grown.lineage old
      exact ⟨line, lineage.insert_fresh fresh⟩
  parents found linked := by
    obtain ⟨rfl, rfl⟩ | ⟨_, old⟩ := lookup_insert_cases found
    · exact (child _ linked).1
    · exact grown.parents old linked
  roots found top := by
    obtain ⟨rfl, rfl⟩ | ⟨_, old⟩ := lookup_insert_cases found
    · exact root top
    · exact grown.roots old top
  bases found kind := by
    obtain ⟨rfl, rfl⟩ | ⟨_, old⟩ := lookup_insert_cases found
    · rw [unlabelled] at kind
      cases kind
    · exact grown.bases old kind

theorem Grown.relabel (grown : Grown snapshots) {key : Key} {old new : Snapshot}
    (found : snapshots.lookup key = some old) (linked : new.parent = old.parent)
    (kind : new.labels.kind = some .base → key.original) : Grown (snapshots.insert key new) where
  lineage present := by
    obtain ⟨rfl, rfl⟩ | ⟨_, present⟩ := lookup_insert_cases present
    · obtain ⟨line, lineage⟩ := grown.lineage found
      exact ⟨line, lineage.insert_same found linked⟩
    · obtain ⟨line, lineage⟩ := grown.lineage present
      exact ⟨line, lineage.insert_same found linked⟩
  parents present above := by
    obtain ⟨rfl, rfl⟩ | ⟨_, present⟩ := lookup_insert_cases present
    · exact grown.parents found (linked.symm.trans above)
    · exact grown.parents present above
  roots present top := by
    obtain ⟨rfl, rfl⟩ | ⟨_, present⟩ := lookup_insert_cases present
    · exact grown.roots found (linked.symm.trans top)
    · exact grown.roots present top
  bases present base := by
    obtain ⟨rfl, rfl⟩ | ⟨_, present⟩ := lookup_insert_cases present
    · exact kind base
    · exact grown.bases present base

theorem Grown.erase (grown : Grown snapshots) {gone : Key} (childless : Childless Snapshot.parent snapshots gone) :
    Grown (snapshots.erase gone) where
  lineage found := by
    obtain ⟨apart, old⟩ := lookup_erase_cases found
    obtain ⟨line, lineage⟩ := grown.lineage old
    exact ⟨line, lineage.erase_childless childless apart⟩
  parents found linked := grown.parents (lookup_erase_cases found).2 linked
  roots found top := grown.roots (lookup_erase_cases found).2 top
  bases found kind := grown.bases (lookup_erase_cases found).2 kind

/-- The parent of a snapshot is present. -/
theorem Grown.above (grown : Grown snapshots) {key above : Key} {snapshot : Snapshot}
    (found : snapshots.lookup key = some snapshot) (linked : snapshot.parent = some above) :
    ∃ upper, snapshots.lookup above = some upper := by
  obtain ⟨line, lineage⟩ := grown.lineage found
  cases lineage with
  | root present top =>
    rw [found] at present
    cases present
    rw [linked] at top
    cases top
  | child present other rest =>
    rw [found] at present
    cases present
    rw [linked] at other
    cases other
    exact rest.found

/-- An active key becomes a new one that may carry children. -/
theorem Grown.commit (grown : Grown snapshots) {name active : Key} {snapshot : Snapshot}
    (found : snapshots.lookup active = some snapshot) (fresh : snapshots.lookup name = none)
    (passing : ¬active.permanent) (kept : active.original → name.original) :
    Grown (snapshots.commit name active snapshot) := by
  have childless := grown.childless passing
  have vacant : (snapshots.erase active).lookup name = none := by
    by_cases same : name = active
    · rw [same, Finmap.lookup_erase]
    · rw [Finmap.lookup_erase_ne same, fresh]
  apply (grown.erase childless).prepare vacant rfl
  · exact fun top => kept (grown.roots found top)
  · intro above linked
    obtain ⟨upper, present⟩ := grown.above found linked
    refine ⟨grown.parents found linked, upper, ?_⟩
    have apart : above ≠ active := by
      rintro rfl
      exact passing (grown.parents found linked)
    rw [Finmap.lookup_erase_ne apart, present]

/-- The lineage of a snapshot on a parent ends at a base. -/
theorem Grown.ends (grown : Grown snapshots) {key : Key} {line : List Key}
    (lineage : Lineage Snapshot.parent snapshots key line) (permanent : key.permanent) :
    ∃ token, line.getLast? = some (.base token) := by
  induction lineage with
  | root found top =>
    have original := grown.roots found top
    cases shape : ‹Key› with
    | base token => exact ⟨token, by simp⟩
    | lane => simp [shape, Key.original] at original
    | frozen => simp [shape, Key.original] at original
    | imported => simp [shape, Key.permanent] at permanent
  | child found linked rest induction =>
    obtain ⟨token, last⟩ := induction (grown.parents found linked)
    exact ⟨token, by rw [List.getLast?_cons, last]; rfl⟩

end Forest

end Darling.Lanes
