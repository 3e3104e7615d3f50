import Darling.Start.Transaction

/-! What holds of the transaction's own files while another process changes the names around them. -/
namespace Darling.Start

/-- A removal that takes nothing of anybody else. -/
def Removal.Clean (created : List Nat) : Removal → Prop
  | .file inode => inode ∈ created
  | .tree inode recorded => recorded = some inode
  | .replaced _ => False

/-- The transaction's own files and directories hold only what it wrote, and it removed nothing else. -/
structure Safe (w : World) : Prop where
  company : w.visits ≠ none
  bounded : ∀ inode ∈ w.created, inode < w.fresh
  files : ∀ inode, w.fresh ≤ inode → w.journal.files inode = none
  folders : ∀ inode, w.fresh ≤ inode → w.area.folders inode = none
  journal : ∀ inode ∈ w.created, ∀ a, w.journal.files inode = some (some a) → w.Own a.quarantineIdentity
  markers : ∀ inode ∈ w.created, ∀ folder marker, w.area.folders inode = some folder →
    folder.marker = some marker → marker.inode ∈ w.created
  removals : ∀ removal ∈ w.removals, removal.Clean w.created

/-- What neither a visit nor a step changes: what was created, and the identities the payload records. -/
structure Later (w w' : World) : Prop where
  created : ∀ inode ∈ w.created, inode ∈ w'.created
  destination : w'.payload.destinationIdentity = w.payload.destinationIdentity
  quarantine : w'.payload.quarantineIdentity = w.payload.quarantineIdentity

/-- A fact that stays true as the world goes on. -/
def Lasting (fact : World → Prop) : Prop := ∀ w w', Later w w' → fact w → fact w'

/-- The quarantine the payload records is the transaction's. -/
def Sworn (w : World) : Prop := w.Own w.payload.quarantineIdentity

theorem Later.refl (w : World) : Later w w := ⟨fun _ => id, rfl, rfl⟩

theorem Later.own {w w' : World} {entry : Option Nat} (later : Later w w') (own : w.Own entry) : w'.Own entry :=
  fun inode same => later.created inode (own inode same)

theorem Lasting.true : Lasting fun _ => True := fun _ _ _ => id

theorem Lasting.and {first second : World → Prop} (one : Lasting first) (two : Lasting second) :
    Lasting fun w => first w ∧ second w :=
  fun w w' later held => ⟨one w w' later held.1, two w w' later held.2⟩

theorem Lasting.created (inode : Nat) : Lasting fun w => inode ∈ w.created :=
  fun _ _ later => later.created inode

theorem Lasting.own (entry : Option Nat) : Lasting fun w => w.Own entry :=
  fun _ _ later => later.own

theorem Lasting.destination (entry : Option Nat) : Lasting fun w => w.payload.destinationIdentity = entry :=
  fun _ _ later held => later.destination.trans held

theorem Lasting.quarantine (entry : Option Nat) : Lasting fun w => w.payload.quarantineIdentity = entry :=
  fun _ _ later held => later.quarantine.trans held

theorem Lasting.sworn : Lasting Sworn := by
  intro w w' later held
  unfold Sworn
  rw [later.quarantine]
  exact later.own held

section Visits

variable {w : World} {point : Point}

theorem meet_own (visit : Visit) {inode : Nat} (own : inode ∈ w.created) :
    (w.meet visit).journal.files inode = w.journal.files inode ∧
      (w.meet visit).area.folders inode = w.area.folders inode ∧ (w.meet visit).bins inode = w.bins inode :=
  ⟨if_pos own, if_pos own, if_pos own⟩

theorem meet_beyond (visit : Visit) (safe : Safe w) {inode : Nat} (beyond : (w.meet visit).fresh ≤ inode) :
    (w.meet visit).journal.files inode = none ∧ (w.meet visit).area.folders inode = none := by
  have above : max w.fresh visit.fresh ≤ inode := beyond
  have foreign : inode ∉ w.created := by
    intro own
    have := safe.bounded inode own
    omega
  exact ⟨(if_neg foreign).trans (if_neg (Nat.not_lt.mpr above)), (if_neg foreign).trans (if_neg (Nat.not_lt.mpr above))⟩

theorem Safe.meet (safe : Safe w) (visit : Visit) : Safe (w.meet visit) where
  company := safe.company
  bounded inode own := Nat.lt_of_lt_of_le (safe.bounded inode own) (Nat.le_max_left _ _)
  files inode beyond := (meet_beyond visit safe beyond).1
  folders inode beyond := (meet_beyond visit safe beyond).2
  journal inode own a content := by
    rw [(meet_own (w := w) visit own).1] at content
    exact safe.journal inode own a content
  markers inode own folder marker content := by
    rw [(meet_own (w := w) visit own).2.1] at content
    exact safe.markers inode own folder marker content
  removals := safe.removals

/-- A visit leaves the transaction's own files, and the step may rely on what it trusts. -/
theorem visited_cases (safe : Safe w) : Safe (w.visited point) ∧ Later w (w.visited point) ∧
    ((w.visited point).undisturbed = true → w.undisturbed = true ∧ (w.visited point).trusted point = true) ∧
    ∀ inode ∈ w.created, (w.visited point).area.folders inode = w.area.folders inode ∧
      (w.visited point).bins inode = w.bins inode := by
  unfold World.visited
  split
  · exact absurd ‹_› safe.company
  · rename_i visits company
    cases visits.head?.join with
    | none =>
      refine ⟨⟨nofun, safe.bounded, safe.files, safe.folders, safe.journal, safe.markers, safe.removals⟩,
        ⟨fun _ => id, rfl, rfl⟩, Bool.and_eq_true_iff.mp, fun _ _ => ⟨rfl, rfl⟩⟩
    | some visit =>
      have met := safe.meet visit
      refine ⟨⟨nofun, met.bounded, met.files, met.folders, met.journal, met.markers, met.removals⟩,
        ⟨fun _ => id, rfl, rfl⟩, Bool.and_eq_true_iff.mp, fun inode own => (meet_own visit own).2⟩

end Visits

/-- As long as nobody disturbed it, the transaction is safe and the fact holds. -/
def Guarded (fact : World → Prop) : Assertion (Process Point Failure World) :=
  fun p => p.disk.undisturbed = true → Safe p.disk ∧ fact p.disk

theorem Guarded.mono {fact fact' : World → Prop} (weaker : ∀ w, Safe w → fact w → fact' w)
    (p : Process Point Failure World) (guarded : Guarded fact p) : Guarded fact' p :=
  fun calm => ⟨(guarded calm).1, weaker p.disk (guarded calm).1 (guarded calm).2⟩

section Changes

variable {w w' : World} {inode : Nat}

/-- Only names changed. -/
theorem Safe.renamed (safe : Safe w) (visits : w'.visits = w.visits) (created : w'.created = w.created)
    (fresh : w'.fresh = w.fresh) (files : w'.journal.files = w.journal.files)
    (folders : w'.area.folders = w.area.folders) (removals : w'.removals = w.removals) : Safe w' where
  company := visits ▸ safe.company
  bounded := by
    rw [created, fresh]
    exact safe.bounded
  files := by
    rw [files, fresh]
    exact safe.files
  folders := by
    rw [folders, fresh]
    exact safe.folders
  journal := by
    unfold World.Own
    rw [files, created]
    exact safe.journal
  markers := by
    rw [folders, created]
    exact safe.markers
  removals := by
    rw [removals, created]
    exact safe.removals

theorem Safe.removed (safe : Safe w) {removal : Removal} (clean : removal.Clean w.created) :
    Safe (w.removed removal) where
  company := safe.company
  bounded := safe.bounded
  files := safe.files
  folders := safe.folders
  journal := safe.journal
  markers := safe.markers
  removals other member := by
    rcases List.mem_append.mp member with before | last
    · exact safe.removals other before
    · rw [List.mem_singleton.mp last]
      exact clean

theorem Removal.Clean.mono {created created' : List Nat} (more : ∀ inode ∈ created, inode ∈ created')
    {removal : Removal} (clean : removal.Clean created) : removal.Clean created' := by
  cases removal with
  | file inode => exact more inode clean
  | tree inode recorded => exact clean
  | replaced inode => exact clean

theorem Safe.allocate (safe : Safe w) : Safe w.allocate where
  company := safe.company
  bounded other own := by
    rcases List.mem_cons.mp own with rfl | before
    · exact Nat.lt_succ_self _
    · exact Nat.lt_succ_of_lt (safe.bounded other before)
  files other beyond := safe.files other (Nat.le_of_succ_le beyond)
  folders other beyond := safe.folders other (Nat.le_of_succ_le beyond)
  journal other own a content := by
    rcases List.mem_cons.mp own with rfl | before
    · rw [show w.allocate.journal.files w.fresh = none from safe.files _ (Nat.le_refl _)] at content
      cases content
    · exact fun named same => List.mem_cons_of_mem _ (safe.journal other before a content named same)
  markers other own folder marker content holds := by
    rcases List.mem_cons.mp own with rfl | before
    · rw [show w.allocate.area.folders w.fresh = none from safe.folders _ (Nat.le_refl _)] at content
      cases content
    · exact List.mem_cons_of_mem _ (safe.markers other before folder marker content holds)
  removals removal member := (safe.removals removal member).mono fun _ => List.mem_cons_of_mem _

theorem Safe.setFile (safe : Safe w) {text : Option Artifact} (small : inode < w.fresh)
    (own : ∀ a, text = some a → w.Own a.quarantineIdentity) : Safe (w.setFile inode text) where
  company := safe.company
  bounded := safe.bounded
  files other beyond := by
    have apart : other ≠ inode := Nat.ne_of_gt (Nat.lt_of_lt_of_le small beyond)
    simpa [apart] using safe.files other beyond
  folders := safe.folders
  journal other member a content := by
    by_cases same : other = inode
    · subst same
      exact own a (by simpa using content)
    · exact safe.journal other member a (by simpa [same] using content)
  markers := safe.markers
  removals := safe.removals

theorem Safe.setFolder (safe : Safe w) {folder : Folder} (small : inode < w.fresh)
    (own : inode ∈ w.created → ∀ marker, folder.marker = some marker → marker.inode ∈ w.created) :
    Safe (w.setFolder inode folder) where
  company := safe.company
  bounded := safe.bounded
  files := safe.files
  folders other beyond := by
    have apart : other ≠ inode := Nat.ne_of_gt (Nat.lt_of_lt_of_le small beyond)
    simpa [apart] using safe.folders other beyond
  journal := safe.journal
  markers other member found marker content holds := by
    by_cases same : other = inode
    · subst same
      have isFolder : folder = found := by simpa using content
      exact own member marker (isFolder ▸ holds)
    · exact safe.markers other member found marker (by simpa [same] using content) holds
  removals := safe.removals

theorem Safe.dropFolder (safe : Safe w) : Safe (w.dropFolder inode) where
  company := safe.company
  bounded := safe.bounded
  files := safe.files
  folders other beyond := by
    by_cases same : other = inode
    · simp [same]
    · simpa [same] using safe.folders other beyond
  journal := safe.journal
  markers other member found marker content holds := by
    by_cases same : other = inode
    · simp [same] at content
    · exact safe.markers other member found marker (by simpa [same] using content) holds
  removals := safe.removals

theorem Safe.small (safe : Safe w) {folder : Folder} (there : w.area.folders inode = some folder) :
    inode < w.fresh := by
  by_contra large
  rw [safe.folders inode (Nat.not_lt.mp large)] at there
  cases there

/-- An edit that brings no other marker. -/
theorem Safe.editFolder (safe : Safe w) {edit : Folder → Folder}
    (kept : ∀ folder marker, (edit folder).marker = some marker →
      ∃ before, folder.marker = some before ∧ before.inode = marker.inode) : Safe (w.editFolder inode edit) := by
  unfold World.editFolder
  split
  · rename_i folder there
    refine safe.setFolder (safe.small there) fun own marker holds => ?_
    obtain ⟨before, was, same⟩ := kept folder marker holds
    exact same ▸ safe.markers inode own folder before there was
  · exact safe

theorem editFolder_later (w : World) (inode : Nat) (edit : Folder → Folder) :
    (w.editFolder inode edit).undisturbed = w.undisturbed ∧ Later w (w.editFolder inode edit) := by
  unfold World.editFolder
  split
  · exact ⟨rfl, fun _ => id, rfl, rfl⟩
  · exact ⟨rfl, Later.refl w⟩

theorem allocate_later (w : World) : Later w w.allocate := ⟨fun _ => List.mem_cons_of_mem _, rfl, rfl⟩

end Changes

section Steps

variable {α β : Type} {point : Point} {fact : World → Prop}

/-- One step, from a fact that a visit leaves alone. -/
theorem step_guarded {known : World → Prop} {ends : α → World → Prop} {apply : World → Except Failure (α × World)}
    (stable : ∀ w, Safe w → known w → known (w.visited point)) (weaker : ∀ w, known w → fact w)
    (goes : ∀ w value w', apply w = .ok (value, w') → w'.undisturbed = w.undisturbed ∧
      (Safe w → known w → w.trusted point = true → Safe w' ∧ ends value w')) :
    Triple (Guarded known) (step point apply) (fun value => Guarded (ends value)) (fun _ => Guarded fact) := by
  have trusted {w : World} (guarded : w.undisturbed = true → Safe w ∧ known w)
      (calm : (w.visited point).undisturbed = true) :
      Safe (w.visited point) ∧ known (w.visited point) ∧ (w.visited point).trusted point = true := by
    have before : w.undisturbed = true := by
      unfold World.visited at calm
      split at calm
      · exact calm
      · exact (Bool.and_eq_true_iff.mp calm).1
    obtain ⟨safe, held⟩ := guarded before
    obtain ⟨safe', -, trust, -⟩ := visited_cases safe
    exact ⟨safe', stable w safe held, (trust calm).2⟩
  have met : Triple (Guarded known) (assign (World.visited point)) (fun _ p => p.disk.undisturbed = true →
      Safe p.disk ∧ known p.disk ∧ p.disk.trusted point = true) (fun _ : Stop Failure => Guarded fact) :=
    assign_triple fun _ guarded => trusted guarded
  refine Triple.bind met fun _ => act_triple ?_ ?_ ?_
  · exact fun p fault held _ calm => ⟨(held calm).1, weaker _ (held calm).2.1⟩
  · intro p value d held went calm
    obtain ⟨same, safe⟩ := goes p.disk value d went
    have before : p.disk.undisturbed = true := same ▸ calm
    obtain ⟨was, known, trust⟩ := held before
    exact safe was known trust
  · exact fun p error held _ calm => ⟨(held calm).1, weaker _ (held calm).2.1⟩

theorem Lasting.visited (lasting : Lasting fact) (w : World) (safe : Safe w) (held : fact w) :
    fact (w.visited point) :=
  lasting w _ (visited_cases safe).2.1 held

variable (lasting : Lasting fact)

include lasting

/-- A step from which something is learnt. -/
theorem step_learns {ends : α → World → Prop} {apply : World → Except Failure (α × World)}
    (goes : ∀ w value w', apply w = .ok (value, w') → w'.undisturbed = w.undisturbed ∧ Later w w' ∧
      (Safe w → fact w → w.trusted point = true → Safe w' ∧ ends value w')) :
    Triple (Guarded fact) (step point apply) (fun value => Guarded fun w => fact w ∧ ends value w)
      (fun _ => Guarded fact) := by
  refine step_guarded lasting.visited (fun _ => id) fun w value w' went => ?_
  obtain ⟨same, later, safe⟩ := goes w value w' went
  refine ⟨same, fun was held trust => ?_⟩
  obtain ⟨safe', learnt⟩ := safe was held trust
  exact ⟨safe', lasting w w' later held, learnt⟩

theorem step_keeps {apply : World → Except Failure (α × World)}
    (goes : ∀ w value w', apply w = .ok (value, w') → w'.undisturbed = w.undisturbed ∧ Later w w' ∧
      (Safe w → fact w → w.trusted point = true → Safe w')) : Keeps (Guarded fact) (step point apply) := by
  refine step_guarded lasting.visited (fun _ => id) fun w value w' went => ?_
  obtain ⟨same, later, safe⟩ := goes w value w' went
  exact ⟨same, fun was held trust => ⟨safe was held trust, lasting w w' later held⟩⟩

theorem look_learns {ends : α → World → Prop} {see : World → Except Failure α}
    (sees : ∀ w value, Safe w → fact w → w.trusted point = true → see w = .ok value → ends value w) :
    Triple (Guarded fact) (look point see) (fun value => Guarded fun w => fact w ∧ ends value w)
      (fun _ => Guarded fact) := by
  refine step_learns lasting fun w value w' went => ?_
  obtain ⟨seen, saw, same⟩ := bind_ok.mp went
  cases same
  exact ⟨rfl, Later.refl w, fun safe held trust => ⟨safe, sees w _ safe held trust saw⟩⟩

theorem look_keeps {see : World → Except Failure α} : Keeps (Guarded fact) (look point see) := by
  refine step_keeps lasting fun w value w' went => ?_
  obtain ⟨seen, -, same⟩ := bind_ok.mp went
  cases same
  exact ⟨rfl, Later.refl w, fun safe _ _ => safe⟩

theorem change_keeps {apply : World → World} (same : ∀ w, (apply w).undisturbed = w.undisturbed ∧ Later w (apply w))
    (safe : ∀ w, Safe w → fact w → Safe (apply w)) : Keeps (Guarded fact) (change point apply) := by
  refine step_keeps lasting fun w value w' went => ?_
  cases went
  exact ⟨(same w).1, (same w).2, fun was held _ => safe w was held⟩

theorem settle_keeps : Keeps (Guarded fact) (settle point) :=
  change_keeps lasting (fun w => ⟨rfl, Later.refl w⟩) fun _ safe _ => safe

/-- The process's record changes, but not the identities in it. -/
theorem revise_keeps {edit : Artifact → Artifact}
    (same : ∀ a, (edit a).destinationIdentity = a.destinationIdentity ∧
      (edit a).quarantineIdentity = a.quarantineIdentity) :
    Keeps (Guarded fact) (revise edit) := by
  refine Keeps.assign fun p guarded calm => ?_
  obtain ⟨safe, held⟩ := guarded calm
  exact ⟨safe.renamed rfl rfl rfl rfl rfl rfl, lasting p.disk _ ⟨fun _ => id, (same _).1, (same _).2⟩ held⟩

omit lasting in
/-- What is read of the process's record stays true. -/
theorem payload_learns : Triple (Guarded fact) payload (fun a => Guarded fun w => fact w ∧
    w.payload.destinationIdentity = a.destinationIdentity ∧ w.payload.quarantineIdentity = a.quarantineIdentity)
    (fun _ => Guarded fact) := by
  intro p guarded calm
  exact ⟨(guarded calm).1, (guarded calm).2, rfl, rfl⟩

omit lasting in
theorem revise_guarded {fact' : World → Prop} {edit : Artifact → Artifact}
    {fails : Stop Failure → Assertion (Process Point Failure World)}
    (goes : ∀ w, fact w → fact' { w with payload := edit w.payload }) :
    Triple (Guarded fact) (revise edit) (fun _ => Guarded fact') fails := by
  intro p guarded calm
  obtain ⟨safe, held⟩ := guarded calm
  exact ⟨safe.renamed rfl rfl rfl rfl rfl rfl, goes p.disk held⟩

omit lasting in
/-- What was learnt in the first part helps the second. -/
theorem Keeps.learnt {known : α → World → Prop} {body : StartM α} {next : α → StartM β}
    (first : Triple (Guarded fact) body (fun value => Guarded fun w => fact w ∧ known value w) (fun _ => Guarded fact))
    (second : ∀ value, Keeps (Guarded fun w => fact w ∧ known value w) (next value)) :
    Keeps (Guarded fact) (body >>= next) :=
  Triple.bind first fun value => (second value).conclude
    (fun _ p => Guarded.mono (fun _ _ held => held.1) p) fun _ p => Guarded.mono (fun _ _ held => held.1) p

omit lasting in
theorem payload_keeps : Keeps (Guarded fact) payload :=
  payload_learns.conclude (fun _ p => Guarded.mono (fun _ _ held => held.1) p) fun _ _ => id

end Steps

end Darling.Start
