import Darling.Start.Interference
import Darling.Start.CrashRecovery

/-! A start and its recoveries among foreign writers: what they unlink, remove and rename is their own as
long as nobody puts something else under a name while a step trusts it. -/
namespace Darling.Start

variable {accepts : Inputs → Bool} {fact : World → Prop} (lasting : Lasting fact)

include lasting

section Bins

variable {label : JournalStep → Point} {name bin identity : Nat}

theorem makeBin_learns : Triple (Guarded fact) (makeBin label)
    (fun name => Guarded fun w => fact w ∧ name ∈ w.created) (fun _ => Guarded fact) := by
  refine step_learns lasting fun w value w' went => ?_
  cases went
  exact ⟨rfl, ⟨(allocate_later w).created, rfl, rfl⟩, fun safe _ _ =>
    ⟨safe.allocate.renamed rfl rfl rfl rfl rfl rfl, List.mem_cons_self⟩⟩

/-- The directory that is opened is the one that was made. -/
theorem openBin_learns (trusts : ∀ w : World, w.trusted (label .openBin) = true →
      ∀ name ∈ w.created, w.Own (w.journal.binNames name)) (own : ∀ w, fact w → name ∈ w.created) :
    Triple (Guarded fact) (openBin label name) (fun bin => Guarded fun w => fact w ∧ bin ∈ w.created)
      (fun _ => Guarded fact) := by
  refine look_learns lasting fun w value safe held trust saw => ?_
  split at saw
  · cases saw
  · rename_i stands
    obtain ⟨-, same⟩ := require_bind_ok.mp saw
    cases same
    exact trusts w trust name (own w held) _ stands

theorem moveIn_keeps : Keeps (Guarded fact) (moveIn label bin) := by
  refine step_keeps lasting fun w value w' went => ?_
  split at went
  · cases went
  · obtain ⟨vacant, same⟩ := require_bind_ok.mp went
    cases same
    rw [vacant]
    exact ⟨rfl, ⟨fun _ => id, rfl, rfl⟩, fun safe _ _ => safe.renamed rfl rfl rfl rfl rfl rfl⟩

theorem moveBack_keeps : Keeps (Guarded fact) (moveBack label bin) := by
  refine step_keeps lasting fun w value w' went => ?_
  split at went
  · obtain ⟨vacant, same⟩ := require_bind_ok.mp went
    cases same
    rw [vacant]
    exact ⟨rfl, ⟨fun _ => id, rfl, rfl⟩, fun safe _ _ => safe.renamed rfl rfl rfl rfl rfl rfl⟩
  · cases went

theorem dropBin_keeps : Keeps (Guarded fact) (dropBin label name) := by
  refine step_keeps lasting fun w value w' went => ?_
  split at went
  · cases went
  · obtain ⟨-, same⟩ := require_bind_ok.mp went
    cases same
    exact ⟨rfl, ⟨fun _ => id, rfl, rfl⟩, fun safe _ _ => safe.renamed rfl rfl rfl rfl rfl rfl⟩

/-- Nobody reaches into the bin between the check of the victim and its removal. -/
theorem dropVictim_keeps (ownBin : ∀ w, fact w → bin ∈ w.created) (own : ∀ w, fact w → identity ∈ w.created) :
    Triple (Guarded fun w => fact w ∧ w.bins bin = some (some identity)) (dropVictim label bin)
      (fun _ => Guarded fact) (fun _ => Guarded fact) := by
  refine step_guarded ?_ (fun _ => And.left) fun w value w' went => ?_
  · rintro w safe ⟨held, victim⟩
    refine ⟨lasting.visited w safe held, ?_⟩
    rw [((visited_cases safe).2.2.2 bin (ownBin w held)).2]
    exact victim
  · split at went
    · rename_i inode content
      cases went
      refine ⟨rfl, fun safe known _ => ⟨?_, lasting w _ ⟨fun _ => id, rfl, rfl⟩ known.1⟩⟩
      have isIdentity : inode = identity := by
        rw [known.2] at content
        cases content
        rfl
      refine (safe.renamed rfl rfl rfl rfl rfl rfl : Safe (w.setBin bin (some none))).removed ?_
      exact isIdentity ▸ own w known.1
    · cases went

theorem binStands_keeps : Keeps (Guarded fact) (binStands label name bin) := look_keeps lasting

theorem unlinkInBin_keeps (ownBin : ∀ w, fact w → bin ∈ w.created) (own : ∀ w, fact w → identity ∈ w.created) :
    Keeps (Guarded fact) (unlinkInBin label name bin identity) := by
  have checked : Triple (Guarded fact) (look (label .checkIn) fun w =>
      return w.bins bin = some (some identity) && (w.journal.files identity).isSome)
      (fun same => Guarded fun w => fact w ∧ (same = true → w.bins bin = some (some identity)))
      (fun _ => Guarded fact) := by
    refine look_learns lasting fun w value _ _ _ saw same => ?_
    cases saw
    simp only [Bool.and_eq_true, decide_eq_true_eq] at same
    exact same.1
  refine Keeps.bind (moveIn_keeps lasting) fun _ => Triple.bind checked fun same => ?_
  cases same with
  | true =>
    refine Triple.bind ((dropVictim_keeps lasting ownBin own).strengthen
      (Guarded.mono fun _ _ held => ⟨held.1, held.2 rfl⟩)) fun _ => ?_
    exact Keeps.bind (settle_keeps lasting) fun _ => Keeps.bind (binStands_keeps lasting) fun _ =>
      Keeps.bind Keeps.demand fun _ => Keeps.bind (dropBin_keeps lasting) fun _ =>
        Keeps.bind (settle_keeps lasting) fun _ => Keeps.pure
  | false =>
    have back : Keeps (Guarded fact) (do
        moveBack label bin
        return false) := Keeps.bind (moveBack_keeps lasting) fun _ => Keeps.pure
    exact back.strengthen (Guarded.mono fun _ _ held => held.1)

theorem cleanBin_keeps : Keeps (Guarded fact) (cleanBin label name bin) := by
  refine Keeps.handle ?_ fun failure => ?_
  · exact Keeps.bind (binStands_keeps lasting) fun _ => Keeps.onlyIf
      (Keeps.bind (dropBin_keeps lasting) fun _ => settle_keeps lasting)
  · split
    · exact Keeps.pure
    · exact Keeps.raise

theorem unlinkIfIdentity_keeps (trusts : ∀ w : World, w.trusted (label .openBin) = true →
      ∀ name ∈ w.created, w.Own (w.journal.binNames name)) (own : ∀ w, fact w → identity ∈ w.created) :
    Keeps (Guarded fact) (unlinkIfIdentity label identity) := by
  refine Keeps.bind (look_keeps lasting) fun same => ?_
  split
  · refine Keeps.learnt (makeBin_learns lasting) fun name => ?_
    have named := lasting.and (Lasting.created name)
    refine Keeps.learnt (openBin_learns named trusts fun _ => And.right) fun bin => ?_
    have opened := named.and (Lasting.created bin)
    refine Keeps.bind (Keeps.handle (unlinkInBin_keeps opened (fun _ => And.right) fun w held => own w held.1.1)
      fun failure => Keeps.bind (cleanBin_keeps opened) fun _ => Keeps.raise) fun gone => ?_
    split
    · exact Keeps.pure
    · exact Keeps.bind (cleanBin_keeps opened) fun _ => Keeps.pure
  · exact Keeps.pure

end Bins

section Writing

variable {write : Write} {descriptor identity existing : Nat}

theorem createTemporary_learns {label : JournalStep → Point} : Triple (Guarded fact) (createTemporary label)
    (fun descriptor => Guarded fun w => fact w ∧ descriptor ∈ w.created) (fun _ => Guarded fact) := by
  refine step_learns lasting fun w value w' went => ?_
  obtain ⟨-, same⟩ := require_bind_ok.mp went
  cases same
  refine ⟨rfl, ⟨(allocate_later w).created, rfl, rfl⟩, fun safe _ _ => ⟨?_, List.mem_cons_self⟩⟩
  have drafted : Safe (w.allocate.setFile w.fresh none) := safe.allocate.setFile (Nat.lt_succ_self _) nofun
  exact drafted.renamed rfl rfl rfl rfl rfl rfl

theorem statTemporary_learns : Triple (Guarded fact) (statTemporary (.journal write))
    (fun identity => Guarded fun w => fact w ∧ identity ∈ w.created) (fun _ => Guarded fact) := by
  refine look_learns lasting fun w value _ _ trust saw => ?_
  split at saw
  · rename_i there
    cases saw
    exact of_decide_eq_true trust _ there
  · cases saw

theorem fillTemporary_keeps {label : JournalStep → Point} (sworn : ∀ w, fact w → Sworn w)
    (own : ∀ w, fact w → descriptor ∈ w.created) : Keeps (Guarded fact) (fillTemporary label descriptor) := by
  refine Keeps.bind (change_keeps lasting (fun w => ⟨rfl, ⟨fun _ => id, rfl, rfl⟩⟩) fun w safe held => ?_) fun _ =>
    settle_keeps lasting
  refine safe.setFile (safe.bounded _ (own w held)) fun a same => ?_
  cases same
  exact sworn w held

theorem publishTemporary_keeps {label : JournalStep → Point} : Keeps (Guarded fact) (publishTemporary label) := by
  refine step_keeps lasting fun w value w' went => ?_
  split at went
  · cases went
  · obtain ⟨vacant, same⟩ := require_bind_ok.mp went
    cases same
    rw [vacant]
    exact ⟨rfl, ⟨fun _ => id, rfl, rfl⟩, fun safe _ _ => safe.renamed rfl rfl rfl rfl rfl rfl⟩

theorem exchange_keeps {point : Point} : Keeps (Guarded fact) (exchange point) := by
  refine step_keeps lasting fun w value w' went => ?_
  split at went
  · cases went
    exact ⟨rfl, ⟨fun _ => id, rfl, rfl⟩, fun safe _ _ => safe.renamed rfl rfl rfl rfl rfl rfl⟩
  · cases went

theorem restoreExchange_keeps {label : JournalStep → Point} :
    Keeps (Guarded fact) (restoreExchange label existing identity) :=
  Keeps.bind (Keeps.handle (exchange_keeps lasting) fun _ => Keeps.raise) fun _ =>
    Keeps.bind (look_keeps lasting) fun _ => Keeps.bind Keeps.demand fun _ => Keeps.raise

/-- The temporary is unlinked by its name, so what stands there is trusted. -/
theorem unlinkTemporary_keeps : Keeps (Guarded fact) (unlinkTemporary (.journal write)) := by
  refine step_keeps lasting fun w value w' went => ?_
  split at went
  · cases went
  · rename_i inode there
    cases went
    refine ⟨rfl, ⟨fun _ => id, rfl, rfl⟩, fun safe _ trust => ?_⟩
    have renamed : Safe (w.setTemporary none) := safe.renamed rfl rfl rfl rfl rfl rfl
    exact renamed.removed (of_decide_eq_true trust inode there)

theorem publishFirst_keeps {label : JournalStep → Point} : Keeps (Guarded fact) (publishFirst label identity) :=
  Keeps.bind (publishTemporary_keeps lasting) fun _ => Keeps.bind (look_keeps lasting) fun _ =>
    Keeps.bind Keeps.demand fun _ => settle_keeps lasting

theorem publishUpdate_keeps : Keeps (Guarded fact) (publishUpdate (.journal write) existing identity) :=
  Keeps.bind (look_keeps lasting) fun _ => Keeps.bind Keeps.demand fun _ => Keeps.bind (exchange_keeps lasting) fun _ =>
    Keeps.bind (look_keeps lasting) fun _ => Keeps.bind (Keeps.onlyIf (restoreExchange_keeps lasting)) fun _ =>
      Keeps.bind (look_keeps lasting) fun _ => Keeps.bind (Keeps.onlyIf (restoreExchange_keeps lasting)) fun _ =>
        Keeps.bind (unlinkTemporary_keeps lasting) fun _ => settle_keeps lasting

theorem undoWrite_keeps {before : Artifact} (own : ∀ w, fact w → identity ∈ w.created) :
    Keeps (Guarded fact) (undoWrite (.journal write) before identity) := by
  refine Keeps.bind (look_keeps lasting) fun _ => Keeps.onlyIf ?_
  refine Keeps.bind (revise_keeps lasting fun _ => ⟨rfl, rfl⟩) fun _ => Keeps.handle ?_ fun failure => ?_
  · exact Keeps.bind (unlinkIfIdentity_keeps lasting (fun _ => of_decide_eq_true) own) fun _ => Keeps.pure
  · split
    · exact Keeps.pure
    · exact Keeps.raise

theorem durableWrite_keeps (sworn : ∀ w, fact w → Sworn w) :
    Keeps (Guarded fact) (durableWrite accepts (.journal write)) := by
  refine Keeps.bind (look_keeps lasting) fun existing => Keeps.bind payload_keeps fun before => ?_
  refine Keeps.learnt (createTemporary_learns lasting) fun descriptor => ?_
  have created := lasting.and (Lasting.created descriptor)
  refine Keeps.learnt (statTemporary_learns created) fun identity => ?_
  have named := created.and (Lasting.created identity)
  refine Keeps.handle ?_ fun failure => Keeps.bind (undoWrite_keeps named fun _ => And.right) fun _ => Keeps.raise
  refine Keeps.bind (revise_keeps named fun _ => ⟨rfl, rfl⟩) fun _ => Keeps.bind payload_keeps fun _ =>
    Keeps.bind Keeps.demand fun _ => Keeps.bind ?_ fun _ => ?_
  · exact fillTemporary_keeps named (fun w held => sworn w held.1.1) fun w held => held.1.2
  · cases existing with
    | none => exact publishFirst_keeps named
    | some old => exact publishUpdate_keeps named

end Writing

section Loading

omit lasting in
theorem readJournal_found {w : World} {inode : Nat} {a : Artifact} (read : readJournal accepts w inode = .ok a) :
    w.journal.files inode = some (some a) ∧ a.evidenceIdentity = some inode := by
  unfold readJournal at read
  split at read
  · obtain ⟨-, read⟩ := require_bind_ok.mp read
    obtain ⟨identity, same⟩ := require_bind_ok.mp read
    cases same
    exact ⟨‹_›, identity⟩
  · cases read

/-- A journal file that was read is the transaction's, and so is the quarantine it records. -/
def Read (found : Option (Artifact × Nat)) (w : World) : Prop :=
  ∀ a inode, found = some (a, inode) → inode ∈ w.created ∧ w.Own a.quarantineIdentity

omit lasting in
theorem Lasting.read (found : Option (Artifact × Nat)) : Lasting (Read found) :=
  fun _ _ later held a inode same => ⟨later.created inode (held a inode same).1, later.own (held a inode same).2⟩

omit lasting in
theorem readEntry_read {w : World} {entry : Option Nat} {found : Option (Artifact × Nat)} (safe : Safe w)
    (genuine : w.Genuine entry) (read : readEntry accepts w entry = .ok found) : Read found w := by
  rintro a inode rfl
  unfold readEntry at read
  split at read
  · cases read
  · obtain ⟨seen, read, same⟩ := bind_ok.mp read
    cases same
    obtain ⟨content, identity⟩ := readJournal_found read
    have own := genuine inode rfl a (Option.join_eq_some_iff.mpr content) identity
    exact ⟨own, safe.journal inode own a content⟩

theorem promote_keeps {main new : Artifact × Nat} (own : ∀ w, fact w → main.2 ∈ w.created) :
    Keeps (Guarded fact) (promote main new) := by
  refine Keeps.bind (exchange_keeps lasting) fun _ => Keeps.bind (look_keeps lasting) fun stands => ?_
  split
  · exact Keeps.bind (unlinkIfIdentity_keeps lasting (fun _ => of_decide_eq_true) own) fun _ =>
      Keeps.bind Keeps.demand fun _ => Keeps.pure
  · exact Keeps.bind (exchange_keeps lasting) fun _ => Keeps.raise

theorem discard_keeps {main old : Artifact × Nat} (own : ∀ w, fact w → old.2 ∈ w.created) :
    Keeps (Guarded fact) (discard main old) :=
  Keeps.bind (unlinkIfIdentity_keeps lasting (fun _ => of_decide_eq_true) own) fun _ =>
    Keeps.bind Keeps.demand fun _ => Keeps.pure

theorem choosePair_keeps {main temporary : Artifact × Nat} (ownMain : ∀ w, fact w → main.2 ∈ w.created)
    (ownTemporary : ∀ w, fact w → temporary.2 ∈ w.created) : Keeps (Guarded fact) (choosePair main temporary) := by
  refine Keeps.bind Keeps.demand fun _ => ?_
  split
  · exact promote_keeps lasting ownMain
  · split
    · exact discard_keeps lasting ownTemporary
    · exact Keeps.raise

omit lasting in
/-- Whatever happens, a reader returns what it read. -/
theorem choosePair_returns {main temporary : Artifact × Nat} :
    Triple (fun _ => True) (choosePair main temporary) (fun a _ => a = main.1 ∨ a = temporary.1)
      (Regime.any.stops fun _ _ => True) := by
  refine Triple.bind Regime.any_runs fun _ => ?_
  split
  · refine Triple.bind Regime.any_runs fun _ => Triple.bind Regime.any_runs fun stands => ?_
    split
    · exact Triple.bind Regime.any_runs fun _ => Triple.bind Regime.any_runs fun _ => Triple.pure fun _ _ => .inr rfl
    · exact Triple.bind Regime.any_runs fun _ => raise_triple fun _ _ => ⟨True.intro, True.intro⟩
  · split
    · exact Triple.bind Regime.any_runs fun _ => Triple.bind Regime.any_runs fun _ => Triple.pure fun _ _ => .inl rfl
    · exact raise_triple fun _ _ => ⟨True.intro, True.intro⟩

theorem loadRecoverable_learns : Triple (Guarded fact) (loadRecoverable accepts)
    (fun a => Guarded fun w => fact w ∧ w.Own a.quarantineIdentity) (fun _ => Guarded fact) := by
  have readMain : Triple (Guarded fact) (look (.load .inspect) fun w => readEntry accepts w w.journal.evidence)
      (fun main => Guarded fun w => fact w ∧ Read main w) (fun _ => Guarded fact) :=
    look_learns lasting fun w main safe _ trust read => readEntry_read safe (of_decide_eq_true trust) read
  refine Triple.bind readMain fun main => ?_
  have withMain := lasting.and (Lasting.read main)
  have readTemporary : Triple (Guarded fun w => fact w ∧ Read main w)
      (look (.load .stat) fun w => readEntry accepts w w.journal.temporary)
      (fun temporary => Guarded fun w => (fact w ∧ Read main w) ∧ Read temporary w) (fun _ => Guarded fact) := by
    have learns : Triple (Guarded fun w => fact w ∧ Read main w)
        (look (.load .stat) fun w => readEntry accepts w w.journal.temporary)
        (fun temporary => Guarded fun w => (fact w ∧ Read main w) ∧ Read temporary w)
        (fun _ => Guarded fun w => fact w ∧ Read main w) :=
      look_learns withMain fun w temporary safe _ trust read => readEntry_read safe (of_decide_eq_true trust) read
    exact learns.fallback fun _ p => Guarded.mono (fun _ _ held => held.1) p
  refine Triple.bind readTemporary fun temporary => ?_
  have withBoth := withMain.and (Lasting.read temporary)
  have failed : ∀ (_ : Stop Failure) p, Guarded (fun w => (fact w ∧ Read main w) ∧ Read temporary w) p →
      Guarded fact p :=
    fun _ p => Guarded.mono (fun _ _ held => held.1.1) p
  cases main with
  | none =>
    cases temporary with
    | none => exact raise_triple (failed .crash)
    | some new =>
      refine (Triple.bind (publishFirst_keeps withBoth) fun _ => Triple.pure fun p => ?_).fallback failed
      exact Guarded.mono (fun _ _ held => ⟨held.1.1, (held.2 new.1 new.2 rfl).2⟩) p
  | some main =>
    cases temporary with
    | none =>
      exact Triple.pure fun p => Guarded.mono (fun _ _ held => ⟨held.1.1, (held.1.2 main.1 main.2 rfl).2⟩) p
    | some new =>
      have chosen := (choosePair_keeps withBoth (fun w held => (held.1.2 main.1 main.2 rfl).1)
        fun w held => (held.2 new.1 new.2 rfl).1).and choosePair_returns
      refine chosen.weaken (fun _ held => ⟨held, True.intro⟩) ?_ fun stop p held => failed stop p held.1
      rintro a p ⟨guarded, same⟩
      refine Guarded.mono (fun w _ held => ⟨held.1.1, ?_⟩) p guarded
      rcases same with rfl | rfl
      · exact (held.1.2 main.1 main.2 rfl).2
      · exact (held.2 new.1 new.2 rfl).2

end Loading

section Markers

variable {place : Place}

theorem createMarker_keeps : Keeps (Guarded fact) (createMarker place) := by
  refine step_keeps lasting fun w value w' went => ?_
  split at went
  · cases went
  · split at went
    · cases went
    · rename_i there
      obtain ⟨-, same⟩ := require_bind_ok.mp went
      cases same
      refine ⟨rfl, ⟨(allocate_later w).created, rfl, rfl⟩, fun safe _ _ => ?_⟩
      refine safe.allocate.setFolder (Nat.lt_succ_of_lt (safe.small there)) fun _ marker holds => ?_
      cases holds
      exact List.mem_cons_self

theorem writeMarker_keeps : Keeps (Guarded fact) (writeMarker place) := by
  refine Keeps.bind payload_keeps fun a => Keeps.bind (createMarker_keeps lasting) fun made => ?_
  refine Keeps.bind (change_keeps lasting (fun w => editFolder_later w _ _) fun w safe _ => safe.editFolder ?_) fun _ =>
    Keeps.bind (settle_keeps lasting) fun _ => settle_keeps lasting
  intro folder marker holds
  obtain ⟨before, was, same⟩ := Option.map_eq_some_iff.mp holds
  refine ⟨before, was, ?_⟩
  rw [← same]
  split
  · rfl
  · rfl

end Markers

omit lasting

/-- A fact about what was created and about the tree the payload records. -/
structure Steady (fact : World → Prop) : Prop where
  lasting : Lasting fact
  sworn : ∀ w, fact w → Sworn w
  revised : ∀ w a, fact w → a.destinationIdentity = w.payload.destinationIdentity → w.Own a.quarantineIdentity →
    fact { w with payload := a }

theorem Steady.only : Steady Sworn := ⟨Lasting.sworn, fun _ => id, fun _ _ _ _ own => own⟩

theorem Steady.created (steady : Steady fact) (inode : Nat) : Steady fun w => fact w ∧ inode ∈ w.created where
  lasting := steady.lasting.and (Lasting.created inode)
  sworn w held := steady.sworn w held.1
  revised w a held same own := ⟨steady.revised w a held.1 same own, held.2⟩

theorem Steady.recorded (steady : Steady fact) (tree : Option Nat) :
    Steady fun w => fact w ∧ w.payload.destinationIdentity = tree where
  lasting := steady.lasting.and (Lasting.destination tree)
  sworn w held := steady.sworn w held.1
  revised w a held same own := ⟨steady.revised w a held.1 same own, same.trans held.2⟩

theorem Steady.own (steady : Steady fact) (entry : Option Nat) : Steady fun w => fact w ∧ w.Own entry where
  lasting := steady.lasting.and (Lasting.own entry)
  sworn w held := steady.sworn w held.1
  revised w a held same own := ⟨steady.revised w a held.1 same own, held.2⟩

theorem Steady.given (steady : Steady fact) (known : Prop) : Steady fun w => fact w ∧ known where
  lasting w w' later held := ⟨steady.lasting w w' later held.1, held.2⟩
  sworn w held := steady.sworn w held.1
  revised w a held same own := ⟨steady.revised w a held.1 same own, held.2⟩

section Rollback

variable (steady : Steady fact)

include steady

theorem rollbackWrite_keeps : Keeps (Guarded fact) (rollbackWrite accepts) :=
  durableWrite_keeps steady.lasting steady.sworn

/-- The payload records another quarantine of the transaction, or none. -/
theorem revise_steady {edit : Artifact → Artifact} (same : ∀ a, (edit a).destinationIdentity = a.destinationIdentity)
    (own : ∀ w, fact w → w.Own (edit w.payload).quarantineIdentity) : Keeps (Guarded fact) (revise edit) :=
  revise_guarded fun w held => steady.revised w _ held (same _) (own w held)

omit steady in
/-- A quarantine identity that is read under its name is trusted. -/
theorem statQuarantine_learns {point : Point} (lasting : Lasting fact)
    (trusts : ∀ w : World, w.trusted point = true → w.Own w.area.quarantine) :
    Triple (Guarded fact) (look point fun w =>
      match w.area.quarantine with
      | none => throw .fileNotFound
      | some inode => return inode)
      (fun identity => Guarded fun w => fact w ∧ identity ∈ w.created) (fun _ => Guarded fact) := by
  refine look_learns lasting fun w value _ _ trust saw => ?_
  split at saw
  · cases saw
  · rename_i there
    cases saw
    exact trusts w trust _ there

/-- The quarantine just found is recorded and written down. -/
theorem recordQuarantine_learns (identity : Nat) :
    Triple (Guarded fun w => fact w ∧ identity ∈ w.created) (do
      revise fun a => { a with
        quarantineIdentity := some identity, createdPaths := addCreated .quarantine a.createdPaths }
      rollbackWrite accepts
      return identity)
      (fun identity => Guarded fun w => fact w ∧ identity ∈ w.created) (fun _ => Guarded fact) := by
  have named := steady.created identity
  have failed : ∀ (_ : Stop Failure) p, Guarded (fun w => fact w ∧ identity ∈ w.created) p → Guarded fact p :=
    fun _ p => Guarded.mono (fun _ _ held => held.1) p
  refine Triple.bind (Triple.fallback (revise_steady named (fun _ => rfl) fun w held inode same => ?_) failed) fun _ =>
    Triple.bind (Triple.fallback (rollbackWrite_keeps named) failed) fun _ => Triple.pure fun _ => id
  cases same
  exact held.2

theorem adoptQuarantine_learns : Triple (Guarded fact) (adoptQuarantine accepts)
    (fun identity => Guarded fun w => fact w ∧ identity ∈ w.created) (fun _ => Guarded fact) := by
  refine Triple.bind payload_keeps fun a => Triple.bind (look_keeps steady.lasting) fun proved =>
    Triple.bind Keeps.demand fun _ => ?_
  exact Triple.bind (statQuarantine_learns steady.lasting fun _ => of_decide_eq_true) fun identity =>
    recordQuarantine_learns steady identity

theorem createQuarantine_learns : Triple (Guarded fact) (createQuarantine accepts)
    (fun identity => Guarded fun w => fact w ∧ identity ∈ w.created) (fun _ => Guarded fact) := by
  have made : Keeps (Guarded fact) makeQuarantine := by
    refine step_keeps steady.lasting fun w value w' went => ?_
    obtain ⟨-, same⟩ := require_bind_ok.mp went
    cases same
    refine ⟨rfl, ⟨(allocate_later w).created, rfl, rfl⟩, fun safe _ _ => ?_⟩
    have placed : Safe (w.allocate.setFolder w.fresh {}) := safe.allocate.setFolder (Nat.lt_succ_self _) nofun
    exact placed.renamed rfl rfl rfl rfl rfl rfl
  have restricted : Keeps (Guarded fact) chmodQuarantine := by
    refine step_keeps steady.lasting fun w value w' went => ?_
    split at went
    · cases went
    · cases went
      obtain ⟨same, later⟩ := editFolder_later w _ _
      exact ⟨same, later, fun safe _ _ => safe.editFolder fun _ marker holds => ⟨marker, holds, rfl⟩⟩
  refine Triple.bind made fun _ => Triple.bind restricted fun _ =>
    Triple.bind (statQuarantine_learns steady.lasting fun _ => of_decide_eq_true) fun identity => ?_
  have named := steady.created identity
  have failed : ∀ (_ : Stop Failure) p, Guarded (fun w => fact w ∧ identity ∈ w.created) p → Guarded fact p :=
    fun _ p => Guarded.mono (fun _ _ held => held.1) p
  refine Triple.bind (Triple.fallback (writeMarker_keeps named.lasting) failed) fun _ =>
    Triple.bind (Triple.fallback (settle_keeps named.lasting) failed) fun _ => ?_
  exact recordQuarantine_learns steady identity

/-- The quarantine a rollback starts from is the transaction's. -/
theorem findQuarantine_learns : Triple (Guarded fact) (findQuarantine accepts)
    (fun quarantine => Guarded fun w => fact w ∧ w.Own quarantine) (fun _ => Guarded fact) := by
  have validated (identity : Nat) : Triple (Guarded fun w => fact w ∧ identity ∈ w.created) (do
      validateQuarantine identity
      return some identity) (fun quarantine => Guarded fun w => fact w ∧ w.Own quarantine) (fun _ => Guarded fact) := by
    have named := steady.created identity
    refine (Triple.bind (look_keeps named.lasting) fun _ => Triple.pure fun p => ?_).fallback
      fun _ p => Guarded.mono (fun _ _ held => held.1) p
    refine Guarded.mono (fun w _ held => ⟨held.1, fun inode same => ?_⟩) p
    cases same
    exact held.2
  refine Triple.bind payload_learns fun a => ?_
  have learnt := (steady.lasting.and ((Lasting.destination a.destinationIdentity).and
    (Lasting.quarantine a.quarantineIdentity)))
  have failed : ∀ (_ : Stop Failure) p, Guarded (fun w => fact w ∧
      w.payload.destinationIdentity = a.destinationIdentity ∧
      w.payload.quarantineIdentity = a.quarantineIdentity) p → Guarded fact p :=
    fun _ p => Guarded.mono (fun _ _ held => held.1) p
  refine Triple.bind (Triple.fallback (look_keeps learnt) failed) fun there => ?_
  split
  · split
    · rename_i identity known
      refine (validated identity).strengthen (Guarded.mono fun w _ held => ⟨held.1, ?_⟩)
      exact steady.sworn w held.1 identity (held.2.2.trans known)
    · refine Triple.strengthen ?_ (Guarded.mono fun w _ held => held.1)
      exact Triple.bind (adoptQuarantine_learns steady) fun identity => validated identity
  · refine Triple.strengthen ?_ (Guarded.mono fun w _ held => held.1)
    refine Triple.bind (revise_steady steady (fun a => ?_) fun w held => ?_) fun _ => Triple.pure fun p => ?_
    · split
      · rfl
      · rfl
    · split
      · exact steady.sworn w held
      · nofun
    · exact Guarded.mono (fun _ _ held => ⟨held, nofun⟩) p

/-- The tree to remove is the one the payload records from then on. -/
theorem findTree_learns {quarantine : Option Nat} {seen : Present} (own : ∀ w, fact w → w.Own quarantine) :
    Triple (Guarded fact) (findTree accepts quarantine seen)
      (fun tree => Guarded fun w => (Sworn w ∧ w.Own quarantine) ∧ (tree ≠ none → w.payload.destinationIdentity = tree))
      (fun _ => Guarded Sworn) := by
  have failed : ∀ (_ : Stop Failure) p, Guarded fact p → Guarded Sworn p :=
    fun _ p => Guarded.mono (fun w _ => steady.sworn w) p
  refine Triple.bind (Triple.fallback payload_learns failed) fun a => ?_
  split
  · rename_i identity known
    refine Triple.pure fun p => Guarded.mono (fun w _ held => ⟨⟨steady.sworn w held.1, own w held.1⟩, fun _ => ?_⟩) p
    exact held.2.1.trans known
  · refine Triple.strengthen ?_ (Guarded.mono fun _ _ held => held.1)
    split
    · refine Triple.bind (Triple.fallback (look_keeps steady.lasting) failed) fun _ =>
        Triple.bind (Triple.fallback Keeps.demand failed) fun _ =>
          Triple.bind (Triple.fallback (look_keeps steady.lasting) failed) fun identity => ?_
      have kept := (Steady.only.own quarantine).recorded (some identity)
      have revised : Triple (Guarded fact) (revise fun a => { a with
          destinationIdentity := some identity
          createdPaths := .staging :: (if quarantine.isSome then [.quarantine] else []) })
          (fun _ => Guarded fun w => (Sworn w ∧ w.Own quarantine) ∧ w.payload.destinationIdentity = some identity)
          (fun _ => Guarded Sworn) :=
        revise_guarded fun w held => ⟨⟨steady.sworn w held, own w held⟩, rfl⟩
      refine Triple.bind revised fun _ => Triple.bind (Triple.fallback (rollbackWrite_keeps kept) ?_) fun _ =>
        Triple.pure fun p => ?_
      · exact fun _ p => Guarded.mono (fun _ _ held => held.1.1) p
      · exact Guarded.mono (fun _ _ held => ⟨held.1, fun _ => held.2⟩) p
    · refine Triple.bind (Triple.fallback Keeps.demand failed) fun _ =>
        Triple.bind (Triple.fallback Keeps.demand failed) fun _ =>
        Triple.pure fun p => ?_
      exact Guarded.mono (fun w _ held => ⟨⟨steady.sworn w held, own w held⟩, fun some => absurd rfl some⟩) p

theorem moveTree_keeps {source : Place} : Keeps (Guarded fact) (moveTree source) := by
  refine step_keeps steady.lasting fun w value w' went => ?_
  split at went
  · split at went
    · cases went
    · rename_i inode _ _ _ folder there
      obtain ⟨vacant, same⟩ := require_bind_ok.mp went
      cases same
      rw [vacant]
      have moved (safe : Safe w) (owned : Option Nat) : Safe (w.setFolder inode { folder with owned }) :=
        safe.setFolder (safe.small there) fun own marker holds => safe.markers inode own folder marker there holds
      cases source with
      | staging => exact ⟨rfl, ⟨fun _ => id, rfl, rfl⟩, fun safe _ _ => (moved safe _).renamed rfl rfl rfl rfl rfl rfl⟩
      | destination => exact ⟨rfl, ⟨fun _ => id, rfl, rfl⟩, fun safe _ _ =>
          (moved safe _).renamed rfl rfl rfl rfl rfl rfl⟩
      | quarantine => exact ⟨rfl, ⟨fun _ => id, rfl, rfl⟩, fun safe _ _ =>
          (moved safe _).renamed rfl rfl rfl rfl rfl rfl⟩
  · cases went

theorem quarantineTree_keeps {source : Place} {quarantine identity : Nat} :
    Keeps (Guarded fact) (quarantineTree accepts source quarantine identity) :=
  Keeps.bind (moveTree_keeps steady) fun _ => Keeps.bind (settle_keeps steady.lasting) fun _ =>
    Keeps.bind (settle_keeps steady.lasting) fun _ => Keeps.bind (look_keeps steady.lasting) fun _ =>
      Keeps.bind Keeps.demand fun _ => Keeps.bind (revise_keeps steady.lasting fun _ => ⟨rfl, rfl⟩) fun _ =>
        rollbackWrite_keeps steady

section Removing

variable {quarantine identity : Nat}

/-- The tree in the quarantine is the recorded one. -/
def Holding (fact : World → Prop) (quarantine identity : Nat) (w : World) : Prop :=
  fact w ∧ (w.area.folders quarantine).bind Folder.owned = some identity

variable (own : ∀ w, fact w → quarantine ∈ w.created)

include own

omit steady in
/-- Nobody reaches into the quarantine. -/
theorem Holding.visited (lasting : Lasting fact) {point : Point} (w : World) (safe : Safe w)
    (holding : Holding fact quarantine identity w) : Holding fact quarantine identity (w.visited point) := by
  refine ⟨lasting.visited w safe holding.1, ?_⟩
  rw [((visited_cases safe).2.2.2 quarantine (own w holding.1)).1]
  exact holding.2

variable (recorded : ∀ w, fact w → w.payload.destinationIdentity = some identity)

include recorded

/-- An entry of the recorded tree goes; the tree stays where it is. -/
theorem prune_keeps {edit : Folder → Folder} (same : ∀ folder, (edit folder).owned = folder.owned)
    (kept : ∀ folder marker, (edit folder).marker = some marker →
      ∃ before, folder.marker = some before ∧ before.inode = marker.inode) :
    Keeps (Guarded (Holding fact quarantine identity))
      (change .removeEntry fun w => (w.editFolder identity edit).pruned identity) := by
  refine step_guarded (Holding.visited own steady.lasting) (fun _ => id) fun w value w' went => ?_
  cases went
  obtain ⟨undisturbed, later⟩ := editFolder_later w identity edit
  refine ⟨undisturbed, fun safe holding _ => ?_⟩
  have clean : Removal.Clean (w.editFolder identity edit).created (.tree identity
      (w.editFolder identity edit).payload.destinationIdentity) :=
    later.destination.trans (recorded w holding.1)
  refine ⟨(safe.editFolder kept).removed clean,
    steady.lasting w _ ⟨later.created, later.destination, later.quarantine⟩ holding.1, ?_⟩
  have owned := holding.2
  change ((w.editFolder identity edit).area.folders quarantine).bind Folder.owned = some identity
  unfold World.editFolder
  split
  · rename_i folder there
    by_cases isTree : quarantine = identity
    · subst isTree
      simpa [there, same] using owned
    · simpa [isTree] using owned
  · exact owned

omit recorded in
/-- What is opened in the quarantine is what was checked. -/
theorem removeTree_opens : Triple (Guarded (Holding fact quarantine identity)) (look .removeEntry fun w =>
      match (w.area.folders quarantine).bind Folder.owned with
      | none => throw .fileNotFound
      | some tree =>
        match w.area.folders tree with
        | none => throw .os
        | some folder => return (tree, folder.entries))
    (fun found => Guarded (Holding (fun w => fact w ∧ found.1 = identity) quarantine found.1)) (fun _ =>
      Guarded fact) := by
  refine step_guarded (Holding.visited own steady.lasting) (fun _ => And.left) fun w value w' went => ?_
  obtain ⟨found, saw, same⟩ := bind_ok.mp went
  cases same
  refine ⟨rfl, fun safe holding _ => ⟨safe, ?_⟩⟩
  dsimp only at saw
  rw [holding.2] at saw
  dsimp only at saw
  split at saw
  · cases saw
  · cases saw
    exact ⟨⟨holding.1, rfl⟩, holding.2⟩

/-- The directory of the tree goes by its name. -/
theorem removeRoot_keeps : Triple (Guarded (Holding fact quarantine identity)) (step .removeTree fun w =>
      match (w.area.folders quarantine).bind Folder.owned with
      | none => throw .fileNotFound
      | some left =>
        return ((), ((w.editFolder quarantine fun folder => { folder with owned := none }).dropFolder
          left).pruned left))
    (fun _ => Guarded fact) (fun _ => Guarded fact) := by
  refine step_guarded (Holding.visited own steady.lasting) (fun _ => And.left) fun w value w' went => ?_
  split at went
  · cases went
  · rename_i left there
    cases went
    obtain ⟨undisturbed, later⟩ := editFolder_later w quarantine fun folder => { folder with owned := none }
    refine ⟨undisturbed, fun safe holding _ => ?_⟩
    have isTree : left = identity := by
      rw [holding.2] at there
      exact (Option.some.inj there).symm
    have emptied : Safe (w.editFolder quarantine fun folder => { folder with owned := none }) :=
      safe.editFolder fun _ marker holds => ⟨marker, holds, rfl⟩
    refine ⟨emptied.dropFolder.removed ?_,
      steady.lasting w _ ⟨later.created, later.destination, later.quarantine⟩ holding.1⟩
    refine later.destination.trans ?_
    rw [isTree]
    exact recorded w holding.1

theorem removeOwned_keeps : Keeps (Guarded fact) (removeOwned quarantine identity) := by
  have checked : Triple (Guarded fact) (look .removeTree fun w =>
      return w.sameFolder ((w.area.folders quarantine).bind Folder.owned) identity)
      (fun same => Guarded fun w => fact w ∧ (same = true → (w.area.folders quarantine).bind Folder.owned =
        some identity))
      (fun _ => Guarded fact) := by
    refine look_learns steady.lasting fun w value _ _ _ saw same => ?_
    cases saw
    simp only [World.sameFolder, Bool.and_eq_true, decide_eq_true_eq] at same
    exact same.1
  refine Triple.bind checked fun same => ?_
  refine Triple.bind (demand_triple fun _ p => Guarded.mono (fun _ _ held => held.1) p) fun _ =>
    Triple.assume fun isTree => ?_
  have removed : Triple (Guarded (Holding fact quarantine identity)) (removeTree quarantine) (fun _ => Guarded fact)
      (fun _ => Guarded fact) := by
    refine Triple.bind (removeTree_opens steady own) fun found => ?_
    obtain ⟨tree, entries⟩ := found
    have known := steady.given (tree = identity)
    have ownTree (w : World) (held : fact w ∧ tree = identity) := own w held.1
    have recordedTree (w : World) (held : fact w ∧ tree = identity) : w.payload.destinationIdentity = some tree :=
      (recorded w held.1).trans (congrArg some held.2.symm)
    have failed : ∀ (_ : Stop Failure) p, Guarded (Holding (fun w => fact w ∧ tree = identity) quarantine tree) p →
        Guarded fact p := fun _ p => Guarded.mono (fun _ _ held => held.1.1) p
    refine Triple.bind (Triple.fallback (Keeps.forM fun entry => prune_keeps known ownTree recordedTree (fun _ => rfl)
      fun _ marker holds => ⟨marker, holds, rfl⟩) failed) fun _ => ?_
    refine Triple.bind (Triple.fallback (prune_keeps known ownTree recordedTree (fun _ => rfl) (by simp))
      failed) fun _ => ?_
    exact (removeRoot_keeps known ownTree recordedTree).conclude (fun _ p => Guarded.mono (fun _ _ held => held.1) p)
      fun _ p => Guarded.mono (fun _ _ held => held.1) p
  exact Triple.bind (removed.strengthen (Guarded.mono fun _ _ held => ⟨held.1, held.2 isTree⟩)) fun _ =>
    settle_keeps steady.lasting

end Removing

section Emptying

variable {quarantine identity : Nat} (own : ∀ w, fact w → quarantine ∈ w.created)

include own

/-- The marker in the transaction's quarantine is the transaction's. -/
theorem dropMarker_keeps : Keeps (Guarded fact) (dropMarker quarantine) := by
  refine Keeps.bind payload_keeps fun a => Keeps.bind (look_keeps steady.lasting) fun seen => Keeps.bind ?_ fun _ =>
    settle_keeps steady.lasting
  refine step_keeps steady.lasting fun w value w' went => ?_
  split at went
  · rename_i marker there
    obtain ⟨-, same⟩ := require_bind_ok.mp went
    cases same
    obtain ⟨undisturbed, later⟩ := editFolder_later w quarantine fun folder => { folder with marker := none }
    refine ⟨undisturbed, ⟨later.created, later.destination, later.quarantine⟩, fun safe held _ => ?_⟩
    obtain ⟨folder, content, holds⟩ := Option.bind_eq_some_iff.mp there
    have emptied : Safe (w.editFolder quarantine fun folder => { folder with marker := none }) := safe.editFolder nofun
    exact emptied.removed (later.created _ (safe.markers quarantine (own w held) folder marker content holds))
  · cases went

omit own in
theorem dropQuarantine_keeps : Keeps (Guarded fact) (dropQuarantine quarantine) := by
  refine Keeps.bind (look_keeps steady.lasting) fun _ => Keeps.bind ?_ fun _ => settle_keeps steady.lasting
  refine step_keeps steady.lasting fun w value w' went => ?_
  obtain ⟨-, went⟩ := require_bind_ok.mp went
  split at went
  · obtain ⟨-, same⟩ := require_bind_ok.mp went
    cases same
    refine ⟨rfl, ⟨fun _ => id, rfl, rfl⟩, fun safe _ _ => ?_⟩
    have dropped : Safe (w.dropFolder quarantine) := safe.dropFolder
    exact dropped.renamed rfl rfl rfl rfl rfl rfl
  · cases went

theorem emptyQuarantine_keeps {inside : Bool} (recorded : ∀ w, fact w → w.payload.destinationIdentity = some identity) :
    Keeps (Guarded fact) (emptyQuarantine quarantine identity inside) :=
  Keeps.bind (look_keeps steady.lasting) fun _ =>
    Keeps.bind (Keeps.onlyIf (removeOwned_keeps steady own recorded)) fun _ =>
    Keeps.bind (dropMarker_keeps steady own) fun _ => dropQuarantine_keeps steady

end Emptying

omit steady

/-- The payload claims no other quarantine. -/
theorem disclaim_keeps {fact : World → Prop} {edit : Artifact → Artifact} (steady : Steady fact)
    (own : ∀ a, (edit a).quarantineIdentity = a.quarantineIdentity ∨ (edit a).quarantineIdentity = none) :
    Triple (Guarded fact) (revise edit) (fun _ => Guarded Sworn) (fun _ => Guarded Sworn) := by
  refine revise_guarded fun w held inode same => ?_
  rcases own w.payload with kept | none
  · exact steady.sworn w held inode (kept ▸ same)
  · exact absurd (none.symm.trans same) nofun

/-- After a rollback the payload claims nothing. -/
theorem clearing_keeps {fact : World → Prop} {edit : Artifact → Artifact} {foreign : Bool} (steady : Steady fact)
    (own : ∀ a, (edit a).quarantineIdentity = a.quarantineIdentity ∨ (edit a).quarantineIdentity = none) :
    Triple (Guarded fact) (do
      revise edit
      rollbackWrite accepts
      demand (foreign = false) (.start .foreignRemains)) (fun _ => Guarded Sworn) (fun _ => Guarded Sworn) :=
  Triple.bind (disclaim_keeps steady own) fun _ => Keeps.bind (rollbackWrite_keeps Steady.only) fun _ => Keeps.demand

/-- The recorded tree, and what the rollback works with. -/
def Tracked (quarantine : Option Nat) (identity : Nat) (w : World) : Prop :=
  (Sworn w ∧ w.Own quarantine) ∧ w.payload.destinationIdentity = some identity

theorem tracked_steady {quarantine : Option Nat} {identity : Nat} : Steady (Tracked quarantine identity) :=
  (Steady.only.own quarantine).recorded (some identity)

theorem removeLocated_keeps {quarantine : Option Nat} {identity : Nat} {located : Located} :
    Triple (Guarded (Tracked quarantine identity)) (removeLocated accepts quarantine identity located)
      (fun _ => Guarded Sworn) (fun _ => Guarded Sworn) := by
  have rest (vault : Nat) : Triple (Guarded fun w => Tracked quarantine identity w ∧ vault ∈ w.created)
      (removeLocated accepts (some vault) identity located) (fun _ => Guarded Sworn) (fun _ => Guarded Sworn) := by
    have named : Steady fun w => Tracked quarantine identity w ∧ vault ∈ w.created := tracked_steady.created vault
    have failed : ∀ (_ : Stop Failure) p, Guarded (fun w => Tracked quarantine identity w ∧ vault ∈ w.created) p →
        Guarded Sworn p := fun _ p => Guarded.mono (fun _ _ held => held.1.1.1) p
    have finished (inside : Bool) : Triple (Guarded fun w => Tracked quarantine identity w ∧ vault ∈ w.created) (do
        emptyQuarantine vault identity inside
        revise fun a => { clearClaims a with quarantineIdentity := none }
        rollbackWrite accepts
        demand (located.foreign = false) (.start .foreignRemains)) (fun _ => Guarded Sworn) (fun _ => Guarded Sworn) :=
      Triple.bind (Triple.fallback (emptyQuarantine_keeps named (fun _ => And.right) fun _ held => held.1.2) failed)
        fun _ => clearing_keeps named fun _ => .inr rfl
    change Triple _ (validateQuarantine vault >>= _) _ _
    refine Triple.bind (Triple.fallback (look_keeps named.lasting) failed) fun _ => ?_
    cases located.source with
    | some place => exact Triple.bind (Triple.fallback (quarantineTree_keeps named) failed) fun _ => finished _
    | none => exact finished _
  have failed : ∀ (_ : Stop Failure) p, Guarded (Tracked quarantine identity) p → Guarded Sworn p :=
    fun _ p => Guarded.mono (fun _ _ held => held.1.1) p
  cases quarantine with
  | some known =>
    refine Triple.bind (Triple.pure fun p => ?_) rest
    exact Guarded.mono (fun _ _ held => ⟨held, held.1.2 known rfl⟩) p
  | none => exact Triple.bind (Triple.fallback (createQuarantine_learns tracked_steady) failed) rest

theorem rollbackTree_keeps {quarantine : Option Nat} {seen : Present} {identity : Nat} :
    Triple (Guarded (Tracked quarantine identity)) (rollbackTree accepts quarantine seen identity)
      (fun _ => Guarded Sworn) (fun _ => Guarded Sworn) := by
  refine Triple.bind (Triple.fallback (look_keeps tracked_steady.lasting) ?_) fun located => ?_
  · exact fun _ p => Guarded.mono (fun _ _ held => held.1.1) p
  · split
    · exact clearing_keeps tracked_steady fun _ => .inl rfl
    · exact removeLocated_keeps

theorem rollback_keeps : Keeps (Guarded Sworn) (rollback accepts) := by
  refine Keeps.bind (look_keeps Lasting.sworn) fun _ => ?_
  have failed (quarantine : Option Nat) : ∀ (_ : Stop Failure) p, Guarded (fun w => Sworn w ∧ w.Own quarantine) p →
      Guarded Sworn p := fun _ p => Guarded.mono (fun _ _ held => held.1) p
  refine Triple.bind (findQuarantine_learns Steady.only) fun quarantine => ?_
  have known := Steady.only.own quarantine
  refine Triple.bind (Triple.fallback (look_keeps known.lasting) (failed quarantine)) fun seen => ?_
  refine Triple.bind (findTree_learns known fun _ => And.right) fun tree => ?_
  cases tree with
  | none => exact Triple.pure fun p => Guarded.mono (fun _ _ held => held.1.1) p
  | some identity => exact rollbackTree_keeps.strengthen (Guarded.mono fun _ _ held => ⟨held.1, held.2 nofun⟩)

end Rollback

section Forward

variable {setting : Setting}

theorem workWrite_keeps : Keeps (Guarded Sworn) (workWrite setting) := durableWrite_keeps Lasting.sworn fun _ => id

theorem reserveStaging_keeps : Keeps (Guarded Sworn) (reserveStaging setting) := by
  have made : Keeps (Guarded Sworn) makeStaging := by
    refine step_keeps Lasting.sworn fun w value w' went => ?_
    obtain ⟨-, same⟩ := require_bind_ok.mp went
    cases same
    refine ⟨rfl, ⟨(allocate_later w).created, rfl, rfl⟩, fun safe _ _ => ?_⟩
    have placed : Safe (w.allocate.setFolder w.fresh {}) := safe.allocate.setFolder (Nat.lt_succ_self _) nofun
    exact placed.renamed rfl rfl rfl rfl rfl rfl
  refine Keeps.bind (revise_keeps Lasting.sworn fun _ => ⟨rfl, rfl⟩) fun _ => Keeps.bind workWrite_keeps fun _ =>
    Keeps.handle made fun failure => ?_
  split
  · exact Keeps.bind (revise_keeps Lasting.sworn fun _ => ⟨rfl, rfl⟩) fun _ =>
      Keeps.bind workWrite_keeps fun _ => Keeps.raise
  · exact Keeps.raise

/-- The marker is unlinked by its path, so the staging directory there is trusted. -/
theorem unlinkMarker_keeps : Keeps (Guarded Sworn) unlinkMarker := by
  refine step_keeps Lasting.sworn fun w value w' went => ?_
  split at went
  · cases went
  · rename_i inode stands
    split at went
    · cases went
    · rename_i folder there
      split at went
      · cases went
      · rename_i marker holds
        cases went
        refine ⟨rfl, ⟨fun _ => id, rfl, rfl⟩, fun safe _ trust => ?_⟩
        have emptied : Safe (w.setFolder inode { folder with marker := none }) :=
          safe.setFolder (safe.small there) (by simp)
        exact emptied.removed (safe.markers inode (of_decide_eq_true trust inode stands) folder marker there holds)

theorem claimStaging_keeps : Keeps (Guarded Sworn) (claimStaging setting) := by
  refine Keeps.bind reserveStaging_keeps fun _ => Keeps.bind (look_keeps Lasting.sworn) fun claimed =>
    Keeps.bind (revise_guarded fun _ => id) fun _ => Keeps.bind (settle_keeps Lasting.sworn) fun _ => ?_
  exact Keeps.bind (writeMarker_keeps Lasting.sworn) fun _ => Keeps.bind workWrite_keeps fun _ =>
    Keeps.bind unlinkMarker_keeps fun _ => Keeps.bind (settle_keeps Lasting.sworn) fun _ => Keeps.pure

theorem runCommand_keeps {number : Nat} {command : Command} : Keeps (Guarded Sworn) (runCommand number command) := by
  have ran : Keeps (Guarded Sworn) (step (.command number) fun w =>
      match w.area.staging with
      | none => throw .os
      | some inode => return ((), w.editFolder inode fun folder =>
          { folder with entries := folder.entries ++ command.leaves })) := by
    refine step_keeps Lasting.sworn fun w value w' went => ?_
    split at went
    · cases went
    · cases went
      obtain ⟨same, later⟩ := editFolder_later w _ _
      exact ⟨same, later, fun safe _ _ => safe.editFolder fun _ marker holds => ⟨marker, holds, rfl⟩⟩
  refine Keeps.bind ran fun _ => Keeps.bind (revise_keeps Lasting.sworn fun _ => ⟨rfl, rfl⟩) fun _ => ?_
  split
  · exact Keeps.pure
  · exact Keeps.raise

theorem publishDestination_keeps {claimed : Nat} : Keeps (Guarded Sworn) (publishDestination setting claimed) := by
  have renamed : Keeps (Guarded Sworn) publishStaging := by
    refine step_keeps Lasting.sworn fun w value w' went => ?_
    split at went
    · cases went
    · obtain ⟨vacant, same⟩ := require_bind_ok.mp went
      cases same
      rw [vacant]
      exact ⟨rfl, ⟨fun _ => id, rfl, rfl⟩, fun safe _ _ => safe.renamed rfl rfl rfl rfl rfl rfl⟩
  exact Keeps.bind (look_keeps Lasting.sworn) fun _ => Keeps.bind renamed fun _ =>
    Keeps.bind (settle_keeps Lasting.sworn) fun _ => Keeps.bind (look_keeps Lasting.sworn) fun _ =>
      Keeps.bind (revise_keeps Lasting.sworn fun _ => ⟨rfl, rfl⟩) fun _ => workWrite_keeps

theorem forward_keeps : Keeps (Guarded Sworn) (forward setting) := by
  refine Keeps.bind (look_keeps Lasting.sworn) fun _ => Keeps.bind claimStaging_keeps fun claimed =>
    Keeps.bind payload_keeps fun a => Keeps.bind (Keeps.forM fun repository => ?_) fun _ => ?_
  · exact Keeps.bind (Keeps.forM fun _ => runCommand_keeps) fun _ => workWrite_keeps
  · exact Keeps.bind (look_keeps Lasting.sworn) fun _ => Keeps.bind workWrite_keeps fun _ =>
      Keeps.bind publishDestination_keeps fun _ => Keeps.bind (revise_keeps Lasting.sworn fun _ => ⟨rfl, rfl⟩) fun _ =>
        Keeps.bind (durableWrite_keeps Lasting.sworn fun _ => id) fun _ => payload_keeps

theorem tryRollback_keeps : Keeps (Guarded Sworn) (tryRollback setting) :=
  Keeps.handle (Keeps.bind rollback_keeps fun _ => Keeps.pure) fun _ => Keeps.pure

theorem abandon_keeps {failure : Failure} : Keeps (Guarded Sworn) (abandon setting failure) := by
  have ended : Keeps (Guarded Sworn) (do
      durableWrite setting.accepts (.journal .ending)
      if failure.handled then payload else raise failure) := by
    refine Keeps.bind (durableWrite_keeps Lasting.sworn fun _ => id) fun _ => ?_
    split
    · exact payload_keeps
    · exact Keeps.raise
  refine Keeps.bind tryRollback_keeps fun result => ?_
  cases result with
  | none => exact Keeps.bind (disclaim_keeps Steady.only fun _ => .inr rfl) fun _ => ended
  | some other => exact Keeps.bind (disclaim_keeps Steady.only fun _ => .inl rfl) fun _ => ended

theorem executeStart_keeps : Keeps (Guarded fun _ => True) (executeStart setting) := by
  have checked {condition : Prop} [Decidable condition] {failure : Failure} {plan : Artifact} :
      Triple (Guarded fun w => True ∧ w.payload.destinationIdentity = plan.destinationIdentity ∧
        w.payload.quarantineIdentity = plan.quarantineIdentity) (demand condition failure)
        (fun _ p => condition ∧ Guarded (fun w => True ∧ w.payload.destinationIdentity = plan.destinationIdentity ∧
          w.payload.quarantineIdentity = plan.quarantineIdentity) p) (fun _ => Guarded fun _ => True) :=
    demand_triple fun _ p => Guarded.mono (fun _ _ _ => True.intro) p
  refine Triple.bind payload_learns fun plan => ?_
  refine Triple.bind checked fun _ => Triple.assume fun valid => ?_
  refine Triple.bind checked fun _ => Triple.assume fun planned => ?_
  have unclaimed : plan.Unclaimed := by
    have guards := valid.2.2.1
    rw [planned.1] at guards
    exact guards
  have rest : Keeps (Guarded Sworn) (do
      assertParents
      settle .lock
      look .precheck precheck
      durableWrite setting.accepts (.journal .opening)
      revise fun a => { a with state := .active, nextSafeAction := .recoverStart }
      durableWrite setting.accepts (.journal .opening)
      handle (forward setting) (abandon setting)) :=
    Keeps.bind (look_keeps Lasting.sworn) fun _ => Keeps.bind (settle_keeps Lasting.sworn) fun _ =>
      Keeps.bind (look_keeps Lasting.sworn) fun _ => Keeps.bind (durableWrite_keeps Lasting.sworn fun _ => id) fun _ =>
        Keeps.bind (revise_keeps Lasting.sworn fun _ => ⟨rfl, rfl⟩) fun _ =>
          Keeps.bind (durableWrite_keeps Lasting.sworn fun _ => id) fun _ =>
            Keeps.handle forward_keeps fun _ => abandon_keeps
  refine rest.weaken (Guarded.mono fun w _ held inode same => ?_) (fun _ p => Guarded.mono (fun _ _ _ => True.intro) p)
    fun _ p => Guarded.mono (fun _ _ _ => True.intro) p
  cases unclaimed.2.2.symm.trans (held.2.2.symm.trans same)

theorem rollBackRecovered_keeps {a : Artifact} : Keeps (Guarded Sworn) (rollBackRecovered setting a) := by
  have written : Keeps (Guarded Sworn) (durableWrite setting.accepts (.journal .ending)) :=
    durableWrite_keeps Lasting.sworn fun _ => id
  refine Keeps.bind tryRollback_keeps fun result => ?_
  cases result with
  | none => exact Keeps.bind (disclaim_keeps Steady.only fun _ => .inr rfl) fun _ =>
      Keeps.bind written fun _ => payload_keeps
  | some failure =>
    refine Keeps.bind (disclaim_keeps Steady.only fun a => .inl ?_) fun _ => Keeps.bind written fun _ => ?_
    · unfold refusedPayload
      split
      · rfl
      · rfl
    · split
      · exact payload_keeps
      · exact Keeps.raise

theorem recoverStart_keeps : Keeps (Guarded fun _ => True) (recoverStart setting) := by
  have forgets : ∀ p, Guarded Sworn p → Guarded (fun _ => True) p := fun p => Guarded.mono (fun _ _ _ => True.intro) p
  refine Keeps.bind (settle_keeps Lasting.true) fun _ => Triple.bind (loadRecoverable_learns Lasting.true) fun a => ?_
  have recorded : Triple (Guarded fun w => True ∧ w.Own a.quarantineIdentity) (revise fun _ => a) (fun _ =>
      Guarded Sworn)
      (fun _ => Guarded fun _ => True) := revise_guarded fun _ held => held.2
  refine Triple.bind recorded fun _ => ?_
  have rolled : Keeps (Guarded Sworn) (rollBackRecovered setting a) := rollBackRecovered_keeps
  refine Triple.bind (Triple.fallback (look_keeps Lasting.sworn) fun _ => forgets) fun _ => ?_
  have rest : Triple (Guarded Sworn) (rollBackRecovered setting a) (fun _ => Guarded fun _ => True)
      (fun _ => Guarded fun _ => True) := rolled.conclude (fun _ => forgets) fun _ => forgets
  cases a.state with
  | planned => exact rest
  | active => exact rest
  | committed => exact Triple.bind (Triple.fallback (look_keeps Lasting.sworn) fun _ => forgets) fun _ =>
      Triple.pure forgets
  | rolledBack => exact Triple.pure forgets
  | failed =>
    dsimp only
    split
    · exact rest
    · exact Triple.pure forgets

end Forward

section Runs

/-- Before the transaction nothing is its own, and it is not alone. -/
structure Untouched (w : World) : Prop where
  company : w.visits ≠ none
  created : w.created = []
  removals : w.removals = []
  files : ∀ inode, w.fresh ≤ inode → w.journal.files inode = none
  folders : ∀ inode, w.fresh ≤ inode → w.area.folders inode = none

/-- A start and any number of recoveries, each cut short anywhere or not, with visits before every step. -/
inductive Disturbed (setting : Setting) (w : World) : World → Prop where
  | start (faults : Schedule Failure) : Disturbed setting w (finalState (executeStart setting ⟨w, faults, []⟩)).disk
  | recovery (d : World) (faults : Schedule Failure) (before : Disturbed setting w d) :
      Disturbed setting w (finalState (recoverStart setting ⟨d, faults, []⟩)).disk

variable {setting : Setting} {w d : World}

theorem Untouched.safe (untouched : Untouched w) : Safe w where
  company := untouched.company
  bounded := by
    rw [untouched.created]
    nofun
  files := untouched.files
  folders := untouched.folders
  journal := by
    rw [untouched.created]
    nofun
  markers := by
    rw [untouched.created]
    nofun
  removals := by
    rw [untouched.removals]
    nofun

theorem Disturbed.guarded (untouched : Untouched w) (reached : Disturbed setting w d) :
    d.undisturbed = true → Safe d := by
  induction reached with
  | start faults =>
    have begins : Guarded (fun _ => True) (⟨w, faults, []⟩ : Process Point Failure World) :=
      fun _ => ⟨untouched.safe, True.intro⟩
    exact fun calm => (Triple.ended executeStart_keeps begins calm).1
  | recovery d faults before induction =>
    have begins : Guarded (fun _ => True) (⟨d, faults, []⟩ : Process Point Failure World) :=
      fun calm => ⟨induction calm, True.intro⟩
    exact fun calm => (Triple.ended recoverStart_keeps begins calm).1

/-- Whatever another process does to the names, unless it puts something of its own under a name while a
step trusts it: the files that were unlinked are the transaction's, the trees removed were recorded, and no
rename replaced anything. -/
theorem foreign_files_kept (setting : Setting) (w d : World) (untouched : Untouched w)
    (reached : Disturbed setting w d) (calm : d.undisturbed = true) :
    ∀ removal ∈ d.removals, removal.Clean d.created :=
  (reached.guarded untouched calm).removals

/-- The plan, with one visit before the step of the given number. -/
def visitedPlan (before : Nat) (visit : Visit) : World :=
  { planWorld with visits := some (List.replicate before none ++ [some visit]) }

/-- Someone else's file is put in the place of the evidence or of the temporary. -/
def swap (evidence temporary : Nat) : Visit where
  journal :=
    { evidence := some evidence, temporary := some temporary
      files := fun inode => if inode = 3 then some none else none }
  area := {}
  bins _ := none
  fresh := 4

theorem visitedPlan_untouched (before : Nat) (visit : Visit) : Untouched (visitedPlan before visit) :=
  ⟨nofun, rfl, rfl, fun _ _ => rfl, fun _ _ => rfl⟩

/-- A foreign file stands in the place of the evidence when it is checked again: the start takes its own
temporary back, and leaves the other file. -/
theorem foreign_files_kept_evidence :
    let d := (finalState (executeStart planSetting ⟨visitedPlan 16 (swap 3 2), [], []⟩)).disk
    d.removals = [.file 2] ∧ ∀ removal ∈ d.removals, removal.Clean d.created :=
  ⟨by decide +kernel, foreign_files_kept planSetting _ _ (visitedPlan_untouched 16 (swap 3 2)) (.start [])
    (by decide +kernel)⟩

/-- A foreign file that comes into the place of the displaced evidence after the last check is unlinked. -/
theorem foreign_temporary_unlinked :
    ∃ w d, Untouched w ∧ Disturbed planSetting w d ∧ ¬∀ removal ∈ d.removals, removal.Clean d.created := by
  refine ⟨visitedPlan 20 (swap 2 3), _, visitedPlan_untouched 20 (swap 2 3), .start (crashAfter 21), fun clean => ?_⟩
  have unlinked : Removal.file 3 ∈ (finalState (executeStart planSetting
    ⟨visitedPlan 20 (swap 2 3), crashAfter 21, []⟩)).disk.removals := by decide +kernel
  have created : 3 ∉ (finalState (executeStart planSetting
    ⟨visitedPlan 20 (swap 2 3), crashAfter 21, []⟩)).disk.created := by decide +kernel
  exact created (clean _ unlinked)

end Runs

end Darling.Start
