import Darling.Lifecycle.Lockstep

/-! What both replays do before the event loop: shape checks, the catalog, the seeded
ownership and the budget. On documents that satisfy the schema only the spelling of numbers
can make the shape checks differ. -/
namespace Darling.Lifecycle

open Oracle (Runtime AnchoredCapability addCapability addOwnership initialGenerations initialRuntime
  validOwnership)

theorem isTagged_name {id : String} (tagged : isTagged "cap." id = true) : isCapabilityName id = true :=
  Oracle.isTagged_starts tagged

theorem isIdentifier_nonempty {tail : Char → Bool} {text : String}
    (valid : isIdentifier tail text = true) : text ≠ "" := by
  rintro rfl
  simp [isIdentifier] at valid

theorem isWord_nonempty {allowed : Char → Bool} {text : String}
    (valid : isWord allowed text.toList = true) : text ≠ "" := by
  rintro rfl
  simp [isWord] at valid

theorem capabilityIds_tagged {data : EventData} (patterns : data.patterns = true) :
    supportedIntent data = true ∧
      ∀ pair ∈ data.capabilityIds, isTagged "cap." pair.1 = true := by
  cases data <;> simp_all [EventData.patterns, EventData.capabilityIds, supportedIntent]

theorem shape_iff {doc : Document} (schema : SatisfiesSchema doc) :
    validateTraceShape doc = .ok () ↔
      doc.schemaVersion.asU64 = some 1 ∧ doc.modelVersion.asU64 = some 1 := by
  have ids : doc.traceId ≠ "" ∧ doc.scenario ≠ "" :=
    ⟨isIdentifier_nonempty schema.traceId, isIdentifier_nonempty schema.scenario⟩
  have catalog : ∀ item ∈ doc.capabilityCatalog, isTagged "cap." item.capabilityId = true :=
    fun item listed => (schema.catalog item listed).1
  have live : ∀ item ∈ doc.liveCapabilities, isTagged "cap." item.capability = true := by
    intro item listed
    have valid := schema.live item listed
    simp only [Ownership.patterns, Bool.and_eq_true] at valid
    exact valid.1
  have events : ∀ event ∈ doc.events, supportedIntent event.data = true ∧
      ∀ pair ∈ event.data.capabilityIds, isTagged "cap." pair.1 = true :=
    fun event listed => capabilityIds_tagged (schema.events event listed)
  simp only [validateTraceShape, check, capabilityId, bind_ok, require_ok, exists_const, forM_ok]
  exact ⟨fun shape => shape.1, fun versions => ⟨versions, ids, schema.artifact, catalog, live, events⟩⟩

theorem provenance_ok {doc : Document} (schema : SatisfiesSchema doc) :
    Oracle.validateProvenance doc.provenance = .ok () := by
  simp only [Oracle.validateProvenance, bind_ok, require_ok, exists_const]
  exact ⟨schema.artifact, schema.artifactSha, schema.repository, isIdentifier_nonempty schema.profile,
    isIdentifier_nonempty schema.module, schema.commit, schema.tree⟩

/-- A number both replays read alike. -/
def JsonInteger.Plain (n : JsonInteger) : Prop := n.spelling = .digits ∧ n.value < 2 ^ 64

instance (n : JsonInteger) : Decidable n.Plain := inferInstanceAs (Decidable (_ ∧ _))

theorem asU64_some_iff {n : JsonInteger} {value : Nat} :
    n.asU64 = some value ↔ n.Plain ∧ n.value = value := by
  constructor
  · intro read
    obtain ⟨digits, small, same⟩ := asU64_value read
    exact ⟨⟨digits, small⟩, same⟩
  · rintro ⟨plain, rfl⟩
    exact asU64_plain plain

theorem JsonInteger.Plain.isInt {n : JsonInteger} (plain : n.Plain) : n.isInt = true := by
  simp [JsonInteger.isInt, plain.1]

/-! ### Catalog -/

theorem registerItem_ok {s s' : Reducer × Catalog} {item : CatalogItem} :
    registerItem s item = .ok s' ↔ item.generation.Plain ∧ isCapabilityName item.capabilityId = true ∧
      item.generation.value ≠ 0 ∧ item.capabilityId ∉ s.1.catalog ∧
      s' = ({ s.1 with
          catalog := s.1.catalog.insert item.capabilityId ⟨item.kind, item.generation.value⟩ },
        s.2.insert item.capabilityId ⟨item.kind, item.generation.value⟩) := by
  simp only [registerItem, bind_ok, readU64_ok, asU64_some_iff, pure_ok]
  constructor
  · rintro ⟨generation, ⟨plain, rfl⟩, reducer, registered, rfl⟩
    simp only [registerCapability] at registered
    split at registered
    · simp [ReplayError.lift] at registered
    · rename_i good
      simp only [ReplayError.lift, Except.ok.injEq] at registered
      subst registered
      simp only [Bool.not_eq_true', not_or, Bool.not_eq_false] at good
      exact ⟨plain, good.1, good.2.1, good.2.2, rfl⟩
  · rintro ⟨plain, name, positive, fresh, rfl⟩
    refine ⟨_, ⟨plain, rfl⟩, _, ?_, rfl⟩
    simp [registerCapability, name, positive, fresh, ReplayError.lift]

theorem addCapability_ok {c c' : Finmap (fun _ : String => AnchoredCapability)} {item : CatalogItem} :
    addCapability c item = .ok c' ↔ isCapabilityName item.capabilityId = true ∧ item.token ≠ "" ∧
      (item.generation.isInt = true ∧ 1 ≤ item.generation.value) ∧ item.capabilityId ∉ c ∧
      c.insert item.capabilityId
        ⟨item.capabilityId, item.kind, item.token, item.generation.value⟩ = c' := by
  simp only [addCapability, bind_ok, require_ok, exists_const, pure_ok]

/-- The two catalogs know the same capabilities, and nothing else has been set up. -/
structure CatalogsAgree (stable : StableState) (s : Reducer × Catalog)
    (c : Finmap (fun _ : String => AnchoredCapability)) : Prop where
  copy : s.2 = s.1.catalog
  fresh : s.1 = { Reducer.new stable with catalog := s.1.catalog }
  same : ∀ id, s.1.catalog.lookup id = (c.lookup id).map AnchoredCapability.entry

theorem CatalogsAgree.mem {stable : StableState} {s : Reducer × Catalog}
    {c : Finmap (fun _ : String => AnchoredCapability)} (agree : CatalogsAgree stable s c)
    {id : String} : id ∈ s.1.catalog ↔ id ∈ c := by
  rw [← Finmap.lookup_isSome, ← Finmap.lookup_isSome, agree.same id, Option.isSome_map]

theorem CatalogsAgree.insert {stable : StableState} {s : Reducer × Catalog}
    {c : Finmap (fun _ : String => AnchoredCapability)} (agree : CatalogsAgree stable s c)
    (item : AnchoredCapability) : CatalogsAgree stable
      ({ s.1 with catalog := s.1.catalog.insert item.capabilityId item.entry },
        s.2.insert item.capabilityId item.entry) (c.insert item.capabilityId item) where
  copy := congrArg (Finmap.insert _ _) agree.copy
  fresh := by
    have fresh := agree.fresh
    rw [fresh]
  same id := by
    by_cases here : id = item.capabilityId
    · subst here
      simp
    · simpa [Finmap.lookup_insert_of_ne _ here] using agree.same id

theorem catalogsAgree_new (stable : StableState) : CatalogsAgree stable (Reducer.new stable, ∅) ∅ where
  copy := rfl
  fresh := rfl
  same id := by simp [Reducer.new]

theorem oracle_registers {doc : Document} (schema : SatisfiesSchema doc) {s : Reducer × Catalog}
    (done : doc.capabilityCatalog.foldlM registerItem (Reducer.new doc.initial.stable, ∅) = .ok s) :
    ∃ c, doc.capabilityCatalog.foldlM addCapability ∅ = .ok c ∧
      CatalogsAgree doc.initial.stable s c := by
  refine foldlM_simulates ?_ (catalogsAgree_new _) done
  intro s c item s' listed agree registered
  obtain ⟨plain, name, positive, fresh, rfl⟩ := registerItem_ok.mp registered
  refine ⟨_, addCapability_ok.mpr ⟨name, ?_, ⟨plain.isInt, ?_⟩, ?_, rfl⟩, agree.insert
    ⟨item.capabilityId, item.kind, item.token, item.generation.value⟩⟩
  · exact isWord_nonempty (schema.catalog item listed).2.1
  · omega
  · exact fun known => fresh (agree.mem.mpr known)

theorem reducer_registers {doc : Document} {c : Finmap (fun _ : String => AnchoredCapability)}
    (plain : ∀ item ∈ doc.capabilityCatalog, item.generation.Plain)
    (done : doc.capabilityCatalog.foldlM addCapability ∅ = .ok c) :
    ∃ s, doc.capabilityCatalog.foldlM registerItem (Reducer.new doc.initial.stable, ∅) = .ok s ∧
      CatalogsAgree doc.initial.stable s c := by
  refine foldlM_simulates (R := fun c s => CatalogsAgree doc.initial.stable s c) ?_
    (catalogsAgree_new _) done
  intro c s item c' listed agree added
  obtain ⟨name, _, ⟨_, positive⟩, fresh, rfl⟩ := addCapability_ok.mp added
  refine ⟨_, registerItem_ok.mpr ⟨plain item listed, name, ?_, ?_, rfl⟩, agree.insert
    ⟨item.capabilityId, item.kind, item.token, item.generation.value⟩⟩
  · omega
  · exact fun known => fresh (agree.mem.mp known)

/-! ### Seeded ownership -/

theorem seedItem_ok {r r' : Reducer} {item : Ownership} :
    seedItem r item = .ok r' ↔ ∃ entry, r.catalog.lookup item.capability = some entry ∧
      item.capability ∉ r.live ∧ r' = { r with
        consumed := insert (item.capability, entry.generation) r.consumed
        live := r.live.insert item.capability item.owner } := by
  constructor
  · intro seeded
    cases result : seedOwnership r item.capability item.owner with
    | error error => simp [seedItem, result, ReplayError.lift] at seeded
    | ok after =>
      have same : after = r' := by simpa [seedItem, result, ReplayError.lift] using seeded
      exact same ▸ seed_ok result
  · rintro ⟨entry, known, idle, rfl⟩
    simp [seedItem, seedOwnership, known, idle, ReplayError.lift]

theorem addOwnership_ok {c : Finmap (fun _ : String => AnchoredCapability)} {live live' : Owners}
    {item : Ownership} :
    addOwnership c live item = .ok live' ↔ validOwnership item = true ∧
      (item.capability ∈ c ∧ item.capability ∉ live) ∧
      live.insert item.capability item.owner = live' := by
  simp only [addOwnership, bind_ok, require_ok, exists_const, pure_ok]

theorem validOwnership_patterns {item : Ownership} (valid : item.patterns = true) :
    validOwnership item = true := by
  simp only [Ownership.patterns, Bool.and_eq_true] at valid
  simp only [validOwnership, Bool.and_eq_true]
  exact ⟨isTagged_name valid.1, valid.2⟩

/-- Seeding so far: the same ownership, and exactly its generations consumed. -/
structure SeedsAgree (base r : Reducer) (live : Owners) : Prop where
  fresh : r = { base with live := live, consumed := r.consumed }
  consumed : ∀ id generation, (id, generation) ∈ r.consumed ↔
    id ∈ live ∧ ∃ entry, base.catalog.lookup id = some entry ∧ entry.generation = generation

theorem SeedsAgree.insert {base r : Reducer} {live : Owners} (agree : SeedsAgree base r live)
    {item : Ownership} {entry : CatalogEntry} (known : base.catalog.lookup item.capability = some entry) :
    SeedsAgree base { r with
        consumed := insert (item.capability, entry.generation) r.consumed
        live := r.live.insert item.capability item.owner }
      (live.insert item.capability item.owner) where
  fresh := by
    have fresh := agree.fresh
    rw [fresh]
  consumed id generation := by
    by_cases here : id = item.capability
    · subst here
      simp only [Finset.mem_insert, Prod.mk.injEq, true_and, agree.consumed, Finmap.mem_insert,
        true_or, known, Option.some.injEq, exists_eq_left']
      constructor
      · rintro (rfl | ⟨_, same⟩)
        · rfl
        · exact same
      · exact fun same => Or.inl same.symm
    · simp [here, agree.consumed]

theorem CatalogsAgree.catalog_mem {stable : StableState} {s : Reducer × Catalog}
    {c : Finmap (fun _ : String => AnchoredCapability)} (agree : CatalogsAgree stable s c) {id : String} :
    id ∈ c ↔ ∃ entry, s.1.catalog.lookup id = some entry := by
  rw [← agree.mem, Finmap.mem_iff]

section Seeds

variable {doc : Document} {s : Reducer × Catalog}
  {c : Finmap (fun _ : String => AnchoredCapability)}
  (catalogs : CatalogsAgree doc.initial.stable s c)
include catalogs

theorem seedsAgree_new : SeedsAgree s.1 s.1 ∅ := by
  have fresh := catalogs.fresh
  have live : s.1.live = ∅ := by rw [fresh]; rfl
  have consumed : s.1.consumed = ∅ := by rw [fresh]; rfl
  exact ⟨by rw [← live], by simp [consumed, Finmap.notMem_empty]⟩

theorem oracle_seeds (schema : SatisfiesSchema doc) {r : Reducer}
    (done : doc.liveCapabilities.foldlM seedItem s.1 = .ok r) :
    ∃ live, doc.liveCapabilities.foldlM (addOwnership c) ∅ = .ok live ∧ SeedsAgree s.1 r live := by
  refine foldlM_simulates ?_ (seedsAgree_new catalogs) done
  intro r live item r' listed agree seeded
  obtain ⟨entry, known, idle, rfl⟩ := seedItem_ok.mp seeded
  have known : s.1.catalog.lookup item.capability = some entry := by
    rw [agree.fresh] at known
    exact known
  have idle : item.capability ∉ live := by
    rw [agree.fresh] at idle
    exact idle
  refine ⟨_, addOwnership_ok.mpr ⟨validOwnership_patterns (schema.live item listed), ⟨?_, idle⟩, rfl⟩,
    agree.insert known⟩
  exact catalogs.catalog_mem.mpr ⟨entry, known⟩

theorem reducer_seeds {live : Owners}
    (done : doc.liveCapabilities.foldlM (addOwnership c) ∅ = .ok live) :
    ∃ r, doc.liveCapabilities.foldlM seedItem s.1 = .ok r ∧ SeedsAgree s.1 r live := by
  refine foldlM_simulates (R := fun live r => SeedsAgree s.1 r live) ?_
    (seedsAgree_new catalogs) done
  intro live r item live' listed agree added
  obtain ⟨_, ⟨known, idle⟩, rfl⟩ := addOwnership_ok.mp added
  obtain ⟨entry, known⟩ := catalogs.catalog_mem.mp known
  refine ⟨_, seedItem_ok.mpr ⟨entry, ?_, ?_, rfl⟩, agree.insert known⟩
  · rw [agree.fresh]
    exact known
  · rw [agree.fresh]
    exact idle

end Seeds

theorem seeded_mem {c : Finmap (fun _ : String => AnchoredCapability)} {items : List Ownership}
    {start live : Owners} (done : items.foldlM (addOwnership c) start = .ok live) (id : String) :
    id ∈ live ↔ id ∈ start ∨ id ∈ items.map Ownership.capability := by
  induction items generalizing start with
  | nil =>
    cases done
    simp
  | cons item rest ih =>
    simp only [List.foldlM_cons, bind_ok] at done
    obtain ⟨middle, added, more⟩ := done
    obtain ⟨_, _, rfl⟩ := addOwnership_ok.mp added
    rw [ih more, Finmap.mem_insert, List.map_cons, List.mem_cons]
    tauto

theorem mem_initialGenerations {c : Finmap (fun _ : String => AnchoredCapability)}
    {items : List Ownership} {id : String} {generation : Nat} :
    generation ∈ ((initialGenerations c items).lookup id).getD ∅ ↔
      id ∈ items.map Ownership.capability ∧
        ∃ entry, c.lookup id = some entry ∧ entry.generation = generation := by
  induction items using List.reverseRecOn with
  | nil => simp [initialGenerations]
  | append_singleton items item ih =>
    rw [List.map_append, List.mem_append]
    cases known : c.lookup item.capability with
    | none =>
      have unchanged : initialGenerations c (items ++ [item]) = initialGenerations c items := by
        simp [initialGenerations, known]
      rw [unchanged, ih]
      constructor
      · rintro ⟨listed, rest⟩
        exact ⟨Or.inl listed, rest⟩
      · rintro ⟨listed | here, entry, lookup, same⟩
        · exact ⟨listed, entry, lookup, same⟩
        · simp only [List.map_cons, List.map_nil, List.mem_singleton] at here
          subst here
          simp [known] at lookup
    | some entry =>
      have added : initialGenerations c (items ++ [item]) =
          (initialGenerations c items).insert item.capability {entry.generation} := by
        simp [initialGenerations, known]
      rw [added]
      by_cases here : id = item.capability
      · subst here
        simp [known, eq_comm]
      · simp [Finmap.lookup_insert_of_ne _ here, ih, here]

section Start

variable {doc : Document} (idle : doc.Idle) {s : Reducer × Catalog}
  {c : Finmap (fun _ : String => AnchoredCapability)}
  (catalogs : CatalogsAgree doc.initial.stable s c) {r : Reducer} {live : Owners}
  (seeded : doc.liveCapabilities.foldlM (addOwnership c) ∅ = .ok live)
  (seeds : SeedsAgree s.1 r live)

include catalogs seeds in
/-- Nothing but the catalog and the seeded ownership has been set up. -/
theorem reducer_fresh : r = { Reducer.new doc.initial.stable with
    catalog := s.1.catalog, live := live, consumed := r.consumed } := by
  have start := seeds.fresh
  rw [catalogs.fresh] at start
  exact start

include seeded in
theorem seeded_ids (id : String) :
    id ∈ live ↔ id ∈ doc.liveCapabilities.map Ownership.capability := by
  rw [seeded_mem seeded id]
  simp [Finmap.notMem_empty]

include idle catalogs seeded seeds

theorem sim_start : Sim r (initialRuntime doc.initial c live doc.liveCapabilities) := by
  have fresh := reducer_fresh catalogs seeds
  have snapshot : doc.initial = r.snapshot := by
    rw [fresh]
    change doc.initial = ⟨doc.initial.stable, .none, .none⟩
    rw [← idle.1, ← idle.2]
  have consumed : ∀ id generation, generation ∈ Oracle.consumedOf
      (initialRuntime doc.initial c live doc.liveCapabilities) id ↔ (id, generation) ∈ r.consumed := by
    intro id generation
    rw [seeds.consumed, seeded_ids seeded, Oracle.consumedOf]
    refine mem_initialGenerations.trans (and_congr_right fun _ => ?_)
    rw [catalogs.same id]
    cases c.lookup id <;> simp [AnchoredCapability.entry]
  exact
    { snapshot := snapshot
      catalog := by rw [fresh]; exact catalogs.same
      live := by rw [fresh]; rfl
      matched := by rw [fresh]; rfl
      gone := by rw [fresh]; rfl
      obligations := by rw [fresh]; rfl
      companions := by rw [fresh]; simp [Reducer.new]
      steps := by rw [fresh]; rfl
      observations := by rw [fresh]; rfl
      consumed := consumed
      checkpointMatched := by rw [fresh]; rfl
      checkpointGone := by rw [fresh]; rfl
      transaction := by rw [fresh]; exact fun _ => rfl
      lateForkSeen := by rw [fresh]; rfl
      lateForkFaultSeen := by rw [fresh]; rfl
      membershipClosed := by rw [fresh]; rfl
      lateForkAfterClosed := by rw [fresh]; rfl
      terminal := by rw [fresh]; rfl
      quiet := by rw [fresh]; exact ⟨rfl, rfl⟩
      identified := by rw [fresh]; exact ⟨rfl, rfl⟩ }

/-- Before the first event the two states are related. -/
theorem related_start (lost : doc.initial.stable = .corrupt →
      seedsLost (doc.liveCapabilities.map Ownership.capability) doc.events = true)
    (ledger : Ledger r) : Related live doc.events ⟨r, 0, false⟩
      (initialRuntime doc.initial c live doc.liveCapabilities, -1) := by
  have fresh := reducer_fresh catalogs seeds
  have sim := sim_start idle catalogs seeded seeds
  refine ⟨sim, ledger, ?_, ?_, by rw [fresh]; rfl⟩
  · refine Or.inr ⟨by rw [fresh]; rfl, rfl, Or.inl ⟨by rw [fresh]; rfl, ?_⟩⟩
    intro corrupt
    have corrupt : doc.initial.stable = .corrupt := by
      rw [← corrupt, ← sim.snapshot]
      rfl
    refine ⟨doc.liveCapabilities.map Ownership.capability, lost corrupt, ?_⟩
    exact fun id seed => Or.inl ((seeded_ids seeded id).mp seed)
  · intro time
    change (-1 : Int) ≤ time ↔ 0 ≤ time
    omega

end Start

end Darling.Lifecycle
