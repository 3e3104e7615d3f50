import Darling.Caches.Documents

/-! `test_verdict_cache.py`: the verdict store, its markers, and the decision to reuse one.

The hash of a canonical document is a parameter. A store is fixed by what each key's entry holds. -/
namespace Darling.Caches.Verdicts

def kind : Text := "west-test-verdict".toList

/-- The path of an entry. -/
inductive Entry where
  | absent
  | link
  | file
  | directory (marker : MarkerFile)

structure Store where
  entry : Text → Entry

def emptyStore : Store := { entry := fun _ => .absent }

section Hashing

variable (sha : Json → Text)

/-- `canonical_digest`. -/
def canonicalDigest (value : Json) : Text := sha value.canonical

/-- The document that an identity is hashed in. A recorded identity is JSON already, so `_jsonable`
leaves it as it is. -/
def identityDocument (identity : Members) : Json :=
  .obj (Members.updating [("schema".toList, schema), ("kind".toList, .str kind)] identity)

def identityKey (identity : Members) : Text := canonicalDigest sha (identityDocument identity)

end Hashing

def isNumber : Json → Bool
  | .bool _ | .int _ | .float _ => true
  | _ => false

def isTextOrNone : Json → Bool
  | .str _ | .null => true
  | _ => false

/-- `isinstance(value, dict)`. -/
def isDict : Json → Bool
  | .obj _ => true
  | _ => false

def isNonemptyText : Json → Bool
  | .str text => !text.isEmpty
  | _ => false

def isDigestOrNone : Json → Bool
  | .null => true
  | .str text => text.length == 64
  | _ => false

/-- `_entry_valid`. -/
def entryValid (marker : Members) : Bool :=
  (marker.get "verdict".toList).same (.int 0) &&
    (marker.get "identity-digest".toList).same (marker.get "key".toList) &&
    (isDict (marker.get "identity".toList) && (marker.get "identity".toList).truthy) &&
    isNonemptyText (marker.get "recorded-at".toList) &&
    isNumber (marker.get "duration-seconds".toList) &&
    isTextOrNone (marker.get "ok-marker".toList) &&
    isTextOrNone (marker.get "bundle".toList) &&
    isDigestOrNone (marker.get "guest-stdout-sha256".toList) &&
    isDict (marker.get "provenance".toList)

/-- `entry_reusable`. -/
def entryReusable (entry : Entry) (key : Text) (validate : Members → Bool) : Except Raised Bool :=
  match entry with
  | .directory marker => do
    match ← readMarker kind marker key with
    | none => return false
    | some members => return validate members
  | _ => return false

/-- `_read_marker` of an entry that is there. -/
def Entry.markerFile : Entry → MarkerFile
  | .directory marker => marker
  | _ => .absent

/-- `read_verdict`, but for the use time that `touch_entry` sets. -/
def readVerdict (store : Store) (key : Text) : Except Raised (Option Members) := do
  if ← entryReusable (store.entry key) key entryValid then
    readMarker kind (store.entry key).markerFile key
  else
    return none

section Announcement

/-- `(workload or {}).get("class") or "unknown"`. -/
def classOf (workload : Json) : Except Raised Json :=
  match workload.orElse (.obj []) with
  | .obj members => .ok ((Members.get members "class".toList).orElse (.str "unknown".toList))
  | _ => .error .attribute

def workloadClass (identity : Members) : Except Raised Json := classOf (identity.get "workload".toList)

/-- The workload class that `reuse_summary` announces for a marker. -/
def announcedClass (marker : Members) : Except Raised Json :=
  match (marker.get "identity".toList).orElse (.obj []) with
  | .obj identity => workloadClass identity
  | _ => .error .attribute

end Announcement

section Publication

/-- What a publication records beside the identity and the verdict. -/
structure Observation where
  recordedAt : Text
  durationSeconds : Floating
  okMarker : Option Text
  bundle : Option Text
  guestStdoutSha256 : Option Text
  provenance : Members

def optionalText : Option Text → Json
  | none => .null
  | some text => .str text

/-- The marker of `write_entry`. -/
def publishedMarker (key : Text) (identity : Members) (verdict : Int) (seen : Observation) : Members :=
  [("schema".toList, schema), ("kind".toList, .str kind), ("key".toList, .str key),
    ("identity-digest".toList, .str key), ("identity".toList, .obj identity),
    ("verdict".toList, .int verdict), ("recorded-at".toList, .str seen.recordedAt),
    ("duration-seconds".toList, .float seen.durationSeconds),
    ("ok-marker".toList, optionalText seen.okMarker), ("bundle".toList, optionalText seen.bundle),
    ("guest-stdout-sha256".toList, optionalText seen.guestStdoutSha256),
    ("provenance".toList, .obj seen.provenance)]

def Store.set (store : Store) (key : Text) (entry : Entry) : Store :=
  { entry := fun other => if other = key then entry else store.entry other }

/-- `write_entry`: an entry that is a link keeps being one, and what it leads to is written. -/
def writeEntry (sha : Json → Text) (store : Store) (key : Text) (identity : Members) (verdict : Int)
    (seen : Observation) : Except Raised Store :=
  if identityKey sha identity ≠ key then .error .foreignIdentity
  else
    match store.entry key with
    | .file => .error .occupied
    | .link => .ok store
    | _ =>
      .ok (store.set key (.directory (.file (.document (.obj (publishedMarker key identity verdict seen))))))

end Publication

section Reuse

variable (sha : Json → Text)

/-- The marker of a cached pass describes the identity behind its key: the verdict is zero, the
recorded identity hashes to the key, and the class announced is that of every identity with the key. -/
def Describes (key : Text) (marker : Members) : Prop :=
  (marker.get "verdict".toList).same (.int 0) = true ∧
    ∃ identity, marker.get "identity".toList = .obj identity ∧ identityKey sha identity = key ∧
      ∀ original name, identityKey sha original = key → workloadClass original = .ok (.str name) →
        announcedClass marker = .ok (.str name)

/-- Every cached pass for the key describes its identity. -/
def Faithful (store : Store) (key : Text) : Prop :=
  ∀ marker, readVerdict store key = .ok (some marker) → Describes sha key marker

/-- The entry of the key holds a marker that names the key in its fields, and passes every check of
a field, but records an identity of another key. -/
def Forged (store : Store) (key : Text) : Prop :=
  ∃ marker identity : Members, store.entry key = .directory (.file (.document (.obj marker))) ∧
    markerMatches kind key marker = true ∧ entryValid marker = true ∧
    marker.get "identity".toList = .obj identity ∧ identityKey sha identity ≠ key

/-- The one way to a cached pass: a real directory with a real marker that passes both checks. -/
theorem readVerdict_some {store : Store} {key : Text} {marker : Members} :
    readVerdict store key = .ok (some marker) ↔
      store.entry key = .directory (.file (.document (.obj marker))) ∧
        markerMatches kind key marker = true ∧ entryValid marker = true := by
  unfold readVerdict entryReusable
  cases hentry : store.entry key with
  | directory file =>
    cases hread : readMarker kind file key with
    | error raised =>
      have never : ¬ (file = .file (.document (.obj marker)) ∧ markerMatches kind key marker = true) :=
        fun h => by simp [readMarker_some.mpr h] at hread
      simp only [hread, bind, Except.bind, Entry.directory.injEq]
      constructor
      · intro e
        cases e
      · intro ⟨same, accepted, _⟩
        exact absurd ⟨same, accepted⟩ never
    | ok found =>
      cases found with
      | none =>
        have never : ¬ (file = .file (.document (.obj marker)) ∧ markerMatches kind key marker = true) :=
          fun h => by simp [readMarker_some.mpr h] at hread
        simp only [hread, bind, Except.bind, pure, Except.pure, Entry.directory.injEq]
        constructor
        · intro e
          cases e
        · intro ⟨same, accepted, _⟩
          exact absurd ⟨same, accepted⟩ never
      | some present =>
        obtain ⟨rfl, accepted⟩ := readMarker_some.mp hread
        by_cases valid : entryValid present = true
        · simp only [hread, bind, Except.bind, pure, Except.pure, valid, Entry.markerFile, ↓reduceIte,
            Except.ok.injEq, Option.some.injEq, Entry.directory.injEq, MarkerFile.file.injEq,
            Content.document.injEq, Jsons.Parsed.obj.injEq]
          constructor
          · intro e
            exact ⟨e, e ▸ accepted, e ▸ valid⟩
          · intro ⟨e, _, _⟩
            exact e
        · simp only [hread, bind, Except.bind, pure, Except.pure, valid, Entry.directory.injEq,
            MarkerFile.file.injEq, Content.document.injEq, Jsons.Parsed.obj.injEq]
          constructor
          · intro e
            cases e
          · intro ⟨e, _, passed⟩
            exact absurd (e ▸ passed) valid
  | _ => simp [bind, Except.bind, pure, Except.pure]

theorem entryValid_verdict {marker : Members} (h : entryValid marker = true) :
    (marker.get "verdict".toList).same (.int 0) = true := by
  simp only [entryValid, Bool.and_eq_true] at h
  exact h.1.1.1.1.1.1.1.1

theorem entryValid_identity {marker : Members} (h : entryValid marker = true) :
    ∃ identity, marker.get "identity".toList = .obj identity ∧
      (marker.get "identity".toList).truthy = true := by
  simp only [entryValid, Bool.and_eq_true] at h
  obtain ⟨dict, truthy⟩ := h.1.1.1.1.1.1.2
  cases hi : marker.get "identity".toList with
  | obj identity => exact ⟨identity, rfl, hi ▸ truthy⟩
  | _ =>
    rw [hi] at dict
    exact absurd dict Bool.false_ne_true

theorem classOf_canonical (workload : Json) :
    classOf workload.canonical = (classOf workload).map Json.canonical := by
  have otherwise (value default : Json) :
      (value.orElse default).canonical = value.canonical.orElse default.canonical := by
    rw [Json.orElse, Json.orElse, Json.truthy_canonical]
    split <;> rfl
  have empty : Json.canonical (.obj []) = .obj [] := by rfl
  unfold classOf
  rw [← empty, ← otherwise, empty]
  cases workload.orElse (.obj []) with
  | obj members =>
    rw [Json.canonical]
    simp only [get_canonical, Except.map]
    rw [otherwise, Json.canonical]
  | _ => simp [Json.canonical, Except.map]

theorem get_identityDocument (identity : Members) {name : Text} (hs : name ≠ "schema".toList)
    (hk : name ≠ "kind".toList) :
    (Members.updating [("schema".toList, schema), ("kind".toList, .str kind)] identity).get name =
      identity.get name := by
  have fresh (present : Text × Json → Bool) :
      ([("schema".toList, schema), ("kind".toList, .str kind)].filter present).lookup name = none := by
    have rs : (name == "schema".toList) = false := by simpa using hs
    have rk : (name == "kind".toList) = false := by simpa using hk
    simp only [List.filter_cons, List.filter_nil]
    split <;> split <;> simp only [List.lookup_cons, List.lookup_nil, rs, rk]
  rw [Members.updating, Members.get, List.lookup_append, fresh, Members.get, Option.or_none]

/-- Without collisions, two identities of one key are of one workload class. -/
theorem workloadClass_unique {sha : Json → Text} (collisionFree : Function.Injective sha)
    {recorded original : Members} (h : identityKey sha recorded = identityKey sha original) {name : Text}
    (announced : workloadClass original = .ok (.str name)) : workloadClass recorded = .ok (.str name) := by
  have documents := collisionFree h
  simp only [identityDocument, Json.canonical, Jsons.Parsed.obj.injEq] at documents
  have workloads : (recorded.get "workload".toList).canonical = (original.get "workload".toList).canonical := by
    rw [← get_identityDocument recorded (by decide) (by decide), ← get_canonical, documents, get_canonical,
      get_identityDocument original (by decide) (by decide)]
  have classes : (workloadClass recorded).map Json.canonical = .ok (.str name) := by
    rw [workloadClass, ← classOf_canonical, workloads, classOf_canonical, ← workloadClass, announced]
    rfl
  cases hr : workloadClass recorded with
  | error raised => simp [hr, Except.map] at classes
  | ok value =>
    rw [hr, Except.map, Except.ok.injEq] at classes
    rw [Json.canonical_str classes]

theorem announcedClass_eq {marker identity : Members} (h : marker.get "identity".toList = .obj identity)
    (truthy : (marker.get "identity".toList).truthy = true) :
    announcedClass marker = workloadClass identity := by
  rw [announcedClass, Json.orElse, if_pos truthy, h]

/-- A cached pass describes the identity of its key exactly when the entry holds no marker with the
key in its fields and the identity of another key beside it. -/
theorem readVerdict_faithful_iff (collisionFree : Function.Injective sha) (store : Store) (key : Text) :
    Faithful sha store key ↔ ¬ Forged sha store key := by
  constructor
  · rintro faithful ⟨marker, identity, entry, accepted, valid, recorded, foreign⟩
    obtain ⟨-, own, same, hashed, -⟩ := faithful marker (readVerdict_some.mpr ⟨entry, accepted, valid⟩)
    rw [recorded, Jsons.Parsed.obj.injEq] at same
    exact foreign (same ▸ hashed)
  · intro honest marker read
    obtain ⟨entry, accepted, valid⟩ := readVerdict_some.mp read
    obtain ⟨identity, recorded, truthy⟩ := entryValid_identity valid
    have hashed : identityKey sha identity = key := by
      by_contra foreign
      exact honest ⟨marker, identity, entry, accepted, valid, recorded, foreign⟩
    refine ⟨entryValid_verdict valid, identity, recorded, hashed, ?_⟩
    intro original name same announced
    rw [announcedClass_eq recorded truthy]
    exact workloadClass_unique collisionFree (hashed.trans same.symm) announced

end Reuse

section Runs

variable (sha : Json → Text)

/-- What happens to a store: a publication, or the removal of an entry. -/
inductive Event where
  | write (key : Text) (identity : Members) (verdict : Int) (seen : Observation)
  | evict (key : Text)

def step (store : Store) : Event → Store
  | .write key identity verdict seen =>
    match writeEntry sha store key identity verdict seen with
    | .ok written => written
    | .error _ => store
  | .evict key => store.set key .absent

/-- A publication refuses the identity of another key, so it forges no entry. -/
theorem step_honest {store : Store} (honest : ∀ key, ¬ Forged sha store key) (event : Event) (key : Text) :
    ¬ Forged sha (step sha store event) key := by
  cases event with
  | evict evicted =>
    rintro ⟨marker, identity, entry, rest⟩
    by_cases h : key = evicted
    · simp [step, Store.set, h] at entry
    · simp only [step, Store.set, h, ↓reduceIte] at entry
      exact honest key ⟨marker, identity, entry, rest⟩
  | write written identity verdict seen =>
    rw [step]
    unfold writeEntry
    by_cases foreign : identityKey sha identity ≠ written
    · simpa [foreign] using honest key
    · rw [if_neg foreign]
      have published : ¬ Forged sha (store.set written
          (.directory (.file (.document (.obj (publishedMarker written identity verdict seen)))))) key := by
        rintro ⟨marker, recorded, entry, accepted, valid, own, other⟩
        by_cases h : key = written
        · simp only [Store.set, h, ↓reduceIte, Entry.directory.injEq, MarkerFile.file.injEq,
            Content.document.injEq, Jsons.Parsed.obj.injEq] at entry
          have same : (.obj identity : Json) = .obj recorded := by
            rw [← own, ← entry]
            rfl
          rw [Jsons.Parsed.obj.injEq] at same
          exact foreign (same ▸ h ▸ other)
        · simp only [Store.set, h, ↓reduceIte] at entry
          exact honest key ⟨marker, recorded, entry, accepted, valid, own, other⟩
      cases store.entry written with
      | file => exact honest key
      | link => exact honest key
      | absent => exact published
      | directory => exact published

end Runs

section Shortened

/-- The identity of a run with its workload. -/
def ranAs (name : Text) : Members := [("workload".toList, .obj [("class".toList, .str name)])]

def acceptanceKey : Text := identityKey Json.spell (ranAs "acceptance".toList)

def observation : Observation :=
  ⟨"2024-01-01T00:00:00Z".toList, .finite 3, none, none, none, []⟩

/-- The store after the acceptance run was published. -/
def acceptedStore : Store :=
  step Json.spell emptyStore (.write acceptanceKey (ranAs "acceptance".toList) 0 observation)

/-- A marker that names the acceptance key, edited to record the shortened run. -/
def shortenedMarker : Members :=
  publishedMarker acceptanceKey (ranAs "reduced".toList) 0 observation

def editedStore : Store :=
  emptyStore.set acceptanceKey (.directory (.file (.document (.obj shortenedMarker))))

theorem acceptedStore_described :
    (readVerdict acceptedStore acceptanceKey).toOption.join.isSome = true ∧
      Faithful Json.spell acceptedStore acceptanceKey := by
  have honest : ∀ key, ¬ Forged Json.spell emptyStore key := by
    rintro key ⟨marker, identity, entry, -⟩
    cases entry
  constructor
  · decide +kernel
  · exact (readVerdict_faithful_iff Json.spell Json.spell_injective acceptedStore acceptanceKey).mpr
      (step_honest Json.spell honest _ acceptanceKey)

/-- The edited entry is a cached pass for the acceptance key, announced as the shortened run. -/
theorem editedStore_undescribed :
    readVerdict editedStore acceptanceKey = .ok (some shortenedMarker) ∧
      workloadClass (ranAs "acceptance".toList) = .ok (.str "acceptance".toList) ∧
      announcedClass shortenedMarker = .ok (.str "reduced".toList) ∧
      ¬ Faithful Json.spell editedStore acceptanceKey := by
  have entry : editedStore.entry acceptanceKey = .directory (.file (.document (.obj shortenedMarker))) := by
    simp [editedStore, Store.set]
  have read : readVerdict editedStore acceptanceKey = .ok (some shortenedMarker) :=
    readVerdict_some.mpr ⟨entry, by decide +kernel, by decide +kernel⟩
  refine ⟨read, rfl, rfl, ?_⟩
  intro faithful
  obtain ⟨-, identity, recorded, hashed, -⟩ := faithful shortenedMarker read
  have own : shortenedMarker.get "identity".toList = .obj (ranAs "reduced".toList) := rfl
  rw [own, Jsons.Parsed.obj.injEq] at recorded
  rw [← recorded] at hashed
  exact absurd hashed (by decide +kernel)

end Shortened

end Darling.Caches.Verdicts
