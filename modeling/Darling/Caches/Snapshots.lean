import Darling.Caches.Documents
import Darling.Library.Associations
import Mathlib.Algebra.BigOperators.Group.List.Basic

/-! The bound of the stock stack store: `prune_entries` of `test_store.py`, and the publication at the
end of `capture` of `test_stock_stack_cache.py`. -/
namespace Darling.Caches.Snapshots

/-- A path below an entry, as `entry_bytes` meets it. -/
inductive Leaf where
  | link
  | special
  | unreadable
  | file (size : Nat)
  deriving DecidableEq, Repr

def Leaf.bytes : Leaf → Nat
  | .file size => size
  | _ => 0

def entryBytes (leaves : List Leaf) : Nat := (leaves.map Leaf.bytes).sum

/-- What stands under a name of the bucket: a link, with the name of the bucket that it resolves to if
it leads to one, a file, or an entry with its use time, unless `stat` fails, and its files. -/
inductive Item where
  | link (leadsTo : Option Text)
  | file
  | entry (stamp : Option Int) (leaves : List Leaf)
  deriving DecidableEq, Repr

structure Bucket where
  symlinked : Bool
  items : List (Text × Item)
  distinct : (items.map (·.1)).Nodup

structure Scanned where
  stamp : Int
  name : Text
  size : Nat
  deriving DecidableEq, Repr

/-- One turn of the scan; links and files are passed over. -/
def scanItem : Text × Item → Option Scanned
  | (name, .entry stamp leaves) => some ⟨stamp.getD 0, name, entryBytes leaves⟩
  | _ => none

/-- The entries that stand in the bucket, whatever leads to it. -/
def Bucket.entries (bucket : Bucket) : List Scanned := bucket.items.filterMap scanItem

def Bucket.bytes (bucket : Bucket) : Nat := (bucket.entries.map (·.size)).sum

/-- The order of the tuples: use time, then path. -/
def precedes (a b : Scanned) : Bool := usedBefore notAfter (a.stamp, a.name) (b.stamp, b.name)

/-- The entries in the order of their last use. -/
def Bucket.lru (bucket : Bucket) : List Scanned := bucket.entries.insertionSort fun a b => precedes a b = true

def label (name : Text) : Text := "stack".toList ++ '/' :: name

/-- The name in the bucket that `entry.resolve()` gives. -/
def Bucket.resolve (bucket : Bucket) (key : Text) : Option Text :=
  match bucket.items.lookup key with
  | some (.link leadsTo) => leadsTo
  | _ => some key

/-- The loop of `prune_entries`: a running total over the entries, which takes every eviction for a
removal. -/
def evict (maxBytes : Int) (kept : Text → Bool) : Int → List Scanned → List Scanned
  | _, [] => []
  | total, entry :: rest =>
    if total ≤ maxBytes || kept entry.name then evict maxBytes kept total rest
    else entry :: evict maxBytes kept (total - entry.size) rest

/-- What of an item a failed removal leaves. -/
def Item.leaving (leaves : List Leaf) : Item → Item
  | .entry stamp _ => .entry stamp leaves
  | item => item

/-- Where `rmtree` fails, it leaves files behind. -/
abbrev Removal := Text → Option (List Leaf)

def discard (removal : Removal) (evicted : List Text) (item : Text × Item) : Option (Text × Item) :=
  if item.1 ∈ evicted then (removal item.1).map fun left => (item.1, item.2.leaving left) else some item

theorem discard_name {removal : Removal} {evicted : List Text} {item after : Text × Item}
    (h : discard removal evicted item = some after) : after.1 = item.1 := by
  unfold discard at h
  split at h
  · obtain ⟨left, -, rfl⟩ := Option.map_eq_some_iff.mp h
    rfl
  · cases h
    rfl

theorem names_discard (removal : Removal) (evicted : List Text) (items : List (Text × Item)) :
    ((items.filterMap (discard removal evicted)).map (·.1)).Sublist (items.map (·.1)) := by
  induction items with
  | nil => exact List.Sublist.refl _
  | cons item rest ih =>
    cases h : discard removal evicted item with
    | none =>
      rw [List.filterMap_cons_none h]
      exact ih.cons _
    | some after =>
      rw [List.filterMap_cons_some h, List.map_cons, List.map_cons, discard_name h]
      exact ih.cons_cons _

def Bucket.remove (bucket : Bucket) (removal : Removal) (evicted : List Text) : Bucket where
  symlinked := bucket.symlinked
  items := bucket.items.filterMap (discard removal evicted)
  distinct := (names_discard removal evicted bucket.items).nodup bucket.distinct

/-- `os.replace` of a complete entry into its place. -/
def Bucket.put (bucket : Bucket) (key : Text) (leaves : List Leaf) (now : Int) : Bucket where
  symlinked := bucket.symlinked
  items := bucket.items.filter (fun item => item.1 ≠ key) ++ [(key, .entry (some now) leaves)]
  distinct := by
    rw [List.map_append, List.map_cons, List.map_nil, List.nodup_append]
    refine ⟨(List.filter_sublist.map _).nodup bucket.distinct, List.nodup_singleton _, ?_⟩
    intro name listed own same e
    obtain ⟨item, kept, rfl⟩ := List.mem_map.mp listed
    rw [List.mem_singleton.mp same] at e
    exact absurd e (by simpa using (List.mem_filter.mp kept).2)

/-- How the steps that touch the bucket come out. -/
structure Faults where
  removal : Removal
  accounted : Bool
  locked : Bool
  cleared : Bool
  renamed : Bool
  synced : Bool
  now : Int

/-- `prune_entries` of the bucket, with one protected path. Without an eviction nothing is accounted. -/
def pruneEntries (bucket : Bucket) (maxBytes : Int) (protect : Option Text) (faults : Faults) :
    Except Unit (List Scanned) × Bucket :=
  let entries := if bucket.symlinked then [] else bucket.lru
  let evicted := evict maxBytes (fun name => some name == protect) ((entries.map (·.size)).sum : Nat) entries
  let pruned := bucket.remove faults.removal (evicted.map (·.name))
  (if evicted.isEmpty || faults.accounted then .ok evicted else .error (), pruned)

inductive Reason where
  | disabled | unknownIdentity | incompleteResource | snapshotExceedsBound | incompleteStack | captureFailed
  deriving DecidableEq, Repr

/-- How the temporary entry came out: a reason to decline, or its files with the marker. -/
inductive Built where
  | declined (reason : Reason)
  | complete (leaves : List Leaf)

inductive Report where
  | declined (reason : Reason)
  | captured (bytes : Nat) (evicted : List Text)
  deriving DecidableEq, Repr

/-- The entry that is replaced goes, and the new one takes its place. -/
def publish (bucket : Bucket) (key : Text) (leaves : List Leaf) (faults : Faults) : Except Unit Bucket :=
  if !faults.locked then .error ()
  else
    match bucket.items.lookup key with
    -- `rmtree` does not take a file.
    | some .file => .error ()
    | none => if faults.renamed && faults.synced then .ok (bucket.put key leaves faults.now) else .error ()
    | some _ =>
      if faults.cleared && faults.renamed && faults.synced then .ok (bucket.put key leaves faults.now) else .error ()

/-- `capture`, from the built temporary entry on. A bucket is given back where the call returns with
`captured`. -/
def capture (built : Built) (bucket : Bucket) (key : Text) (maxBytes : Nat) (faults : Faults) :
    Report × Option Bucket :=
  match built with
  | .declined reason => (.declined reason, none)
  | .complete leaves =>
    let payload := entryBytes leaves
    let budget : Int := maxBytes - payload
    if budget < 1 then (.declined .snapshotExceedsBound, none)
    else
      match pruneEntries bucket budget (bucket.resolve key) faults with
      | (.error _, _) => (.declined .captureFailed, none)
      | (.ok evicted, pruned) =>
        match publish pruned key leaves faults with
        | .error _ => (.declined .captureFailed, none)
        | .ok after => (.captured payload (evicted.map fun entry => label entry.name), some after)

section Eviction

/-- What the entries hold together. -/
def bytesOf (entries : List Scanned) : Nat := (entries.map (·.size)).sum

/-- The entries that may go, in the order they do. -/
def free (kept : Text → Bool) (entries : List Scanned) : List Scanned := entries.filter fun entry => !kept entry.name

/-- The shortest beginning of the entries without which the rest fits beside the fixed bytes, or all
of them where it never does. -/
def ShortestCut (maxBytes : Int) (fixed : Int) (entries : List Scanned) (n : Nat) : Prop :=
  n ≤ entries.length ∧ (∀ m < n, ¬ fixed + bytesOf (entries.drop m) ≤ maxBytes) ∧
    (fixed + bytesOf (entries.drop n) ≤ maxBytes ∨ n = entries.length)

theorem evict_fitting {maxBytes total : Int} (kept : Text → Bool) (entries : List Scanned)
    (h : total ≤ maxBytes) : evict maxBytes kept total entries = [] := by
  induction entries with
  | nil => rfl
  | cons entry rest ih => simp [evict, h, ih]

/-- The loop evicts the shortest beginning of what may go, by its own running total. -/
theorem evict_cut (maxBytes fixed : Int) (kept : Text → Bool) (entries : List Scanned) :
    ∃ n, ShortestCut maxBytes fixed (free kept entries) n ∧
      evict maxBytes kept (fixed + bytesOf (free kept entries)) entries = (free kept entries).take n := by
  induction entries with
  | nil => exact ⟨0, ⟨le_rfl, by omega, .inr rfl⟩, rfl⟩
  | cons entry rest ih =>
    by_cases fits : fixed + bytesOf (free kept (entry :: rest)) ≤ maxBytes
    · exact ⟨0, ⟨Nat.zero_le _, by omega, .inl fits⟩, evict_fitting kept _ fits⟩
    · obtain ⟨n, ⟨within, early, settled⟩, cut⟩ := ih
      by_cases stays : kept entry.name = true
      · have same : free kept (entry :: rest) = free kept rest := by simp [free, stays]
        refine ⟨n, ?_, ?_⟩
        · rw [same]
          exact ⟨within, early, settled⟩
        · simp only [evict, stays, Bool.or_true, ↓reduceIte]
          rw [same]
          exact cut
      · have more : free kept (entry :: rest) = entry :: free kept rest := by simp [free, stays]
        have total : fixed + bytesOf (entry :: free kept rest) - entry.size = fixed + bytesOf (free kept rest) := by
          simp only [bytesOf, List.map_cons, List.sum_cons]
          omega
        rw [more] at fits ⊢
        refine ⟨n + 1, ⟨by simpa using within, ?_, by simpa using settled⟩, ?_⟩
        · intro m below
          cases m with
          | zero => exact fits
          | succ m => exact early m (by omega)
        · simp only [evict, fits, stays, decide_false, Bool.or_self, Bool.false_eq_true, ↓reduceIte]
          rw [total, cut]
          rfl

end Eviction

section Buckets

variable (bucket : Bucket)

theorem scanItem_name {item : Text × Item} {entry : Scanned} (h : scanItem item = some entry) :
    entry.name = item.1 := by
  obtain ⟨name, kind⟩ := item
  cases kind with
  | entry stamp leaves =>
    cases h
    rfl
  | _ => cases h

theorem Bucket.names_entries : (bucket.entries.map (·.name)).Sublist (bucket.items.map (·.1)) := by
  unfold Bucket.entries
  induction bucket.items with
  | nil => exact List.Sublist.refl _
  | cons item rest ih =>
    cases h : scanItem item with
    | none =>
      rw [List.filterMap_cons_none h]
      exact ih.cons _
    | some entry =>
      rw [List.filterMap_cons_some h, List.map_cons, List.map_cons, scanItem_name h]
      exact ih.cons_cons _

theorem Bucket.lru_perm : bucket.lru.Perm bucket.entries := List.perm_insertionSort _ _

theorem bytesOf_perm {first second : List Scanned} (h : first.Perm second) : bytesOf first = bytesOf second :=
  (h.map _).sum_nat

theorem Bucket.lru_distinct : (bucket.lru.map (·.name)).Nodup :=
  (bucket.lru_perm.map _).nodup_iff.mpr (bucket.names_entries.nodup bucket.distinct)

/-- The entries beside the one under the key, in the order of their last use. -/
def Bucket.others (key : Text) : List Scanned := bucket.lru.filter fun entry => entry.name ≠ key

/-- The bytes of the entry under the key, if one is there. -/
def Bucket.replaced (key : Text) : Nat := bytesOf (bucket.entries.filter fun entry => entry.name = key)

theorem bytesOf_filter (entries : List Scanned) (p : Scanned → Bool) :
    bytesOf entries = bytesOf (entries.filter p) + bytesOf (entries.filter fun entry => !p entry) := by
  induction entries with
  | nil => rfl
  | cons entry rest ih =>
    by_cases h : p entry = true
    all_goals
      simp only [bytesOf, List.filter_cons, h, Bool.not_true, Bool.not_false, Bool.false_eq_true, ↓reduceIte,
        List.map_cons, List.sum_cons] at ih ⊢
      omega

theorem Bucket.bytes_others (key : Text) : bytesOf bucket.lru = bucket.replaced key + bytesOf (bucket.others key) := by
  rw [Bucket.replaced, Bucket.others, bytesOf_filter bucket.lru (fun entry => entry.name = key),
    bytesOf_perm (bucket.lru_perm.filter _)]
  simp only [ne_eq, decide_not]

theorem filter_take_names {entries : List Scanned} (distinct : (entries.map (·.name)).Nodup) (n : Nat) :
    entries.filter (fun entry => entry.name ∉ (entries.take n).map (·.name)) = entries.drop n := by
  have apart : ∀ entry ∈ entries.drop n, entry.name ∉ (entries.take n).map (·.name) := by
    intro entry later early
    rw [← List.take_append_drop n entries, List.map_append] at distinct
    exact List.disjoint_of_nodup_append distinct early (List.mem_map_of_mem later)
  conv_lhs => rw [← List.take_append_drop n entries]
  rw [List.filter_append]
  have gone : (entries.take n).filter (fun entry =>
      entry.name ∉ ((entries.take n ++ entries.drop n).take n).map (·.name)) = [] := by
    rw [List.take_append_drop, List.filter_eq_nil_iff]
    intro entry early
    simpa only [decide_not, Bool.not_eq_true', decide_eq_false_iff_not, not_not] using List.mem_map_of_mem early
  rw [gone, List.nil_append, List.take_append_drop, List.filter_eq_self]
  intro entry later
  simpa using apart entry later

theorem Bucket.entries_put (key : Text) (leaves : List Leaf) (now : Int) :
    (bucket.put key leaves now).entries =
      bucket.entries.filter (fun entry => entry.name ≠ key) ++ [⟨now, key, entryBytes leaves⟩] := by
  have kept : ∀ items : List (Text × Item), (items.filter fun item => item.1 ≠ key).filterMap scanItem =
      (items.filterMap scanItem).filter fun entry => entry.name ≠ key := by
    intro items
    induction items with
    | nil => rfl
    | cons item rest ih =>
      cases h : scanItem item with
      | none =>
        rw [List.filterMap_cons_none h, ← ih, List.filter_cons]
        split
        · rw [List.filterMap_cons_none h]
        · rfl
      | some entry =>
        rw [List.filterMap_cons_some h, List.filter_cons, List.filter_cons, scanItem_name h]
        split
        · rw [List.filterMap_cons_some h, ih]
        · exact ih
  rw [Bucket.entries, Bucket.put, List.filterMap_append, kept]
  rfl

theorem Bucket.entries_remove {removal : Removal} {evicted : List Text} (gone : ∀ name ∈ evicted, removal name = none) :
    (bucket.remove removal evicted).entries = bucket.entries.filter fun entry => entry.name ∉ evicted := by
  show (bucket.items.filterMap (discard removal evicted)).filterMap scanItem =
    (bucket.items.filterMap scanItem).filter fun entry => entry.name ∉ evicted
  induction bucket.items with
  | nil => rfl
  | cons item rest ih =>
    by_cases listed : item.1 ∈ evicted
    · have dropped : discard removal evicted item = none := by simp [discard, listed, gone item.1 listed]
      rw [List.filterMap_cons_none dropped, ih]
      cases h : scanItem item with
      | none => rw [List.filterMap_cons_none h]
      | some entry =>
        rw [List.filterMap_cons_some h, List.filter_cons_of_neg]
        simpa [scanItem_name h] using listed
    · have stays : discard removal evicted item = some item := by simp [discard, listed]
      rw [List.filterMap_cons_some stays]
      cases h : scanItem item with
      | none => rw [List.filterMap_cons_none h, List.filterMap_cons_none h, ih]
      | some entry =>
        rw [List.filterMap_cons_some h, List.filterMap_cons_some h, ih, List.filter_cons_of_pos]
        simpa [scanItem_name h] using listed

end Buckets

section Captures

variable {built : Built} {bucket after : Bucket} {key : Text} {maxBytes bytes : Nat} {faults : Faults}
    {evicted : List Text}

/-- What a capture evicts from the bucket for a payload. -/
def evictions (bucket : Bucket) (key : Text) (maxBytes : Nat) (payload : Nat) : List Scanned :=
  let entries := if bucket.symlinked then [] else bucket.lru
  evict (maxBytes - payload) (fun name => some name == bucket.resolve key) (bytesOf entries) entries

theorem publish_ok {leaves : List Leaf} (h : publish bucket key leaves faults = .ok after) :
    after = bucket.put key leaves faults.now := by
  unfold publish at h
  split at h
  · cases h
  · split at h
    · cases h
    all_goals
      split at h
      · cases h
        rfl
      · cases h

theorem pruneEntries_ok {payload : Nat} {gone : List Scanned} {pruned : Bucket}
    (h : pruneEntries bucket (maxBytes - payload) (bucket.resolve key) faults = (.ok gone, pruned)) :
    gone = evictions bucket key maxBytes payload ∧
      pruned = bucket.remove faults.removal ((evictions bucket key maxBytes payload).map (·.name)) := by
  have settled (accounted : Bool) (evicted : List Scanned)
      (h : (if accounted = true then .ok evicted else .error () : Except Unit (List Scanned)) = .ok gone) :
      gone = evicted := by
    cases accounted with
    | false => cases h
    | true =>
      cases h
      rfl
  exact ⟨settled _ _ (congrArg Prod.fst h), (congrArg Prod.snd h).symm⟩

theorem capture_captured (h : capture built bucket key maxBytes faults = (.captured bytes evicted, some after)) :
    ∃ leaves, built = .complete leaves ∧ bytes = entryBytes leaves ∧ bytes < maxBytes ∧
      evicted = (evictions bucket key maxBytes bytes).map (fun entry => label entry.name) ∧
      after = (bucket.remove faults.removal ((evictions bucket key maxBytes bytes).map (·.name))).put key leaves
        faults.now := by
  cases built with
  | declined reason => simp [capture] at h
  | complete leaves =>
    simp only [capture] at h
    split at h
    · simp at h
    · rename_i room
      split at h
      · simp at h
      · rename_i gone pruned prune
        obtain ⟨rfl, rfl⟩ := pruneEntries_ok prune
        split at h
        · simp at h
        · rename_i published
          simp only [Prod.mk.injEq, Report.captured.injEq, Option.some.injEq] at h
          obtain ⟨⟨rfl, rfl⟩, rfl⟩ := h
          exact ⟨leaves, rfl, rfl, by omega, rfl, publish_ok published⟩

theorem label_injective : Function.Injective label := by
  intro first second h
  simpa [label] using h

theorem evict_kept {maxBytes total : Int} {kept : Text → Bool} {entries : List Scanned} {entry : Scanned}
    (h : entry ∈ evict maxBytes kept total entries) : entry ∈ entries ∧ kept entry.name = false := by
  induction entries generalizing total with
  | nil => cases h
  | cons head rest ih =>
    simp only [evict] at h
    split at h
    · obtain ⟨listed, loose⟩ := ih h
      exact ⟨List.mem_cons_of_mem _ listed, loose⟩
    · rename_i goes
      rcases List.mem_cons.mp h with rfl | later
      · simp only [Bool.or_eq_true, not_or] at goes
        exact ⟨List.mem_cons_self, Bool.eq_false_iff.mpr goes.2⟩
      · obtain ⟨listed, loose⟩ := ih later
        exact ⟨List.mem_cons_of_mem _ listed, loose⟩

/-- An entry that stands under a name is what the bucket holds there. -/
theorem Bucket.lookup_of_entry {entry : Scanned} (h : entry ∈ bucket.entries) :
    ∃ stamp leaves, bucket.items.lookup entry.name = some (.entry stamp leaves) := by
  obtain ⟨⟨name, item⟩, listed, scanned⟩ := List.mem_filterMap.mp h
  cases item with
  | entry stamp leaves =>
    cases scanned
    exact ⟨stamp, leaves, lookup_of_mem bucket.distinct listed⟩
  | _ => cases scanned

/-- The name that is protected is the key, for every entry that stands there. -/
theorem Bucket.resolve_entry {entry : Scanned} (h : entry ∈ bucket.entries)
    (direct : ∀ other, bucket.items.lookup key ≠ some (.link (some other))) :
    (some entry.name == bucket.resolve key) = decide (entry.name = key) := by
  by_cases same : entry.name = key
  · obtain ⟨stamp, leaves, found⟩ := bucket.lookup_of_entry h
    rw [same] at found
    simp [Bucket.resolve, found, same]
  · unfold Bucket.resolve
    split
    · rename_i leadsTo found
      cases leadsTo with
      | none => simp [same]
      | some other => exact absurd found (direct other)
    · simp [same]

/-- The entry under the key is never evicted. -/
theorem evictions_keep : ∀ entry ∈ evictions bucket key maxBytes bytes, entry.name ≠ key := by
  intro entry gone same
  obtain ⟨listed, loose⟩ := evict_kept gone
  split at listed
  · cases listed
  · obtain ⟨stamp, leaves, found⟩ := bucket.lookup_of_entry (bucket.lru_perm.mem_iff.mp listed)
    rw [same] at found loose
    simp [Bucket.resolve, found] at loose

/-- The evictions of a capture: the least recently used of the other entries, as few as let the rest,
the entry that is replaced and the new one fit. -/
theorem evictions_cut (real : bucket.symlinked = false)
    (direct : ∀ other, bucket.items.lookup key ≠ some (.link (some other))) :
    ∃ n, ShortestCut maxBytes (bucket.replaced key + bytes) (bucket.others key) n ∧
      evictions bucket key maxBytes bytes = (bucket.others key).take n := by
  have spared : free (fun name => some name == bucket.resolve key) bucket.lru = bucket.others key := by
    unfold free Bucket.others
    apply List.filter_congr
    intro entry listed
    have same := bucket.resolve_entry (bucket.lru_perm.mem_iff.mp listed) direct
    simp [same]
  obtain ⟨n, ⟨within, early, settled⟩, cut⟩ :=
    evict_cut (maxBytes - bytes) (bucket.replaced key) (fun name => some name == bucket.resolve key) bucket.lru
  rw [spared] at within early settled cut
  refine ⟨n, ⟨within, ?_, ?_⟩, ?_⟩
  · intro m below fits
    exact early m below (by omega)
  · rcases settled with fits | all
    · exact .inl (by omega)
    · exact .inr all
  · rw [evictions, real, if_neg Bool.false_ne_true, bucket.bytes_others key, ← cut]
    push_cast
    rfl

theorem bytes_after {leaves : List Leaf} {now : Int} {removal : Removal} {n : Nat}
    (gone : ∀ name ∈ ((bucket.others key).take n).map (·.name), removal name = none) :
    ((bucket.remove removal (((bucket.others key).take n).map (·.name))).put key leaves now).bytes =
      bytesOf ((bucket.others key).drop n) + entryBytes leaves := by
  have distinct : ((bucket.others key).map (·.name)).Nodup :=
    (List.filter_sublist.map _).nodup bucket.lru_distinct
  rw [Bucket.bytes, Bucket.entries_put, Bucket.entries_remove _ gone, List.map_append, List.sum_append]
  congr 1
  rw [← filter_take_names distinct n, ← bytesOf, List.filter_filter]
  refine bytesOf_perm ?_
  rw [Bucket.others, List.filter_filter]
  refine ((bucket.lru_perm.filter _).symm).trans ?_
  refine List.Perm.of_eq (List.filter_congr ?_)
  intro entry _
  rw [Bool.and_comm]

/-- The captured entry is never among the evicted. From a bucket of its own, and under a key that no
link stands for, the evicted are the least recently used of the other entries, as few as let the rest
fit with the entry that is replaced and the new one, or all of them; and when each is removed, the
entries of the bucket are within the bound. -/
theorem capture_bounded (h : capture built bucket key maxBytes faults = (.captured bytes evicted, some after)) :
    label key ∉ evicted ∧
      (bucket.symlinked = false → (∀ other, bucket.items.lookup key ≠ some (.link (some other))) →
        (∃ n, ShortestCut maxBytes (bucket.replaced key + bytes) (bucket.others key) n ∧
          evicted = ((bucket.others key).take n).map fun entry => label entry.name) ∧
        ((∀ name, label name ∈ evicted → faults.removal name = none) → after.bytes ≤ maxBytes)) := by
  obtain ⟨leaves, -, rfl, room, rfl, rfl⟩ := capture_captured h
  constructor
  · intro listed
    obtain ⟨entry, gone, same⟩ := List.mem_map.mp listed
    exact evictions_keep entry gone (label_injective same)
  · intro real direct
    obtain ⟨n, cut, taken⟩ := evictions_cut real direct
    rw [taken]
    refine ⟨⟨n, cut, rfl⟩, ?_⟩
    intro removed
    rw [bytes_after]
    · obtain ⟨-, -, fits | all⟩ := cut
      · omega
      · rw [all, List.drop_length]
        simpa [bytesOf] using room.le
    · intro name gone
      obtain ⟨entry, cutoff, rfl⟩ := List.mem_map.mp gone
      exact removed entry.name (List.mem_map_of_mem cutoff)

/-- A bucket with the older entry `a` and an entry under the key. -/
def crowded : Bucket where
  symlinked := false
  items := [("k".toList, .entry (some 2) [.file 50]), ("a".toList, .entry (some 1) [.file 60])]
  distinct := by decide

def smooth : Faults := ⟨fun _ => none, true, true, true, true, true, 3⟩

/-- `rmtree` takes nothing away. -/
def stuck : Faults := { smooth with removal := fun _ => some [.file 60] }

def payload : List Leaf := [.file 40, .link, .file 5]

theorem capture_crowded :
    capture (.complete payload) crowded "k".toList 120 smooth =
      (.captured 45 [label "a".toList], some ((crowded.remove smooth.removal ["a".toList]).put "k".toList payload 3)) :=
  rfl

theorem capture_crowded_bounded :
    ((crowded.remove smooth.removal ["a".toList]).put "k".toList payload 3).bytes ≤ 120 := by
  have direct : ∀ other, crowded.items.lookup "k".toList ≠ some (.link (some other)) := by
    intro other h
    cases h
  exact ((capture_bounded capture_crowded).2 rfl direct).2 fun _ _ => rfl

/-- A capture leaves the bucket within its bound, and evicts the shortest beginning of the other entries
that lets the rest and the new entry fit. -/
def Respects (bucket : Bucket) (key : Text) (maxBytes : Nat) : Report × Option Bucket → Prop
  | (.captured bytes evicted, some after) =>
    after.bytes ≤ maxBytes ∧ label key ∉ evicted ∧
      ∃ n, ShortestCut maxBytes bytes (bucket.others key) n ∧
        evicted = ((bucket.others key).take n).map fun entry => label entry.name
  | _ => True

/-- The entry that is replaced counts although it goes, so `a` is evicted where it would fit; and an
entry that cannot be removed is taken off the total all the same. -/
theorem capture_crowded_disrespects :
    ¬ Respects crowded "k".toList 120 (capture (.complete payload) crowded "k".toList 120 smooth) ∧
      ¬ Respects crowded "n".toList 120 (capture (.complete payload) crowded "n".toList 120 stuck) := by
  constructor
  · rw [capture_crowded]
    rintro ⟨-, -, n, ⟨-, early, -⟩, cut⟩
    cases n with
    | zero => exact absurd cut (by decide)
    | succ n => exact early 0 (Nat.succ_pos n) (by decide +kernel)
  · have after : capture (.complete payload) crowded "n".toList 120 stuck =
        (.captured 45 [label "a".toList], some
          ((crowded.remove stuck.removal ["a".toList]).put "n".toList payload 3)) := rfl
    rw [after]
    rintro ⟨bounded, -⟩
    exact absurd bounded (by decide +kernel)

end Captures

end Darling.Caches.Snapshots
