import Darling.Caches.Documents
import Darling.Library.Associations
import Darling.Library.Interleavings

/-! The accounting of a store: `CacheStats`, `read_stats`, `write_stats` and `record_event` of `test_store.py`. Runs
of the test caches share one file of counters; each of them reads it, adds to it and replaces it under the lock of
the store's root. -/
namespace Darling.Caches.Counters

open Darling.Interleavings

section Accounting

/-- A counter in the file. A Boolean is an integer too, and stays one until something is added to it. -/
inductive Amount where
  | count (n : Nat)
  | flag (b : Bool)
  deriving DecidableEq

namespace Amount

def toNat : Amount → Nat
  | count n => n
  | flag b => b.toNat

def json : Amount → Json
  | count n => .int n
  | flag b => .bool b

/-- `isinstance(amount, int) and amount >= 0`. -/
def ofJson : Json → Option Amount
  | .int n => if 0 ≤ n then some (count n.toNat) else none
  | .bool b => some (flag b)
  | _ => none

theorem ofJson_json (amount : Amount) : ofJson amount.json = some amount := by
  cases amount <;> simp [json, ofJson]

theorem canonical_json (amount : Amount) : amount.json.canonical = amount.json := by
  cases amount <;> simp [json, Json.canonical]

end Amount

abbrev Entries := List (Text × Amount)

/-- `counters[name] = amount`: a name keeps its place. -/
def assign (name : Text) (amount : Amount) : Entries → Entries
  | [] => [(name, amount)]
  | item :: rest => if item.1 = name then (name, amount) :: rest else item :: assign name amount rest

theorem mem_assign {name other : Text} {amount : Amount} {entries : Entries} :
    other ∈ (assign name amount entries).map Prod.fst ↔ other = name ∨ other ∈ entries.map Prod.fst := by
  induction entries with
  | nil => simp [assign]
  | cons item rest ih =>
    by_cases here : item.1 = name
    · rw [assign, if_pos here, List.map_cons, List.map_cons, List.mem_cons, List.mem_cons, here]
      tauto
    · rw [assign, if_neg here, List.map_cons, List.map_cons, List.mem_cons, List.mem_cons, ih]
      tauto

theorem assign_nodup (name : Text) (amount : Amount) {entries : Entries} (distinct : (entries.map Prod.fst).Nodup) :
    ((assign name amount entries).map Prod.fst).Nodup := by
  induction entries with
  | nil => simp [assign]
  | cons item rest ih =>
    rw [List.map_cons, List.nodup_cons] at distinct
    by_cases here : item.1 = name
    · simp only [assign, if_pos here, List.map_cons, List.nodup_cons]
      exact ⟨here ▸ distinct.1, distinct.2⟩
    · simp only [assign, if_neg here, List.map_cons, List.nodup_cons]
      refine ⟨fun listed => ?_, ih distinct.2⟩
      rcases mem_assign.mp listed with same | later
      · exact here same
      · exact distinct.1 later

theorem lookup_assign (name other : Text) (amount : Amount) (entries : Entries) :
    (assign name amount entries).lookup other = if other = name then some amount else entries.lookup other := by
  induction entries with
  | nil => simp [assign, lookup_cons_if]
  | cons item rest ih =>
    obtain ⟨present, found⟩ := item
    by_cases here : present = name
    · subst here
      by_cases same : other = present <;> simp [assign, lookup_cons_if, same]
    · simp only [assign, if_neg here, lookup_cons_if, ih]
      by_cases same : other = present
      · subst same
        simp [here]
      · simp [same]

/-- `CacheStats`: a dictionary of counters. -/
structure CacheStats where
  counters : Entries := []
  distinct : (counters.map Prod.fst).Nodup := by exact List.nodup_nil

inductive Refusal where
  | undecodable | negative
  deriving DecidableEq

namespace CacheStats

def value (stats : CacheStats) (event : Text) : Nat := ((stats.counters.lookup event).map Amount.toNat).getD 0

def set (stats : CacheStats) (name : Text) (amount : Amount) : CacheStats where
  counters := assign name amount stats.counters
  distinct := assign_nodup name amount stats.distinct

def record (stats : CacheStats) (event : Text) (amount : Int) : Except Refusal CacheStats :=
  if amount < 0 then .error .negative else .ok (stats.set event (.count (stats.value event + amount.toNat)))

theorem value_record {stats totals : CacheStats} {event : Text} {amount : Int}
    (recorded : stats.record event amount = .ok totals) (other : Text) :
    totals.value other = stats.value other + if event = other then amount.toNat else 0 := by
  unfold record at recorded
  split at recorded
  next => cases recorded
  next =>
    cases recorded
    simp only [value, set, lookup_assign]
    by_cases same : other = event
    · simp [same, Amount.toNat]
    · simp [same, Ne.symm same]

end CacheStats

/-- What the loop of `read_stats` keeps of an item. -/
def keep (stats : CacheStats) (item : Text × Json) : CacheStats :=
  match Amount.ofJson item.2 with
  | some amount => stats.set item.1 amount
  | none => stats

def ofDocument (value : Json) : CacheStats :=
  match value with
  | .obj members =>
    match Members.get members "counters".toList with
    | .obj counters => counters.foldl keep {}
    | _ => {}
  | _ => {}

/-- `read_stats`: what is no file or no document counts for nothing. -/
def readStats : MarkerFile → Except Refusal CacheStats
  | .file .undecodable => .error .undecodable
  | .file (.document value) => .ok (ofDocument value)
  | _ => .ok {}

/-- The document that `write_stats` leaves, with its keys in order. -/
def statsContent (schema : Int) (stats : CacheStats) : Content :=
  .document (Json.canonical (.obj [("schema".toList, .int schema),
    ("counters".toList, .obj (stats.counters.map fun item => (item.1, item.2.json)))]))

theorem lookup_keep {items : Members} (distinct : (items.map Prod.fst).Nodup) (stats : CacheStats) (name : Text) :
    (items.foldl keep stats).counters.lookup name =
      ((items.lookup name).bind Amount.ofJson).or (stats.counters.lookup name) := by
  induction items generalizing stats with
  | nil => rfl
  | cons item rest ih =>
    rw [List.map_cons, List.nodup_cons] at distinct
    obtain ⟨present, found⟩ := item
    rw [List.foldl_cons, ih distinct.2, lookup_cons_if]
    have kept : (keep stats (present, found)).counters.lookup name =
        if name = present then (Amount.ofJson found).or (stats.counters.lookup name) else
          stats.counters.lookup name := by
      cases read : Amount.ofJson found with
      | none => simp [keep, read]
      | some amount => simp [keep, read, CacheStats.set, lookup_assign]
    by_cases same : name = present
    · subst same
      have absent : rest.lookup name = none := by
        rw [List.lookup_eq_none_iff]
        intro pair listed
        rw [bne_iff_ne]
        intro same
        exact distinct.1 (List.mem_map.mpr ⟨pair, listed, same.symm⟩)
      simp [kept, absent]
    · simp [kept, same]

theorem canonicalMembers_names (members : Members) :
    (canonicalMembers members).map Prod.fst = members.map Prod.fst := by
  induction members with
  | nil => rfl
  | cons item rest ih => simp [canonicalMembers, ih]

/-- What one call writes, the next one reads. -/
theorem readStats_statsContent (schema : Int) (stats : CacheStats) :
    ∃ read, readStats (.file (statsContent schema stats)) = .ok read ∧
      ∀ event, read.value event = stats.value event := by
  refine ⟨_, rfl, fun event => ?_⟩
  simp only [ofDocument, Json.canonical, get_canonical]
  have found : Members.get [("schema".toList, .int schema),
      ("counters".toList, .obj (stats.counters.map fun item => (item.1, item.2.json)))] "counters".toList =
        .obj (stats.counters.map fun item => (item.1, item.2.json)) := by
    simp [Members.get, lookup_cons_if]
  simp only [found, Json.canonical]
  have distinct : ((sortKeys (canonicalMembers (stats.counters.map fun item => (item.1, item.2.json)))).map
      Prod.fst).Nodup := by
    have perm := List.perm_insertionSort (fun a b : Text × Json => notAfter a.1 b.1 = true)
      (canonicalMembers (stats.counters.map fun item => (item.1, item.2.json)))
    rw [sortKeys, (perm.map Prod.fst).nodup_iff, canonicalMembers_names, List.map_map]
    exact stats.distinct
  rw [CacheStats.value, lookup_keep distinct, lookup_sortKeys, lookup_canonicalMembers, CacheStats.value]
  have mapped : (stats.counters.map fun item => (item.1, item.2.json)).lookup event =
      (stats.counters.lookup event).map Amount.json := by
    induction stats.counters with
    | nil => rfl
    | cons item rest ih =>
      obtain ⟨present, amount⟩ := item
      by_cases same : event = present <;> simp [lookup_cons_if, same, ih]
  rw [mapped]
  cases stats.counters.lookup event with
  | none => rfl
  | some amount => simp [Amount.canonical_json, Amount.ofJson_json]

end Accounting

section Sharing

/-- One call of `record_event`, by the process that makes it. -/
structure Call where
  pid : Nat
  event : Text
  amount : Int

/-- How far a call is. From the lock to its end it holds the totals it will leave. -/
inductive Phase where
  | waiting
  | locked
  | recorded (totals : CacheStats)
  | writing (totals : CacheStats)
  | written (totals : CacheStats)
  | replaced (totals : CacheStats)
  | returned (totals : CacheStats)
  | raised
  | dead

/-- The root of a store: the file of the counters, the temporary siblings by process, who has the lock, and the
calls. The order in which calls replaced the file is written down beside it. -/
structure Store (ι : Type) where
  stats : MarkerFile
  temporaries : Nat → Option Content := fun _ => none
  lock : Option ι := none
  phase : ι → Phase := fun _ => .waiting
  published : List ι := []

/-- One step of one call. A write may leave anything in the temporary before it is complete; a call may be stopped by an
exception, or its process may die; and reading the file may fail, which `read_stats` takes for an empty accounting. -/
inductive Action (ι : Type) where
  | proceed (call : ι)
  | spill (call : ι) (content : Content)
  | misread (call : ι)
  | fail (call : ι)
  | die (call : ι)

/-- The file can be read whenever a call reads it. -/
def Legible {ι : Type} (_ : Store ι) (a : Action ι) : Prop := ∀ call, a ≠ .misread call

instance {ι : Type} (s : Store ι) (a : Action ι) : Decidable (Legible s a) :=
  match a with
  | .misread call => .isFalse fun legible => legible call rfl
  | .proceed _ | .spill _ _ | .fail _ | .die _ => .isTrue fun _ same => Action.noConfusion rfl (heq_of_eq same)

variable {ι : Type} [DecidableEq ι]

namespace Store

def move (s : Store ι) (call : ι) (phase : Phase) : Store ι := { s with phase := Function.update s.phase call phase }

/-- The end of a call. Leaving the block gives the lock back, and so does the kernel when the process dies. -/
def leave (s : Store ι) (call : ι) (phase : Phase) : Store ι :=
  { s.move call phase with lock := if s.lock = some call then none else s.lock }

def write (s : Store ι) (pid : Nat) (content : Option Content) : Store ι :=
  { s with temporaries := Function.update s.temporaries pid content }

end Store

def Phase.ended : Phase → Bool
  | .returned _ | .raised | .dead => true
  | _ => false

variable (schema : Int) (calls : ι → Call)

/-- The next line of `record_event`; nothing while another call has the lock. -/
def proceed (s : Store ι) (call : ι) : Option (Store ι) :=
  let pid := (calls call).pid
  match s.phase call with
  | .waiting => if s.lock = none then some ({ s with lock := some call }.move call .locked) else none
  | .locked =>
    match (readStats s.stats).bind fun stats => stats.record (calls call).event (calls call).amount with
    | .ok totals => some (s.move call (.recorded totals))
    | .error _ => some (s.leave call .raised)
  | .recorded totals => some ((s.write pid (some .malformed)).move call (.writing totals))
  | .writing totals => some ((s.write pid (some (statsContent schema totals))).move call (.written totals))
  | .written totals =>
    match s.stats, s.temporaries pid with
    | .directory, _ | _, none => some (s.leave call .raised)
    | _, some content =>
      some ({ s.write pid none with stats := .file content, published := s.published ++ [call] }.move call
        (.replaced totals))
  | .replaced totals => some (s.leave call (.returned totals))
  | .returned _ | .raised | .dead => none

def step (s : Store ι) : Action ι → Option (Store ι)
  | .proceed call => proceed schema calls s call
  | .spill call content =>
    match s.phase call with
    | .writing _ => some (s.write (calls call).pid (some content))
    | _ => none
  | .misread call =>
    match s.phase call with
    | .locked =>
      match CacheStats.record {} (calls call).event (calls call).amount with
      | .ok totals => some (s.move call (.recorded totals))
      | .error _ => some (s.leave call .raised)
    | _ => none
  | .fail call => if (s.phase call).ended then none else some (s.leave call .raised)
  | .die call => if (s.phase call).ended then none else some (s.leave call .dead)

end Sharing

section Invariant

variable {ι : Type} [DecidableEq ι]

/-- What a reader of the file counts. -/
def counted (file : MarkerFile) (event : Text) : Nat :=
  match readStats file with
  | .ok stats => stats.value event
  | .error _ => 0

/-- What calls add to a counter. -/
def added (calls : ι → Call) (event : Text) (order : List ι) : Nat :=
  (order.map fun call => if (calls call).event = event then (calls call).amount.toNat else 0).sum

def Phase.holds : Phase → Bool
  | .locked | .recorded _ | .writing _ | .written _ | .replaced _ => true
  | _ => false

/-- The totals of a call that has them in hand and has not replaced the file yet. -/
def Phase.pending : Phase → Option CacheStats
  | .recorded totals | .writing totals | .written totals => some totals
  | _ => none

/-- The totals of a call that has replaced the file. -/
def Phase.published : Phase → Option CacheStats
  | .replaced totals | .returned totals => some totals
  | _ => none

variable (schema : Int) (calls : ι → Call) (initial : MarkerFile)

/-- The totals of a call are what the file had at first and what was added up to this call. -/
def Accounts (s : Store ι) (call : ι) (totals : CacheStats) : Prop :=
  ∃ before after, s.published = before ++ call :: after ∧
    ∀ event, totals.value event = counted initial event + added calls event (before ++ [call])

structure Kept (s : Store ι) : Prop where
  holder : ∀ call, (s.phase call).holds = true ↔ s.lock = some call
  once : s.published.Nodup
  later : ∀ call, (s.phase call).ended = false → (s.phase call).published = none → call ∉ s.published
  pending : ∀ call totals, (s.phase call).pending = some totals →
    ∀ event, totals.value event = counted s.stats event + added calls event [call]
  complete : ∀ call totals, s.phase call = .written totals → s.temporaries (calls call).pid =
    some (statsContent schema totals)
  accounts : ∀ call totals, (s.phase call).published = some totals → Accounts calls initial s call totals
  sum : ∀ event, counted s.stats event = counted initial event + added calls event s.published
  whole : s.stats = initial ∨ ∃ totals, s.stats = .file (statsContent schema totals)

end Invariant

section Steps

variable {ι : Type} {schema : Int} {calls : ι → Call} {initial : MarkerFile} {s t : Store ι} {call : ι}

theorem counted_statsContent (schema : Int) (totals : CacheStats) (event : Text) :
    counted (.file (statsContent schema totals)) event = totals.value event := by
  obtain ⟨read, same, values⟩ := readStats_statsContent schema totals
  rw [counted, same]
  exact values event

theorem added_append (calls : ι → Call) (event : Text) (first second : List ι) :
    added calls event (first ++ second) = added calls event first + added calls event second := by
  simp [added]

theorem Kept.start (schema : Int) (calls : ι → Call) (initial : MarkerFile) :
    Kept schema calls initial ({ stats := initial } : Store ι) where
  holder := by simp [Phase.holds]
  once := List.nodup_nil
  later := by simp
  pending := by simp [Phase.pending]
  complete := by simp
  accounts := by simp [Phase.published]
  sum := by simp [added]
  whole := .inl rfl

variable [DecidableEq ι]

/-- A step of one call that leaves the file of the counters alone. -/
theorem Kept.turn (kept : Kept schema calls initial s) (call : ι) (phase : Phase) (stats : t.stats = s.stats)
    (order : t.published = s.published) (phases : t.phase = Function.update s.phase call phase)
    (lock : phase.holds = true ↔ t.lock = some call)
    (elsewhere : ∀ other, other ≠ call → (t.lock = some other ↔ s.lock = some other))
    (temporaries : ∀ other, other ≠ call → s.lock = some other →
      t.temporaries (calls other).pid = s.temporaries (calls other).pid)
    (later : phase.ended = false → phase.published = none → call ∉ s.published)
    (pending : ∀ totals, phase.pending = some totals →
      ∀ event, totals.value event = counted s.stats event + added calls event [call])
    (complete : ∀ totals, phase = .written totals → t.temporaries (calls call).pid = some (statsContent schema totals))
    (accounts : ∀ totals, phase.published = some totals → Accounts calls initial s call totals) :
    Kept schema calls initial t := by
  have here : t.phase call = phase := by rw [phases, Function.update_self]
  have there : ∀ other, other ≠ call → t.phase other = s.phase other := fun other different => by
    rw [phases, Function.update_of_ne different]
  constructor
  case holder =>
    intro other
    by_cases same : other = call
    · rw [same, here, lock]
    · rw [there other same, elsewhere other same, kept.holder]
  case once => rw [order]; exact kept.once
  case later =>
    intro other
    rw [order]
    by_cases same : other = call
    · rw [same, here]
      exact later
    · rw [there other same]
      exact kept.later other
  case pending =>
    intro other totals
    rw [stats]
    by_cases same : other = call
    · rw [same, here]
      exact pending totals
    · rw [there other same]
      exact kept.pending other totals
  case complete =>
    intro other totals
    by_cases same : other = call
    · rw [same, here]
      exact complete totals
    · rw [there other same]
      intro written
      have held : s.lock = some other := (kept.holder other).mp (by rw [written]; rfl)
      rw [temporaries other same held]
      exact kept.complete other totals written
  case accounts =>
    intro other totals
    rw [Accounts, order]
    by_cases same : other = call
    · rw [same, here]
      exact accounts totals
    · rw [there other same]
      exact kept.accounts other totals
  case sum =>
    rw [stats, order]
    exact kept.sum
  case whole =>
    rw [stats]
    exact kept.whole

/-- A call that ends, in whichever way, gives back the lock that it has and no other. -/
theorem Kept.leave (kept : Kept schema calls initial s) {phase : Phase} (ended : phase.ended = true)
    (accounts : ∀ totals, phase.published = some totals → Accounts calls initial s call totals) :
    Kept schema calls initial (s.leave call phase) := by
  have free : phase.holds = false ∧ phase.pending = none := by
    cases phase <;> first | exact ⟨rfl, rfl⟩ | cases ended
  apply kept.turn (t := s.leave call phase) call phase rfl rfl rfl
  case lock =>
    rw [free.1]
    simp only [Store.leave]
    split <;> simp_all
  case elsewhere =>
    intro other different
    simp only [Store.leave]
    split
    next held => simp [held, Ne.symm different]
    next => rfl
  case temporaries => exact fun _ _ _ => rfl
  case later => simp [ended]
  case pending => simp [free.2]
  case complete =>
    rintro totals rfl
    cases ended
  case accounts => exact accounts

/-- A step of the call that has the lock. -/
theorem Kept.held (kept : Kept schema calls initial s) (phase : Phase) (held : s.lock = some call)
    (stats : t.stats = s.stats) (order : t.published = s.published) (lock : t.lock = s.lock)
    (phases : t.phase = Function.update s.phase call phase) (holds : phase.holds = true)
    (absent : call ∉ s.published) (unpublished : phase.published = none)
    (pending : ∀ totals, phase.pending = some totals →
      ∀ event, totals.value event = counted s.stats event + added calls event [call])
    (complete : ∀ totals, phase = .written totals → t.temporaries (calls call).pid =
      some (statsContent schema totals)) :
    Kept schema calls initial t := by
  apply kept.turn call phase stats order phases
  case lock => simp [holds, lock, held]
  case elsewhere => simp [lock]
  case temporaries =>
    intro other different owner
    rw [held] at owner
    exact absurd (Option.some.inj owner).symm different
  case later => exact fun _ _ => absent
  case pending => exact pending
  case complete => exact complete
  case accounts => simp [unpublished]

/-- The rename: the totals become what readers count, and the call is the last of the order. -/
theorem Kept.replace (kept : Kept schema calls initial s) {totals : CacheStats}
    (written : s.phase call = .written totals)
    (stats : t.stats = .file (statsContent schema totals)) (order : t.published = s.published ++ [call])
    (lock : t.lock = s.lock)
    (phases : t.phase = Function.update s.phase call (.replaced totals)) : Kept schema calls initial t := by
  have held : s.lock = some call := (kept.holder call).mp (by rw [written]; rfl)
  have absent : call ∉ s.published := kept.later call (by rw [written]; rfl) (by rw [written]; rfl)
  have values : ∀ event, totals.value event = counted initial event + added calls event (s.published ++ [call]) := by
    intro event
    rw [kept.pending call totals (by rw [written]; rfl), kept.sum, added_append, Nat.add_assoc]
  have here : t.phase call = .replaced totals := by rw [phases, Function.update_self]
  have there : ∀ other, other ≠ call → t.phase other = s.phase other := fun other different => by
    rw [phases, Function.update_of_ne different]
  have idle : ∀ other, other ≠ call → (t.phase other).holds = false := by
    intro other different
    rw [there other different]
    by_contra busy
    have owner := (kept.holder other).mp (by simpa using busy)
    rw [held] at owner
    exact different (Option.some.inj owner).symm
  constructor
  case holder =>
    intro other
    rw [lock, held]
    by_cases same : other = call
    · simp [same, here, Phase.holds]
    · simp [idle other same, Ne.symm same]
  case once =>
    rw [order]
    exact kept.once.append (List.nodup_singleton call) (List.disjoint_singleton.mpr absent)
  case later =>
    intro other running unpublished
    by_cases same : other = call
    · rw [same, here] at unpublished
      cases unpublished
    · rw [there other same] at running unpublished
      rw [order]
      simpa [same] using kept.later other running unpublished
  case pending =>
    intro other others pending
    by_cases same : other = call
    · rw [same, here] at pending
      cases pending
    · have free := idle other same
      cases found : t.phase other <;> simp_all [Phase.holds, Phase.pending]
  case complete =>
    intro other others written
    by_cases same : other = call
    · rw [same, here] at written
      cases written
    · have free := idle other same
      rw [written] at free
      cases free
  case accounts =>
    intro other others published
    by_cases same : other = call
    · rw [same, here] at published
      cases published
      exact ⟨s.published, [], by rw [same, order], by rw [same]; exact values⟩
    · rw [there other same] at published
      obtain ⟨before, after, split, account⟩ := kept.accounts other others published
      exact ⟨before, after ++ [call], by rw [order, split, List.append_assoc, List.cons_append], account⟩
  case sum =>
    intro event
    rw [stats, counted_statsContent, order]
    exact values event
  case whole => exact .inr ⟨totals, stats⟩

theorem Kept.proceed (kept : Kept schema calls initial s) (taken : proceed schema calls s call = some t) :
    Kept schema calls initial t := by
  unfold Counters.proceed at taken
  cases now : s.phase call with
  | waiting =>
    simp only [now] at taken
    split at taken
    next free =>
      cases taken
      refine kept.turn call .locked rfl rfl rfl (by simp [Phase.holds, Store.move]) ?_ (fun _ _ _ => rfl) ?_ ?_ ?_ ?_
      · intro other different
        simp [Store.move, free, Ne.symm different]
      · exact fun _ _ => kept.later call (by rw [now]; rfl) (by rw [now]; rfl)
      · exact fun _ pending => by cases pending
      · exact fun _ written => by cases written
      · exact fun _ published => by cases published
    next => cases taken
  | locked =>
    have held : s.lock = some call := (kept.holder call).mp (by rw [now]; rfl)
    have absent : call ∉ s.published := kept.later call (by rw [now]; rfl) (by rw [now]; rfl)
    simp only [now] at taken
    split at taken
    next totals recorded =>
      cases taken
      refine kept.held (.recorded totals) held rfl rfl rfl rfl rfl absent rfl ?_ ?_
      · rintro _ ⟨⟩ event
        cases read : readStats s.stats with
        | error refusal => rw [read] at recorded; cases recorded
        | ok stats =>
          rw [read] at recorded
          rw [CacheStats.value_record recorded event, counted, read]
          simp [added]
      · exact fun _ written => by cases written
    next =>
      cases taken
      exact kept.leave rfl fun _ published => by cases published
  | recorded totals =>
    have held : s.lock = some call := (kept.holder call).mp (by rw [now]; rfl)
    have absent : call ∉ s.published := kept.later call (by rw [now]; rfl) (by rw [now]; rfl)
    simp only [now] at taken
    cases taken
    refine kept.held (.writing totals) held rfl rfl rfl rfl rfl absent rfl ?_ ?_
    · rintro _ ⟨⟩
      exact kept.pending call totals (by rw [now]; rfl)
    · exact fun _ written => by cases written
  | writing totals =>
    have held : s.lock = some call := (kept.holder call).mp (by rw [now]; rfl)
    have absent : call ∉ s.published := kept.later call (by rw [now]; rfl) (by rw [now]; rfl)
    simp only [now] at taken
    cases taken
    refine kept.held (.written totals) held rfl rfl rfl rfl rfl absent rfl ?_ ?_
    · rintro _ ⟨⟩
      exact kept.pending call totals (by rw [now]; rfl)
    · rintro _ ⟨⟩
      simp [Store.write, Store.move]
  | written totals =>
    have complete := kept.complete call totals now
    simp only [now, complete] at taken
    split at taken
    next => cases taken; exact kept.leave rfl fun _ published => by cases published
    next none missing => cases none
    next content whole _ =>
      cases whole
      cases taken
      exact kept.replace now rfl rfl rfl rfl
  | replaced totals =>
    simp only [now] at taken
    cases taken
    refine kept.leave rfl ?_
    rintro _ ⟨⟩
    exact kept.accounts call totals (by rw [now]; rfl)
  | returned totals => simp [now] at taken
  | raised => simp [now] at taken
  | dead => simp [now] at taken

theorem Kept.step (kept : Kept schema calls initial s) {a : Action ι} (legible : Legible s a)
    (taken : step schema calls s a = some t) : Kept schema calls initial t := by
  cases a with
  | proceed call => exact kept.proceed taken
  | spill call content =>
    simp only [Counters.step] at taken
    split at taken
    next totals writing =>
      cases taken
      have held : s.lock = some call := (kept.holder call).mp (by rw [writing]; rfl)
      refine kept.held (.writing totals) held rfl rfl rfl ?_ rfl ?_ rfl ?_ ?_
      · rw [Store.write, ← writing, Function.update_eq_self]
      · exact kept.later call (by rw [writing]; rfl) (by rw [writing]; rfl)
      · rintro _ ⟨⟩
        exact kept.pending call totals (by rw [writing]; rfl)
      · exact fun _ written => by cases written
    next => cases taken
  | misread call => exact absurd rfl (legible call)
  | fail call =>
    simp only [Counters.step] at taken
    split at taken
    next => cases taken
    next => cases taken; exact kept.leave rfl fun _ published => by cases published
  | die call =>
    simp only [Counters.step] at taken
    split at taken
    next => cases taken
    next => cases taken; exact kept.leave rfl fun _ published => by cases published

end Steps

section Results

variable {ι : Type} [DecidableEq ι]

/-- Whatever order the calls' steps come in, and wherever calls fail or processes die, no update is lost and none
counts twice: the file is always whole, it counts what it had at first and what was added by the calls that replaced
it, each of them once, and a call returns the totals up to its own. -/
theorem updates_counted (schema : Int) (calls : ι → Call) (initial : MarkerFile) (s : Store ι)
    (reached : Reached (step schema calls) Legible { stats := initial } s) :
    (s.stats = initial ∨ ∃ totals, s.stats = .file (statsContent schema totals)) ∧
      s.published.Nodup ∧
      (∀ event, counted s.stats event = counted initial event + added calls event s.published) ∧
      (∀ call totals, s.phase call = .returned totals → Accounts calls initial s call totals) ∧
      ∀ call, s.phase call = .waiting → call ∉ s.published := by
  have kept : Kept schema calls initial s :=
    reached.invariant (.start schema calls initial) fun _ _ _ kept legible taken => kept.step legible taken
  refine ⟨kept.whole, kept.once, kept.sum, fun call totals returned => ?_, fun call waiting => ?_⟩
  · exact kept.accounts call totals (by rw [returned]; rfl)
  · exact kept.later call (by rw [waiting]; rfl) (by rw [waiting]; rfl)

def raceCalls (call : Nat) : Call :=
  if call = 0 then ⟨10, "hits".toList, 1⟩ else if call = 1 then ⟨11, "hits".toList, 4⟩ else ⟨12, "misses".toList, 1⟩

/-- The third call dies while it writes; the second one gets ahead of the first. -/
def race : Option (Store Nat) :=
  replay (step 1 raceCalls) Legible { stats := .absent }
    ([2, 2, 2].map .proceed ++ [.spill 2 .malformed, .die 2] ++ [1, 1, 1, 1, 1, 1].map .proceed ++
      [0, 0, 0, 0, 0].map .proceed)

theorem updates_counted_race :
    ∃ s, race = some s ∧ s.published = [1, 0] ∧ counted s.stats "hits".toList = 5 ∧
      counted s.stats "misses".toList = 0 := by
  obtain ⟨s, ran⟩ : ∃ s, race = some s := Option.isSome_iff_exists.mp (by decide +kernel)
  have order : s.published = [1, 0] := by
    have published : race.map Store.published = some [1, 0] := by decide +kernel
    rw [ran] at published
    exact Option.some.inj published
  have counts := (updates_counted 1 raceCalls .absent s (replay_reached .refl ran)).2.2.1
  refine ⟨s, ran, order, ?_, ?_⟩
  · rw [counts, order]
    decide
  · rw [counts, order]
    decide

end Results

end Darling.Caches.Counters
