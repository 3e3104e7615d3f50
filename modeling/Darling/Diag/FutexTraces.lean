import Mathlib.Data.List.Forall2
import Darling.Diag.RingDumps

/-! `parse_futex_trace` and `pair_futex_trace`: the waits of a trace, each joined to the wakes that follow it on its
futex. -/
namespace Darling.Diag

inductive FutexTraceKind where
  | wait
  | wake
  deriving DecidableEq

structure FutexTraceEvent where
  kind : FutexTraceKind
  pid : Nat
  tid : Nat
  addr : Nat
  woke : Option Nat
  tsNs : Nat
  deriving DecidableEq

/-- The refusals of a trace; lines are numbered from 1 on. -/
inductive TraceError where
  | baseIncomplete (line : Nat)
  | unknownEvent (line : Nat) (event : Text)
  | notKeyValue (line : Nat) (field : Text)
  | unknownField (line : Nat) (key : Text)
  | unplaced (line : Nat)
  | noTimestamp (line : Nat)
  | noEvent
  deriving DecidableEq

section Parsing

/-- What a line of the trace says; events with the time that is written. -/
inductive Item where
  | nothing
  | base (wallS monoNs : Nat)
  | event (event : FutexTraceEvent)
  deriving DecidableEq

def readBase (base : Option Nat × Option Nat) (field : Text) : Option Nat × Option Nat :=
  match splitOnce '=' field with
  | some (k, v) =>
    if k = "wall_s".toList then (parseUnsigned 128 v, base.2)
    else if k = "mono_ns".toList then (base.1, parseUnsigned 128 v)
    else base
  | none => base

def kindOf (word : Text) : Option FutexTraceKind :=
  if word = "WAIT".toList ∨ word = "FUTEX_WAIT".toList then some .wait
  else if word = "WAKE".toList ∨ word = "FUTEX_WAKE".toList then some .wake
  else none

structure EventFields where
  pid : Option Nat := none
  tid : Option Nat := none
  addr : Option Nat := none
  woke : Option Nat := none
  tsNs : Option Nat := none

def EventFields.read (n : Nat) (fields : EventFields) (field : Text) : Except TraceError EventFields :=
  match splitOnce '=' field with
  | none => .error (.notKeyValue n field)
  | some (k, v) =>
    if k = "pid".toList then .ok { fields with pid := parseUnsigned 32 v }
    else if k = "tid".toList then .ok { fields with tid := parseUnsigned 32 v }
    else if k = "uaddr".toList then .ok { fields with addr := parseHexOrDec v }
    else if k = "woke".toList then .ok { fields with woke := parseU64 v }
    else if k = "ts_ns".toList then .ok { fields with tsNs := parseUnsigned 128 v }
    else .error (.unknownField n k)

def parseEvent (n : Nat) (line : Text) : Except TraceError Item := do
  let words := splitWhitespace line
  match kindOf (words.head?.getD []) with
  | none => .error (.unknownEvent n (words.head?.getD []))
  | some kind =>
    let fields ← words.tail.foldlM (EventFields.read n) {}
    match fields.pid, fields.tid, fields.addr with
    | some pid, some tid, some addr =>
      match fields.tsNs with
      | some tsNs => return .event ⟨kind, pid, tid, addr, fields.woke, tsNs⟩
      | none => .error (.noTimestamp n)
    | _, _, _ => .error (.unplaced n)

def parseItem (numbered : Text × Nat) : Except TraceError Item :=
  let line := trim numbered.1
  if line = [] then .ok .nothing
  else
    match valueOf "BASE " (trim (line.dropWhile (· = '#'))) with
    | some rest =>
      match (splitWhitespace rest).foldl readBase (none, none) with
      | (some wallS, some monoNs) => .ok (.base wallS monoNs)
      | _ => .error (.baseIncomplete numbered.2)
    | none => if line.head? = some '#' then .ok .nothing else parseEvent numbered.2 line

def parseItems (text : Text) : Except TraceError (List Item) := ((lines text).zipIdx 1).mapM parseItem

/-- The time of an event on the clock of the wall, in 128 bits. -/
def rebaseTs (base : Option (Nat × Nat)) (tsNs : Nat) : Nat :=
  match base with
  | some (wallBase, monoBase) => (wallBase + (tsNs - monoBase)) % 2 ^ 128
  | none => tsNs

/-- Each event is rebased to the last base before it. -/
def rebase : Option (Nat × Nat) → List Item → List FutexTraceEvent
  | _, [] => []
  | base, .nothing :: items => rebase base items
  | _, .base wallS monoNs :: items => rebase (some (wallS * 1000000000 % 2 ^ 128, monoNs)) items
  | base, .event event :: items => { event with tsNs := rebaseTs base event.tsNs } :: rebase base items

def parseFutexTrace (text : Text) : Except TraceError (List FutexTraceEvent) := do
  let out := rebase none (← parseItems text)
  if out = [] then .error .noEvent else return out

end Parsing

section Pairing

structure MapRegion where
  lo : Nat
  hi : Nat
  shared : Bool
  fileOff : Nat
  dev : Text
  ino : Nat
  file : Text
  deriving DecidableEq

structure ObjectKey where
  dev : Text
  ino : Nat
  fileOff : Nat
  file : Text
  deriving DecidableEq

inductive Resolution where
  | shared
  | privateAnon
  | privateFile
  | unmapped
  | unmappedPid
  deriving DecidableEq

def resolveFutexAddr (maps : List MapRegion) (addr : Nat) : Resolution × Option ObjectKey :=
  match maps.find? fun r => r.lo ≤ addr && addr < r.hi with
  | none => (.unmapped, none)
  | some r =>
    if r.shared ∧ r.file ≠ [] then (.shared, some ⟨r.dev, r.ino, (r.fileOff + (addr - r.lo)) % 2 ^ 64, r.file⟩)
    else (if r.file = [] then .privateAnon else .privateFile, none)

structure FutexTraceWait where
  pid : Nat
  tid : Nat
  addr : Nat
  resolution : Resolution
  object : Option ObjectKey
  waker : Option (Nat × Nat × Nat)
  wakesAfter : Nat
  deriving DecidableEq

variable (mapsByPid : List (Text × List MapRegion))

def resolveTracedAddr (pid addr : Nat) : Resolution × Option ObjectKey :=
  match mapsByPid.find? fun captured => parseUnsigned 32 captured.1 = some pid with
  | some captured => resolveFutexAddr captured.2 addr
  | none => (.unmappedPid, none)

def wakerOf (w : FutexTraceEvent) : Nat × Nat × Nat := (w.pid, w.tid, w.woke.getD 0)

/-- The body of the inner loop. -/
def countWake (e : FutexTraceEvent) (object : Option ObjectKey) (found : Option (Nat × Nat × Nat) × Nat)
    (w : FutexTraceEvent) :
    Option (Nat × Nat × Nat) × Nat :=
  if w.kind ≠ .wake ∨ w.tsNs ≤ e.tsNs then found
  else
    let wokeObject := (resolveTracedAddr mapsByPid w.pid w.addr).2
    let sameObject := object.isSome ∧ wokeObject = object
    let samePrivateSite := object.isNone ∧ w.pid = e.pid ∧ w.addr = e.addr
    if ¬sameObject ∧ ¬samePrivateSite then found else (found.1.or (some (wakerOf w)), found.2 + 1)

def pairWait (events : List FutexTraceEvent) (e : FutexTraceEvent) : FutexTraceWait :=
  let (resolution, object) := resolveTracedAddr mapsByPid e.pid e.addr
  let (waker, wakesAfter) := events.foldl (countWake mapsByPid e object) (none, 0)
  { pid := e.pid, tid := e.tid, addr := e.addr, resolution, object, waker, wakesAfter }

def pairFutexTrace (events : List FutexTraceEvent) : List FutexTraceWait :=
  (events.filter (·.kind = .wait)).map (pairWait mapsByPid events)

end Pairing

section Futexes

variable (mapsByPid : List (Text × List MapRegion))

/-- What two addresses have in common: the byte of a file, or the place in one process. -/
inductive Futex where
  | shared (dev : Text) (ino fileOff : Nat)
  | local (pid addr : Nat)
  deriving DecidableEq

def objectOf (e : FutexTraceEvent) : Option ObjectKey := (resolveTracedAddr mapsByPid e.pid e.addr).2

def futexOf (e : FutexTraceEvent) : Futex :=
  match objectOf mapsByPid e with
  | some key => .shared key.dev key.ino key.fileOff
  | none => .local e.pid e.addr

/-- The text for the path of the file, as the process of the event shows it. -/
def pathText (e : FutexTraceEvent) : Option Text := (objectOf mapsByPid e).map (·.file)

/-- The time that is written on a line. -/
def Item.written : Item → Option Nat
  | .event traced => some traced.tsNs
  | _ => none

/-- The events with the times that are written in the text. -/
def stamped (base : Option (Nat × Nat)) (items : List Item) : List (Nat × FutexTraceEvent) :=
  (items.filterMap Item.written).zip (rebase base items)

def traceOf (text : Text) : List (Nat × FutexTraceEvent) :=
  match parseItems text with
  | .ok items => stamped none items
  | .error _ => []

variable (trace : List (Nat × FutexTraceEvent))

/-- The wakes on the futex that are recorded after a wait, in the order of the trace. -/
def wakesAfter (e : Nat × FutexTraceEvent) : List (Nat × FutexTraceEvent) :=
  trace.filter fun w => w.2.kind = .wake ∧ e.1 < w.1 ∧ futexOf mapsByPid e.2 = futexOf mapsByPid w.2

/-- One of the wakes is recorded before all others. -/
def Earliest (wakes : List (Nat × FutexTraceEvent)) (first : Nat × FutexTraceEvent) : Prop :=
  first ∈ wakes ∧ ∀ other ∈ wakes, first.1 ≤ other.1

/-- What is reported of a wait. -/
structure Reports (e : Nat × FutexTraceEvent) (wait : FutexTraceWait) : Prop where
  site : wait.pid = e.2.pid ∧ wait.tid = e.2.tid ∧ wait.addr = e.2.addr
  count : wait.wakesAfter = (wakesAfter mapsByPid trace e).length
  unwoken : wakesAfter mapsByPid trace e = [] → wait.waker = none
  woken : wakesAfter mapsByPid trace e ≠ [] → ∃ first, Earliest (wakesAfter mapsByPid trace e) first ∧
    wait.waker = some (wakerOf first.2)

/-- The join is exact: a report for each wait. -/
def Exact (waits : List FutexTraceWait) : Prop :=
  List.Forall₂ (Reports mapsByPid trace) (trace.filter (·.2.kind = .wait)) waits

/-- The path text of a futex does not matter, nor the change of the clock, and the first wake in the trace is the
earliest. -/
structure Plain : Prop where
  seen : ∀ e ∈ trace, e.2.kind = .wait → ∀ w ∈ trace, w.2.kind = .wake → futexOf mapsByPid e.2 = futexOf mapsByPid w.2 →
    (e.1 < w.1 ↔ e.2.tsNs < w.2.tsNs ∧ pathText mapsByPid e.2 = pathText mapsByPid w.2)
  first : ∀ e ∈ trace, e.2.kind = .wait → ∀ w, (wakesAfter mapsByPid trace e).head? = some w →
    ∃ first, Earliest (wakesAfter mapsByPid trace e) first ∧ wakerOf w.2 = wakerOf first.2

end Futexes

section Joining

variable {mapsByPid : List (Text × List MapRegion)}

theorem stamped_events (base : Option (Nat × Nat)) (items : List Item) :
    (stamped base items).map (·.2) = rebase base items := by
  induction items generalizing base with
  | nil => rfl
  | cons item items ih =>
    cases item with
    | nothing => exact ih base
    | base wallS monoNs => exact ih _
    | event event => exact congrArg _ (ih base)

theorem parseFutexTrace_events {text : Text} {events : List FutexTraceEvent}
    (accepted : parseFutexTrace text = .ok events) :
    events = (traceOf text).map (·.2) := by
  unfold parseFutexTrace at accepted
  unfold traceOf
  cases read : parseItems text with
  | error e =>
    rw [read] at accepted
    cases accepted
  | ok items =>
    rw [read] at accepted
    simp only [bind, Except.bind] at accepted
    split at accepted
    · cases accepted
    · simp only [stamped_events]
      exact (Except.ok.inj accepted).symm

/-- The wakes that the inner loop counts. -/
def Counts (mapsByPid : List (Text × List MapRegion)) (e w : FutexTraceEvent) : Prop :=
  w.kind = .wake ∧ e.tsNs < w.tsNs ∧ futexOf mapsByPid e = futexOf mapsByPid w ∧
    pathText mapsByPid e = pathText mapsByPid w

instance (e w : FutexTraceEvent) : Decidable (Counts mapsByPid e w) := inferInstanceAs (Decidable (_ ∧ _))

theorem same_iff (e w : FutexTraceEvent) :
    ((objectOf mapsByPid e).isSome ∧ objectOf mapsByPid w = objectOf mapsByPid e) ∨
        ((objectOf mapsByPid e).isNone ∧ w.pid = e.pid ∧ w.addr = e.addr) ↔
      futexOf mapsByPid e = futexOf mapsByPid w ∧ pathText mapsByPid e = pathText mapsByPid w := by
  unfold futexOf pathText
  cases own : objectOf mapsByPid e with
  | none =>
    cases other : objectOf mapsByPid w with
    | none => simp [eq_comm]
    | some key =>
      simp only [Option.isSome_none, Bool.false_eq_true, false_and, Option.isNone_none, true_and, false_or,
        reduceCtorEq, iff_false]
      rintro ⟨pid, addr⟩
      simp [objectOf, pid, addr] at own other
      simp [own] at other
  | some key =>
    cases other : objectOf mapsByPid w with
    | none => simp
    | some key' =>
      obtain ⟨dev, ino, fileOff, file⟩ := key
      obtain ⟨dev', ino', fileOff', file'⟩ := key'
      simp
      tauto

theorem countWake_eq (e w : FutexTraceEvent) (found : Option (Nat × Nat × Nat) × Nat) :
    countWake mapsByPid e (objectOf mapsByPid e) found w =
      if Counts mapsByPid e w then (found.1.or (some (wakerOf w)), found.2 + 1) else found := by
  have same : _ ↔ futexOf mapsByPid e = futexOf mapsByPid w ∧
      pathText mapsByPid e = pathText mapsByPid w := same_iff e w
  unfold countWake
  by_cases skipped : w.kind ≠ .wake ∨ w.tsNs ≤ e.tsNs
  · rw [if_pos skipped, if_neg]
    rintro ⟨kind, later, _⟩
    exact skipped.elim (fun other => other kind) fun early => Nat.not_le.mpr later early
  · rw [if_neg skipped]
    push Not at skipped
    by_cases counted : Counts mapsByPid e w
    · rw [if_pos counted, if_neg]
      rintro ⟨object, site⟩
      exact (same.mpr counted.2.2).elim object site
    · rw [if_neg counted, if_pos]
      exact not_or.mp fun joined => counted ⟨skipped.1, skipped.2, same.mp joined⟩

theorem countWakes (e : FutexTraceEvent) (events : List FutexTraceEvent) (found : Option (Nat × Nat × Nat) × Nat) :
    events.foldl (countWake mapsByPid e (objectOf mapsByPid e)) found =
      (found.1.or ((events.filter (Counts mapsByPid e)).head?.map wakerOf), found.2
        + (events.filter (Counts mapsByPid e)).length) := by
  induction events generalizing found with
  | nil => simp
  | cons w events ih =>
    rw [List.foldl_cons, countWake_eq, ih]
    by_cases counted : Counts mapsByPid e w
    · rw [if_pos counted, List.filter_cons_of_pos (by simpa using counted), List.head?_cons, List.length_cons,
        Option.map_some, Option.or_assoc,
        Option.some_or, Nat.add_assoc, Nat.add_comm 1]
    · rw [if_neg counted, List.filter_cons_of_neg (by simpa using counted)]

theorem pairWait_eq (events : List FutexTraceEvent) (e : FutexTraceEvent) : pairWait mapsByPid events e =
    { pid := e.pid
      tid := e.tid
      addr := e.addr
      resolution := (resolveTracedAddr mapsByPid e.pid e.addr).1
      object := objectOf mapsByPid e
      waker := (events.filter (Counts mapsByPid e)).head?.map wakerOf
      wakesAfter := (events.filter (Counts mapsByPid e)).length } := by
  have found : events.foldl (countWake mapsByPid e (objectOf mapsByPid e)) (none, 0) =
      ((events.filter (Counts mapsByPid e)).head?.map wakerOf, (events.filter (Counts mapsByPid e)).length) := by
    rw [countWakes, Option.none_or, Nat.zero_add]
  unfold pairWait
  simp only [objectOf] at found ⊢
  rw [found]

variable {trace : List (Nat × FutexTraceEvent)} {e : Nat × FutexTraceEvent}

/-- The wakes that are counted, with the times that are written. -/
def counted (mapsByPid : List (Text × List MapRegion)) (trace : List (Nat × FutexTraceEvent)) (e : FutexTraceEvent) :
    List (Nat × FutexTraceEvent) := trace.filter fun w => Counts mapsByPid e w.2

theorem counted_events (e : FutexTraceEvent) :
    (trace.map (·.2)).filter (Counts mapsByPid e) = (counted mapsByPid trace e).map (·.2) := by
  rw [List.filter_map]
  rfl

/-- A report is about the wakes that are counted. -/
theorem reports_iff : Reports mapsByPid trace e (pairWait mapsByPid (trace.map (·.2)) e.2) ↔
    (counted mapsByPid trace e.2).length = (wakesAfter mapsByPid trace e).length ∧
    (wakesAfter mapsByPid trace e = [] → (counted mapsByPid trace e.2).head? = none) ∧
    (wakesAfter mapsByPid trace e ≠ [] → ∃ first, Earliest (wakesAfter mapsByPid trace e) first ∧
      (counted mapsByPid trace e.2).head?.map (wakerOf ·.2) = some (wakerOf first.2)) := by
  have head : ((counted mapsByPid trace e.2).map (·.2)).head?.map wakerOf =
      (counted mapsByPid trace e.2).head?.map (wakerOf ·.2) := by
    rw [List.head?_map, Option.map_map]
    rfl
  rw [pairWait_eq, counted_events]
  constructor
  · rintro ⟨_, count, unwoken, woken⟩
    rw [head] at unwoken woken
    exact ⟨by rw [← count, List.length_map], fun none => Option.map_eq_none_iff.mp (unwoken none), woken⟩
  · rintro ⟨count, unwoken, woken⟩
    refine ⟨⟨rfl, rfl, rfl⟩, by rw [← count, List.length_map], fun none => ?_, fun some => ?_⟩
    · rw [head, unwoken none, Option.map_none]
    · rw [head]
      exact woken some

theorem exact_iff : Exact mapsByPid trace (pairFutexTrace mapsByPid (trace.map (·.2))) ↔
    ∀ e ∈ trace, e.2.kind = .wait → Reports mapsByPid trace e (pairWait mapsByPid (trace.map (·.2)) e.2) := by
  have waits : (trace.map (·.2)).filter (·.kind = .wait) = (trace.filter (·.2.kind = .wait)).map (·.2) := by
    rw [List.filter_map]
    rfl
  rw [Exact, pairFutexTrace, waits, List.map_map, List.forall₂_map_right_iff, List.forall₂_same]
  simp

/-- If as many are kept by the weaker test then the same are kept. -/
theorem filter_eq_of_length {α : Type} {p q : α → Bool} {items : List α}
    (weaker : ∀ item ∈ items, p item = true → q item = true)
    (same : (items.filter p).length = (items.filter q).length) : ∀ item ∈ items, q item = true → p item = true := by
  have inner : (items.filter q).filter p = items.filter p := by
    rw [List.filter_filter]
    refine List.filter_congr fun item listed => ?_
    cases kept : p item with
    | false => rfl
    | true => rw [weaker item listed kept]; rfl
  have whole : (items.filter q).filter p = items.filter q := List.filter_sublist.eq_of_length (inner ▸ same)
  intro item listed kept
  have := List.mem_filter.mpr ⟨listed, kept⟩
  rw [← whole] at this
  exact (List.mem_filter.mp this).2

/-- Where rebasing puts no event behind one that is recorded as late. -/
def Forward (trace : List (Nat × FutexTraceEvent)) : Prop := ∀ e ∈ trace, ∀ w ∈ trace, e.2.tsNs < w.2.tsNs → e.1 < w.1

theorem Plain.counted (plain : Plain mapsByPid trace) (listed : e ∈ trace) (wait : e.2.kind = .wait) :
    counted mapsByPid trace e.2 = wakesAfter mapsByPid trace e := by
  refine List.filter_congr fun w other => ?_
  have seen := plain.seen e listed wait w other
  rw [decide_eq_decide]
  constructor
  · exact fun ⟨wake, later, same, path⟩ => ⟨wake, (seen wake same).mpr ⟨later, path⟩, same⟩
  · rintro ⟨wake, later, same⟩
    have := (seen wake same).mp later
    exact ⟨wake, this.1, same, this.2⟩

theorem Plain.exact (plain : Plain mapsByPid trace) :
    Exact mapsByPid trace (pairFutexTrace mapsByPid (trace.map (·.2))) := by
  rw [exact_iff]
  intro e listed wait
  rw [reports_iff, plain.counted listed wait]
  refine ⟨rfl, fun none => by rw [none]; rfl, fun some => ?_⟩
  obtain ⟨w, head⟩ := Option.ne_none_iff_exists'.mp (mt List.head?_eq_none_iff.mp some)
  obtain ⟨first, earliest, same⟩ := plain.first e listed wait w head
  exact ⟨first, earliest, by rw [head, Option.map_some, same]⟩

theorem plain_of_exact (forward : Forward trace)
    (exact_ : Exact mapsByPid trace (pairFutexTrace mapsByPid (trace.map (·.2)))) :
    Plain mapsByPid trace := by
  rw [exact_iff] at exact_
  have missed (e : Nat × FutexTraceEvent) (listed : e ∈ trace) (wait : e.2.kind = .wait) :
      ∀ w ∈ trace, w.2.kind = .wake ∧ e.1 < w.1 ∧ futexOf mapsByPid e.2 = futexOf mapsByPid w.2 →
        Counts mapsByPid e.2 w.2 := by
    have count := (reports_iff.mp (exact_ e listed wait)).1
    intro w other later
    refine of_decide_eq_true (filter_eq_of_length (fun item member counts => ?_) count w other (decide_eq_true later))
    obtain ⟨wake, after, same, _⟩ := of_decide_eq_true counts
    exact decide_eq_true ⟨wake, forward e listed item member after, same⟩
  have counted_eq (e : Nat × FutexTraceEvent) (listed : e ∈ trace) (wait : e.2.kind = .wait) :
      counted mapsByPid trace e.2 = wakesAfter mapsByPid trace e := by
    refine List.filter_congr fun w other => ?_
    rw [decide_eq_decide]
    exact ⟨fun ⟨wake, after, same, _⟩ => ⟨wake, forward e listed w other after, same⟩, missed e listed wait w other⟩
  refine ⟨fun e listed wait w other wake same => ?_, fun e listed wait w head => ?_⟩
  · refine ⟨fun later => ?_, fun after => forward e listed w other after.1⟩
    obtain ⟨_, after, _, path⟩ := missed e listed wait w other ⟨wake, later, same⟩
    exact ⟨after, path⟩
  · have woken := (reports_iff.mp (exact_ e listed wait)).2.2
    rw [counted_eq e listed wait, head] at woken
    obtain ⟨first, earliest, waker⟩ := woken fun none => by rw [none] at head; cases head
    exact ⟨first, earliest, Option.some.inj waker⟩

/-- The key of a shared futex holds the path text, and the waker is the first in the trace: the join is exact for
traces in which neither matters, and only for them unless rebasing brings other wakes in. -/
theorem pairFutexTrace_exact {text : Text} {events : List FutexTraceEvent}
    (accepted : parseFutexTrace text = .ok events)
    (mapsByPid : List (Text × List MapRegion)) :
    (Plain mapsByPid (traceOf text) → Exact mapsByPid (traceOf text) (pairFutexTrace mapsByPid events)) ∧
      (Forward (traceOf text) → Exact mapsByPid (traceOf text) (pairFutexTrace mapsByPid events) →
        Plain mapsByPid (traceOf text)) := by
  rw [parseFutexTrace_events accepted]
  exact ⟨Plain.exact, plain_of_exact⟩

/-- Two processes that map one file at different places. -/
def ringMaps : List (Text × List MapRegion) :=
  [("1".toList, [⟨0x1000, 0x2000, true, 0, "00:01".toList, 7, "/dev/shm/ring".toList⟩]),
    ("2".toList, [⟨0x5000, 0x6000, true, 0, "00:01".toList, 7, "/dev/shm/ring".toList⟩])]

def ringTrace : Text :=
  "# BASE wall_s=1 mono_ns=100\nWAIT pid=1 tid=11 uaddr=0x1010 ts_ns=200\nWAKE pid=2 tid=22 uaddr=0x5010 woke=1 ts_ns=300\n".toList

def ringWait : FutexTraceEvent := ⟨.wait, 1, 11, 0x1010, none, 1000000100⟩

def ringWake : FutexTraceEvent := ⟨.wake, 2, 22, 0x5010, some 1, 1000000200⟩

theorem ringTrace_accepted : parseFutexTrace ringTrace = .ok [ringWait, ringWake] := by
  unfold ringTrace
  rw [String.toList_ofList]
  decide +kernel

theorem ringTrace_events : traceOf ringTrace = [(200, ringWait), (300, ringWake)] := by
  unfold ringTrace
  rw [String.toList_ofList]
  decide +kernel

theorem ringTrace_exact : parseFutexTrace ringTrace = .ok [ringWait, ringWake] ∧ Plain ringMaps (traceOf ringTrace) ∧
    Exact ringMaps (traceOf ringTrace) (pairFutexTrace ringMaps [ringWait, ringWake]) := by
  have later : wakesAfter ringMaps [(200, ringWait), (300, ringWake)] (200, ringWait) = [(300, ringWake)] := by
    decide +kernel
  have plain : Plain ringMaps (traceOf ringTrace) := by
    rw [ringTrace_events]
    refine ⟨fun e listed wait w other wake _ => ?_, fun e listed wait w head => ?_⟩
    · simp only [List.mem_cons, List.not_mem_nil, or_false] at listed other
      rcases listed with rfl | rfl
      · rcases other with rfl | rfl
        · cases wake
        · exact iff_of_true (by decide) (by decide +kernel)
      · cases wait
    · simp only [List.mem_cons, List.not_mem_nil, or_false] at listed
      rcases listed with rfl | rfl
      · rw [later] at head ⊢
        obtain rfl : (300, ringWake) = w := Option.some.inj head
        exact ⟨_, ⟨List.mem_singleton_self _, by simp⟩, rfl⟩
      · cases wait
  exact ⟨ringTrace_accepted, plain, (pairFutexTrace_exact ringTrace_accepted ringMaps).1 plain⟩

/-- The later of two wakes comes first in the trace. -/
def mixedTrace : Text :=
  "WAIT pid=1 tid=1 uaddr=0x10 ts_ns=1\nWAKE pid=1 tid=2 uaddr=0x10 woke=1 ts_ns=9\nWAKE pid=1 tid=3 uaddr=0x10 woke=1 ts_ns=5\n".toList

def mixedWait : FutexTraceEvent := ⟨.wait, 1, 1, 0x10, none, 1⟩

def mixedWakes : List FutexTraceEvent := [⟨.wake, 1, 2, 0x10, some 1, 9⟩, ⟨.wake, 1, 3, 0x10, some 1, 5⟩]

theorem mixedTrace_accepted : parseFutexTrace mixedTrace = .ok (mixedWait :: mixedWakes) := by
  unfold mixedTrace
  rw [String.toList_ofList]
  decide +kernel

theorem mixedTrace_events : traceOf mixedTrace = (mixedWait :: mixedWakes).map fun event => (event.tsNs, event) := by
  unfold mixedTrace
  rw [String.toList_ofList]
  decide +kernel

/-- The second process has the file under another name. -/
def renamedMaps : List (Text × List MapRegion) :=
  [("1".toList, [⟨0x1000, 0x2000, true, 0, "00:01".toList, 7, "/dev/shm/ring".toList⟩]),
    ("2".toList, [⟨0x5000, 0x6000, true, 0, "00:01".toList, 7, "/dev/shm/ring (deleted)".toList⟩])]

/-- The first wake of the trace is reported, not the earliest; and a wake under another path text is not counted. -/
theorem traces_differ :
    (∃ events, parseFutexTrace mixedTrace = .ok events ∧ ¬Exact [] (traceOf mixedTrace) (pairFutexTrace [] events)) ∧
    ∃ events, parseFutexTrace ringTrace = .ok events ∧
      ¬Exact renamedMaps (traceOf ringTrace) (pairFutexTrace renamedMaps events) := by
  constructor
  · refine ⟨_, mixedTrace_accepted, fun exact_ => ?_⟩
    have later : wakesAfter [] (traceOf mixedTrace) (1, mixedWait) =
        mixedWakes.map fun event => (event.tsNs, event) := by
      rw [mixedTrace_events]
      decide +kernel
    rw [parseFutexTrace_events mixedTrace_accepted] at exact_
    have reports := exact_iff.mp exact_ (1, mixedWait) (by rw [mixedTrace_events]; decide) rfl
    obtain ⟨first, ⟨listed, least⟩, waker⟩ := reports.woken (by rw [later]; simp [mixedWakes])
    rw [later] at listed least
    have early := least (5, ⟨.wake, 1, 3, 0x10, some 1, 5⟩) (by decide)
    simp only [mixedWakes, List.map_cons, List.map_nil, List.mem_cons, List.not_mem_nil, or_false] at listed
    rcases listed with rfl | rfl
    · exact absurd early (by decide)
    · rw [mixedTrace_events] at waker
      exact absurd waker (by decide +kernel)
  · refine ⟨_, ringTrace_accepted, fun exact_ => ?_⟩
    rw [parseFutexTrace_events ringTrace_accepted, ringTrace_events] at exact_
    have reports := exact_iff.mp exact_ (200, ringWait) (by decide) rfl
    exact absurd reports.count (by decide +kernel)

end Joining

end Darling.Diag
