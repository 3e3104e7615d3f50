import Darling.Descriptors.Trace

/-! The gate: what an accepted report says about the windows of a capture. -/
namespace Darling.Descriptors

variable {ε : Type} {classes : Classes} {events : List TraceEvent} {spec : WindowSpec} {begin finish : TraceEvent}

/-- A begin marker and the next end marker of the window in the same trace file. -/
structure Window (events : List TraceEvent) (spec : WindowSpec) (begin finish : TraceEvent) : Prop where
  begins : begin ∈ marked events spec .begin
  finishes : finish ∈ marked events spec .finish
  path : finish.path = begin.path
  later : begin.lineNumber < finish.lineNumber
  next : ∀ other ∈ marked events spec .finish, other.path = begin.path → begin.lineNumber < other.lineNumber →
    finish.lineNumber ≤ other.lineNumber

/-- Some message is a call, and the descriptors are as expected. -/
structure Meets (spec : WindowSpec) (messages : List TraceEvent) : Prop where
  called : calls messages ≠ []
  none : spec.expect = .none → described messages = []
  some : spec.expect = .atLeastOne → described messages ≠ []

/-- Events of one file stand in the order of their lines. -/
def Ordered (events : List TraceEvent) : Prop :=
  events.Pairwise fun a b => a.path = b.path → a.lineNumber < b.lineNumber

theorem traceEvent_place {path raw : Text} {number : Nat} {event : TraceEvent}
    (parsed : traceEvent classes path number raw = some event) : event.path = path ∧ event.lineNumber = number := by
  simp only [traceEvent, Option.bind_eq_bind, Option.bind_eq_some_iff] at parsed
  obtain ⟨syscall, -, parsed⟩ := parsed
  split_ifs at parsed <;> cases parsed <;> exact ⟨rfl, rfl⟩

theorem parseLines_place {path : Text} {lines : List Text} {number : Nat} :
    ∀ event ∈ parseLines classes path number lines, event.path = path ∧ number ≤ event.lineNumber := by
  induction lines generalizing number with
  | nil => simp [parseLines]
  | cons raw rest induction =>
    intro event member
    rcases List.mem_append.mp member with first | later
    · obtain ⟨placed, numbered⟩ := traceEvent_place (Option.mem_toList.mp first)
      exact ⟨placed, by omega⟩
    · obtain ⟨placed, numbered⟩ := induction event later
      exact ⟨placed, by omega⟩

theorem parseLines_ordered (path : Text) (lines : List Text) (number : Nat) :
    Ordered (parseLines classes path number lines) := by
  induction lines generalizing number with
  | nil => exact .nil
  | cons raw rest induction =>
    refine List.pairwise_append.mpr ⟨?_, induction (number + 1), ?_⟩
    · cases traceEvent classes path number raw with
      | none => exact .nil
      | some event => exact List.pairwise_singleton _ event
    · intro first parsed later member _
      have here := (traceEvent_place (Option.mem_toList.mp parsed)).2
      have below := (parseLines_place later member).2
      omega

theorem readEvents_paths {files : List (Text × Except ε Text)} (read : readEvents classes files = .ok events) :
    ∀ event ∈ events, event.path ∈ files.map (·.1) := by
  induction files generalizing events with
  | nil =>
    cases read
    simp
  | cons file rest induction =>
    obtain ⟨path, content⟩ := file
    cases content with
    | error error => cases read
    | ok content =>
      cases others : readEvents classes rest with
      | error error => simp [readEvents, others, bind, Except.bind] at read
      | ok tail =>
        simp only [readEvents, others, bind, Except.bind, pure, Except.pure, Except.ok.injEq] at read
        subst read
        intro event member
        rcases List.mem_append.mp member with here | later
        · rw [(parseLines_place event here).1]
          exact List.mem_cons_self
        · exact List.mem_cons_of_mem _ (induction others event later)

theorem readEvents_ordered {files : List (Text × Except ε Text)} (distinct : (files.map (·.1)).Nodup)
    (read : readEvents classes files = .ok events) : Ordered events := by
  induction files generalizing events with
  | nil =>
    cases read
    exact .nil
  | cons file rest induction =>
    obtain ⟨path, content⟩ := file
    obtain ⟨fresh, remaining⟩ := List.nodup_cons.mp distinct
    cases content with
    | error error => cases read
    | ok content =>
      cases others : readEvents classes rest with
      | error error => simp [readEvents, others, bind, Except.bind] at read
      | ok tail =>
        simp only [readEvents, others, bind, Except.bind, pure, Except.pure, Except.ok.injEq] at read
        subst read
        refine List.pairwise_append.mpr ⟨parseLines_ordered path _ 1, induction remaining others, ?_⟩
        intro first here later member same
        rw [(parseLines_place first here).1] at same
        exact absurd (same ▸ readEvents_paths others later member) fresh

theorem traceFiles_distinct (classes : Classes) (directory : Directory ε) :
    ((traceFiles classes directory).map (·.1)).Nodup := by
  have sorted := (List.perm_insertionSort (fun a b : Text × Except ε Text => a.1 ≤ b.1)
    (directory.files.filter fun file => isTraceFile classes file.1)).map Prod.fst
  refine sorted.nodup_iff.mpr ?_
  exact (List.filter_sublist.map Prod.fst).nodup directory.distinct

theorem firstEnd_window (ordered : Ordered events) (begins : begin ∈ marked events spec .begin)
    (found : firstEnd (marked events spec .finish) begin = some finish) : Window events spec begin finish := by
  obtain ⟨matching, before, after, split, none⟩ := List.find?_eq_some_iff_append.mp found
  obtain ⟨path, later⟩ := of_decide_eq_true matching
  refine ⟨begins, List.mem_of_find?_eq_some found, path, later, ?_⟩
  intro other member same beyond
  rw [split] at member
  rcases List.mem_append.mp member with earlier | rest
  · -- an end marker before the one found would have been found instead
    have passed := none other earlier
    simp only [same, beyond, and_self, decide_true, Bool.not_true] at passed
    cases passed
  · rcases List.mem_cons.mp rest with rfl | following
    · exact Nat.le_refl _
    · have sorted : Ordered (before ++ finish :: after) := split ▸ ordered.filter _
      have next := (List.pairwise_cons.mp (List.pairwise_append.mp sorted).2.1).1 other following
      exact Nat.le_of_lt (next (path.trans same.symm))

/-- The window that is judged: no other window of the same name starts earlier in the trace. -/
structure FirstWindow (events : List TraceEvent) (spec : WindowSpec) (begin finish : TraceEvent) : Prop
    extends Window events spec begin finish where
  first : ∃ before after, events = before ++ begin :: after ∧
    ∀ other ∈ before, ∀ last, ¬Window events spec other last

theorem findWindow_first (ordered : Ordered events) (found : findWindow events spec = some (begin, finish)) :
    FirstWindow events spec begin finish := by
  obtain ⟨earlier, chosen, following, split, ended, none⟩ := List.findSome?_eq_some_iff.mp found
  obtain ⟨last, found, same⟩ := Option.map_eq_some_iff.mp ended
  cases same
  have begins : begin ∈ marked events spec .begin := by
    rw [split]
    simp
  refine ⟨firstEnd_window ordered begins found, ?_⟩
  obtain ⟨before, rest, rfl, left, right⟩ := List.filter_eq_append_iff.mp split
  obtain ⟨middle, after, rfl, skipped, -, -⟩ := List.filter_eq_cons_iff.mp right
  refine ⟨before ++ middle, after, by simp, ?_⟩
  intro other member last window
  have marker := (List.mem_filter.mp window.begins).2
  have counted : other ∈ earlier := by
    rcases List.mem_append.mp member with inBefore | inMiddle
    · rw [← left]
      exact List.mem_filter.mpr ⟨inBefore, marker⟩
    · exact absurd marker (skipped other inMiddle)
  have open_ := Option.map_eq_none_iff.mp (none other counted)
  have passed := List.find?_eq_none.mp open_ last window.finishes
  exact passed (decide_eq_true ⟨window.path, window.later⟩)

theorem windowFailures_nil {messages : List TraceEvent} (ok : windowFailures spec messages = []) :
    Meets spec messages := by
  obtain ⟨called, expected⟩ := List.append_eq_nil_iff.mp ok
  refine ⟨?_, ?_, ?_⟩
  · intro silent
    rw [if_pos silent] at called
    cases called
  · intro wanted
    by_contra seen
    rw [if_pos ⟨wanted, seen⟩] at expected
    cases expected
  · intro wanted unseen
    rw [if_neg (fun both => both.2 unseen), if_pos ⟨wanted, unseen⟩] at expected
    cases expected

theorem transcriptFailures_nil {transcript : Text} (ok : transcriptFailures spec transcript = []) (phase : Phase) :
    transcriptMarker spec.windowId phase <:+: transcript := by
  by_contra absent
  have listed : Failure.noTranscriptMarker phase (transcriptMarker spec.windowId phase) ∈
      transcriptFailures spec transcript := by
    refine List.mem_flatMap.mpr ⟨phase, by cases phase <;> simp, ?_⟩
    rw [if_neg absent]
    exact List.mem_singleton_self _
  rw [ok] at listed
  cases listed

theorem absentFailures_ne_nil (failures : List Failure) : absentFailures events failures ≠ [] := by
  unfold absentFailures
  split_ifs with cut none
  · simp
  · simp
  · exact none

theorem analyzeWindow_ok {transcript : Text} (ordered : Ordered events)
    (ok : (analyzeWindow events transcript spec).failures = []) :
    (∀ phase, transcriptMarker spec.windowId phase <:+: transcript) ∧
      ∃ begin finish, FirstWindow events spec begin finish ∧ Meets spec (inside events begin finish) := by
  unfold analyzeWindow at ok
  split at ok
  · exact absurd ok (absentFailures_ne_nil _)
  · rename_i begin finish found
    obtain ⟨printed, met⟩ := List.append_eq_nil_iff.mp ok
    exact ⟨transcriptFailures_nil printed, begin, finish, findWindow_first ordered found, windowFailures_nil met⟩

/-- An accepted report: the transcript holds both markers of each window, and the first window of that name
in the trace encloses a call and meets its expectation. -/
theorem gate_sound (classes : Classes) (directory : Directory ε) (specs : List WindowSpec) (transcript : Text)
    (report : Report) (analyzed : analyzeTrace classes directory specs transcript = .ok report)
    (ok : report.ok = true) :
    ∃ events, readEvents classes (traceFiles classes directory) = .ok events ∧
      ∀ spec ∈ specs, (∀ phase, transcriptMarker spec.windowId phase <:+: transcript) ∧
        ∃ begin finish, FirstWindow events spec begin finish ∧ Meets spec (inside events begin finish) := by
  cases read : readEvents classes (traceFiles classes directory) with
  | error error => simp [analyzeTrace, read, bind, Except.bind] at analyzed
  | ok events =>
    simp only [analyzeTrace, read, bind, Except.bind, pure, Except.pure, Except.ok.injEq] at analyzed
    subst analyzed
    refine ⟨events, rfl, fun spec listed => ?_⟩
    have none := List.flatMap_eq_nil_iff.mp (List.isEmpty_iff.mp ok) _ (List.mem_map_of_mem listed)
    exact analyzeWindow_ok (readEvents_ordered (traceFiles_distinct classes directory) read) none

def asciiClasses : Classes where
  decimal c := 48 ≤ c.toNat && c.toNat ≤ 57
  space c := c.toNat = 32 || (9 ≤ c.toNat && c.toNat ≤ 13)
  word c := isNameChar c || ('A' ≤ c && c ≤ 'Z')
  disjoint c digit := by
    simp only [Bool.and_eq_true, decide_eq_true_eq] at digit
    simp only [Bool.or_eq_false_iff, Bool.and_eq_false_iff, decide_eq_false_iff_not]
    omega

def markerLine (phase : String) : String :=
  "13:00:00.1 readlinkat(3, \"/tmp/darling-descriptor-window-w-" ++ phase ++ "\", 64) = -1"

/-- One window in two files; in the second no call is made. -/
def tracedTwice : Directory Unit where
  files := [
    ("trace.42".toList, .ok (markerLine "begin" ++ "\n13:00:00.2 sendmsg(3, 0) = 32\n" ++ markerLine "end").toList),
    ("trace.43".toList, .ok (markerLine "begin" ++ "\n" ++ markerLine "end").toList)]
  distinct := by decide

def quietWindow : WindowSpec := ⟨"w".toList, .none⟩

def printedOnce : Text := "DSERVER_DESCRIPTOR_WINDOW BEGIN w\nDSERVER_DESCRIPTOR_WINDOW END w\n".toList

def tracedReport : Report := ⟨[⟨"w".toList, .none, some "trace.42".toList, 1, 0, [], []⟩]⟩

def secondMarker (number : Nat) (phase : Phase) (name : String) : TraceEvent :=
  ⟨"trace.43".toList, number, "readlinkat".toList, none, false, some ("w".toList, phase),
    ("readlinkat(3, \"/tmp/darling-descriptor-window-w-" ++ name ++ "\", 64) = -1").toList⟩

/-- The events of both files. -/
def tracedEvents : List TraceEvent :=
  [{ secondMarker 1 .begin "begin" with path := "trace.42".toList },
    ⟨"trace.42".toList, 2, "sendmsg".toList, some .call, false, none, "sendmsg(3, 0) = 32".toList⟩,
    { secondMarker 3 .finish "end" with path := "trace.42".toList }, secondMarker 1 .begin "begin",
    secondMarker 2 .finish "end"]

theorem tracedTwice_events : readEvents asciiClasses (traceFiles asciiClasses tracedTwice) = .ok tracedEvents := by
  unfold traceFiles tracedTwice tracedEvents secondMarker markerLine
  simp only [String.toList_append, -String.reduceToList]
  repeat rw [String.toList_ofList]
  decide +kernel

/-- The fixture printed the markers of another window, whose name the declared one begins. -/
def printedOther : Text := "DSERVER_DESCRIPTOR_WINDOW BEGIN w-2\nDSERVER_DESCRIPTOR_WINDOW END w-2\n".toList

theorem tracedTwice_analyzed (transcript : Text) (printed : transcript = printedOnce ∨ transcript = printedOther) :
    analyzeTrace asciiClasses tracedTwice [quietWindow] transcript = .ok tracedReport := by
  rw [analyzeTrace, tracedTwice_events]
  rcases printed with rfl | rfl
  · unfold printedOnce
    rw [String.toList_ofList]
    decide +kernel
  · unfold printedOther
    rw [String.toList_ofList]
    decide +kernel

theorem gate_sound_tracedTwice :
    ∃ events, readEvents asciiClasses (traceFiles asciiClasses tracedTwice) = .ok events ∧
      ∃ begin finish, FirstWindow events quietWindow begin finish ∧
        Meets quietWindow (inside events begin finish) := by
  obtain ⟨events, read, sound⟩ := gate_sound asciiClasses tracedTwice [quietWindow] printedOnce tracedReport
    (tracedTwice_analyzed _ (.inl rfl)) rfl
  exact ⟨events, read, (sound quietWindow List.mem_cons_self).2⟩

/-- Every window of a declared name meets its expectation, and its markers are lines of the transcript. -/
def EveryWindow (classes : Classes) (directory : Directory ε) (specs : List WindowSpec) (transcript : Text) : Prop :=
  ∀ report events, analyzeTrace classes directory specs transcript = .ok report → report.ok = true →
    readEvents classes (traceFiles classes directory) = .ok events → ∀ spec ∈ specs,
      (∀ phase, transcriptMarker spec.windowId phase ∈ splitlines transcript) ∧
        ∀ begin finish, Window events spec begin finish → Meets spec (inside events begin finish)

/-- Only the first window is judged, so the second one passes without a call; and the transcript is searched
for the text of a marker, so a longer line passes for it. -/
theorem second_window_unjudged :
    ¬EveryWindow asciiClasses tracedTwice [quietWindow] printedOnce ∧
      ¬EveryWindow asciiClasses tracedTwice [quietWindow] printedOther := by
  constructor
  · intro every
    obtain ⟨-, windows⟩ := every tracedReport tracedEvents (tracedTwice_analyzed _ (.inl rfl)) rfl tracedTwice_events
      quietWindow List.mem_cons_self
    have window : Window tracedEvents quietWindow (secondMarker 1 .begin "begin") (secondMarker 2 .finish "end") :=
      ⟨by decide +kernel, by decide +kernel, rfl, by decide, by decide +kernel⟩
    refine (windows _ _ window).called ?_
    decide +kernel
  · intro every
    obtain ⟨lines, -⟩ := every tracedReport tracedEvents (tracedTwice_analyzed _ (.inr rfl)) rfl tracedTwice_events
      quietWindow List.mem_cons_self
    have absent : transcriptMarker quietWindow.windowId .begin ∉ splitlines printedOther := by
      unfold printedOther
      rw [String.toList_ofList]
      decide +kernel
    exact absent (lines .begin)

end Darling.Descriptors
