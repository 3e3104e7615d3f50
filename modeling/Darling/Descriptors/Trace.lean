import Darling.Library.Texts
import Mathlib.Data.Char
import Mathlib.Data.List.Infix
import Mathlib.Data.List.Lex
import Mathlib.Data.List.Sort

/-! `test_descriptor_transport.py`: the trace files of a capture, their events, and the verdict on the
declared windows. -/
namespace Darling.Descriptors

export Texts (Text)

/-- The character classes of the interpreter's Unicode tables: decimal digits, whitespace and word
characters. -/
structure Classes where
  decimal : Char → Bool
  space : Char → Bool
  word : Char → Bool
  disjoint : ∀ c, decimal c = true → space c = false

inductive Phase where
  | begin | finish
  deriving DecidableEq, Repr

/-- `BEGIN` and `END`, as the fixture prints them. -/
def Phase.text : Phase → Text
  | .begin => "BEGIN".toList
  | .finish => "END".toList

inductive Direction where
  | call | reply
  deriving DecidableEq, Repr

inductive Expectation where
  | none | atLeastOne
  deriving DecidableEq, Repr

structure WindowSpec where
  windowId : Text
  expect : Expectation
  deriving DecidableEq, Repr

structure TraceEvent where
  path : Text
  lineNumber : Nat
  syscall : Text
  direction : Option Direction
  descriptor : Bool
  marker : Option (Text × Phase)
  text : Text
  deriving DecidableEq, Repr

/-- What `read_text` gives for each file of the directory. -/
structure Directory (ε : Type) where
  files : List (Text × Except ε Text)
  distinct : (files.map (·.1)).Nodup

def markerTokenPrefix : Text := "darling-descriptor-window".toList
def descriptorAncillary : Text := "SCM_RIGHTS".toList
def messageSyscalls : List Text := ["sendmsg".toList, "recvmsg".toList, "sendmmsg".toList, "recvmmsg".toList]
def markerSyscalls : List Text := ["readlink".toList, "readlinkat".toList]

def transcriptMarker (windowId : Text) (phase : Phase) : Text :=
  "DSERVER_DESCRIPTOR_WINDOW ".toList ++ phase.text ++ ' ' :: windowId

/-! The regular expressions. -/

def literal (expected text : Text) : Option Text :=
  if expected.isPrefixOf text then some (text.drop expected.length) else none

def many (accepts : Char → Bool) (text : Text) : Option (Text × Text) :=
  match text.takeWhile accepts with
  | [] => none
  | found => some (found, text.dropWhile accepts)

/-- `str.splitlines`. -/
def splitlines (text : Text) : List Text := (Texts.splitlines text).map Prod.fst

section Parsing

variable (classes : Classes)

def rstrip (line : Text) : Text := (line.reverse.dropWhile classes.space).reverse

def twoDigits : Text → Option Text
  | a :: b :: rest => if classes.decimal a && classes.decimal b then some rest else none
  | _ => none

/-- What follows a timestamp. Digits and whitespace are disjoint, so the pattern never backtracks. -/
def afterTimestamp (line : Text) : Option Text := do
  let rest ← twoDigits classes line
  let rest ← literal [':'] rest
  let rest ← twoDigits classes rest
  let rest ← literal [':'] rest
  let rest ← twoDigits classes rest
  let rest ← literal ['.'] rest
  let (_, rest) ← many classes.decimal rest
  let (_, rest) ← many classes.space rest
  return rest

def isNameStart (c : Char) : Bool := ('a' ≤ c && c ≤ 'z') || c = '_'

def isNameChar (c : Char) : Bool := isNameStart c || ('0' ≤ c && c ≤ '9')

def syscallName (text : Text) : Option (Text × Text) := do
  let (found, rest) ← many isNameChar text
  if found.head?.any isNameStart then return (found, rest) else none

def resumedName (text : Text) : Option Text := do
  let rest ← literal "<... ".toList text
  let (found, rest) ← syscallName rest
  let _ ← literal " resumed>".toList rest
  return found

def syscallOf (text : Text) : Option Text :=
  match syscallName text with
  | some (found, '(' :: _) => some found
  | _ => resumedName text

def isIdChar (c : Char) : Bool :=
  ('A' ≤ c && c ≤ 'Z') || ('a' ≤ c && c ≤ 'z') || ('0' ≤ c && c ≤ '9') || c = '_' || c = '.' || c = '-'

/-- A phase ends in a word character, so a boundary follows it unless another word character does. -/
def boundary (rest : Text) : Bool := !rest.head?.any classes.word

def phaseAt (text : Text) : Option Phase :=
  if (literal "-begin".toList text).any (boundary classes) then some .begin
  else if (literal "-end".toList text).any (boundary classes) then some .finish
  else none

/-- The identifier is greedy: its longest form that a phase follows. -/
def tokenAt (text : Text) : Option (Text × Phase) := do
  let rest ← literal (markerTokenPrefix ++ ['-']) text
  (List.range (rest.takeWhile isIdChar).length).reverse.findSome? fun before =>
    (phaseAt classes (rest.drop (before + 1))).map (rest.take (before + 1), ·)

def tokenSearch : Text → Option (Text × Phase)
  | [] => none
  | c :: rest => (tokenAt classes (c :: rest)).or (tokenSearch rest)

def traceEvent (path : Text) (lineNumber : Nat) (raw : Text) : Option TraceEvent := do
  let line := rstrip classes raw
  let text := (afterTimestamp classes line).getD line
  let syscall ← syscallOf text
  let descriptor := decide (descriptorAncillary <:+: text)
  if syscall ∈ markerSyscalls then
    return ⟨path, lineNumber, syscall, none, descriptor, tokenSearch classes text, text⟩
  else if syscall ∈ messageSyscalls then
    let direction := if "send".toList.isPrefixOf syscall then .call else .reply
    return ⟨path, lineNumber, syscall, some direction, descriptor, none, text⟩
  else none

def parseLines (path : Text) (lineNumber : Nat) : List Text → List TraceEvent
  | [] => []
  | raw :: rest =>
    (traceEvent classes path lineNumber raw).toList ++ parseLines path (lineNumber + 1) rest

def parseTraceEvents (path content : Text) : List TraceEvent := parseLines classes path 1 (splitlines content)

def isTraceFile (name : Text) : Bool :=
  match literal "trace.".toList name >>= many classes.decimal with
  | some (_, rest) => rest = [] || rest = ['\n']
  | none => false

/-- The names in the order of their characters. -/
def traceFiles {ε : Type} (directory : Directory ε) : List (Text × Except ε Text) :=
  (directory.files.filter fun file => isTraceFile classes file.1).insertionSort fun a b => a.1 ≤ b.1

def readEvents {ε : Type} : List (Text × Except ε Text) → Except ε (List TraceEvent)
  | [] => return []
  | (path, content) :: rest => do
    let content ← content
    return parseTraceEvents classes path content ++ (← readEvents rest)

end Parsing

def marked (events : List TraceEvent) (spec : WindowSpec) (phase : Phase) : List TraceEvent :=
  events.filter fun event => event.marker = some (spec.windowId, phase)

def firstEnd (ends : List TraceEvent) (begin : TraceEvent) : Option TraceEvent :=
  ends.find? fun finish => finish.path = begin.path ∧ begin.lineNumber < finish.lineNumber

/-- The first begin marker with an end marker behind it in its file, and that end marker. -/
def findWindow (events : List TraceEvent) (spec : WindowSpec) : Option (TraceEvent × TraceEvent) :=
  (marked events spec .begin).findSome? fun begin =>
    (firstEnd (marked events spec .finish) begin).map (begin, ·)

/-- A marker path that was cut short still names the prefix of the token. -/
def truncated (events : List TraceEvent) : Bool :=
  events.any fun event => event.direction = none ∧ event.marker = none ∧ markerTokenPrefix <:+: event.text

def inside (events : List TraceEvent) (begin finish : TraceEvent) : List TraceEvent :=
  events.filter fun event => event.path = begin.path ∧ begin.lineNumber < event.lineNumber ∧
    event.lineNumber < finish.lineNumber ∧ event.direction ≠ none

inductive Failure where
  | noTranscriptMarker (phase : Phase) (marker : Text)
  | truncatedPath
  | missingMarkers
  | noCall
  | unexpectedDescriptors (count : Nat)
  | noDescriptor
  deriving DecidableEq, Repr

structure WindowResult where
  windowId : Text
  expect : Expectation
  traceFile : Option Text
  callMessages : Nat
  descriptorMessages : Nat
  descriptorLines : List (Text × Nat × Text)
  failures : List Failure
  deriving DecidableEq, Repr

structure Report where
  results : List WindowResult
  deriving DecidableEq, Repr

def Report.failures (report : Report) : List Failure := report.results.flatMap (·.failures)

def Report.ok (report : Report) : Bool := report.failures.isEmpty

def transcriptFailures (spec : WindowSpec) (transcript : Text) : List Failure :=
  [Phase.begin, .finish].flatMap fun phase =>
    if transcriptMarker spec.windowId phase <:+: transcript then []
    else [.noTranscriptMarker phase (transcriptMarker spec.windowId phase)]

def absentFailures (events : List TraceEvent) (failures : List Failure) : List Failure :=
  if truncated events then failures ++ [.truncatedPath]
  else if failures = [] then [.missingMarkers]
  else failures

def calls (events : List TraceEvent) : List TraceEvent := events.filter fun event => event.direction = some .call

def described (events : List TraceEvent) : List TraceEvent := events.filter fun event => event.descriptor

def windowFailures (spec : WindowSpec) (messages : List TraceEvent) : List Failure :=
  (if calls messages = [] then [.noCall] else []) ++
    (if spec.expect = .none ∧ described messages ≠ [] then [.unexpectedDescriptors (described messages).length]
    else if spec.expect = .atLeastOne ∧ described messages = [] then [.noDescriptor]
    else [])

def analyzeWindow (events : List TraceEvent) (transcript : Text) (spec : WindowSpec) : WindowResult :=
  let failures := transcriptFailures spec transcript
  match findWindow events spec with
  | none => ⟨spec.windowId, spec.expect, none, 0, 0, [], absentFailures events failures⟩
  | some (begin, finish) =>
    let messages := inside events begin finish
    ⟨spec.windowId, spec.expect, some begin.path, (calls messages).length, (described messages).length,
      (described messages).map fun event => (event.syscall, event.lineNumber, event.text),
      failures ++ windowFailures spec messages⟩

def analyzeTrace {ε : Type} (classes : Classes) (directory : Directory ε) (specs : List WindowSpec)
    (transcript : Text) : Except ε Report := do
  let events ← readEvents classes (traceFiles classes directory)
  return ⟨specs.map (analyzeWindow events transcript)⟩

end Darling.Descriptors
