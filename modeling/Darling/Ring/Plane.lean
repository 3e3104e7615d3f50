import Darling.Library.Interleavings
import Mathlib.Algebra.GroupWithZero.Nat
import Mathlib.Data.List.FinRange
import Mathlib.Logic.Function.Basic

/-! The control page that the threads of a process share with the server: the request slot of
`__dserver_plane_request_once` and the urgent slots of `__dserver_plane_urgent_publish_wait` and
`__dserver_plane_urgent_publish`. Each action is one access to the page. The calls are modelled from their claim on,
with the page mapped, ready and of the known version; bounds on time are choices. -/
namespace Darling.Ring

section Memory

-- The indices of slots and words are literals, which go through these instances in every module of the ring.
scoped instance oneSlot : NeZero 1 := inferInstance

scoped instance twoWords : NeZero 2 := inferInstance

scoped instance fourWords : NeZero 4 := inferInstance

scoped instance eightWords : NeZero 8 := inferInstance

/-- The values of `request_state`, `reply_state` and `urgent_state`. -/
inductive SlotState where
  | idle
  | pending
  | claimed
  | done
  deriving DecidableEq, Repr

structure RequestSlot where
  state : SlotState := .idle
  op : UInt32 := 0
  seq : UInt32 := 0
  tid : Int32 := 0
  payload : Fin 4 → UInt64 := fun _ => 0

structure ReplySlot where
  state : SlotState := .idle
  seq : UInt32 := 0
  status : Int32 := 0
  payload : Fin 2 → UInt64 := fun _ => 0

structure UrgentSlot where
  state : SlotState := .idle
  op : UInt32 := 0
  seq : UInt32 := 0
  tid : Int32 := 0
  payload : Fin 8 → UInt64 := fun _ => 0
  replyStatus : Int32 := 0

end Memory

section Calls

/-- The arguments of `__dserver_plane_request_once`, with the thread identity that it publishes. -/
structure Ask where
  op : UInt32
  payload : Fin 4 → UInt64
  tid : Int32

/-- A call of one of the urgent publishers; the one that does not wait writes no thread identity. -/
structure Urge where
  id : Nat
  waits : Bool
  op : UInt32
  words : List UInt64
  tid : Int32

/-- The stores of a request, in their order. -/
inductive RequestStore where
  | replyIdle
  | replyPayload (w : Fin 2)
  | op
  | seq
  | tid
  | payload (w : Fin 4)
  | publish
  deriving DecidableEq

def requestStores : List RequestStore :=
  [.replyIdle, .replyPayload 0, .replyPayload 1, .op, .seq, .tid, .payload 0, .payload 1, .payload 2,
    .payload 3, .publish]

/-- The accesses of an urgent publication behind its claim. -/
inductive UrgentStore where
  | draw
  | op
  | seq
  | tid
  | word (w : Fin 8) (value : UInt64)
  | publish
  deriving DecidableEq

def wordStores (words : List UInt64) : List UrgentStore :=
  (List.finRange 8).filterMap fun w => (words[w.val]?).map (.word w)

def Urge.stores (call : Urge) : List UrgentStore :=
  if call.waits then [.draw, .op, .seq, .tid] ++ wordStores call.words ++ [.publish]
  else [.op, .draw, .seq] ++ wordStores call.words ++ [.publish]

/-- What a request has read of its answer. -/
structure Seen where
  state : SlotState := .idle
  seq : UInt32 := 0
  status : Int32 := 0
  payload : Fin 2 → UInt64 := fun _ => 0

inductive SeenLoad where
  | state
  | seq
  | status
  | payload (w : Fin 2)
  deriving DecidableEq

def seenLoads : List SeenLoad := [.state, .seq, .status, .payload 0, .payload 1]

/-- The access that a request makes next. -/
inductive RequestPc where
  /-- The exchange of round `round` of the claim. -/
  | claim (round : Nat)
  /-- The increment of `seq` behind `plane_request_again`. -/
  | draw (attempts : Nat)
  | fill (attempts : Nat) (mine : UInt32) (rest : List RequestStore)
  | pollState (attempts : Nat) (mine : UInt32)
  | pollSeq (attempts : Nat) (mine : UInt32)
  /-- The load of `reply_state` once the spins are used up. -/
  | slow (attempts : Nat) (mine : UInt32)
  /-- The load of `reply_state` before a republication. -/
  | giveUp (attempts : Nat)
  /-- The release before a republication. -/
  | giveBack (attempts : Nat)
  | snapshot (mine : UInt32) (seen : Seen) (rest : List SeenLoad)
  /-- The load of `reply_state` before the release. -/
  | check (mine : UInt32) (seen : Seen)
  | release (mine : UInt32) (seen : Seen)

inductive UrgentPc (n : Nat) where
  /-- The exchange of a completed slot. -/
  | reap (u : Nat)
  | claim (u : Fin n)
  | fill (u : Fin n) (mine : UInt32) (rest : List UrgentStore)
  | poll (u : Fin n) (mine : UInt32)
  | pollSeq (u : Fin n) (mine : UInt32)
  | status (u : Fin n)
  | extra (u : Fin n) (status : Int32)
  | free (u : Fin n) (status : Int32) (extra : UInt64)
  | timeout (u : Fin n)

inductive PlanePc (n : Nat) where
  | out
  | request (ask : Ask) (pc : RequestPc)
  | urgent (call : Urge) (pc : UrgentPc n)

end Calls

section Server

/-- How far the server is with a request that it has taken. -/
inductive TakenStage where
  | taken
  | answered
  | finished
  deriving DecidableEq

structure Taken where
  request : RequestSlot
  stage : TakenStage := .taken

/-- A pending urgent slot that the server has taken, with the call that had published it and what is written of the
reply. -/
structure UrgentTaken where
  call : Option Nat
  status : Option Int32 := none
  extra : Option UInt64 := none

end Server

/-- What an urgent call returned. -/
structure Returned where
  call : Urge
  value : Int32
  extra : Option UInt64

/-- The page, the static counters, the threads and the server. -/
structure Plane (T : Type) (n : Nat) where
  request : RequestSlot := {}
  reply : ReplySlot := {}
  urgent : Fin n → UrgentSlot := fun _ => {}
  seq : UInt32 := 0
  urgentSeqW : UInt32 := 0
  urgentSeq : UInt32 := 0
  pc : T → PlanePc n := fun _ => .out
  taken : List Taken := []
  urgentTaken : Fin n → Option UrgentTaken := fun _ => none
  /-- The requests that were given a sequence number, and the urgent calls of each slot. -/
  asked : List (Ask × UInt32) := []
  urged : Fin n → List (Urge × UInt32) := fun _ => []
  /-- The number of urgent calls so far, and the call whose publication each slot has. -/
  calls : Nat := 0
  published : Fin n → Option Nat := fun _ => none
  /-- What the server wrote for each urgent call, and what the calls returned. -/
  answers : List (Nat × Int32 × UInt64) := []
  returned : List Returned := []
  replies : List (T × Int32 × (Fin 2 → UInt64)) := []

namespace Plane

variable {T : Type} {n : Nat} [DecidableEq T]

def goto (s : Plane T n) (t : T) (pc : PlanePc n) : Plane T n := { s with pc := Function.update s.pc t pc }

def setRequest (s : Plane T n) (slot : RequestSlot) : Plane T n := { s with request := slot }

def setReply (s : Plane T n) (slot : ReplySlot) : Plane T n := { s with reply := slot }

def setUrgent (s : Plane T n) (u : Fin n) (slot : UrgentSlot) : Plane T n :=
  { s with urgent := Function.update s.urgent u slot }

/-- `DSERVER_PROCESS_CONTROL_RELEASE`. -/
def releaseRequest (s : Plane T n) : Plane T n := s.setRequest { s.request with state := .idle }

section Requests

def store (s : Plane T n) (ask : Ask) (mine : UInt32) : RequestStore → Plane T n
  | .replyIdle => s.setReply { s.reply with state := .idle }
  | .replyPayload w => s.setReply { s.reply with payload := Function.update s.reply.payload w 0 }
  | .op => s.setRequest { s.request with op := ask.op }
  | .seq => s.setRequest { s.request with seq := mine }
  | .tid => s.setRequest { s.request with tid := ask.tid }
  | .payload w => s.setRequest { s.request with payload := Function.update s.request.payload w (ask.payload w) }
  | .publish => s.setRequest { s.request with state := .pending }

def load (s : Plane T n) (seen : Seen) : SeenLoad → Seen
  | .state => { seen with state := s.reply.state }
  | .seq => { seen with seq := s.reply.seq }
  | .status => { seen with status := s.reply.status }
  | .payload w => { seen with payload := Function.update seen.payload w (s.reply.payload w) }

/-- The state that a round of the claim exchanges for PENDING. -/
def expected (round : Nat) : SlotState := if round % 2 = 0 then .idle else .done

/-- The end of a call: its result is that of the server if the answer is its own. -/
def leave (s : Plane T n) (t : T) (mine : UInt32) (seen : Seen) : Plane T n :=
  let result : Int32 × (Fin 2 → UInt64) :=
    if seen.state ≠ .done ∨ seen.seq ≠ mine then (-1, fun _ => 0) else (seen.status, seen.payload)
  { s with replies := s.replies ++ [(t, result)] }.goto t .out

/-- One access of a request; `choice` says whether its patience is at an end. -/
def advanceRequest (s : Plane T n) (t : T) (choice : Bool) (ask : Ask) : RequestPc → Plane T n
  | .claim round =>
    if s.request.state = expected round then
      (s.setRequest { s.request with state := .pending }).goto t (.request ask (.draw 0))
    else if round + 1 < 2000 then s.goto t (.request ask (.claim (round + 1)))
    else { s with replies := s.replies ++ [(t, -1, fun _ => 0)] }.goto t .out
  | .draw attempts =>
    let mine := s.seq + 1
    { s with seq := mine, asked := s.asked ++ [(ask, mine)] }.goto t
      (.request ask (.fill (attempts + 1) mine requestStores))
  | .fill attempts mine [] => s.goto t (.request ask (.pollState attempts mine))
  | .fill attempts mine (next :: rest) => (s.store ask mine next).goto t (.request ask (.fill attempts mine rest))
  | .pollState attempts mine =>
    if s.reply.state = .done then s.goto t (.request ask (.pollSeq attempts mine))
    else if choice then s.goto t (.request ask (.slow attempts mine))
    else s
  | .pollSeq attempts mine =>
    if s.reply.seq = mine then s.goto t (.request ask (.snapshot mine {} seenLoads))
    else if choice then s.goto t (.request ask (.slow attempts mine))
    else s.goto t (.request ask (.pollState attempts mine))
  | .slow attempts mine =>
    if s.reply.state = .done then s.goto t (.request ask (.snapshot mine {} seenLoads))
    else if choice ∧ attempts < 3 then s.goto t (.request ask (.giveUp attempts))
    else s.goto t (.request ask (.pollState attempts mine))
  | .giveUp attempts =>
    if s.reply.state = .claimed then s.goto t (.request ask (.draw attempts))
    else s.goto t (.request ask (.giveBack attempts))
  | .giveBack attempts => s.releaseRequest.goto t (.request ask (.draw attempts))
  | .snapshot mine seen [] => s.goto t (.request ask (.check mine seen))
  | .snapshot mine seen (next :: rest) => s.goto t (.request ask (.snapshot mine (s.load seen next) rest))
  | .check mine seen =>
    if s.reply.state = .claimed then s.leave t mine seen else s.goto t (.request ask (.release mine seen))
  | .release mine seen => s.releaseRequest.leave t mine seen

end Requests

section Urgents

/-- The two publishers count apart, each in its own static variable. -/
def drawUrgent (s : Plane T n) (u : Fin n) (call : Urge) : UInt32 × Plane T n :=
  let mine := if call.waits then s.urgentSeqW + 1 else s.urgentSeq + 1
  let s := if call.waits then { s with urgentSeqW := mine } else { s with urgentSeq := mine }
  (mine, { s with urged := Function.update s.urged u (s.urged u ++ [(call, mine)]) })

def storeUrgent (s : Plane T n) (u : Fin n) (call : Urge) (mine : UInt32) : UrgentStore → Plane T n
  | .draw => (s.drawUrgent u call).2
  | .op => s.setUrgent u { s.urgent u with op := call.op }
  | .seq => s.setUrgent u { s.urgent u with seq := mine }
  | .tid => s.setUrgent u { s.urgent u with tid := call.tid }
  | .word w value => s.setUrgent u { s.urgent u with payload := Function.update (s.urgent u).payload w value }
  | .publish =>
    { s.setUrgent u { s.urgent u with state := .pending } with published := Function.update s.published u (some
      call.id) }

/-- The exchange of DONE for IDLE. -/
def reapUrgent (s : Plane T n) (u : Fin n) : Plane T n :=
  if (s.urgent u).state = .done then s.setUrgent u { s.urgent u with state := .idle } else s

def returnUrgent (s : Plane T n) (t : T) (call : Urge) (value : Int32) (extra : Option UInt64) : Plane T n :=
  { s with returned := s.returned ++ [Returned.mk call value extra] }.goto t .out

/-- One access of an urgent call; `choice` says whether its spins are used up. -/
def advanceUrgent (s : Plane T n) (t : T) (choice : Bool) (call : Urge) : UrgentPc n → Plane T n
  | .reap u =>
    if bound : u < n then (s.reapUrgent ⟨u, bound⟩).goto t (.urgent call (.claim ⟨u, bound⟩))
    else s.returnUrgent t call (-1) none
  | .claim u =>
    if (s.urgent u).state = .idle then
      { s.setUrgent u { s.urgent u with state := .pending } with published := Function.update s.published u none }.goto
      t
        (.urgent call (.fill u 0 call.stores))
    else s.goto t (.urgent call (.reap (u + 1)))
  | .fill u mine [] =>
    if call.waits then s.goto t (.urgent call (.poll u mine)) else s.returnUrgent t call 0 none
  | .fill u mine (next :: rest) =>
    let mine := if next = .draw then (s.drawUrgent u call).1 else mine
    (s.storeUrgent u call mine next).goto t (.urgent call (.fill u mine rest))
  | .poll u mine =>
    if (s.urgent u).state = .done then s.goto t (.urgent call (.pollSeq u mine))
    else if choice then s.goto t (.urgent call (.timeout u))
    else s
  | .pollSeq u mine =>
    if (s.urgent u).seq = mine then s.goto t (.urgent call (.status u))
    else if choice then s.goto t (.urgent call (.timeout u))
    else s.goto t (.urgent call (.poll u mine))
  | .status u => s.goto t (.urgent call (.extra u (s.urgent u).replyStatus))
  | .extra u status => s.goto t (.urgent call (.free u status ((s.urgent u).payload 6)))
  | .free u status extra =>
    (s.setUrgent u { s.urgent u with state := .idle }).returnUrgent t call status (some extra)
  | .timeout u => (s.setUrgent u { s.urgent u with state := .idle }).returnUrgent t call (-2) none

end Urgents

/-- One access of a thread in its call. -/
def advance (s : Plane T n) (t : T) (choice : Bool) : Option (Plane T n) :=
  match s.pc t with
  | .out => none
  | .request ask pc => some (s.advanceRequest t choice ask pc)
  | .urgent call pc => some (s.advanceUrgent t choice call pc)

end Plane

section Steps

/-- What the server does: it takes a pending slot, may mark it, writes the reply and stores DONE. -/
inductive ServerAction (n : Nat) where
  | take
  | markRequest
  | markReply
  | answer (i : Nat) (status : Int32) (payload : Fin 2 → UInt64)
  | finish (i : Nat)
  | close (i : Nat)
  | takeUrgent (u : Fin n)
  | urgentStatus (u : Fin n) (status : Int32)
  | urgentExtra (u : Fin n) (extra : UInt64)
  | finishUrgent (u : Fin n)

inductive PlaneAction (T : Type) (n : Nat) where
  | request (t : T) (ask : Ask)
  | urgentPublishWait (t : T) (op : UInt32) (words : List UInt64) (tid : Int32)
  | urgentPublish (t : T) (op : UInt32) (p0 p1 p2 p3 : UInt64)
  | advance (t : T) (choice : Bool)
  | serve (action : ServerAction n)

namespace Plane

variable {T : Type} {n : Nat} [DecidableEq T]

/-- A thread outside of the functions calls one. -/
def enter (s : Plane T n) (t : T) (pc : PlanePc n) : Option (Plane T n) :=
  match s.pc t with
  | .out => some (s.goto t pc)
  | _ => none

omit [DecidableEq T] in
/-- The answer to a request carries the sequence that was taken with it. -/
def serve (s : Plane T n) : ServerAction n → Option (Plane T n)
  | .take =>
    if s.request.state = .pending then some { s with taken := s.taken ++ [{ request := s.request }] } else none
  | .markRequest => if s.taken = [] then none else some (s.setRequest { s.request with state := .claimed })
  | .markReply => if s.taken = [] then none else some (s.setReply { s.reply with state := .claimed })
  | .answer i status payload =>
    match s.taken[i]? with
    | some ⟨request, .taken⟩ =>
      some { s.setReply { s.reply with seq := request.seq, status := status, payload := payload } with
        taken := s.taken.set i ⟨request, .answered⟩ }
    | _ => none
  | .finish i =>
    match s.taken[i]? with
    | some ⟨request, .answered⟩ =>
      some { s.setReply { s.reply with state := .done } with taken := s.taken.set i ⟨request, .finished⟩ }
    | _ => none
  | .close i =>
    match s.taken[i]? with
    | some ⟨_, .finished⟩ => some { s.setRequest { s.request with state := .done } with taken := s.taken.eraseIdx i }
    | _ => none
  | .takeUrgent u =>
    if (s.urgent u).state = .pending ∧ (s.urgentTaken u).isNone then
      some { s with urgentTaken := Function.update s.urgentTaken u (some { call := s.published u }) }
    else none
  | .urgentStatus u status =>
    match s.urgentTaken u with
    | some ⟨call, none, extra⟩ =>
      some { s.setUrgent u { s.urgent u with replyStatus := status } with
        urgentTaken := Function.update s.urgentTaken u (some ⟨call, some status, extra⟩) }
    | _ => none
  | .urgentExtra u extra =>
    match s.urgentTaken u with
    | some ⟨call, status, none⟩ =>
      some { s.setUrgent u { s.urgent u with payload := Function.update (s.urgent u).payload 6 extra } with
        urgentTaken := Function.update s.urgentTaken u (some ⟨call, status, some extra⟩) }
    | _ => none
  | .finishUrgent u =>
    match s.urgentTaken u with
    | some ⟨call, some status, some extra⟩ =>
      some { s.setUrgent u { s.urgent u with state := .done } with
        urgentTaken := Function.update s.urgentTaken u none
        answers := s.answers ++ (call.toList.map fun id => (id, status, extra)) }
    | _ => none

def step (s : Plane T n) : PlaneAction T n → Option (Plane T n)
  | .request t ask => s.enter t (.request ask (.claim 0))
  | .urgentPublishWait t op words tid =>
    { s with calls := s.calls + 1 }.enter t (.urgent ⟨s.calls, true, op, words, tid⟩ (.reap 0))
  | .urgentPublish t op p0 p1 p2 p3 =>
    { s with calls := s.calls + 1 }.enter t (.urgent ⟨s.calls, false, op, [p0, p1, p2, p3], 0⟩ (.reap 0))
  | .advance t choice => s.advance t choice
  | .serve action => s.serve action

theorem goto_self {s : Plane T n} {t : T} (pc : PlanePc n) : (s.goto t pc).pc t = pc := Function.update_self ..

theorem goto_other {s : Plane T n} {t : T} (pc : PlanePc n) (u : T) (other : u ≠ t) : (s.goto t pc).pc u = s.pc u :=
  Function.update_of_ne other ..

end Plane

end Steps

end Darling.Ring
