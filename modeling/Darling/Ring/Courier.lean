import Mathlib.Data.List.Nodup
import Mathlib.Data.List.Perm.Subperm

/-! The descriptor courier of a process: what the server hands over with a token, the registry in which it waits,
and the receive that asks for it. The calls of a process come one after the other; the kernel chooses what arrives
during a call and which reads and writes fail. The size of an envelope and the kinds that a build knows are a
parameter. A connection that is closed takes with it what was queued on it. -/
namespace Darling.Ring

/-- What the headers of a build say about `struct dserver_fd_courier_message`. -/
structure Protocol where
  envelopeSize : Nat
  known : UInt32 → Bool
  positive : 0 < envelopeSize

/-- What the kernel delivers in one read: the length of the message, what its first bytes hold, and the descriptors
that it has installed for it. -/
structure Message where
  length : Nat
  processGeneration : UInt64
  token : UInt64
  kind : UInt32
  rights : List Nat
  deriving DecidableEq, Repr

/-- The descriptors that came with a message. -/
def Message.descriptors (m : Message) : List Int := m.rights.map Int.ofNat

/-- The descriptors of a message that nothing looks at: all but the first, and all of an empty message, which reads
as the end of the connection. -/
def Message.orphans (m : Message) : List Int := if m.length = 0 then m.descriptors else m.descriptors.tail

/-- What a read puts into the registry if there is room: a whole envelope of a known kind and of this incarnation,
with a token and a descriptor. -/
def Message.acceptable (protocol : Protocol) (generation : UInt64) (m : Message) : Bool :=
  protocol.envelopeSize ≤ m.length && protocol.known m.kind && (generation == 0 || m.processGeneration == generation) &&
    m.token != 0 && !m.rights.isEmpty

/-- A whole envelope without a descriptor. -/
def Message.bare (protocol : Protocol) (m : Message) : Bool := protocol.envelopeSize ≤ m.length && m.rights.isEmpty

/-- The token and the descriptor that a message offers to the registry. -/
def Message.offer (protocol : Protocol) (m : Message) : Option (UInt64 × Int) :=
  if protocol.envelopeSize ≤ m.length ∧ protocol.known m.kind = true ∧ m.token ≠ 0 then
    m.descriptors.head?.map fun fd => (m.token, fd)
  else none

/-- What one `sendmsg` of `gr_fd_courier_send_envelope` hands to the kernel. -/
structure Envelope where
  processGeneration : UInt64
  token : UInt64
  kind : UInt32
  fd : Int
  deriving DecidableEq, Repr

/-- What a send hands to the kernel: one envelope in the product, and what the server has to refuse where
`DARLING_GUEST_COURIER_MUTATE` is set, by its first character. -/
def envelopes (mutation : Option Char) (plain : Envelope) : List Envelope :=
  match mutation with
  | none => [plain]
  | some 'd' => [plain, plain]
  | some 'k' => [{ plain with kind := 0xFFFF }]
  | some 's' =>
    [plain, { plain with token := plain.token + 0x1000000, processGeneration := plain.processGeneration + 1 }]
  | some 'o' => [plain, { plain with token := plain.token + 0x2000000 }]
  | some _ => []

structure PendingEntry where
  token : UInt64 := 0
  fd : Int := 0
  deriving DecidableEq, Repr

def pendingMax : Nat := 64

/-- The static state of the courier, with the first character of the mode it runs in, and, as a record of what the
process has done, the messages it took off the connection, the descriptors it closed, the ones it returned and the
envelopes it sent. The counters that only the dump at the exit reads are left out. -/
structure Courier where
  pid : UInt32
  mutation : Option Char := none
  pending : List PendingEntry := List.replicate pendingMax {}
  generation : UInt64 := 0
  nextToken : UInt64 := 0
  received : UInt64 := 0
  misses : UInt64 := 0
  dropped : UInt64 := 0
  kindRejects : UInt64 := 0
  staleRejects : UInt64 := 0
  socket : List Message := []
  consumed : List Message := []
  closed : List Int := []
  returned : List (UInt64 × Int) := []
  sent : List Envelope := []
  deriving DecidableEq, Repr

namespace Courier

section Registry

def close (c : Courier) (fd : Int) : Courier := { c with closed := c.closed ++ [fd] }

def drop (c : Courier) (fd : Int) : Courier := { c.close fd with dropped := c.dropped + 1 }

/-- The loop of `gr_fd_courier_store`: no answer where the token is there, otherwise the first free slot, if there
is one. -/
def scan (token : UInt64) : List PendingEntry → Nat → Option Nat → Option (Option Nat)
  | [], _, free => some free
  | entry :: rest, i, free =>
    if entry.token ≠ 0 ∧ entry.token = token then none
    else scan token rest (i + 1) (if free = none ∧ entry.token = 0 then some i else free)

/-- `gr_fd_courier_store`. -/
def store (c : Courier) (token : UInt64) (fd : Int) : Courier :=
  if token = 0 ∨ fd < 0 then
    if 0 ≤ fd then c.drop fd else c
  else
    match scan token c.pending 0 none with
    | some (some i) => { c with pending := c.pending.set i ⟨token, fd⟩, received := c.received + 1 }
    | _ => c.drop fd

/-- The loop of `gr_fd_courier_lookup`. -/
def take (token : UInt64) : List PendingEntry → Option (Int × List PendingEntry)
  | [] => none
  | entry :: rest =>
    if entry.token ≠ 0 ∧ entry.token = token then some (entry.fd, ⟨0, -1⟩ :: rest)
    else (take token rest).map fun found => (found.1, entry :: found.2)

/-- `gr_fd_courier_lookup`. -/
def lookup (c : Courier) (token : UInt64) : Courier × Int :=
  match take token c.pending with
  | some (fd, pending) => ({ c with pending }, fd)
  | none => (c, -1)

end Registry

section Calls

variable (protocol : Protocol)

/-- What `gr_fd_courier_recv_once` does with a message that was read. -/
def judge (c : Courier) (m : Message) : Courier × Int :=
  if m.length = 0 then (c, -1)
  else if m.length < protocol.envelopeSize then
    match m.rights with
    | fd :: _ => (c.drop fd, 1)
    | [] => (c, 1)
  else
    match m.rights with
    | [] => ({ c with dropped := c.dropped + 1 }, 1)
    | fd :: _ =>
      if protocol.known m.kind = false then ({ c.close fd with kindRejects := c.kindRejects + 1 }, 1)
      else if c.generation ≠ 0 ∧ m.processGeneration ≠ c.generation then
        ({ c.close fd with staleRejects := c.staleRejects + 1 }, 1)
      else (c.store m.token fd, 1)

/-- `gr_fd_courier_recv_once`. -/
def recvOnce (c : Courier) : Courier × Int :=
  match c.socket with
  | [] => (c, 0)
  | m :: rest => judge protocol { c with socket := rest, consumed := c.consumed ++ [m] } m

/-- The loop that drains what is queued. The kernel lets at most `reads` of its reads succeed. -/
def drain : Nat → Courier → Courier
  | 0, c => c
  | reads + 1, c =>
    match recvOnce protocol c with
    | (c, result) => if result = 1 then drain reads c else c

def give (c : Courier) (token : UInt64) (fd : Int) : Courier × Int :=
  ({ c with returned := c.returned ++ [(token, fd)] }, fd)

def miss (c : Courier) : Courier × Int := ({ c with misses := c.misses + 1 }, -1)

/-- The lookup at the end of a receive, with what follows where it finds nothing. -/
def answer (c : Courier) (token : UInt64) (otherwise : Courier → Courier × Int) : Courier × Int :=
  match c.lookup token with
  | (c, fd) => if 0 ≤ fd then c.give token fd else otherwise c

/-- What follows the last read of a receive. -/
def settle (token : UInt64) (read : Courier × Int) : Courier × Int :=
  if read.2 = 1 then read.1.answer token miss else read.1.miss

/-- `__dserver_fd_courier_receive`: `arrived` is what the server sends until the drain ends, `late` what it sends
until the last read ends, which may fail. -/
def receive (c : Courier) (token : UInt64) (connected : Bool) (arrived : List Message) (reads : Nat)
    (late : List Message)
    (answered : Bool) : Courier × Int :=
  if token = 0 then (c, -1)
  else if connected = false then c.miss
  else
    (drain protocol reads { c with socket := c.socket ++ arrived }).answer token fun c =>
      let c := { c with socket := c.socket ++ late }
      settle token (if answered then recvOnce protocol c else (c, 0))

/-- `__dserver_fd_courier_send`: `delivered` says which writes the kernel takes. In the product a token comes back
only where the envelope went out, and the connection is closed where it did not. -/
def send (c : Courier) (fd socket : Int) (kind : UInt32) (processGeneration : UInt64) (delivered : List Bool) :
    Courier × UInt64 :=
  if fd < 0 ∨ socket < 0 then (c, 0)
  else
    let generation :=
      if c.generation = 0 then if processGeneration = 0 then 1 else processGeneration else c.generation
    let nextToken := c.nextToken + 1
    let token := (generation * 0x9E3779B97F4A7C15) ^^^ (c.pid.toUInt64 * 0xC2B2AE3D27D4EB4F) ^^^ nextToken
    let out := ((envelopes c.mutation ⟨generation, token, kind, fd⟩).zip delivered).filter Prod.snd
    let c := { c with generation, nextToken, sent := c.sent ++ out.map Prod.fst }
    if c.mutation = none ∧ out = [] then ({ c with socket := [] }, 0) else (c, token)

/-- `__dserver_fd_courier_postfork_reset` in the child, which opens a connection of its own. -/
def postforkReset (c : Courier) (pid : UInt32) : Courier := { c with pid, generation := 0, socket := [] }

end Calls

inductive Action where
  | receive (token : UInt64) (connected : Bool) (arrived : List Message) (reads : Nat) (late : List Message)
      (answered : Bool)
  | send (fd socket : Int) (kind : UInt32) (processGeneration : UInt64) (delivered : List Bool)
  | postforkReset (pid : UInt32)
  deriving DecidableEq, Repr

def step (protocol : Protocol) (c : Courier) : Action → Courier
  | .receive token connected arrived reads late answered =>
      (c.receive protocol token connected arrived reads late answered).1
  | .send fd socket kind processGeneration delivered => (c.send fd socket kind processGeneration delivered).1
  | .postforkReset pid => c.postforkReset pid

def run (protocol : Protocol) (c : Courier) (actions : List Action) : Courier := actions.foldl (step protocol) c

section Held

/-- What waits in the registry: a slot is free where its token is zero. -/
def heldIn (pending : List PendingEntry) : List (UInt64 × Int) :=
  (pending.filter fun entry => entry.token ≠ 0).map fun entry => (entry.token, entry.fd)

def held (c : Courier) : List (UInt64 × Int) := heldIn c.pending

variable {token : UInt64} {fd : Int} {entry : PendingEntry} {pending rest : List PendingEntry}

theorem heldIn_free (free : entry.token = 0) : heldIn (entry :: rest) = heldIn rest := by
  simp [heldIn, free]

theorem heldIn_taken (taken : entry.token ≠ 0) : heldIn (entry :: rest) = (entry.token, entry.fd) :: heldIn rest := by
  simp [heldIn, taken]

/-- A free slot that is filled adds one pair. -/
theorem heldIn_set (nonzero : token ≠ 0) (i : Nat) (free : pending[i]?.map PendingEntry.token = some 0) :
    (heldIn (pending.set i ⟨token, fd⟩)).Perm ((token, fd) :: heldIn pending) := by
  induction pending generalizing i with
  | nil => simp at free
  | cons entry rest ih =>
    cases i with
    | zero =>
      simp only [List.getElem?_cons_zero, Option.map_some, Option.some.injEq] at free
      rw [List.set_cons_zero, heldIn_taken nonzero, heldIn_free free]
    | succ i =>
      rw [List.set_cons_succ]
      have later := ih i (by simpa using free)
      by_cases taken : entry.token = 0
      · rwa [heldIn_free taken, heldIn_free taken]
      · rw [heldIn_taken taken, heldIn_taken taken]
        exact (later.cons _).trans (List.Perm.swap _ _ _)

/-- The slot that a scan finds is free, and the token is nowhere. -/
theorem scan_found {i : Nat} {free : Option Nat} {found : Nat}
    (scanned : scan token pending i free = some (some found)) :
    (∀ entry ∈ pending, entry.token ≠ 0 → entry.token ≠ token) ∧
      (free = some found ∨ ∃ k, found = i + k ∧ pending[k]?.map PendingEntry.token = some 0) := by
  induction pending generalizing i free with
  | nil =>
    simp only [scan, Option.some.injEq] at scanned
    exact ⟨by simp, .inl scanned⟩
  | cons entry rest ih =>
    rw [scan] at scanned
    split at scanned
    · cases scanned
    next other =>
      obtain ⟨apart, place⟩ := ih scanned
      refine ⟨List.forall_mem_cons.mpr ⟨fun taken same => other ⟨taken, same⟩, apart⟩, ?_⟩
      rcases place with place | ⟨k, rfl, vacant⟩
      · split at place
        next first =>
          obtain rfl : i = found := by simpa using place
          exact .inr ⟨0, rfl, by simp [first.2]⟩
        next => exact .inl place
      · exact .inr ⟨k + 1, by omega, by simpa using vacant⟩

/-- What a lookup takes out of the registry. -/
theorem take_found {left : List PendingEntry} (found : take token pending = some (fd, left)) :
    left.length = pending.length ∧ (heldIn pending).Perm ((token, fd) :: heldIn left) := by
  induction pending generalizing left with
  | nil => cases found
  | cons entry rest ih =>
    rw [take] at found
    split at found
    next here =>
      obtain ⟨rfl, rfl⟩ : entry.fd = fd ∧ ⟨0, -1⟩ :: rest = left := by simpa using found
      rw [heldIn_taken here.1, heldIn_free rfl, here.2]
      exact ⟨by simp, .refl _⟩
    next =>
      obtain ⟨⟨found', left'⟩, inner, same⟩ := Option.map_eq_some_iff.mp found
      obtain ⟨rfl, rfl⟩ : found' = fd ∧ entry :: left' = left := by simpa using same
      obtain ⟨length, pairs⟩ := ih inner
      refine ⟨by simp [length], ?_⟩
      by_cases taken : entry.token = 0
      · rwa [heldIn_free taken, heldIn_free taken]
      · rw [heldIn_taken taken, heldIn_taken taken]
        exact (pairs.cons _).trans (List.Perm.swap _ _ _)

end Held

section Books

variable {protocol : Protocol} {c : Courier}

/-- Every descriptor of a message that was taken off the connection is closed, returned, held or an orphan, and what is
returned or held was offered under its token. -/
structure Books (protocol : Protocol) (c : Courier) : Prop where
  size : c.pending.length = pendingMax
  natural : ∀ pair ∈ c.returned ++ c.held, 0 ≤ pair.2
  distinct : (c.held.map Prod.fst).Nodup
  ledger : (c.consumed.flatMap Message.descriptors).Perm
    (c.closed ++ (c.returned ++ c.held).map Prod.snd ++ c.consumed.flatMap Message.orphans)
  counted : c.received = UInt64.ofNat (c.returned ++ c.held).length
  rejected : c.dropped + c.kindRejects + c.staleRejects =
    UInt64.ofNat (c.closed.length + (c.consumed.filter (Message.bare protocol)).length)
  origin : (c.returned ++ c.held).Subperm (c.consumed.filterMap (Message.offer protocol))

/-- What a store does: the descriptor is closed, or it takes a free slot. -/
theorem store_cases (c : Courier) (token : UInt64) (fd : Nat) :
    c.store token fd = c.drop fd ∨
      token ≠ 0 ∧ (∀ pair ∈ c.held, pair.1 ≠ token) ∧
        ∃ i, c.pending[i]?.map PendingEntry.token = some 0 ∧
          c.store token fd = { c with pending := c.pending.set i ⟨token, fd⟩, received := c.received + 1 } := by
  unfold store
  by_cases zero : token = 0
  · left
    rw [if_pos (.inl zero), if_pos (Int.natCast_nonneg fd)]
  rw [if_neg (by rintro (same | negative); exacts [zero same, absurd negative (by omega)])]
  cases scanned : scan token c.pending 0 none with
  | none => exact .inl rfl
  | some free =>
    cases free with
    | none => exact .inl rfl
    | some i =>
      obtain ⟨apart, place⟩ := scan_found scanned
      obtain ⟨k, rfl, vacant⟩ := place.resolve_left (by simp)
      refine .inr ⟨zero, ?_, 0 + k, by simpa using vacant, rfl⟩
      intro pair listed same
      simp only [held, heldIn, List.mem_map, List.mem_filter, decide_eq_true_eq] at listed
      obtain ⟨entry, ⟨there, taken⟩, rfl⟩ := listed
      exact apart entry there taken same

theorem acceptable_iff {generation : UInt64} {m : Message} :
    m.acceptable protocol generation = true ↔
      protocol.envelopeSize ≤ m.length ∧ protocol.known m.kind = true ∧
        (generation = 0 ∨ m.processGeneration = generation) ∧ m.token ≠ 0 ∧ m.rights ≠ [] := by
  simp [Message.acceptable, and_assoc]

/-- What an acceptable message offers. -/
theorem acceptable_offer {generation : UInt64} {m : Message} (acceptable : m.acceptable protocol generation = true) :
    m.offer protocol = m.descriptors.head?.map fun fd => (m.token, fd) := by
  obtain ⟨whole, kind, _, nonzero, _⟩ := acceptable_iff.mp acceptable
  exact if_pos ⟨whole, kind, nonzero⟩

/-- What reading a message does: nothing, a count, a descriptor that is closed, or one that takes a free slot. -/
theorem judge_cases (protocol : Protocol) (c : Courier) (m : Message) :
    (m.orphans = m.descriptors ∧ m.bare protocol = false ∧ (judge protocol c m).1 = c) ∨
    (m.descriptors = [] ∧ m.bare protocol = true ∧ (judge protocol c m).1 = { c with dropped := c.dropped + 1 }) ∨
    ∃ fd : Nat, m.descriptors = (fd : Int) :: m.orphans ∧ m.bare protocol = false ∧
      ((∃ dropped kindRejects staleRejects,
          dropped + kindRejects + staleRejects = c.dropped + c.kindRejects + c.staleRejects + 1 ∧
          (judge protocol c m).1 = { c.close fd with dropped, kindRejects, staleRejects }) ∨
        m.acceptable protocol c.generation = true ∧ (∀ pair ∈ c.held, pair.1 ≠ m.token) ∧
          ∃ i, c.pending[i]?.map PendingEntry.token = some 0 ∧
            (judge protocol c m).1 =
              { c with pending := c.pending.set i ⟨m.token, fd⟩, received := c.received + 1 }) := by
  by_cases empty : m.length = 0
  · exact .inl ⟨by simp [Message.orphans, empty], by simp [Message.bare, empty,
      Nat.ne_of_gt protocol.positive], by simp [judge, empty]⟩
  cases rights : m.rights with
  | nil =>
    by_cases short : m.length < protocol.envelopeSize
    · refine .inl ⟨?_, ?_, ?_⟩
      · simp [Message.orphans, Message.descriptors, empty, rights]
      · simp [Message.bare, Nat.not_le.mpr short]
      · simp [judge, empty, short, rights]
    · refine .inr (.inl ⟨?_, ?_, ?_⟩)
      · simp [Message.descriptors, rights]
      · simp [Message.bare, Nat.not_lt.mp short, rights]
      · simp [judge, empty, short, rights]
  | cons fd rest =>
    refine .inr (.inr ⟨fd, by simp [Message.orphans, Message.descriptors, empty,
      rights], by simp [Message.bare, rights], ?_⟩)
    by_cases short : m.length < protocol.envelopeSize
    · exact .inl ⟨c.dropped + 1, c.kindRejects,
        c.staleRejects, by ac_rfl, by simp [judge, empty, short, rights, drop, close]⟩
    cases kind : protocol.known m.kind with
    | false =>
      exact .inl ⟨c.dropped, c.kindRejects + 1,
        c.staleRejects, by ac_rfl, by simp [judge, empty, short, rights, kind, close]⟩
    | true =>
      by_cases stale : c.generation ≠ 0 ∧ m.processGeneration ≠ c.generation
      · refine .inl ⟨c.dropped, c.kindRejects, c.staleRejects + 1, by ac_rfl, ?_⟩
        simp only [judge, if_neg empty, if_neg short, rights, kind, Bool.true_eq_false, if_false, if_pos stale, close]
      · have stored : (judge protocol c m).1 = c.store m.token fd := by
          simp only [judge, if_neg empty, if_neg short, rights, kind, Bool.true_eq_false, if_false, if_neg stale]
        rw [stored]
        rcases store_cases c m.token fd with dropped | ⟨nonzero, apart, i, vacant, put⟩
        · exact .inl ⟨c.dropped + 1, c.kindRejects, c.staleRejects, by ac_rfl, by rw [dropped]; rfl⟩
        · refine .inr ⟨?_, apart, i, vacant, put⟩
          have current : c.generation = 0 ∨ m.processGeneration = c.generation := by
            by_cases started : c.generation = 0
            · exact .inl started
            · exact .inr (of_not_not fun differs => stale ⟨started, differs⟩)
          simp [Message.acceptable, Nat.not_lt.mp short, kind, nonzero, rights, current]

section Consuming

variable {m : Message} {rest : List Message} {fd : Nat}

theorem origin_wider (books : Books protocol c) (m : Message) :
    (c.returned ++ c.held).Subperm ((c.consumed ++ [m]).filterMap (Message.offer protocol)) := by
  rw [List.filterMap_append]
  exact books.origin.trans (List.sublist_append_left _ _).subperm

/-- A message from which nothing is taken. -/
theorem Books.pass (books : Books protocol c) (orphans : m.orphans = m.descriptors) (bare : m.bare protocol = false) :
    Books protocol { c with socket := rest, consumed := c.consumed ++ [m] } := by
  refine ⟨books.size, books.natural, books.distinct, ?_, books.counted, ?_, origin_wider books m⟩
  · simp only [List.flatMap_append, List.flatMap_singleton, orphans]
    rw [← List.append_assoc]
    exact books.ledger.append_right _
  · simpa [List.filter_append, bare] using books.rejected

/-- An envelope without a descriptor. -/
theorem Books.count (books : Books protocol c) (none : m.descriptors = []) (bare : m.bare protocol = true) :
    Books protocol { c with socket := rest, consumed := c.consumed ++ [m], dropped := c.dropped + 1 } := by
  refine ⟨books.size, books.natural, books.distinct, ?_, books.counted, ?_, origin_wider books m⟩
  · have empty : m.orphans = [] := by simp [Message.orphans, none]
    simp only [List.flatMap_append, List.flatMap_singleton, none, empty, List.append_nil]
    exact books.ledger
  · have before := books.rejected
    simp only [List.filter_append, List.filter_singleton, bare, cond_true, List.length_append, List.length_singleton]
    rw [← Nat.add_assoc, UInt64.ofNat_add, ← before]
    ac_rfl

/-- A descriptor that is closed, under one of the three counters. -/
theorem Books.refuse (books : Books protocol c) (first : m.descriptors = (fd : Int) :: m.orphans)
    (bare : m.bare protocol = false) {dropped kindRejects staleRejects : UInt64}
    (total : dropped + kindRejects + staleRejects = c.dropped + c.kindRejects + c.staleRejects + 1) :
    Books protocol { c with
      socket := rest, consumed := c.consumed ++ [m], closed :=
        c.closed ++ [(fd : Int)], dropped, kindRejects, staleRejects } := by
  refine ⟨books.size, books.natural, books.distinct, ?_, books.counted, ?_, origin_wider books m⟩
  · refine List.perm_iff_count.mpr fun x => ?_
    have before := books.ledger.count_eq x
    simp only [List.flatMap_append, List.flatMap_singleton, List.count_append, first, List.count_cons, held,
      List.map_append, List.count_nil] at before ⊢
    omega
  · have before := books.rejected
    simp only [List.filter_append, List.filter_singleton, bare, cond_false, List.append_nil, List.length_append,
      List.length_singleton]
    rw [total, before, Nat.add_right_comm, UInt64.ofNat_add _ 1]
    rfl

/-- A descriptor that takes a free slot. -/
theorem Books.keep (books : Books protocol c) (first : m.descriptors = (fd : Int) :: m.orphans)
    (bare : m.bare protocol = false) (acceptable : m.acceptable protocol c.generation = true)
    (apart : ∀ pair ∈ c.held, pair.1 ≠ m.token) {i : Nat} (vacant : c.pending[i]?.map PendingEntry.token = some 0) :
    Books protocol { c with
      socket := rest, consumed := c.consumed ++ [m], pending := c.pending.set i ⟨m.token, fd⟩, received :=
        c.received + 1 } := by
  have offered : m.offer protocol = some (m.token, (fd : Int)) := by
    rw [acceptable_offer acceptable, first, List.head?_cons, Option.map_some]
  have pairs : (heldIn (c.pending.set i ⟨m.token, fd⟩)).Perm ((m.token, (fd : Int)) :: c.held) :=
    heldIn_set (acceptable_iff.mp acceptable).2.2.2.1 i vacant
  have all : (c.returned ++ heldIn (c.pending.set i ⟨m.token, fd⟩)).Perm
      ((m.token, (fd : Int)) :: (c.returned ++ c.held)) :=
    (pairs.append_left _).trans List.perm_middle
  refine ⟨by simpa using books.size, ?_, ?_, ?_, ?_, ?_, ?_⟩
  · intro pair listed
    rcases List.mem_cons.mp (all.mem_iff.mp listed) with rfl | listed
    · exact Int.natCast_nonneg fd
    · exact books.natural pair listed
  · refine (pairs.map Prod.fst).nodup_iff.mpr (List.nodup_cons.mpr ⟨?_, books.distinct⟩)
    intro listed
    obtain ⟨pair, there, same⟩ := List.mem_map.mp listed
    exact apart pair there same
  · refine List.perm_iff_count.mpr fun x => ?_
    have before := books.ledger.count_eq x
    have now := (all.map Prod.snd).count_eq x
    simp only [List.flatMap_append, List.flatMap_singleton, List.count_append, first, List.count_cons, held,
      List.map_cons] at before now ⊢
    omega
  · have total : (c.returned ++ heldIn (c.pending.set i ⟨m.token, fd⟩)).length = (c.returned ++ c.held).length + 1 :=
      all.length_eq
    change c.received + 1 = UInt64.ofNat (c.returned ++ heldIn (c.pending.set i ⟨m.token, fd⟩)).length
    rw [total, UInt64.ofNat_add, ← books.counted]
    rfl
  · simpa [List.filter_append, bare] using books.rejected
  · rw [List.filterMap_append, List.filterMap_cons_some offered, List.filterMap_nil]
    have wider := (List.subperm_cons (m.token, (fd : Int))).mpr books.origin
    exact all.subperm.trans (wider.trans (List.perm_append_singleton _ _).symm.subperm)

end Consuming

theorem Books.recvOnce (books : Books protocol c) : Books protocol (recvOnce protocol c).1 := by
  unfold Courier.recvOnce
  cases c.socket with
  | nil => exact books
  | cons m rest =>
    rcases judge_cases protocol { c with socket := rest, consumed := c.consumed ++ [m] } m with
      ⟨orphans, bare, same⟩ | ⟨none, bare, same⟩ | ⟨fd, first, bare, ⟨_, _, _, total, same⟩ |
        ⟨acceptable, apart, i, vacant, same⟩⟩
    · rw [same]
      exact books.pass orphans bare
    · rw [same]
      exact books.count none bare
    · rw [same]
      exact books.refuse first bare total
    · rw [same]
      exact books.keep first bare acceptable apart vacant

theorem Books.drain (books : Books protocol c) (reads : Nat) : Books protocol (drain protocol reads c) := by
  induction reads generalizing c with
  | zero => exact books
  | succ reads ih =>
    have once := books.recvOnce
    rw [Courier.drain]
    split
    next c' result read =>
      rw [read] at once
      split
      · exact ih once
      · exact once

/-- What comes next on the connection and the count of the misses are not in the books. -/
theorem Books.aside (books : Books protocol c) (pid : UInt32) (generation nextToken misses : UInt64)
    (socket : List Message) (sent : List Envelope) :
    Books protocol { c with pid, generation, nextToken, misses, socket, sent } :=
  ⟨books.size, books.natural, books.distinct, books.ledger, books.counted, books.rejected, books.origin⟩

/-- The answer of a receive: the descriptor that waits under the token, or what follows. -/
theorem answer_cases (books : Books protocol c) (token : UInt64) (otherwise : Courier → Courier × Int) :
    (∃ fd left, take token c.pending = some (fd, left) ∧
      c.answer token otherwise = ({ c with pending := left, returned := c.returned ++ [(token, fd)] }, fd)) ∨
    take token c.pending = none ∧ c.answer token otherwise = otherwise c := by
  cases taken : take token c.pending with
  | none => exact .inr ⟨rfl, by simp [answer, lookup, taken]⟩
  | some found =>
    obtain ⟨fd, left⟩ := found
    have natural : 0 ≤ fd :=
      books.natural (token, fd) (List.mem_append_right _ ((take_found taken).2.mem_iff.mpr (List.mem_cons_self ..)))
    exact .inl ⟨fd, left, rfl, by simp [answer, lookup, taken, natural, give]⟩

theorem Books.returned (books : Books protocol c) {token : UInt64} {fd : Int} {left : List PendingEntry}
    (taken : take token c.pending = some (fd, left)) :
    Books protocol { c with pending := left, returned := c.returned ++ [(token, fd)] } := by
  obtain ⟨length, pairs⟩ := take_found taken
  have all : (c.returned ++ [(token, fd)] ++ heldIn left).Perm (c.returned ++ c.held) := by
    rw [List.append_assoc]
    exact pairs.symm.append_left _
  refine ⟨length.trans books.size, ?_, ?_, ?_, ?_, books.rejected, all.subperm.trans books.origin⟩
  · exact fun pair listed => books.natural pair (all.mem_iff.mp listed)
  · exact (List.nodup_cons.mp ((pairs.map Prod.fst).nodup_iff.mp books.distinct)).2
  · exact books.ledger.trans (((all.symm.map Prod.snd).append_left _).append_right _)
  · exact books.counted.trans (congrArg UInt64.ofNat all.length_eq.symm)

theorem Books.answer (books : Books protocol c) (token : UInt64) {otherwise : Courier → Courier × Int}
    (follows : ∀ {c}, Books protocol c → Books protocol (otherwise c).1) :
    Books protocol (c.answer token otherwise).1 := by
  rcases answer_cases books token otherwise with ⟨fd, left, taken, same⟩ | ⟨_, same⟩
  · rw [same]
    exact books.returned taken
  · rw [same]
    exact follows books

theorem Books.miss (books : Books protocol c) : Books protocol c.miss.1 :=
  books.aside c.pid c.generation c.nextToken (c.misses + 1) c.socket c.sent

theorem Books.arrive (books : Books protocol c) (socket : List Message) : Books protocol { c with socket } :=
  books.aside c.pid c.generation c.nextToken c.misses socket c.sent

theorem Books.settle {read : Courier × Int} (books : Books protocol read.1) (token : UInt64) :
    Books protocol (settle token read).1 := by
  unfold Courier.settle
  split
  · exact books.answer token Books.miss
  · exact books.miss

theorem Books.receive (books : Books protocol c) (token : UInt64) (connected : Bool)
    (arrived : List Message) (reads : Nat)
    (late : List Message) (answered : Bool) :
    Books protocol (c.receive protocol token connected arrived reads late answered).1 := by
  unfold Courier.receive
  split
  · exact books
  split
  · exact books.miss
  apply ((books.arrive _).drain reads).answer token
  -- the last read, which the kernel may fail
  intro c books
  apply Books.settle
  split
  · exact (books.arrive _).recvOnce
  · exact books.arrive _

theorem Books.send (books : Books protocol c) (fd socket : Int) (kind : UInt32) (processGeneration : UInt64)
    (delivered : List Bool) : Books protocol (c.send fd socket kind processGeneration delivered).1 := by
  unfold Courier.send
  split
  · exact books
  generalize (if c.generation = 0 then if processGeneration = 0 then 1 else processGeneration else c.generation) = g
  dsimp only
  split
  · exact books.aside _ _ _ _ _ _
  · exact books.aside _ _ _ _ _ _

theorem Books.step (books : Books protocol c) (action : Action) : Books protocol (step protocol c action) := by
  cases action with
  | receive token connected arrived reads late answered =>
      exact books.receive token connected arrived reads late answered
  | send fd socket kind processGeneration delivered => exact books.send fd socket kind processGeneration delivered
  | postforkReset pid => exact books.aside pid 0 _ _ [] _

theorem Books.run (books : Books protocol c) (actions : List Action) : Books protocol (run protocol c actions) := by
  induction actions generalizing c with
  | nil => exact books
  | cons action rest ih => exact ih (books.step action)

/-- A process starts with a registry of zeros. -/
theorem Books.start (protocol : Protocol) (pid : UInt32) (mutation : Option Char) :
    Books protocol { pid, mutation } := by
  have empty : held { pid, mutation } = [] := by simp [held, heldIn]
  refine ⟨by simp, ?_, ?_, ?_, ?_, rfl, ?_⟩
  · simp [empty]
  · simp [empty]
  · simp [empty]
  · simp [empty]
  · simp [empty]

end Books

section Delivery

variable {protocol : Protocol} {c : Courier} {m : Message}

/-- Reading a message adds a pair only where it is acceptable, and leaves the rest of the state that a read looks at. -/
theorem judge_held (protocol : Protocol) (c : Courier) (m : Message) :
    ((judge protocol c m).1.held = c.held ∨
      m.acceptable protocol c.generation = true ∧ ∃ fd, (judge protocol c m).1.held.Perm ((m.token, fd) :: c.held)) ∧
    (judge protocol c m).1.generation = c.generation ∧ (judge protocol c m).1.socket = c.socket ∧
    (judge protocol c m).1.pending.length = c.pending.length := by
  rcases judge_cases protocol c m with
    ⟨_, _, same⟩ | ⟨_, _, same⟩ | ⟨fd, _, _, ⟨_, _, _, _, same⟩ | ⟨acceptable, _, i, vacant, same⟩⟩
  · rw [same]
    exact ⟨.inl rfl, rfl, rfl, rfl⟩
  · rw [same]
    exact ⟨.inl rfl, rfl, rfl, rfl⟩
  · rw [same]
    exact ⟨.inl rfl, rfl, rfl, rfl⟩
  · rw [same]
    exact ⟨.inr ⟨acceptable, fd, heldIn_set (acceptable_iff.mp acceptable).2.2.2.1 i vacant⟩, rfl, rfl, by simp⟩

/-- A queue in which a descriptor comes first under its token: the messages before it under that token are refused,
none of them reads as the end, `reads` reads get as far, and beside what is held there is room for what is accepted
before it. -/
structure Queued (protocol : Protocol) (c : Courier) (token : UInt64) (fd : Int) (before : List Message) (m : Message)
    (reads : Nat) : Prop where
  named : m.token = token
  acceptable : m.acceptable protocol c.generation = true
  descriptor : m.descriptors.head? = some fd
  apart : ∀ pair ∈ c.held, pair.1 ≠ token
  refused : ∀ b ∈ before, b.token = token → b.acceptable protocol c.generation = false
  nonempty : ∀ b ∈ before, b.length ≠ 0
  room : c.held.length + (before.filter (Message.acceptable protocol c.generation)).length < pendingMax
  reached : before.length < reads

/-- Reading the first message of such a queue leaves one that is shorter. -/
theorem Queued.tail {token : UInt64} {fd : Int} {b : Message} {before : List Message} {reads : Nat}
    (queued : Queued protocol c token fd (b :: before) m (reads + 1)) :
    Queued protocol (judge protocol c b).1 token fd before m reads := by
  obtain ⟨named, acceptable, descriptor, apart, refused, nonempty, room, reached⟩ := queued
  obtain ⟨here, refused⟩ := List.forall_mem_cons.mp refused
  obtain ⟨held, generation, _, _⟩ := judge_held protocol c b
  rw [List.length_cons] at reached
  refine ⟨named, ?_, descriptor, ?_, ?_, (List.forall_mem_cons.mp nonempty).2, ?_, by omega⟩
  · rwa [generation]
  · intro pair listed
    rcases held with same | ⟨accepted, _, pairs⟩
    · rw [same] at listed
      exact apart pair listed
    · rcases List.mem_cons.mp (pairs.mem_iff.mp listed) with rfl | listed
      · intro same
        rw [here same] at accepted
        cases accepted
      · exact apart pair listed
  · rwa [generation]
  · rw [generation]
    rcases held with same | ⟨accepted, _, pairs⟩
    · rw [same]
      have wider := (List.sublist_cons_self b before).filter (Message.acceptable protocol c.generation) |>.length_le
      omega
    · rw [pairs.length_eq, List.length_cons]
      rw [List.filter_cons_of_pos accepted, List.length_cons] at room
      omega

end Delivery

section Tokens

variable {protocol : Protocol} {c : Courier}

/-- What a token is made from, besides the count of the sends. -/
def stamp (c : Courier) : UInt64 := (c.generation * 0x9E3779B97F4A7C15) ^^^ (c.pid.toUInt64 * 0xC2B2AE3D27D4EB4F)

/-- The part of the state that belongs to the sending side. -/
def sending (c : Courier) : UInt32 × Option Char × UInt64 × UInt64 × List Envelope :=
  (c.pid, c.mutation, c.generation, c.nextToken, c.sent)

theorem judge_sending (m : Message) : (judge protocol c m).1.sending = c.sending := by
  rcases judge_cases protocol c m with ⟨_, _, same⟩ | ⟨_, _, same⟩ | ⟨fd, _, _, ⟨_, _, _, _, same⟩ | ⟨_, _, i, _, same⟩⟩
  · rw [same]
  · rw [same, sending, sending]
  · rw [same, close, sending, sending]
  · rw [same, sending, sending]

theorem recvOnce_sending : (recvOnce protocol c).1.sending = c.sending := by
  unfold recvOnce
  cases c.socket with
  | nil => rfl
  | cons m rest => exact judge_sending m

theorem drain_sending (reads : Nat) : (drain protocol reads c).sending = c.sending := by
  induction reads generalizing c with
  | zero => rfl
  | succ reads ih =>
    have once : (recvOnce protocol c).1.sending = c.sending := recvOnce_sending
    rw [drain]
    dsimp only
    split
    · exact ih.trans once
    · exact once

theorem answer_sending (token : UInt64) {otherwise : Courier → Courier × Int}
    (follows : ∀ other : Courier, other.sending = c.sending → (otherwise other).1.sending = c.sending) :
    (c.answer token otherwise).1.sending = c.sending := by
  unfold answer lookup
  cases take token c.pending with
  | none => simpa using follows c rfl
  | some found =>
    dsimp only
    split
    · rfl
    · exact follows _ rfl

theorem settle_sending (token : UInt64) (read : Courier × Int) : (settle token read).1.sending = read.1.sending := by
  unfold settle
  split
  · exact answer_sending token fun other same => same
  · rfl

theorem receive_sending (token : UInt64) (connected : Bool) (arrived : List Message) (reads : Nat) (late : List Message)
    (answered : Bool) : (c.receive protocol token connected arrived reads late answered).1.sending = c.sending := by
  unfold receive
  split
  · rfl
  split
  · rfl
  have drained : (drain protocol reads { c with socket := c.socket ++ arrived }).sending = c.sending :=
    drain_sending reads
  refine (answer_sending token fun other same => ?_).trans drained
  rw [settle_sending]
  split
  · exact recvOnce_sending.trans same
  · exact same

/-- In the product, the tokens that went out carry distinct counts under one stamp. -/
structure Marked (c : Courier) (count : Nat) : Prop where
  product : c.mutation = none
  next : c.nextToken = UInt64.ofNat count
  fresh : c.generation = 0 → c.sent = []
  marks : ∃ marks : List Nat, marks.Nodup ∧ (∀ mark ∈ marks, mark ≤ count) ∧
    c.sent.map Envelope.token = marks.map fun mark => c.stamp ^^^ UInt64.ofNat mark

theorem Marked.of_sending {other : Courier} {count : Nat} (marked : Marked c count) (same : other.sending = c.sending) :
    Marked other count := by
  simp only [sending, Prod.mk.injEq] at same
  obtain ⟨pid, mutation, generation, nextToken, sent⟩ := same
  refine ⟨mutation.trans marked.product, nextToken.trans marked.next, ?_, ?_⟩
  · rw [generation, sent]
    exact marked.fresh
  · rw [sent, stamp, pid, generation]
    exact marked.marks

/-- The one envelope of a send goes out or it does not. -/
theorem delivered_cases (plain : Envelope) (delivered : List Bool) :
    ((envelopes none plain).zip delivered).filter Prod.snd = [] ∨
      ((envelopes none plain).zip delivered).filter Prod.snd = [(plain, true)] := by
  cases delivered with
  | nil => exact .inl rfl
  | cons taken rest =>
    cases taken with
    | false => exact .inl (by simp [envelopes])
    | true => exact .inr (by simp [envelopes])

theorem Marked.send {count : Nat} (marked : Marked c count) (fd socket : Int) (kind : UInt32)
    (processGeneration : UInt64)
    (delivered : List Bool) :
    Marked (c.send fd socket kind processGeneration delivered).1 count ∨
      Marked (c.send fd socket kind processGeneration delivered).1 (count + 1) := by
  unfold Courier.send
  split
  · exact .inl marked
  right
  obtain ⟨product, next, fresh, marks, distinct, bounded, sent⟩ := marked
  have following : c.nextToken + 1 = UInt64.ofNat (count + 1) := by
    rw [next]
    simp
  -- once chosen the generation stays, and nothing went out before it was
  generalize chosen : (if c.generation = 0 then if processGeneration =
    0 then 1 else processGeneration else c.generation) = g
  have started : g ≠ 0 := by
    rw [← chosen]
    split
    · split
      · decide
      · assumption
    · assumption
  have carried : c.sent.map Envelope.token = marks.map fun mark =>
      stamp { c with generation := g } ^^^ UInt64.ofNat mark := by
    by_cases zero : c.generation = 0
    · have none : marks = [] := by
        rw [fresh zero, List.map_nil] at sent
        exact List.map_eq_nil_iff.mp sent.symm
      rw [none, fresh zero, List.map_nil, List.map_nil]
    · rw [if_neg zero] at chosen
      rw [← chosen]
      exact sent
  dsimp only
  rw [product]
  rcases delivered_cases ⟨g, (g * 0x9E3779B97F4A7C15) ^^^ (c.pid.toUInt64 * 0xC2B2AE3D27D4EB4F) ^^^
    (c.nextToken + 1), kind, fd⟩
      delivered with none | one
  · rw [none, if_pos ⟨rfl, rfl⟩, List.map_nil, List.append_nil]
    exact ⟨rfl, following, fun zero => absurd zero started, marks, distinct,
      fun mark listed => Nat.le_succ_of_le (bounded mark listed), carried⟩
  · rw [one, if_neg (by simp)]
    refine ⟨rfl, following, fun zero => absurd zero started, marks ++ [count + 1], ?_, ?_, ?_⟩
    · refine List.nodup_append.mpr ⟨distinct, List.nodup_singleton _, ?_⟩
      rintro mark listed _ last rfl
      have small := bounded mark listed
      rw [List.mem_singleton.mp last] at small
      omega
    · intro mark listed
      rcases List.mem_append.mp listed with listed | last
      · exact Nat.le_succ_of_le (bounded mark listed)
      · exact Nat.le_of_eq (List.mem_singleton.mp last)
    · simp only [List.map_append, List.map_cons, List.map_nil]
      rw [following]
      exact congrArg (· ++ _) carried

theorem Marked.run (protocol : Protocol) {count : Nat} (marked : Marked c count) {actions : List Action}
    (alone : ∀ pid, Action.postforkReset pid ∉ actions) :
    ∃ total ≤ count + actions.length, Marked (run protocol c actions) total := by
  induction actions generalizing c count with
  | nil => exact ⟨count, Nat.le_refl _, marked⟩
  | cons action rest ih =>
    have later : ∀ pid, Action.postforkReset pid ∉ rest := fun pid listed => alone pid (List.mem_cons_of_mem _ listed)
    have stepped : Marked (step protocol c action) count ∨ Marked (step protocol c action) (count + 1) := by
      cases action with
      | receive token connected arrived reads late answered =>
        exact .inl (marked.of_sending (receive_sending token connected arrived reads late answered))
      | send fd socket kind processGeneration delivered => exact marked.send fd socket kind processGeneration delivered
      | postforkReset pid => exact absurd (List.mem_cons_self ..) (alone pid)
    rcases stepped with stepped | stepped
    · obtain ⟨total, bound, marked⟩ := ih stepped later
      exact ⟨total, by rw [List.length_cons]; omega, marked⟩
    · obtain ⟨total, bound, marked⟩ := ih stepped later
      exact ⟨total, by rw [List.length_cons]; omega, marked⟩

end Tokens

section Results

/-- A receive returns a descriptor only under the token, and only as often, as messages of a known kind offered it;
no two descriptors wait under one token. -/
theorem run_answers (protocol : Protocol) (pid : UInt32) (mutation : Option Char) (actions : List Action) :
    let c := run protocol { pid, mutation } actions
    (c.returned ++ c.held).Subperm (c.consumed.filterMap (Message.offer protocol)) ∧ (c.held.map Prod.fst).Nodup := by
  intro c
  have books : Books protocol c := (Books.start protocol pid mutation).run actions
  exact ⟨books.origin, books.distinct⟩

variable (protocol : Protocol) (pid : UInt32) (mutation : Option Char) (actions : List Action)

/-- Outside the diagnostic modes no two messages of one incarnation go out under the same token, until the counter
of the sends wraps around. -/
theorem sent_distinct (alone : ∀ child, Action.postforkReset child ∉ actions) (few : actions.length < UInt64.size) :
    ((run protocol { pid, mutation := none } actions).sent.map Envelope.token).Nodup := by
  have start : Marked { pid, mutation := none } 0 := ⟨rfl, rfl, fun _ => rfl, [], List.nodup_nil, by simp, rfl⟩
  obtain ⟨total, bound, _, _, _, marks, distinct, bounded, sent⟩ := start.run protocol alone
  rw [sent]
  refine distinct.map_on fun a listedA b listedB same => ?_
  have smallA := bounded a listedA
  have smallB := bounded b listedB
  have counts : UInt64.ofNat a = UInt64.ofNat b := by
    simpa using same
  have values := congrArg UInt64.toNat counts
  rwa [UInt64.toNat_ofNat_of_lt' (by omega), UInt64.toNat_ofNat_of_lt' (by omega)] at values

/-- Two sends with a failed one and a receive between them. -/
theorem sent_distinct_pair :
    let protocol : Protocol := ⟨24, fun kind => kind = 1, by decide⟩
    let c := run protocol { pid := 7, mutation := none }
      [.send 4 9 1 5 [true], .send 4 9 1 5 [false], .receive 11 true [] 1 [] false, .send 6 9 2 8 [true]]
    c.sent.length = 2 ∧ (c.sent.map Envelope.token).Nodup := by
  intro protocol c
  refine ⟨by decide +kernel, ?_⟩
  exact sent_distinct protocol 7
    [.send 4 9 1 5 [true], .send 4 9 1 5 [false], .receive 11 true [] 1 [] false, .send 6 9 2 8 [true]]
      (by simp) (by decide)

end Results

end Courier

end Darling.Ring
