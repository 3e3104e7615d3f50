import Darling.Library.Interleavings
import Mathlib.Data.Fin.Basic
import Mathlib.Data.List.Basic

/-! The paged lane catalog: `gr_claim_lane` and `gr_catalog_grow`, one atomic access at a time. -/
namespace Darling.Ring
open Interleavings

section Code

/-- `GR_LANE_PAGE_SIZE`. -/
abbrev lanePageSize : Nat := 128

/-- `GR_LANE_MAX_PAGES`. -/
abbrev laneMaxPages : Nat := 32

/-- `active` is 0 when the lane is free, 2 while it is claimed and 1 while it is live. -/
structure Lane where
  active : Nat := 0
  slotIndex : Nat := 0
  wakeFd : Int := 0

/-- An anonymous mapping is filled with zeros. -/
structure LanePage where
  next : Option Nat := none
  lanes : Fin lanePageSize → Lane := fun _ => {}

abbrev LaneId := Nat × Fin lanePageSize

/-- Where `gr_catalog_grow` returns to: nowhere, or a round of `gr_claim_lane`. -/
abbrev Caller := Option (Int32 × Nat)

/-- The access that a thread makes next. -/
inductive Pc where
  | out
  /-- The load of `g_lane_pages` in a round of `gr_claim_lane`. -/
  | first (tid : Int32) (attempt : Nat)
  /-- The exchange on a lane of a page. -/
  | probe (tid : Int32) (attempt page i : Nat)
  /-- The load of `page->next`. -/
  | follow (tid : Int32) (attempt page : Nat)
  /-- The load of `g_lane_page_count`. -/
  | load (caller : Caller)
  /-- The exchange on `g_lane_page_count`. -/
  | reserve (caller : Caller) (idx : Nat)
  | map (caller : Caller) (idx : Nat)
  /-- The decrement of `g_lane_page_count` behind a failed mapping. -/
  | giveBack (idx : Nat)
  /-- The stores to a lane of the new page, which no other thread knows. -/
  | init (caller : Caller) (idx page i : Nat)
  | lock (caller : Caller) (idx page : Nat)
  /-- The store of null to `page->next`. -/
  | close (caller : Caller) (idx page : Nat)
  /-- The load of `g_lane_tail`. -/
  | aim (caller : Caller) (idx page : Nat)
  | splice (caller : Caller) (idx page : Nat) (tail : Option Nat)
  /-- The store to `g_lane_tail`. -/
  | append (caller : Caller) (page : Nat)
  | unlock (caller : Caller)
  deriving DecidableEq

structure Catalog (T : Type) where
  heap : Nat → LanePage := fun _ => {}
  mapped : Nat := 0
  pages : Option Nat := none
  tail : Option Nat := none
  pageCount : Nat := 0
  growLock : Bool := false
  pc : T → Pc := fun _ => .out
  /-- The lanes that were returned to a thread and that it has not released. -/
  held : T → List LaneId := fun _ => []

variable {T : Type} [DecidableEq T]

/-- The lane that the search for a thread tries in its place `i`. -/
def lanePlace (tid : Int32) (i : Nat) : Fin lanePageSize :=
  ⟨((tid.toUInt32 * 2654435761).toNat + i) % lanePageSize, Nat.mod_lt _ (by decide)⟩

/-- Behind a page that was appended the search goes round again. -/
def Caller.resume : Caller → Pc
  | none => .out
  | some (tid, attempt) => if attempt + 1 < 3 then .first tid (attempt + 1) else .out

def Pc.visit (tid : Int32) (attempt : Nat) : Option Nat → Pc
  | some page => .probe tid attempt page 0
  | none => .load (some (tid, attempt))

namespace Catalog

def goto (s : Catalog T) (t : T) (pc : Pc) : Catalog T := { s with pc := Function.update s.pc t pc }

def setPage (s : Catalog T) (page : Nat) (content : LanePage) : Catalog T :=
  { s with heap := Function.update s.heap page content }

def setLane (s : Catalog T) (page : Nat) (i : Fin lanePageSize) (lane : Lane) : Catalog T :=
  s.setPage page { s.heap page with lanes := Function.update (s.heap page).lanes i lane }

def lane (s : Catalog T) (id : LaneId) : Lane := (s.heap id.1).lanes id.2

/-- One access of a thread in one of the two functions; `granted` is the outcome of a mapping. -/
def advance (s : Catalog T) (t : T) (granted : Bool) : Option (Catalog T) :=
  match s.pc t with
  | .out => none
  | .first tid attempt => some (s.goto t (.visit tid attempt s.pages))
  | .probe tid attempt page i =>
    let place := lanePlace tid i
    let lane := s.lane (page, place)
    if lane.active = 0 then
      let s := s.setLane page place { lane with active := 2, wakeFd := -1 }
      some ({ s with held := Function.update s.held t ((page, place) :: s.held t) }.goto t .out)
    else if i + 1 < lanePageSize then some (s.goto t (.probe tid attempt page (i + 1)))
    else some (s.goto t (.follow tid attempt page))
  | .follow tid attempt page => some (s.goto t (.visit tid attempt (s.heap page).next))
  | .load caller =>
    if laneMaxPages ≤ s.pageCount then some (s.goto t .out) else some (s.goto t (.reserve caller s.pageCount))
  | .reserve caller idx =>
    if s.pageCount = idx then some ({ s with pageCount := idx + 1 }.goto t (.map caller idx))
    else some (s.goto t (.load caller))
  | .map caller idx =>
    if granted then
      some ({ s.setPage s.mapped {} with mapped := s.mapped + 1 }.goto t (.init caller idx s.mapped 0))
    else some (s.goto t (.giveBack idx))
  | .giveBack _ => some ({ s with pageCount := s.pageCount - 1 }.goto t .out)
  | .init caller idx page i =>
    if bound : i < lanePageSize then
      let lane := s.lane (page, ⟨i, bound⟩)
      let s := s.setLane page ⟨i, bound⟩ { lane with slotIndex := idx * lanePageSize + i, wakeFd := -1 }
      some (s.goto t (.init caller idx page (i + 1)))
    else some (s.goto t (.lock caller idx page))
  | .lock caller idx page =>
    if s.growLock then some s else some ({ s with growLock := true }.goto t (.close caller idx page))
  | .close caller idx page =>
    some ((s.setPage page { s.heap page with next := none }).goto t (.aim caller idx page))
  | .aim caller idx page => some (s.goto t (.splice caller idx page s.tail))
  | .splice caller _ page (some last) =>
    some ((s.setPage last { s.heap last with next := some page }).goto t (.append caller page))
  | .splice caller _ page none => some ({ s with pages := some page }.goto t (.append caller page))
  | .append caller page => some ({ s with tail := some page }.goto t (.unlock caller))
  | .unlock caller => some ({ s with growLock := false }.goto t caller.resume)

end Catalog

/-- What a thread does: it calls one of the two functions, goes on in it, or publishes or releases a lane that it
has. -/
inductive LaneAction (T : Type) where
  | claimLane (t : T) (tid : Int32)
  | catalogGrow (t : T)
  | advance (t : T) (granted : Bool)
  | publish (t : T) (id : LaneId)
  | release (t : T) (id : LaneId)

namespace Catalog

def step (s : Catalog T) : LaneAction T → Option (Catalog T)
  | .claimLane t tid => if s.pc t = .out then some (s.goto t (.first tid 0)) else none
  | .catalogGrow t => if s.pc t = .out then some (s.goto t (.load none)) else none
  | .advance t granted => s.advance t granted
  | .publish t id =>
    if id ∈ s.held t then some (s.setLane id.1 id.2 { s.lane id with active := 1 }) else none
  | .release t id =>
    if id ∈ s.held t then
      some { s.setLane id.1 id.2 { s.lane id with active := 0 } with
        held := Function.update s.held t ((s.held t).erase id) }
    else none

/-- The pages that can be reached from `g_lane_pages`. -/
inductive Linked (s : Catalog T) : Nat → Prop where
  | head {page : Nat} (first : s.pages = some page) : Linked s page
  | next {page other : Nat} (before : Linked s page) (link : (s.heap page).next = some other) : Linked s other

/-- No two lanes of reachable pages have one number, every number is below the ceiling, and no lane is with two
threads. -/
structure Distinct (s : Catalog T) : Prop where
  numbers : ∀ id other : LaneId, Linked s id.1 → Linked s other.1 →
    (s.lane id).slotIndex = (s.lane other).slotIndex → id = other
  below : ∀ id : LaneId, Linked s id.1 → (s.lane id).slotIndex < laneMaxPages * lanePageSize
  holders : ∀ t u id, id ∈ s.held t → id ∈ s.held u → t = u
  once : ∀ t, (s.held t).Nodup

/-- An index is given back only while no later one is reserved. -/
def LastGivenBack (s : Catalog T) : LaneAction T → Prop
  | .advance t _ => ∀ idx, s.pc t = .giveBack idx → idx + 1 = s.pageCount
  | _ => True

end Catalog

end Code

section Numbers

/-- The index that a thread has reserved and not yet put into a page. -/
def Pc.reserves : Pc → Option Nat
  | .map _ idx => some idx
  | .giveBack idx => some idx
  | _ => none

/-- The page that a thread is building, with its index and the number of its lanes that are set. -/
def Pc.builds : Pc → Option (Nat × Nat × Nat)
  | .init _ idx page i => some (idx, page, i)
  | .lock _ idx page => some (idx, page, lanePageSize)
  | .close _ idx page => some (idx, page, lanePageSize)
  | .aim _ idx page => some (idx, page, lanePageSize)
  | .splice _ idx page _ => some (idx, page, lanePageSize)
  | _ => none

/-- The page that a thread searches. -/
def Pc.visits : Pc → Option Nat
  | .probe _ _ page _ => some page
  | .follow _ _ page => some page
  | _ => none

variable {T : Type}

namespace Catalog

/-- The page stands in `g_lane_pages` or behind some page. -/
def Link (s : Catalog T) (page : Nat) : Prop := s.pages = some page ∨ ∃ other, (s.heap other).next = some page

/-- The page has the numbers of its index, and no thread builds it any more. -/
structure Finished (s : Catalog T) (index : Nat → Nat) (page : Nat) : Prop where
  known : page < s.mapped
  numbered : ∀ j, (s.lane (page, j)).slotIndex = index page * lanePageSize + j
  free : ∀ t idx i, (s.pc t).builds ≠ some (idx, page, i)

/-- Each index below the count belongs to one page, or to one thread that has reserved it. -/
structure Reserving (s : Catalog T) (index : Nat → Nat) : Prop where
  few : s.pageCount ≤ laneMaxPages
  ceiling : ∀ t caller idx, s.pc t = .reserve caller idx → idx < laneMaxPages
  indexed : ∀ page, page < s.mapped → index page < s.pageCount
  injective : ∀ page other, page < s.mapped → other < s.mapped → index page = index other → page = other
  reserved : ∀ t idx, (s.pc t).reserves = some idx → idx < s.pageCount ∧ ∀ page, page < s.mapped → index page ≠ idx
  alone : ∀ t u idx, (s.pc t).reserves = some idx → (s.pc u).reserves = some idx → t = u

/-- Each page has one builder, which numbers it by its index before it is linked. -/
structure Building (s : Catalog T) (index : Nat → Nat) : Prop where
  building : ∀ t idx page i, (s.pc t).builds = some (idx, page, i) → page < s.mapped ∧ index page = idx ∧
    ∀ j : Fin lanePageSize, j.val < i → (s.lane (page, j)).slotIndex = idx * lanePageSize + j
  builder : ∀ t u idx idx' page i i', (s.pc t).builds = some (idx, page, i) →
    (s.pc u).builds = some (idx', page, i') → t = u
  linked : ∀ page, s.Link page → s.Finished index page
  visiting : ∀ t page, (s.pc t).visits = some page → page < s.mapped

theorem Linked.link {s : Catalog T} {page : Nat} (linked : Linked s page) : s.Link page := by
  cases linked with
  | head first => exact .inl first
  | next before link => exact .inr ⟨_, link⟩

section Moves

variable {s s' : Catalog T} {index : Nat → Nat} {t : T}

theorem Reserving.move (sound : Reserving s index) (others : ∀ u, u ≠ t → s'.pc u = s.pc u)
    (count : s'.pageCount = s.pageCount) (mapped : s'.mapped = s.mapped)
    (reserves : ∀ idx, (s'.pc t).reserves = some idx → (s.pc t).reserves = some idx)
    (ceiling : ∀ caller idx, s'.pc t = .reserve caller idx → idx < laneMaxPages) : Reserving s' index := by
  have had {u : T} {idx : Nat} (has : (s'.pc u).reserves = some idx) : (s.pc u).reserves = some idx := by
    by_cases same : u = t
    · subst same
      exact reserves idx has
    · rwa [others u same] at has
  refine ⟨count ▸ sound.few, ?_, ?_, ?_, ?_, fun u v idx first second => sound.alone u v idx (had first) (had second)⟩
  · intro u caller idx next
    by_cases same : u = t
    · subst same
      exact ceiling caller idx next
    · rw [others u same] at next
      exact sound.ceiling u caller idx next
  · intro page known
    rw [count]
    exact sound.indexed page (mapped ▸ known)
  · intro page other first second
    exact sound.injective page other (mapped ▸ first) (mapped ▸ second)
  · intro u idx has
    rw [count, mapped]
    exact sound.reserved u idx (had has)

/-- A step that maps and numbers nothing; at most it links the page that its thread has built. -/
theorem Building.move (sound : Building s index) (others : ∀ u, u ≠ t → s'.pc u = s.pc u)
    (mapped : s'.mapped = s.mapped)
    (numbers : ∀ id, (s'.lane id).slotIndex = (s.lane id).slotIndex)
    (builds : ∀ idx page i, (s'.pc t).builds = some (idx, page, i) → ∃ k, (s.pc t).builds = some (idx, page, k) ∧
      ∀ j : Fin lanePageSize, j.val < i → j.val < k)
    (visits : ∀ page, (s'.pc t).visits = some page → page < s.mapped)
    (links : ∀ page, s'.Link page → s.Link page ∨
      ∃ idx, (s.pc t).builds = some (idx, page, lanePageSize) ∧ (s'.pc t).builds = none) : Building s' index := by
  have had {u : T} {idx page i : Nat} (has : (s'.pc u).builds = some (idx, page, i)) :
      ∃ k, (s.pc u).builds = some (idx, page, k) ∧ ∀ j : Fin lanePageSize, j.val < i → j.val < k := by
    by_cases same : u = t
    · subst same
      exact builds idx page i has
    · rw [others u same] at has
      exact ⟨i, has, fun _ => id⟩
  refine ⟨?_, ?_, ?_, ?_⟩
  · intro u idx page i has
    obtain ⟨k, had, fewer⟩ := had has
    obtain ⟨known, indexed, set⟩ := sound.building u idx page k had
    rw [mapped]
    exact ⟨known, indexed, fun j before => by rw [numbers, set j (fewer j before)]⟩
  · intro u v idx idx' page i i' first second
    obtain ⟨k, had₁, -⟩ := had first
    obtain ⟨k', had₂, -⟩ := had second
    exact sound.builder u v idx idx' page k k' had₁ had₂
  · intro page link
    obtain old | ⟨idx, built, left⟩ := links page link
    · obtain ⟨known, numbered, free⟩ := sound.linked page old
      refine ⟨mapped ▸ known, fun j => by rw [numbers, numbered], fun u idx i has => ?_⟩
      obtain ⟨k, had, -⟩ := had has
      exact free u idx k had
    · obtain ⟨known, indexed, set⟩ := sound.building t idx page _ built
      refine ⟨mapped ▸ known, fun j => by rw [numbers, set j j.isLt, indexed], fun u idx' i has => ?_⟩
      obtain ⟨k, had, -⟩ := had has
      obtain rfl := sound.builder u t idx' idx page k _ had built
      rw [left] at has
      cases has
  · intro u page has
    rw [mapped]
    by_cases same : u = t
    · subst same
      exact visits page has
    · rw [others u same] at has
      exact sound.visiting u page has

/-- The count was the index, so that every index in use is below it. -/
theorem Reserving.reserve {caller : Caller} {idx : Nat} (sound : Reserving s index)
    (others : ∀ u, u ≠ t → s'.pc u = s.pc u) (mapped : s'.mapped = s.mapped) (own : s'.pc t = .map caller idx)
    (room : idx < laneMaxPages) (count : s.pageCount = idx) (grown : s'.pageCount = idx + 1) : Reserving s' index := by
  have mine {taken : Nat} (has : (s'.pc t).reserves = some taken) : taken = idx := by
    rw [own] at has
    exact (Option.some.inj has).symm
  have below {u : T} {taken : Nat} (other : u ≠ t) (has : (s'.pc u).reserves = some taken) : taken < idx := by
    rw [others u other] at has
    exact count ▸ (sound.reserved u taken has).1
  refine ⟨grown ▸ room, ?_, ?_, ?_, ?_, ?_⟩
  · intro u caller' idx' next
    by_cases same : u = t
    · rw [same, own] at next
      cases next
    · exact sound.ceiling u caller' idx' (others u same ▸ next)
  · intro page known
    have := sound.indexed page (mapped ▸ known)
    omega
  · intro page other first second
    exact sound.injective page other (mapped ▸ first) (mapped ▸ second)
  · intro u taken has
    by_cases same : u = t
    · obtain rfl := mine (same ▸ has)
      refine ⟨by omega, fun page known => ?_⟩
      have := sound.indexed page (mapped ▸ known)
      omega
    · have := below same has
      rw [mapped]
      exact ⟨by omega, (sound.reserved u taken (others u same ▸ has)).2⟩
  · intro u v taken first second
    by_cases left : u = t
    · by_cases right : v = t
      · rw [left, right]
      · have := mine (left ▸ first)
        have := below right second
        omega
    · by_cases right : v = t
      · have := mine (right ▸ second)
        have := below left first
        omega
      · exact sound.alone u v taken (others u left ▸ first) (others v right ▸ second)

/-- The index that is given back was the last one. -/
theorem Reserving.giveBack {idx : Nat} (sound : Reserving s index) (others : ∀ u, u ≠ t → s'.pc u = s.pc u)
    (mapped : s'.mapped = s.mapped) (own : s'.pc t = .out) (mine : (s.pc t).reserves = some idx)
    (last : idx + 1 = s.pageCount) (shrunk : s'.pageCount = idx) : Reserving s' index := by
  have few := sound.few
  have other {u : T} {taken : Nat} (has : (s'.pc u).reserves = some taken) :
      u ≠ t ∧ (s.pc u).reserves = some taken := by
    have apart : u ≠ t := by
      rintro rfl
      rw [own] at has
      cases has
    exact ⟨apart, others u apart ▸ has⟩
  refine ⟨by omega, ?_, ?_, ?_, ?_, fun u v taken first second =>
    sound.alone u v taken (other first).2 (other second).2⟩
  · intro u caller idx' next
    by_cases same : u = t
    · rw [same, own] at next
      cases next
    · exact sound.ceiling u caller idx' (others u same ▸ next)
  · intro page known
    have below := sound.indexed page (mapped ▸ known)
    have free := (sound.reserved t idx mine).2 page (mapped ▸ known)
    omega
  · intro page other first second
    exact sound.injective page other (mapped ▸ first) (mapped ▸ second)
  · intro u taken has
    obtain ⟨apart, had⟩ := other has
    obtain ⟨below, free⟩ := sound.reserved u taken had
    have unlike : taken ≠ idx := fun same => apart (sound.alone u t idx (same ▸ had) mine)
    rw [mapped]
    exact ⟨by omega, free⟩

/-- The index that the thread had reserved goes to the new page. -/
theorem Reserving.map {idx : Nat} (sound : Reserving s index) (others : ∀ u, u ≠ t → s'.pc u = s.pc u)
    (count : s'.pageCount = s.pageCount) (mapped : s'.mapped = s.mapped + 1) (mine : (s.pc t).reserves = some idx)
    (none : (s'.pc t).reserves = none) (beyond : ∀ caller idx, s'.pc t ≠ .reserve caller idx) :
    Reserving s' (Function.update index s.mapped idx) := by
  obtain ⟨below, free⟩ := sound.reserved t idx mine
  have other {u : T} {taken : Nat} (has : (s'.pc u).reserves = some taken) :
      u ≠ t ∧ (s.pc u).reserves = some taken := by
    have apart : u ≠ t := by
      rintro rfl
      rw [none] at has
      cases has
    exact ⟨apart, others u apart ▸ has⟩
  have pages {page : Nat} (known : page < s'.mapped) :
      (page = s.mapped ∧ Function.update index s.mapped idx page = idx) ∨
      (page < s.mapped ∧ Function.update index s.mapped idx page = index page) := by
    by_cases new : page = s.mapped
    · exact .inl ⟨new, by rw [new, Function.update_self]⟩
    · exact .inr ⟨by omega, Function.update_of_ne new ..⟩
  refine ⟨count ▸ sound.few, ?_, ?_, ?_, ?_, fun u v taken first second =>
    sound.alone u v taken (other first).2 (other second).2⟩
  · intro u caller idx' next
    by_cases same : u = t
    · exact absurd (same ▸ next) (beyond caller idx')
    · exact sound.ceiling u caller idx' (others u same ▸ next)
  · intro page known
    obtain ⟨-, same⟩ | ⟨old, same⟩ := pages known
    · omega
    · have := sound.indexed page old
      omega
  · intro page second known known' equal
    obtain ⟨new, same⟩ | ⟨old, same⟩ := pages known
    · obtain ⟨new', -⟩ | ⟨old', same'⟩ := pages known'
      · rw [new, new']
      · exact absurd (by omega) (free second old')
    · obtain ⟨-, same'⟩ | ⟨old', same'⟩ := pages known'
      · exact absurd (by omega) (free page old)
      · exact sound.injective page second old old' (by omega)
  · intro u taken has
    obtain ⟨apart, had⟩ := other has
    obtain ⟨low, unused⟩ := sound.reserved u taken had
    refine ⟨by omega, fun page known => ?_⟩
    obtain ⟨-, same⟩ | ⟨old, same⟩ := pages known
    · exact fun equal => apart (sound.alone u t idx (by rw [had]; congr 1; omega) mine)
    · rw [same]
      exact unused page old

/-- The new page is known to the thread that mapped it alone. -/
theorem Building.map {idx : Nat} (sound : Building s index) (others : ∀ u, u ≠ t → s'.pc u = s.pc u)
    (mapped : s'.mapped = s.mapped + 1) (own : (s'.pc t).builds = some (idx, s.mapped, 0))
    (visits : (s'.pc t).visits = none)
    (numbers : ∀ page j, page < s.mapped → (s'.lane (page, j)).slotIndex = (s.lane (page, j)).slotIndex)
    (links : ∀ page, s'.Link page → s.Link page) : Building s' (Function.update index s.mapped idx) := by
  have builds {u : T} {idx' page i : Nat} (has : (s'.pc u).builds = some (idx', page, i)) :
      (u = t ∧ idx' = idx ∧ page = s.mapped ∧ i = 0) ∨ (page < s.mapped ∧ (s.pc u).builds = some (idx', page, i)) := by
    by_cases same : u = t
    · rw [same, own] at has
      cases has
      exact .inl ⟨same, rfl, rfl, rfl⟩
    · rw [others u same] at has
      exact .inr ⟨(sound.building u idx' page i has).1, has⟩
  have kept {page : Nat} (old : page < s.mapped) : Function.update index s.mapped idx page = index page :=
    Function.update_of_ne (Nat.ne_of_lt old) ..
  refine ⟨?_, ?_, ?_, ?_⟩
  · intro u idx' page i has
    obtain ⟨-, rfl, rfl, rfl⟩ | ⟨old, had⟩ := builds has
    · exact ⟨by omega, Function.update_self .., fun j impossible => absurd impossible (Nat.not_lt_zero _)⟩
    · obtain ⟨-, indexed, set⟩ := sound.building u idx' page i had
      rw [kept old]
      exact ⟨by omega, indexed, fun j before => by rw [numbers page j old, set j before]⟩
  · intro u v idx₁ idx₂ page i₁ i₂ first second
    obtain ⟨left, -, new, -⟩ | ⟨old, had⟩ := builds first
    · obtain ⟨right, -⟩ | ⟨old', -⟩ := builds second
      · rw [left, right]
      · omega
    · obtain ⟨-, -, new, -⟩ | ⟨-, had'⟩ := builds second
      · omega
      · exact sound.builder u v idx₁ idx₂ page i₁ i₂ had had'
  · intro page link
    obtain ⟨known, numbered, free⟩ := sound.linked page (links page link)
    refine ⟨by omega, fun j => by rw [numbers page j known, kept known, numbered], fun u idx' i has => ?_⟩
    obtain ⟨-, -, new, -⟩ | ⟨-, had⟩ := builds has
    · omega
    · exact free u idx' i had
  · intro u page has
    by_cases same : u = t
    · rw [same, visits] at has
      cases has
    · have := sound.visiting u page (others u same ▸ has)
      omega

/-- One more lane of the page that the thread builds has its number. -/
theorem Building.init {idx page : Nat} {i : Fin lanePageSize} (sound : Building s index)
    (others : ∀ u, u ≠ t → s'.pc u = s.pc u) (mapped : s'.mapped = s.mapped)
    (before : (s.pc t).builds = some (idx, page, i.val)) (own : (s'.pc t).builds = some (idx, page, i.val + 1))
    (visits : (s'.pc t).visits = none) (numbered : (s'.lane (page, i)).slotIndex = idx * lanePageSize + i)
    (numbers : ∀ id, id ≠ (page, i) → (s'.lane id).slotIndex = (s.lane id).slotIndex)
    (links : ∀ page, s'.Link page → s.Link page) : Building s' index := by
  obtain ⟨known, indexed, set⟩ := sound.building t idx page i before
  have elsewhere {other : Nat} (apart : other ≠ page) (j : Fin lanePageSize) :
      (s'.lane (other, j)).slotIndex = (s.lane (other, j)).slotIndex :=
    numbers _ fun same => apart (congrArg Prod.fst same)
  have builds {u : T} {idx' other k : Nat} (has : (s'.pc u).builds = some (idx', other, k)) :
      (u = t ∧ idx' = idx ∧ other = page ∧ k = i.val + 1) ∨
        (u ≠ t ∧ other ≠ page ∧ (s.pc u).builds = some (idx', other, k)) := by
    by_cases same : u = t
    · rw [same, own] at has
      cases has
      exact .inl ⟨same, rfl, rfl, rfl⟩
    · rw [others u same] at has
      refine .inr ⟨same, fun equal => same ?_, has⟩
      exact sound.builder u t idx' idx page k i (equal ▸ has) before
  refine ⟨?_, ?_, ?_, ?_⟩
  · intro u idx' other k has
    obtain ⟨rfl, rfl, rfl, rfl⟩ | ⟨-, apart, had⟩ := builds has
    · refine ⟨mapped ▸ known, indexed, fun j below => ?_⟩
      by_cases last : j = i
      · rw [last, numbered]
      · have earlier : j.val < i.val := by
          have := Fin.val_ne_of_ne last
          omega
        rw [numbers _ fun same => last (congrArg Prod.snd same), set j earlier]
    · obtain ⟨old, same, set'⟩ := sound.building u idx' other k had
      exact ⟨mapped ▸ old, same, fun j below => by rw [elsewhere apart, set' j below]⟩
  · intro u v idx₁ idx₂ other k₁ k₂ first second
    obtain ⟨left, -, same, -⟩ | ⟨-, apart, had⟩ := builds first
    · obtain ⟨right, -⟩ | ⟨-, apart, -⟩ := builds second
      · rw [left, right]
      · exact absurd same apart
    · obtain ⟨-, -, same, -⟩ | ⟨-, -, had'⟩ := builds second
      · exact absurd same apart
      · exact sound.builder u v idx₁ idx₂ other k₁ k₂ had had'
  · intro other link
    obtain ⟨old, finished, free⟩ := sound.linked other (links other link)
    have apart : other ≠ page := by
      rintro rfl
      exact free t idx i before
    refine ⟨mapped ▸ old, fun j => by rw [elsewhere apart, finished], fun u idx' k has => ?_⟩
    obtain ⟨-, -, same, -⟩ | ⟨-, -, had⟩ := builds has
    · exact apart same
    · exact free u idx' k had
  · intro u other has
    rw [mapped]
    by_cases same : u = t
    · rw [same, visits] at has
      cases has
    · exact sound.visiting u other (others u same ▸ has)

end Moves

section Pages

variable {s s' : Catalog T}

def Numbered (s : Catalog T) : Prop := ∃ index, Reserving s index ∧ Building s index

theorem lane_setLane (page : Nat) (i : Fin lanePageSize) (lane : Lane) (id : LaneId) :
    (s.setLane page i lane).lane id = if id = (page, i) then lane else s.lane id := by
  obtain ⟨other, j⟩ := id
  by_cases same : other = page
  · subst same
    by_cases place : j = i
    · simp [Catalog.lane, setLane, setPage, place]
    · simp [Catalog.lane, setLane, setPage, place]
  · simp [Catalog.lane, setLane, setPage, same]

/-- The links behind a change of one page. -/
theorem link_setPage {page other : Nat} {content : LanePage} (link : (s.setPage page content).Link other) :
    s.Link other ∨ content.next = some other := by
  obtain first | ⟨before, next⟩ := link
  · exact .inl (.inl first)
  · by_cases same : before = page
    · subst same
      exact .inr (by simpa [setPage] using next)
    · exact .inl (.inr ⟨before, by simpa [setPage, same] using next⟩)

theorem link_setLane {page other : Nat} {i : Fin lanePageSize} {lane : Lane}
    (link : (s.setLane page i lane).Link other) :
    s.Link other :=
  (link_setPage link).elim id fun next => .inr ⟨page, next⟩

theorem Numbered.known (sound : Numbered s) {page : Nat} (link : s.Link page) : page < s.mapped :=
  let ⟨_, _, building⟩ := sound
  (building.linked page link).known

/-- A change of what the numbers do not depend on. -/
theorem Numbered.quiet (t : T) (sound : Numbered s) (pc : s'.pc = s.pc) (count : s'.pageCount = s.pageCount)
    (mapped : s'.mapped = s.mapped) (numbers : ∀ id, (s'.lane id).slotIndex = (s.lane id).slotIndex)
    (links : ∀ page, s'.Link page → s.Link page) : Numbered s' := by
  obtain ⟨index, reserving, building⟩ := sound
  have others (u : T) (_ : u ≠ t) : s'.pc u = s.pc u := by rw [pc]
  refine ⟨index, reserving.move others count mapped ?_ ?_, building.move others mapped numbers ?_ ?_ fun page link =>
    .inl (links page link)⟩
  · exact fun idx has => pc ▸ has
  · exact fun caller idx next => reserving.ceiling t caller idx (pc ▸ next)
  · exact fun idx page i has => ⟨i, pc ▸ has, fun _ => id⟩
  · exact fun page has => building.visiting t page (pc ▸ has)

theorem Numbered.same (t : T) (sound : Numbered s) (heap : s'.heap = s.heap) (pages : s'.pages = s.pages)
    (pc : s'.pc = s.pc)
    (count : s'.pageCount = s.pageCount) (mapped : s'.mapped = s.mapped) : Numbered s' := by
  refine sound.quiet t pc count mapped (fun id => ?_) fun page link => ?_
  · rw [Catalog.lane, heap, Catalog.lane]
  · rwa [Link, heap, pages] at link

theorem Numbered.setLane (t : T) (sound : Numbered s) {page : Nat} {i : Fin lanePageSize} {lane : Lane}
    (same : lane.slotIndex = (s.lane (page, i)).slotIndex) : Numbered (s.setLane page i lane) := by
  refine sound.quiet t rfl rfl rfl (fun id => ?_) fun _ => link_setLane
  rw [lane_setLane]
  split
  next at_ => rw [same, at_]
  next => rfl

/-- A page of which only the link changes. -/
theorem lane_relink (page : Nat) (next : Option Nat) (id : LaneId) :
    (s.setPage page { s.heap page with next := next }).lane id = s.lane id := by
  by_cases same : id.1 = page
  · simp [Catalog.lane, setPage, same]
  · simp [Catalog.lane, setPage, same]

end Pages

section Steps

variable [DecidableEq T] {s s' : Catalog T} {t : T} {caller : Caller} {idx page : Nat}

/-- A thread goes on without taking an index or a page. -/
theorem Numbered.goto (sound : Numbered s) {pc : Pc}
    (reserves : ∀ idx, pc.reserves = some idx → (s.pc t).reserves = some idx)
    (ceiling : ∀ caller idx, pc = .reserve caller idx → idx < laneMaxPages)
    (builds : ∀ idx page i, pc.builds = some (idx, page, i) → ∃ k, (s.pc t).builds = some (idx, page, k) ∧
      ∀ j : Fin lanePageSize, j.val < i → j.val < k)
    (visits : ∀ page, pc.visits = some page → page < s.mapped) : Numbered (s.goto t pc) := by
  obtain ⟨index, reserving, building⟩ := sound
  have own : (s.goto t pc).pc t = pc := Function.update_self ..
  have others (u : T) (other : u ≠ t) : (s.goto t pc).pc u = s.pc u := Function.update_of_ne other ..
  refine ⟨index, reserving.move others rfl rfl ?_ ?_, building.move others rfl (fun _ => rfl) ?_ ?_ fun _ => .inl⟩
  · exact own.symm ▸ reserves
  · exact own.symm ▸ ceiling
  · exact own.symm ▸ builds
  · exact own.symm ▸ visits

theorem Numbered.visit (sound : Numbered s) {tid : Int32} {attempt : Nat} {found : Option Nat}
    (link : ∀ page, found = some page → s.Link page) : Numbered (s.goto t (.visit tid attempt found)) := by
  cases found with
  | none => exact sound.goto nofun nofun nofun nofun
  | some page =>
    refine sound.goto nofun nofun nofun fun other same => ?_
    cases same
    exact sound.known (link _ rfl)

theorem Numbered.resume (sound : Numbered s) (caller : Caller) : Numbered (s.goto t caller.resume) := by
  unfold Caller.resume
  split
  · exact sound.goto nofun nofun nofun nofun
  · split
    · exact sound.goto nofun nofun nofun nofun
    · exact sound.goto nofun nofun nofun nofun

/-- The page that a thread has built is linked as the thread leaves it. -/
theorem Numbered.splice (sound : Numbered s)
    (built : (s.pc t).builds = some (idx, page, lanePageSize))
    (pc : s'.pc = Function.update s.pc t (.append caller page))
    (count : s'.pageCount = s.pageCount) (mapped : s'.mapped = s.mapped)
    (numbers : ∀ id, (s'.lane id).slotIndex = (s.lane id).slotIndex)
    (links : ∀ other, s'.Link other → s.Link other ∨ other = page) : Numbered s' := by
  obtain ⟨index, reserving, building⟩ := sound
  have own : s'.pc t = .append caller page := by rw [pc, Function.update_self]
  have others (u : T) (other : u ≠ t) : s'.pc u = s.pc u := by rw [pc, Function.update_of_ne other]
  refine ⟨index, reserving.move others count mapped ?_ ?_,
    building.move others mapped numbers ?_ ?_ fun other link => ?_⟩
  · exact own.symm ▸ nofun
  · exact own.symm ▸ nofun
  · exact own.symm ▸ nofun
  · exact own.symm ▸ nofun
  · obtain old | rfl := links other link
    · exact .inl old
    · exact .inr ⟨idx, built, by rw [own]; rfl⟩

/-- A thread goes on with the page that it has built. -/
theorem Numbered.carry (sound : Numbered s) {pc : Pc} (built : (s.pc t).builds = some (idx, page, lanePageSize))
    (still : pc.builds = some (idx, page, lanePageSize)) (reserves : pc.reserves = none) (visits : pc.visits = none)
    (beyond : ∀ caller idx, pc ≠ .reserve caller idx) : Numbered (s.goto t pc) := by
  refine sound.goto (fun other same => ?_) (fun caller idx same => absurd same (beyond caller idx))
    (fun idx' page' i same => ?_) (fun other same => ?_)
  · cases reserves.symm.trans same
  · cases still.symm.trans same
    exact ⟨_, built, fun _ => id⟩
  · cases visits.symm.trans same

theorem Numbered.reserve (sound : Numbered s) (at_ : s.pc t = .reserve caller idx) (count : s.pageCount = idx) :
    Numbered ({ s with pageCount := idx + 1 }.goto t (.map caller idx)) := by
  obtain ⟨index, reserving, building⟩ := sound
  have own : ({ s with pageCount := idx + 1 }.goto t (.map caller idx)).pc t = .map caller idx :=
    Function.update_self ..
  have others (u : T) (other : u ≠ t) : ({ s with pageCount := idx + 1 }.goto t (.map caller idx)).pc u = s.pc u :=
    Function.update_of_ne other ..
  refine ⟨index, reserving.reserve others rfl own (reserving.ceiling t caller idx at_) count rfl,
    building.move others rfl (fun _ => rfl) ?_ ?_ fun _ => .inl⟩
  · exact own.symm ▸ nofun
  · exact own.symm ▸ nofun

theorem Numbered.map (sound : Numbered s) (mine : (s.pc t).reserves = some idx) :
    Numbered ({ s.setPage s.mapped {} with mapped := s.mapped + 1 }.goto t (.init caller idx s.mapped 0)) := by
  obtain ⟨index, reserving, building⟩ := sound
  have own : ({ s.setPage s.mapped {} with mapped := s.mapped + 1 }.goto t (.init caller idx s.mapped 0)).pc t =
    .init caller idx s.mapped 0 := Function.update_self ..
  have others (u : T) (other : u ≠ t) :
      ({ s.setPage s.mapped {} with mapped := s.mapped + 1 }.goto t (.init caller idx s.mapped 0)).pc u = s.pc u :=
    Function.update_of_ne other ..
  refine ⟨_, reserving.map others rfl rfl mine ?_ ?_, building.map others rfl ?_ ?_ ?_ ?_⟩
  · rw [own]; rfl
  · exact own.symm ▸ nofun
  · rw [own]; rfl
  · rw [own]; rfl
  · intro page j old
    have apart : page ≠ s.mapped := Nat.ne_of_lt old
    simp [Catalog.lane, Catalog.goto, setPage, apart]
  · intro page link
    have before : (s.setPage s.mapped {}).Link page := link
    exact (link_setPage before).resolve_right nofun

theorem Numbered.giveBack (sound : Numbered s) (at_ : s.pc t = .giveBack idx) (last : idx + 1 = s.pageCount) :
    Numbered ({ s with pageCount := s.pageCount - 1 }.goto t .out) := by
  obtain ⟨index, reserving, building⟩ := sound
  have mine : (s.pc t).reserves = some idx := by rw [at_]; rfl
  have own : ({ s with pageCount := s.pageCount - 1 }.goto t .out).pc t = .out := Function.update_self ..
  have others (u : T) (other : u ≠ t) : ({ s with pageCount := s.pageCount - 1 }.goto t .out).pc u = s.pc u :=
    Function.update_of_ne other ..
  have shrunk : ({ s with pageCount := s.pageCount - 1 }.goto t .out).pageCount = idx := by
    show s.pageCount - 1 = idx
    omega
  refine ⟨index, reserving.giveBack others rfl own mine last shrunk,
    building.move others rfl (fun _ => rfl) ?_ ?_ fun _ => .inl⟩
  · exact own.symm ▸ nofun
  · exact own.symm ▸ nofun

theorem Numbered.init (sound : Numbered s) {i : Fin lanePageSize} {lane : Lane}
    (built : (s.pc t).builds = some (idx, page, i.val)) (numbered : lane.slotIndex = idx * lanePageSize + i) :
    Numbered ((s.setLane page i lane).goto t (.init caller idx page (i + 1))) := by
  obtain ⟨index, reserving, building⟩ := sound
  have own : ((s.setLane page i lane).goto t (.init caller idx page (i + 1))).pc t = .init caller idx page (i + 1) :=
    Function.update_self ..
  have others (u : T) (other : u ≠ t) : ((s.setLane page i lane).goto t (.init caller idx page (i + 1))).pc u =
      s.pc u :=
    Function.update_of_ne other ..
  have lanes (id : LaneId) : ((s.setLane page i lane).goto t (.init caller idx page (i + 1))).lane id =
    if id = (page, i) then lane else s.lane id := lane_setLane ..
  refine ⟨index, reserving.move others rfl rfl ?_ ?_, building.init others rfl built ?_ ?_ ?_ ?_
    fun other (link : (s.setLane page i lane).Link other) => link_setLane link⟩
  · exact own.symm ▸ nofun
  · exact own.symm ▸ nofun
  · rw [own]; rfl
  · rw [own]; rfl
  · rw [lanes, if_pos rfl, numbered]
  · intro id apart
    rw [lanes, if_neg apart]

theorem Numbered.advance (sound : Numbered s) {granted : Bool} (last : LastGivenBack s (.advance t granted))
    (taken : s.advance t granted = some s') : Numbered s' := by
  cases at_ : s.pc t with
  | out =>
    simp only [Catalog.advance, at_] at taken
    cases taken
  | first tid attempt =>
    simp only [Catalog.advance, at_] at taken
    cases taken
    exact sound.visit fun page first => .inl first
  | probe tid attempt page i =>
    have here : page < s.mapped := by
      obtain ⟨_, _, building⟩ := sound
      exact building.visiting t page (by rw [at_]; rfl)
    simp only [Catalog.advance, at_] at taken
    split at taken
    · cases taken
      refine Numbered.goto ?_ nofun nofun nofun nofun
      have set : Numbered (s.setLane page (lanePlace tid i)
          { s.lane (page, lanePlace tid i) with active := 2, wakeFd := -1 }) :=
        sound.setLane t rfl
      exact set.same t rfl rfl rfl rfl rfl
    · split at taken
      · cases taken
        exact sound.goto nofun nofun nofun fun other same => Option.some.inj same ▸ here
      · cases taken
        exact sound.goto nofun nofun nofun fun other same => Option.some.inj same ▸ here
  | follow tid attempt page =>
    simp only [Catalog.advance, at_] at taken
    cases taken
    exact sound.visit fun other next => .inr ⟨page, next⟩
  | load caller =>
    simp only [Catalog.advance, at_] at taken
    split at taken
    · cases taken
      exact sound.goto nofun nofun nofun nofun
    next room =>
      cases taken
      refine sound.goto nofun (fun caller' idx same => ?_) nofun nofun
      cases same
      exact Nat.lt_of_not_le room
  | reserve caller idx =>
    simp only [Catalog.advance, at_] at taken
    split at taken
    next count =>
      cases taken
      exact sound.reserve at_ count
    next =>
      cases taken
      exact sound.goto nofun nofun nofun nofun
  | map caller idx =>
    have mine : (s.pc t).reserves = some idx := by rw [at_]; rfl
    simp only [Catalog.advance, at_] at taken
    split at taken
    · cases taken
      exact sound.map mine
    · cases taken
      refine sound.goto (fun other same => ?_) nofun nofun nofun
      rwa [mine]
  | giveBack idx =>
    simp only [Catalog.advance, at_] at taken
    cases taken
    exact sound.giveBack at_ (last idx at_)
  | init caller idx page i =>
    have built : (s.pc t).builds = some (idx, page, i) := by rw [at_]; rfl
    simp only [Catalog.advance, at_] at taken
    split at taken
    next bound =>
      cases taken
      exact Numbered.init sound (i := ⟨i, bound⟩) built rfl
    next full =>
      cases taken
      refine sound.goto nofun nofun (fun idx' page' k same => ?_) nofun
      cases same
      exact ⟨i, built, fun j _ => Nat.lt_of_lt_of_le j.isLt (Nat.le_of_not_lt full)⟩
  | lock caller idx page =>
    have built : (s.pc t).builds = some (idx, page, lanePageSize) := by rw [at_]; rfl
    simp only [Catalog.advance, at_] at taken
    split at taken
    · cases taken
      exact sound
    · cases taken
      refine Numbered.carry ?_ built rfl rfl rfl nofun
      exact sound.same t rfl rfl rfl rfl rfl
  | close caller idx page =>
    have built : (s.pc t).builds = some (idx, page, lanePageSize) := by rw [at_]; rfl
    simp only [Catalog.advance, at_] at taken
    cases taken
    refine Numbered.carry ?_ built rfl rfl rfl nofun
    refine sound.quiet t rfl rfl rfl (fun id => ?_) fun other link => (link_setPage link).resolve_right nofun
    rw [lane_relink]
  | aim caller idx page =>
    have built : (s.pc t).builds = some (idx, page, lanePageSize) := by rw [at_]; rfl
    simp only [Catalog.advance, at_] at taken
    cases taken
    exact sound.carry built rfl rfl rfl nofun
  | splice caller idx page tail =>
    have built : (s.pc t).builds = some (idx, page, lanePageSize) := by rw [at_]; rfl
    cases tail with
    | some before =>
      simp only [Catalog.advance, at_] at taken
      cases taken
      refine sound.splice built rfl rfl rfl (fun id => ?_) fun other link => ?_
      · exact congrArg Lane.slotIndex (lane_relink before (some page) id)
      · have set : (s.setPage before { s.heap before with next := some page }).Link other := link
        exact (link_setPage set).imp_right fun same => (Option.some.inj same).symm
    | none =>
      simp only [Catalog.advance, at_] at taken
      cases taken
      refine sound.splice built rfl rfl rfl (fun id => rfl) fun other link => ?_
      obtain first | later := link
      · exact .inr (Option.some.inj first).symm
      · exact .inl (.inr later)
  | append caller page =>
    simp only [Catalog.advance, at_] at taken
    cases taken
    refine Numbered.goto ?_ nofun nofun nofun nofun
    exact sound.same t rfl rfl rfl rfl rfl
  | unlock caller =>
    simp only [Catalog.advance, at_] at taken
    cases taken
    refine Numbered.resume ?_ caller
    exact sound.same t rfl rfl rfl rfl rfl

theorem Numbered.step (sound : Numbered s) {action : LaneAction T} (last : LastGivenBack s action)
    (taken : s.step action = some s') : Numbered s' := by
  cases action with
  | claimLane t tid =>
    obtain ⟨-, made⟩ := Option.ite_none_right_eq_some.mp taken
    cases made
    exact sound.goto nofun nofun nofun nofun
  | catalogGrow t =>
    obtain ⟨-, made⟩ := Option.ite_none_right_eq_some.mp taken
    cases made
    exact sound.goto nofun nofun nofun nofun
  | advance t granted => exact sound.advance last taken
  | publish t id =>
    obtain ⟨-, made⟩ := Option.ite_none_right_eq_some.mp taken
    cases made
    exact sound.setLane t rfl
  | release t id =>
    obtain ⟨-, made⟩ := Option.ite_none_right_eq_some.mp taken
    cases made
    have set : Numbered (s.setLane id.1 id.2 { s.lane id with active := 0 }) := sound.setLane t rfl
    exact set.same t rfl rfl rfl rfl rfl

end Steps

end Catalog

end Numbers

section Holding

variable {T : Type} {s s' : Catalog T}

namespace Catalog

/-- A lane that a thread has is not free, and no other thread has it. -/
structure Holding (s : Catalog T) : Prop where
  taken : ∀ t id, id ∈ s.held t → id.1 < s.mapped ∧ (s.lane id).active ≠ 0
  holders : ∀ t u id, id ∈ s.held t → id ∈ s.held u → t = u
  once : ∀ t, (s.held t).Nodup

/-- The lanes that are held keep their mark. -/
theorem Holding.keep (holding : Holding s) (held : s'.held = s.held) (mapped : s.mapped ≤ s'.mapped)
    (active : ∀ id : LaneId, id.1 < s.mapped → (s.lane id).active ≠ 0 → (s'.lane id).active ≠ 0) : Holding s' := by
  refine ⟨fun u id has => ?_, ?_, ?_⟩
  · rw [held] at has
    obtain ⟨known, busy⟩ := holding.taken u id has
    exact ⟨Nat.lt_of_lt_of_le known mapped, active id known busy⟩
  · exact held ▸ holding.holders
  · exact held ▸ holding.once

theorem Holding.setLane (holding : Holding s) {page : Nat} {i : Fin lanePageSize} {lane : Lane}
    (busy : (s.lane (page, i)).active ≠ 0 → lane.active ≠ 0) : Holding (s.setLane page i lane) := by
  refine holding.keep rfl (Nat.le_refl _) fun id _ held => ?_
  rw [lane_setLane]
  split
  next same => exact busy (same ▸ held)
  next => exact held

/-- A page of which only the link changes, or which is new. -/
theorem Holding.setPage (holding : Holding s) {page : Nat} {content : LanePage}
    (same : page < s.mapped → content.lanes = (s.heap page).lanes) : Holding (s.setPage page content) := by
  refine holding.keep rfl (Nat.le_refl _) fun id known busy => ?_
  by_cases here : id.1 = page
  · have lanes := same (here ▸ known)
    simpa [Catalog.lane, Catalog.setPage, here, lanes] using busy
  · simpa [Catalog.lane, Catalog.setPage, here] using busy

variable [DecidableEq T] {t : T}

/-- A lane that is free is with nobody, and is taken by one thread. -/
theorem Holding.claim (holding : Holding s) {id : LaneId} {lane : Lane} {pc : Pc} (known : id.1 < s.mapped)
    (free : (s.lane id).active = 0) (busy : lane.active ≠ 0) :
    Holding ({ s.setLane id.1 id.2 lane with held := Function.update s.held t (id :: s.held t) }.goto t pc) := by
  have nobody (u : T) : id ∉ s.held u := fun has => (holding.taken u id has).2 free
  have lanes (other : LaneId) : (s.setLane id.1 id.2 lane).lane other = if other = id then lane else s.lane other :=
    lane_setLane ..
  have had {u : T} {other : LaneId} (has : other ∈ Function.update s.held t (id :: s.held t) u) :
      (u = t ∧ other = id) ∨ (other ≠ id ∧ other ∈ s.held u) := by
    by_cases same : u = t
    · rw [same, Function.update_self] at has
      obtain new | old := List.mem_cons.mp has
      · exact .inl ⟨same, new⟩
      · exact .inr ⟨fun equal => nobody t (equal ▸ old), same ▸ old⟩
    · rw [Function.update_of_ne same] at has
      exact .inr ⟨fun equal => nobody u (equal ▸ has), has⟩
  refine ⟨fun u other has => ?_, fun u v other first second => ?_, fun u => ?_⟩
  · show other.1 < s.mapped ∧ ((s.setLane id.1 id.2 lane).lane other).active ≠ 0
    rw [lanes]
    obtain ⟨-, rfl⟩ | ⟨apart, old⟩ := had has
    · rw [if_pos rfl]
      exact ⟨known, busy⟩
    · rw [if_neg apart]
      exact holding.taken u other old
  · obtain ⟨left, new⟩ | ⟨apart, old⟩ := had first
    · obtain ⟨right, -⟩ | ⟨apart, -⟩ := had second
      · rw [left, right]
      · exact absurd new apart
    · obtain ⟨-, new⟩ | ⟨-, old'⟩ := had second
      · exact absurd new apart
      · exact holding.holders u v other old old'
  · show (Function.update s.held t (id :: s.held t) u).Nodup
    by_cases same : u = t
    · rw [same, Function.update_self]
      exact List.nodup_cons.mpr ⟨nobody t, holding.once t⟩
    · rw [Function.update_of_ne same]
      exact holding.once u

theorem Holding.release (holding : Holding s) {id : LaneId} {lane : Lane} (mine : id ∈ s.held t) :
    Holding { s.setLane id.1 id.2 lane with held := Function.update s.held t ((s.held t).erase id) } := by
  have lanes (other : LaneId) : (s.setLane id.1 id.2 lane).lane other = if other = id then lane else s.lane other :=
    lane_setLane ..
  have had {u : T} {other : LaneId} (has : other ∈ Function.update s.held t ((s.held t).erase id) u) :
      other ≠ id ∧ other ∈ s.held u := by
    by_cases same : u = t
    · rw [same, Function.update_self, (holding.once t).mem_erase_iff] at has
      exact same ▸ has
    · rw [Function.update_of_ne same] at has
      exact ⟨fun equal => same (holding.holders u t id (equal ▸ has) mine), has⟩
  refine ⟨fun u other has => ?_, fun u v other first second => ?_, fun u => ?_⟩
  · obtain ⟨apart, old⟩ := had has
    show other.1 < s.mapped ∧ ((s.setLane id.1 id.2 lane).lane other).active ≠ 0
    rw [lanes, if_neg apart]
    exact holding.taken u other old
  · exact holding.holders u v other (had first).2 (had second).2
  · show (Function.update s.held t ((s.held t).erase id) u).Nodup
    by_cases same : u = t
    · rw [same, Function.update_self]
      exact (holding.once t).erase id
    · rw [Function.update_of_ne same]
      exact holding.once u

theorem Holding.goto (holding : Holding s) (pc : Pc) : Holding (s.goto t pc) :=
  holding.keep rfl (Nat.le_refl _) fun _ _ => id

theorem Holding.advance (sound : Numbered s) (holding : Holding s) {granted : Bool}
    (taken : s.advance t granted = some s') : Holding s' := by
  cases at_ : s.pc t with
  | probe tid attempt page i =>
    have here : page < s.mapped := by
      obtain ⟨_, _, building⟩ := sound
      exact building.visiting t page (by rw [at_]; rfl)
    simp only [Catalog.advance, at_] at taken
    split at taken
    next free =>
      cases taken
      exact holding.claim here free (Nat.succ_ne_zero 1)
    next =>
      split at taken
      · cases taken
        exact holding.goto _
      · cases taken
        exact holding.goto _
  | load | reserve | lock =>
    simp only [Catalog.advance, at_] at taken
    split at taken
    all_goals
      cases taken
      exact holding.keep rfl (Nat.le_refl _) fun _ _ => id
  | map caller idx =>
    simp only [Catalog.advance, at_] at taken
    split at taken
    · cases taken
      have set : Holding (s.setPage s.mapped {}) := holding.setPage fun known => absurd known (Nat.lt_irrefl _)
      exact set.keep rfl (Nat.le_succ _) fun _ _ => id
    · cases taken
      exact holding.goto _
  | init caller idx page i =>
    simp only [Catalog.advance, at_] at taken
    split at taken
    · cases taken
      refine Holding.goto ?_ _
      exact holding.setLane fun busy => busy
    · cases taken
      exact holding.goto _
  | close caller idx page =>
    simp only [Catalog.advance, at_] at taken
    cases taken
    refine Holding.goto ?_ _
    exact holding.setPage fun _ => rfl
  | splice caller idx page tail =>
    cases tail with
    | some before =>
      simp only [Catalog.advance, at_] at taken
      cases taken
      refine Holding.goto ?_ _
      exact holding.setPage fun _ => rfl
    | none =>
      simp only [Catalog.advance, at_] at taken
      cases taken
      exact holding.keep rfl (Nat.le_refl _) fun _ _ => id
  | _ =>
    simp only [Catalog.advance, at_] at taken
    cases taken
    all_goals exact holding.keep rfl (Nat.le_refl _) fun _ _ => id

theorem Holding.step (sound : Numbered s) (holding : Holding s) {action : LaneAction T}
    (taken : s.step action = some s') :
    Holding s' := by
  cases action with
  | claimLane t tid =>
    obtain ⟨-, made⟩ := Option.ite_none_right_eq_some.mp taken
    cases made
    exact holding.goto _
  | catalogGrow t =>
    obtain ⟨-, made⟩ := Option.ite_none_right_eq_some.mp taken
    cases made
    exact holding.goto _
  | advance t granted => exact holding.advance sound taken
  | publish t id =>
    obtain ⟨-, made⟩ := Option.ite_none_right_eq_some.mp taken
    cases made
    exact holding.setLane fun _ => Nat.one_ne_zero
  | release t id =>
    obtain ⟨mine, made⟩ := Option.ite_none_right_eq_some.mp taken
    cases made
    exact holding.release mine

end Catalog

end Holding

section Results

variable {T : Type}

namespace Catalog

theorem Numbered.start : Numbered ({} : Catalog T) := by
  refine ⟨id, ⟨Nat.zero_le _, nofun, nofun, nofun, nofun, nofun⟩, nofun, nofun, ?_, nofun⟩
  rintro page (first | ⟨other, next⟩)
  · cases first
  · cases next

/-- The catalog is as it should be once each index belongs to one page and each lane to one thread. -/
theorem Numbered.distinct {s : Catalog T} (sound : Numbered s) (holding : Holding s) : Distinct s := by
  obtain ⟨index, reserving, building⟩ := sound
  refine ⟨?_, ?_, holding.holders, holding.once⟩
  · rintro ⟨page, i⟩ ⟨other, j⟩ first second equal
    obtain ⟨known, numbered, -⟩ := building.linked page first.link
    obtain ⟨known', numbered', -⟩ := building.linked other second.link
    rw [numbered, numbered'] at equal
    simp only [lanePageSize] at equal
    have indices : index page = index other := by omega
    obtain rfl := reserving.injective page other known known' indices
    have places : i = j := Fin.ext (by omega)
    rw [places]
  · rintro ⟨page, i⟩ linked
    obtain ⟨known, numbered, -⟩ := building.linked page linked.link
    have below := reserving.indexed page known
    have few := reserving.few
    rw [numbered]
    simp only [lanePageSize, laneMaxPages] at few ⊢
    omega

variable [DecidableEq T]

/-- In every run in which an index is given back only while no later one is reserved, the numbers of the lanes are
distinct and below the ceiling, and no lane is with two threads, in every state reached. -/
theorem reached_distinct {s : Catalog T} (reached : Reached Catalog.step LastGivenBack {} s) : Distinct s := by
  have both : Numbered s ∧ Holding s := by
    apply reached.invariant (P := fun s => Numbered s ∧ Holding s)
    · exact ⟨Numbered.start, nofun, nofun, fun _ => List.nodup_nil⟩
    · rintro s action s' ⟨sound, holding⟩ last taken
      exact ⟨sound.step last taken, holding.step sound taken⟩
  exact both.1.distinct both.2

instance (s : Catalog T) (action : LaneAction T) : Decidable (LastGivenBack s action) :=
  match action with
  | .advance t _ =>
    match at_ : s.pc t with
    | .giveBack idx =>
      decidable_of_iff (idx + 1 = s.pageCount)
        ⟨fun last _ same => Pc.giveBack.inj (at_.symm.trans same) ▸ last, fun last => last idx at_⟩
    | .out | .first .. | .probe .. | .follow .. | .load .. | .reserve .. | .map .. | .init .. | .lock .. |
        .close .. | .aim ..
    | .splice .. | .append .. | .unlock .. => .isTrue fun _ same => nomatch at_.symm.trans same
  | .claimLane .. | .catalogGrow .. | .publish .. | .release .. => .isTrue trivial

/-- A growth up to its mapping. -/
def reserving (t : Fin 3) : List (LaneAction (Fin 3)) := [.catalogGrow t, .advance t true, .advance t true]

/-- The mapping and all that follows it. -/
def building (t : Fin 3) : List (LaneAction (Fin 3)) := List.replicate 136 (.advance t true)

/-- The first thread gives its index back while the second one has a later one, which the third one reserves again. -/
def doubled : List (LaneAction (Fin 3)) :=
  reserving 0 ++ reserving 1 ++ [.advance 0 false, .advance 0 false] ++ building 1 ++ reserving 2 ++ building 2

/-- Two pages have the same numbers. -/
theorem doubled_numbers : ¬ ∀ s : Catalog (Fin 3), Reached Catalog.step Unrestricted {} s → Distinct s := by
  intro distinct
  have seen : (replay Catalog.step Unrestricted {} doubled).map
      (fun s => (s.pages, (s.heap 0).next, (s.lane (0, 0)).slotIndex, (s.lane (1, 0)).slotIndex)) =
      some (some 0, some 1, 128, 128) := by
    decide +kernel
  obtain ⟨s, replayed, view⟩ := Option.map_eq_some_iff.mp seen
  simp only [Prod.mk.injEq] at view
  obtain ⟨first, next, left, right⟩ := view
  have head : Linked s 0 := .head first
  have same := (distinct s (replay_reached .refl replayed)).numbers (0, 0) (1, 0) head (.next head next)
      (left.trans right.symm)
  cases same

/-- One growth fails and gives its index back; another thread then grows the catalog and is returned a lane. -/
def regrown : List (LaneAction (Fin 3)) :=
  reserving 0 ++ [.advance 0 false, .advance 0 false] ++ [.claimLane 1 7, .advance 1 true, .advance 1 true,
    .advance 1 true] ++
    building 1 ++ [.advance 1 true, .advance 1 true]

theorem regrown_distinct : ∃ s : Catalog (Fin 3),
    Reached Catalog.step LastGivenBack {} s ∧ (s.held 1).length = 1 ∧ Distinct s := by
  have seen : (replay Catalog.step LastGivenBack {} regrown).map (fun s => (s.held 1).length) = some 1 := by
    decide +kernel
  obtain ⟨s, replayed, view⟩ := Option.map_eq_some_iff.mp seen
  have reached : Reached Catalog.step LastGivenBack {} s := replay_reached .refl replayed
  exact ⟨s, reached, view, reached_distinct reached⟩

end Catalog

end Results

end Darling.Ring
