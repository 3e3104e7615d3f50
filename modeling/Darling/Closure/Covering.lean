import Darling.Library.Texts
import Darling.Library.Traversals
import Darling.Closure.Reexports

/-! `cover_closure` of `closure_analyze.py`: the images that the entries load, and a label for each of their
imports. What is on the disk is a parameter: the slices of the images, their exports and re-exports, and the answers
of the resolver. -/
namespace Darling.Covering

open Texts (Text)
open Traversals (Visiting)

section Data

structure Dylib where
  installName : Text
  weak : Bool
  reexport : Bool
  deriving DecidableEq

/-- An import as its table has it. -/
structure Bind where
  name : Text
  libOrdinal : Int
  weak : Bool
  eager : Bool
  deriving DecidableEq

/-- What `guest_slice` and the readers of the import tables find. -/
structure Slice where
  defined : Bool
  twolevel : Bool
  dylibId : Option Text
  dylibs : List Dylib
  binds : List Bind
  deriving DecidableEq

/-- `detail["names"]` and `detail["aliases"]`. -/
structure Exports where
  names : List Text
  aliases : List Text
  deriving DecidableEq

/-- What `workload_entry` reads from a run log. -/
structure RunLog where
  entries : List Text
  dlopens : List Text
  executable : Option Text
  deriving DecidableEq

structure Guest where
  isFile : Text → Bool
  runLog : Text → Option RunLog
  slice : Text → Option Slice
  /-- `guest_resolver`: an install name, the image that names it and the images that led there. -/
  resolver : Text → Option Text → List Text → Option Text
  exportsDetail : Text → Exports
  reexportsOf : Text → List Text
  real : Text → Text

/-- A resolved path, if it is not empty. -/
def Guest.resolve (g : Guest) (installName : Text) (referrer : Option Text) (rpathFrom : List Text) : Option Text :=
  (g.resolver installName referrer rpathFrom).filter (· ≠ [])

end Data

section Imports

/-- `os.path.basename`. -/
def basename (path : Text) : Text := (path.reverse.takeWhile (· ≠ '/')).reverse

/-- `column_key`: the leaf of an install name up to the first dot. -/
def columnKey (installName : Text) : Text := (basename installName).takeWhile (· ≠ '.')

/-- `SPECIAL_ORDINALS`. -/
inductive Special where
  | self
  | mainExecutable
  | flatLookup
  | weakLookup
  | ordinal (ordinal : Int)
  deriving DecidableEq

def specialOf (ordinal : Int) : Special :=
  if ordinal = 0 then .self
  else if ordinal = -1 then .mainExecutable
  else if ordinal = -2 then .flatLookup
  else if ordinal = -3 then .weakLookup
  else .ordinal ordinal

structure Import extends Bind where
  field : Option Text
  special : Option Special
  deriving DecidableEq

structure ImageImports where
  dylibs : List Dylib
  dylibId : Option Text
  imports : List Import
  deriving DecidableEq

/-- The field of an import, or the special ordinal. -/
def fieldOf (slice : Slice) (bind : Bind) : Import :=
  if !slice.twolevel then { bind with field := none, special := some .flatLookup }
  else if 1 ≤ bind.libOrdinal ∧ bind.libOrdinal ≤ slice.dylibs.length then
    { bind with field := (slice.dylibs[(bind.libOrdinal - 1).toNat]?).map (columnKey ·.installName), special := none }
  else { bind with field := none, special := some (specialOf bind.libOrdinal) }

variable (g : Guest)

/-- `image_imports`. -/
def imageImports (path : Text) : ImageImports :=
  match g.slice path with
  | none => ⟨[], none, []⟩
  | some slice => if !slice.defined then ⟨[], none, []⟩ else ⟨slice.dylibs, slice.dylibId,
      slice.binds.map (fieldOf slice)⟩

/-- `imports["dylib_id"] or path`. -/
def nameOf (path : Text) : Text := ((imageImports g path).dylibId.filter (· ≠ [])).getD path

end Imports

section Entries

inductive Source where
  | argument
  | runLog
  | dlopen
  deriving DecidableEq

structure Entry where
  entry : Text
  path : Option Text
  source : Source
  deriving DecidableEq

variable (g : Guest)

/-- A path, or the path that the resolver has for a name. -/
def fileOr (entry : Text) : Option Text := if g.isFile entry then some entry else g.resolve entry none []

/-- The rows that an argument adds to `graph["entries"]`. -/
def entryRows (entry : Text) : List Entry :=
  match if g.isFile entry then g.runLog entry else none with
  | some log =>
    log.entries.map (fun logEntry => ⟨logEntry, fileOr g logEntry, .runLog⟩) ++
      log.dlopens.map fun target => ⟨target, g.resolve target log.executable [], .dlopen⟩
  | none => [⟨entry, fileOr g entry, .argument⟩]

/-- An argument must be an image that can be read. -/
def Entry.start (row : Entry) : Option Text :=
  match row.source with
  | .argument => row.path.filter fun path => (g.slice path).any (·.defined)
  | _ => row.path

end Entries

section Walking

structure Record where
  installName : Text
  path : Text
  dylibs : List Dylib
  imports : List Import
  deriving DecidableEq

structure Unresolved where
  referrer : Text
  installName : Text
  weak : Bool
  deriving DecidableEq

/-- The local variables of the first phase; dictionaries are in the order of their insertions. -/
structure Walk where
  closureOfPath : List Text := []
  images : List (Text × Record) := []
  parentOf : List (Text × Text) := []
  unresolved : List Unresolved := []
  queue : List (Text × Option Text)
  deriving DecidableEq

/-- The loop of `rpath_chain`; no image comes twice, so there are at most as many rounds as images. -/
def rpathsFrom (walk : Walk) : Nat → List Text → Option Text → List Text
  | 0, _, _ => []
  | _ + 1, _, none => []
  | rounds + 1, seen, some parent =>
    if parent ∈ seen then []
    else
      match walk.images.lookup parent with
      | none => []
      | some record => record.path :: rpathsFrom walk rounds (parent :: seen) (walk.parentOf.lookup parent)

def rpathChain (walk : Walk) (name : Text) : List Text :=
  rpathsFrom walk walk.images.length [name] (walk.parentOf.lookup name)

variable (g : Guest) (withoutImages : List Text)

/-- The path that a load command leads to. -/
def dependency (installName path : Text) (chain : List Text) : Option Text :=
  if installName ∈ withoutImages then none else g.resolve installName (some path) chain

def load (path name : Text) (chain : List Text) (walk : Walk) (dylib : Dylib) : Walk :=
  match dependency g withoutImages dylib.installName path chain with
  | none => { walk with unresolved := walk.unresolved ++ [⟨name, dylib.installName, dylib.weak⟩] }
  | some depPath => { walk with queue := walk.queue ++ [(depPath, some name)] }

/-- An image is read: its record and its parent are noted. -/
def note (walk : Walk) (path : Text) (parent : Option Text) : Walk :=
  let imports := imageImports g path
  let name := nameOf g path
  { walk with
    closureOfPath := walk.closureOfPath ++ [path]
    images := put walk.images name ⟨name, path, imports.dylibs, imports.imports⟩
    parentOf := match parent with
      | some parent => put walk.parentOf name parent
      | none => walk.parentOf }

/-- The body of the loop for the head of the queue. -/
def step (walk : Walk) (path : Text) (parent : Option Text) : Walk :=
  if path ∈ walk.closureOfPath then walk
  else
    let walk := note g walk path parent
    let name := nameOf g path
    (imageImports g path).dylibs.foldl (load g withoutImages path name (rpathChain walk name)) walk

/-- The loop over the queue; `none` when the fuel is used up. -/
def walkQueue (maxImages : Nat) : Nat → Walk → Option Walk
  | 0, _ => none
  | fuel + 1, walk =>
    match walk.queue with
    | [] => some walk
    | (path, parent) :: rest =>
      if walk.images.length < maxImages then walkQueue maxImages fuel
        (step g withoutImages { walk with queue := rest } path parent)
      else some walk

end Walking

section Traversal

variable (images : List (Text × Record))

/-- The images whose names have the leaf of an install name. -/
def candidates (installName : Text) : List Text :=
  (images.map (·.1)).filter fun name => columnKey name = columnKey installName

/-- `visit`, with so many levels left before the cut. -/
def visit : Nat → Text → Visiting Text → Visiting Text
  | 0, _, at_ => at_
  | levels + 1, name, at_ =>
    if name ∈ at_.inProgress ∨ name ∈ at_.done then at_
    else
      match images.lookup name with
      | none => at_
      | some record =>
        let within := record.dylibs.foldl
          (fun at_ dylib => (candidates images dylib.installName).foldl (fun at_ candidate =>
            visit levels candidate at_) at_)
          { at_ with inProgress := name :: at_.inProgress }
        { done := within.done ++ [name], inProgress := within.inProgress.filter (· ≠ name) }

/-- The name that a path has in the graph; of several the last. -/
def byPath (path : Text) : Option Text := (images.reverse.find? fun item => item.2.path = path).map (·.1)

/-- The images of the graph that entries name. -/
def rootsOf (entries : List Entry) : List Text := entries.filterMap fun entry => entry.path.bind (byPath images)

/-- `_cover_traversal`; an image deeper than 200 is not visited. -/
def coverTraversal (entries : List Entry) : List Text :=
  ((rootsOf images entries).foldl (fun at_ name => visit images 201 name at_) {}).done

end Traversal

section Labels

/-- A label and where the name was found. -/
inductive Cover where
  | own (path : Text) (aliased : Bool)
  | reexport (provider : Option Text)
  | flat (path : Text)
  | loadOrder (path : Text)
  | absentWeak
  | absentLazy
  | missing
  | imageAbsent
  deriving DecidableEq

def absenceLabel (imp : Import) : Cover :=
  if imp.weak ∨ imp.special = some .weakLookup then .absentWeak
  else if ¬imp.eager then .absentLazy
  else .missing

/-- What is asked of the images: `detail_of` and `chain_of`. -/
structure Lookups where
  detailOf : Text → Exports
  chainOf : Text → Closure.Walk Text Text Text Text

variable (lookups : Lookups)

def suppliedByLoaded (name : Text) (loadedPaths : List Text) : Option Text :=
  (loadedPaths.find? fun path => name ∈ (lookups.detailOf path).names).or
    (loadedPaths.find? fun path => name ∈ (lookups.chainOf path).names)

/-- The first of the install names in sorted order whose image has the name. -/
def provider (name : Text) (providers : List (Text × List Text)) : Option Text :=
  ((providers.filter fun entry => name ∈ entry.2).map (·.1)).foldl
    (fun best installName => match best with
      | none => some installName
      | some other => if List.lex installName other (fun a b => decide (a.toNat < b.toNat)) then some
          installName else best) none

/-- `_cover_label`. -/
def coverLabel (imp : Import) (fieldPath : Option Text) (loadedPaths closurePaths : List Text) : Cover :=
  match imp.field with
  | none =>
    match suppliedByLoaded lookups imp.name (if closurePaths = [] then loadedPaths else closurePaths) with
    | some path => .flat path
    | none => absenceLabel imp
  | some _ =>
    match fieldPath with
    | none => .imageAbsent
    | some fieldPath =>
      if imp.name ∈ (lookups.detailOf fieldPath).names then
        .own fieldPath (imp.name ∈ (lookups.detailOf fieldPath).aliases)
      else if imp.name ∈ (lookups.chainOf fieldPath).names then .reexport
        (provider imp.name (lookups.chainOf fieldPath).providers)
      else
        match suppliedByLoaded lookups imp.name loadedPaths with
        | some path => .loadOrder path
        | none => absenceLabel imp

end Labels

section Covering

structure Missing where
  image : Text
  path : Text
  symbol : Text
  field : Option Text
  special : Option Special
  label : Cover
  weak : Bool
  deriving DecidableEq

/-- A record with its imports and the labels that they got. -/
structure Image where
  record : Record
  imports : List (Import × Option Cover)
  deriving DecidableEq

structure Graph where
  entries : List Entry
  images : List (Text × Image)
  unresolved : List Unresolved
  missing : List Missing
  order : List Text
  rest : List Text
  deriving DecidableEq

variable (g : Guest) (withoutImages withoutSymbols : List Text) (walk : Walk)

/-- `detail_of` after the second phase, which takes the withheld symbols from the images of the graph. -/
def detailOf (path : Text) : Exports :=
  let detail := g.exportsDetail path
  if walk.images.any fun item => item.2.path =
    path then { detail with names := detail.names.filter (· ∉ withoutSymbols) }
  else detail

/-- What `chain_of` hands to `reexport_closure` for an image. -/
def imagesOf (path : Text) : Closure.Images Text Text Text Text where
  real := g.real
  reexportsOf := g.reexportsOf
  resolve installName := g.resolve installName (some path) []
  exportsOf other := (detailOf g withoutSymbols walk other).names

def Guest.root (path : Text) : Closure.Walk Text Text Text Text := { seen := [g.real path], queue := [(path, 0)] }

/-- `chain_of`: what `reexport_closure` returns with its default depth. -/
def chainOf (path : Text) : Closure.Walk Text Text Text Text :=
  Closure.levels (imagesOf g withoutSymbols walk path) 8 (g.root path)

theorem reexportClosure_chainOf (path : Text) :
    ∃ enough, ∀ fuel ≥ enough, Closure.reexportClosure (imagesOf g withoutSymbols walk path) 8 fuel path =
      some (chainOf g withoutSymbols walk path) :=
  Closure.reexportClosure_levels (imagesOf g withoutSymbols walk path) 8 path

def lookupsOf : Lookups := ⟨detailOf g withoutSymbols walk, chainOf g withoutSymbols walk⟩

/-- The path of the field of an import. -/
def fieldPath (name : Text) (record : Record) (imp : Import) : Option Text :=
  if imp.field.isSome ∧ imp.libOrdinal - 1 < record.dylibs.length then
    match record.dylibs[(imp.libOrdinal - 1).toNat]? with
    | some dylib => dependency g withoutImages dylib.installName record.path (rpathChain walk name)
    | none => none
  else none

/-- The state of the third phase. -/
structure Labelling where
  loadedPaths : List Text := []
  labelled : List (Text × List (Import × Cover)) := []
  missing : List Missing := []

def missingOf (name : Text) (record : Record) (imp : Import) (label : Cover) : List Missing :=
  if label = .missing ∨ label = .imageAbsent then
    [⟨name, record.path, imp.name, imp.field, imp.special, label, imp.weak⟩] else []

/-- The imports of an image are labelled. -/
def labelImage (closurePaths : List Text) (at_ : Labelling) (name : Text) : Labelling :=
  match walk.images.lookup name with
  | none => at_
  | some record =>
    let loadedPaths := at_.loadedPaths ++ [record.path]
    let labelled := record.imports.map fun imp =>
      (imp, coverLabel (lookupsOf g withoutSymbols walk) imp
        (fieldPath g withoutImages walk name record imp) loadedPaths
        closurePaths)
    { loadedPaths
      labelled := put at_.labelled name labelled
      missing := at_.missing ++ labelled.flatMap fun (imp, label) => missingOf name record imp label }

/-- The paths of the records that the names have. -/
def pathsOf (names : List Text) : List Text := names.filterMap fun name => (walk.images.lookup name).map (·.path)

/-- The second and the third phase. -/
def coverWalk (entries : List Entry) : Graph :=
  let order := coverTraversal walk.images entries
  let rest := (walk.images.map (·.1)).filter (· ∉ order)
  let closurePaths := pathsOf walk (order ++ rest)
  let labelling := (order ++ rest).foldl (labelImage g withoutImages withoutSymbols walk closurePaths) {}
  { entries
    unresolved := walk.unresolved
    order
    rest
    missing := labelling.missing
    images := walk.images.map fun (name, record) =>
      (name, ⟨record, match labelling.labelled.lookup name with
        | some labelled => labelled.map fun (imp, label) => (imp, some label)
        | none => record.imports.map (·, none)⟩) }

end Covering

/-- `cover_closure`; without images the lists of the last phases are empty. -/
def coverClosure (g : Guest) (withoutImages withoutSymbols : List Text) (maxImages fuel : Nat) (entries : List Text) :
    Option Graph :=
  let rows := entries.flatMap (entryRows g)
  (walkQueue g withoutImages maxImages fuel { queue := rows.filterMap fun row => (row.start g).map (·, none) }).map
    fun walk => coverWalk g withoutImages withoutSymbols walk rows

end Darling.Covering
