import Darling.Closure.Loading

/-! `cover_closure` with withheld names against `cover_closure` on a disk that does not have them. -/
namespace Darling.Covering

open Texts (Text)

section Withheld

variable (g : Guest) (withoutImages withoutSymbols : List Text)

/-- The resolver does not know the install names, and no image exports the symbols. -/
def withheld : Guest :=
  { g with
    resolver := fun installName referrer chain =>
      if installName ∈ withoutImages then none else g.resolver installName referrer chain
    exportsDetail := fun path =>
      { g.exportsDetail path with names := (g.exportsDetail path).names.filter (· ∉ withoutSymbols) } }

/-- The images, with the labels of their imports, the unresolved edges and the missing list. -/
def Graph.view (graph : Graph) : List (Text × Image) × List Unresolved × List Missing :=
  (graph.images, graph.unresolved, graph.missing)

/-- Withholding gives the graph of the disk without the names. -/
def Reconstructs (maxImages fuel : Nat) (entries : List Text) : Prop :=
  (coverClosure g withoutImages withoutSymbols maxImages fuel entries).map Graph.view =
    (coverClosure (withheld g withoutImages withoutSymbols) [] [] maxImages fuel entries).map Graph.view

/-- The names that an argument makes the resolver look up. -/
def asked (entry : Text) : List (Text × Option Text) :=
  match if g.isFile entry then g.runLog entry else none with
  | some log =>
    (log.entries.filter fun logEntry => !g.isFile logEntry).map (·, none) ++ log.dlopens.map (·, log.executable)
  | none => if g.isFile entry then [] else [(entry, none)]

variable (walk : Walk)

def OnGraph (path : Text) : Prop := ∃ item ∈ walk.images, item.2.path = path

/-- A symbol is taken from the image if it is withheld, or the image does not have it. -/
def Clean (symbol path : Text) : Prop :=
  OnGraph walk path ∨ symbol ∉ withoutSymbols ∨ symbol ∉ (g.exportsDetail path).names

/-- The re-export walk of an image comes across no name that is withheld, and asks no image for the symbol that has
it though it is withheld. -/
structure Free (symbol root : Text) : Prop where
  names : ∀ path, path = root ∨ path ∈ (Closure.levels (imagesOf g withoutSymbols walk root) 7 (g.root root)).calls →
    ∀ installName ∈ g.reexportsOf path, installName ∈ withoutImages → g.resolve installName (some root) [] = none
  clean : ∀ path ∈ (chainOf g withoutSymbols walk root).calls, Clean g withoutSymbols walk symbol path

/-- The images whose re-exports a search for a symbol walks: none where an image has it by itself, otherwise those
up to the first whose re-exports have it. -/
def Searched (symbol : Text) (paths : List Text) (path : Text) : Prop :=
  (∀ other ∈ paths, symbol ∉ (detailOf g withoutSymbols walk other).names) ∧
    ∃ before after, paths = before ++ path :: after ∧
      ∀ earlier ∈ before, symbol ∉ (chainOf g withoutSymbols walk earlier).names

/-- What the label of an import depends on leads to nothing that is withheld: its field, the re-exports of the field
where it has not the symbol itself, and those of the images that are searched where the field does not give it or
there is none. -/
structure Untouched (name : Text) (record : Record) (imp : Import) (loadedPaths closurePaths : List Text) : Prop where
  field : ∀ path, fieldPath g withoutImages walk name record imp = some path → Clean g withoutSymbols walk imp.name path
  reexports : ∀ path, fieldPath g withoutImages walk name record imp = some path →
    imp.name ∉ (detailOf g withoutSymbols walk path).names → Free g withoutImages withoutSymbols walk imp.name path
  loaded : ∀ path, fieldPath g withoutImages walk name record imp = some path →
    imp.name ∉ (detailOf g withoutSymbols walk path).names → imp.name ∉ (chainOf g withoutSymbols walk path).names →
    ∀ other, Searched g withoutSymbols walk imp.name loadedPaths other →
      Free g withoutImages withoutSymbols walk imp.name other
  flat : imp.field = none → ∀ path, Searched g withoutSymbols walk imp.name closurePaths path →
    Free g withoutImages withoutSymbols walk imp.name path

/-- No label of the graph depends on what is withheld, where the images are bound in the order of the names. -/
def Agrees (names : List Text) : Prop :=
  ∀ before name after record, names = before ++ name :: after → walk.images.lookup name = some record →
    ∀ imp ∈ record.imports, Untouched g withoutImages withoutSymbols walk name record imp
      (pathsOf walk (before ++ [name]))
      (pathsOf walk names)

/-- The order in which the images are bound. -/
def bindNames (rows : List Entry) : List Text :=
  let order := coverTraversal walk.images rows
  order ++ (walk.images.map (·.1)).filter (· ∉ order)

variable {g withoutImages withoutSymbols walk}

theorem resolve_withheld (installName : Text) (referrer : Option Text) (chain : List Text) :
    (withheld g withoutImages withoutSymbols).resolve installName referrer chain =
      if installName ∈ withoutImages then none else g.resolve installName referrer chain := by
  simp only [Guest.resolve, withheld]
  split <;> rfl

theorem dependency_withheld (installName path : Text) (chain : List Text) :
    dependency (withheld g withoutImages withoutSymbols) [] installName path chain =
      dependency g withoutImages installName path chain := by
  rw [dependency, if_neg List.not_mem_nil, resolve_withheld, dependency]

theorem step_withheld (walk : Walk) (path : Text) (parent : Option Text) :
    step (withheld g withoutImages withoutSymbols) [] walk path parent = step g withoutImages walk path parent := by
  have same : load (withheld g withoutImages withoutSymbols) [] = load g withoutImages := by
    funext path name chain walk dylib
    rw [load, dependency_withheld, load]
  unfold step
  rw [same]
  rfl

theorem walkQueue_withheld (maxImages fuel : Nat) (walk : Walk) :
    walkQueue (withheld g withoutImages withoutSymbols) [] maxImages fuel walk =
      walkQueue g withoutImages maxImages fuel walk := by
  induction fuel generalizing walk with
  | zero => rfl
  | succ fuel ih =>
    rw [walkQueue, walkQueue]
    simp only [step_withheld, ih]

theorem fileOr_withheld {entry : Text}
    (free : g.isFile entry = false → entry ∈ withoutImages → g.resolve entry none [] = none) :
    fileOr (withheld g withoutImages withoutSymbols) entry = fileOr g entry := by
  unfold fileOr
  change (if g.isFile entry = true then _ else _) = _
  cases file : g.isFile entry with
  | true => rfl
  | false =>
    simp only [Bool.false_eq_true, if_false, resolve_withheld]
    split
    · next held => exact (free file held).symm
    · rfl

theorem entryRows_withheld {entry : Text}
    (free : ∀ name ∈ asked g entry, name.1 ∈ withoutImages → g.resolve name.1 name.2 [] = none) :
    entryRows (withheld g withoutImages withoutSymbols) entry = entryRows g entry := by
  unfold asked at free
  unfold entryRows
  change (match if g.isFile entry then g.runLog entry else none with | some log => _ | none => _) = _
  cases read : if g.isFile entry then g.runLog entry else none with
  | some log =>
    simp only [read] at free
    simp only
    refine congrArg₂ _ (List.map_congr_left fun logEntry listed => ?_) (List.map_congr_left fun target listed => ?_)
    · have among (file : g.isFile logEntry = false) :
          (logEntry, none) ∈ (log.entries.filter fun logEntry => !g.isFile logEntry).map ((·, none) : Text →
            Text × Option Text) :=
        List.mem_map.mpr ⟨logEntry, by simp [listed, file], rfl⟩
      rw [fileOr_withheld fun file => free (logEntry, none) (List.mem_append_left _ (among file))]
    · rw [resolve_withheld]
      split
      · next held => rw [free (target, log.executable) (List.mem_append_right _ (List.mem_map_of_mem listed)) held]
      · rfl
  | none =>
    simp only [read] at free
    simp only
    rw [fileOr_withheld fun file => free (entry, none) (by simp [file])]

end Withheld

section Agreement

variable {g : Guest} {withoutImages withoutSymbols : List Text} {walk : Walk} {symbol path : Text}

/-- Of a clean image the same is read under the symbol, by itself or with the withheld symbols gone. -/
theorem filter_withheld (withoutImages : List Text) (clean : Clean g withoutSymbols walk symbol path) :
    (detailOf (withheld g withoutImages withoutSymbols) [] walk path).names.filter (· = symbol) =
      (detailOf g withoutSymbols walk path).names.filter (· = symbol) := by
  have whole (names : List Text) : names.filter (· ∉ ([] : List Text)) = names := List.filter_eq_self.mpr (by simp)
  by_cases there : (walk.images.any fun item => item.2.path = path) = true
  · simp only [detailOf, if_pos there, withheld, whole]
  · have none : ¬OnGraph walk path := fun onGraph => there (by
      obtain ⟨item, listed, same⟩ := onGraph
      exact List.any_eq_true.mpr ⟨item, listed, decide_eq_true same⟩)
    simp only [detailOf, if_neg there, withheld, List.filter_filter]
    refine List.filter_congr fun other listed => ?_
    by_cases same : other = symbol
    · subst same
      have kept : other ∉ withoutSymbols := (clean.resolve_left none).resolve_right fun absent => absent listed
      simp [kept]
    · simp [same]

theorem mem_detailOf_withheld (clean : Clean g withoutSymbols walk symbol path) :
    symbol ∈ (detailOf (withheld g withoutImages withoutSymbols) [] walk path).names ↔
      symbol ∈ (detailOf g withoutSymbols walk path).names := by
  have same := congrArg (symbol ∈ ·) (filter_withheld withoutImages clean)
  simpa using same

theorem aliases_withheld (path : Text) :
    (detailOf (withheld g withoutImages withoutSymbols) [] walk path).aliases =
      (detailOf g withoutSymbols walk path).aliases := by
  unfold detailOf
  dsimp only
  split
  · rfl
  · rfl

theorem chainOf_keeping (g : Guest) (withoutSymbols : List Text) (walk : Walk) (keep : Text → Bool) (path : Text) :
    (chainOf g withoutSymbols walk path).keeping keep =
      Closure.levels ((imagesOf g withoutSymbols walk path).keeping keep) 8 (g.root path) :=
  (Closure.levels_keeping keep 8 (g.root path)).symm

/-- A walk over re-exports that is free gives the same under the symbol. -/
theorem chainOf_withheld (free : Free g withoutImages withoutSymbols walk symbol path) :
    (chainOf (withheld g withoutImages withoutSymbols) [] walk path).keeping (· = symbol) =
      (chainOf g withoutSymbols walk path).keeping (· = symbol) := by
  have asked (left : Nat) (keep : Text → Bool) :
      (Closure.levels ((imagesOf g withoutSymbols walk path).keeping keep) left (g.root path)).calls =
        (Closure.levels (imagesOf g withoutSymbols walk path) left (g.root path)).calls := by
    have kept := congrArg Closure.Walk.calls
      (@Closure.levels_keeping _ _ _ _ _ _ (imagesOf g withoutSymbols walk path) keep left (g.root path))
    exact kept
  have alike : Closure.Alike ((imagesOf g withoutSymbols walk path).keeping (· = symbol))
      ((imagesOf (withheld g withoutImages withoutSymbols) [] walk path).keeping (· = symbol)) := ⟨rfl, rfl⟩
  rw [chainOf_keeping, chainOf_keeping]
  refine Closure.levels_congr alike 7 (g.root path) (List.forall_mem_singleton.mpr rfl) ?_ ?_
  · intro other met installName named
    rw [asked] at met
    have there : other = path ∨ other ∈ (Closure.levels (imagesOf g withoutSymbols walk path) 7 (g.root path)).calls :=
      met.imp_left fun only => by simpa [Guest.root] using only
    change (withheld g withoutImages withoutSymbols).resolve installName (some path) [] =
      g.resolve installName (some path) []
    rw [resolve_withheld]
    split
    next held => exact (free.names other there installName named held).symm
    · rfl
  · intro other met
    rw [asked] at met
    exact filter_withheld withoutImages (free.clean other met)

/-- Only what is kept matters to the search for a provider. -/
theorem provider_keeping (symbol : Text) (providers : List (Text × List Text)) :
    provider symbol (providers.map fun item => (item.1, item.2.filter (· = symbol))) = provider symbol providers := by
  have same : ((providers.map fun item => (item.1, item.2.filter (· = symbol))).filter fun entry =>
      symbol ∈ entry.2).map (·.1) =
      (providers.filter fun entry => symbol ∈ entry.2).map (·.1) := by
    rw [List.filter_map, List.map_map]
    refine congrArg₂ _ rfl (List.filter_congr fun item _ => ?_)
    simp
  unfold provider
  rw [same]

theorem mem_chainOf_withheld (free : Free g withoutImages withoutSymbols walk symbol path) :
    (symbol ∈ (chainOf (withheld g withoutImages withoutSymbols) [] walk path).names ↔
        symbol ∈ (chainOf g withoutSymbols walk path).names) ∧
      provider symbol (chainOf (withheld g withoutImages withoutSymbols) [] walk path).providers =
        provider symbol (chainOf g withoutSymbols walk path).providers := by
  have same := chainOf_withheld free
  constructor
  · have names := congrArg (fun walk => symbol ∈ walk.names) same
    simpa [Closure.Walk.keeping] using names
  · have providers := congrArg (fun walk => provider symbol walk.providers) same
    simpa only [Closure.Walk.keeping, provider_keeping] using providers

/-- A search that asks alike until it ends. -/
theorem find?_congr {α : Type} {p q : α → Bool} {items : List α}
    (same : ∀ before item after, items = before ++ item :: after → (∀ earlier ∈ before, p earlier = false) →
      q item = p item) :
    items.find? q = items.find? p := by
  induction items with
  | nil => rfl
  | cons item items ih =>
    have here := same [] item items rfl (by simp)
    rw [List.find?_cons, List.find?_cons, here]
    cases found : p item with
    | true => rfl
    | false =>
      refine ih fun before other after split earlier => ?_
      exact same (item :: before) other after (by rw [split]; rfl) (List.forall_mem_cons.mpr ⟨found, earlier⟩)

theorem lookupsOf_detailOf (g : Guest) (withoutSymbols : List Text) (walk : Walk) (path : Text) :
    (lookupsOf g withoutSymbols walk).detailOf path = detailOf g withoutSymbols walk path := rfl

theorem lookupsOf_chainOf (g : Guest) (withoutSymbols : List Text) (walk : Walk) (path : Text) :
    (lookupsOf g withoutSymbols walk).chainOf path = chainOf g withoutSymbols walk path := rfl

/-- A search whose second part matters only where the first finds nothing. -/
theorem find?_or_congr {α : Type} {p p' q q' : α → Bool} {items : List α} (first : items.find? p' = items.find? p)
    (second : items.find? p = none → items.find? q' = items.find? q) :
    (items.find? p').or (items.find? q') = (items.find? p).or (items.find? q) := by
  rw [first]
  cases found : items.find? p with
  | some item => rw [Option.some_or, Option.some_or]
  | none => rw [Option.none_or, Option.none_or, second found]

theorem suppliedByLoaded_withheld {paths : List Text} (onGraph : ∀ path ∈ paths, OnGraph walk path)
    (free : ∀ path, Searched g withoutSymbols walk symbol paths path →
      Free g withoutImages withoutSymbols walk symbol path) :
    suppliedByLoaded (lookupsOf (withheld g withoutImages withoutSymbols) [] walk) symbol paths =
      suppliedByLoaded (lookupsOf g withoutSymbols walk) symbol paths := by
  refine find?_or_congr (find?_congr fun before path after split _ => ?_) fun found =>
    find?_congr fun before path after split earlier => ?_
  · have clean : Clean g withoutSymbols walk symbol path := .inl (onGraph path (by rw [split]; simp))
    rw [lookupsOf_detailOf, lookupsOf_detailOf, decide_eq_decide]
    exact mem_detailOf_withheld clean
  · have nowhere : ∀ other ∈ paths, symbol ∉ (detailOf g withoutSymbols walk other).names := fun other listed =>
      of_decide_eq_false (eq_false_of_ne_true (List.find?_eq_none.mp found other listed))
    have searched : Searched g withoutSymbols walk symbol paths path :=
      ⟨nowhere, before, after, split, fun other listed => of_decide_eq_false (earlier other listed)⟩
    rw [lookupsOf_chainOf, lookupsOf_chainOf, decide_eq_decide]
    exact (mem_chainOf_withheld (free path searched)).1

/-- Two ways to look names up that agree on what the label of an import asks for. -/
theorem coverLabel_congr {lookups lookups' : Lookups} {imp : Import} {field : Option Text}
    {loadedPaths closurePaths : List Text} (some : closurePaths ≠ [])
    (flat : imp.field = none → suppliedByLoaded lookups imp.name closurePaths =
      suppliedByLoaded lookups' imp.name closurePaths)
    (own : ∀ path, field = .some path →
      (imp.name ∈ (lookups.detailOf path).names ↔ imp.name ∈ (lookups'.detailOf path).names) ∧
        (lookups.detailOf path).aliases = (lookups'.detailOf path).aliases)
    (reexports : ∀ path, field = .some path → imp.name ∉ (lookups'.detailOf path).names →
      (imp.name ∈ (lookups.chainOf path).names ↔ imp.name ∈ (lookups'.chainOf path).names) ∧
        provider imp.name (lookups.chainOf path).providers = provider imp.name (lookups'.chainOf path).providers)
    (loaded : ∀ path, field = .some path → imp.name ∉ (lookups'.detailOf path).names →
      imp.name ∉ (lookups'.chainOf path).names →
      suppliedByLoaded lookups imp.name loadedPaths = suppliedByLoaded lookups' imp.name loadedPaths) :
    coverLabel lookups imp field loadedPaths closurePaths = coverLabel lookups' imp field loadedPaths closurePaths := by
  unfold coverLabel
  cases special : imp.field with
  | none => simp only [if_neg some, flat special]
  | some _ =>
    cases field with
    | none => rfl
    | some path =>
      obtain ⟨names, aliases⟩ := own path rfl
      simp only [names, aliases]
      by_cases exported : imp.name ∈ (lookups'.detailOf path).names
      · rw [if_pos exported, if_pos exported]
      · obtain ⟨names, providers⟩ := reexports path rfl exported
        simp only [if_neg exported, names, providers]
        by_cases reexported : imp.name ∈ (lookups'.chainOf path).names
        · rw [if_pos reexported, if_pos reexported]
        · rw [if_neg reexported, if_neg reexported, loaded path rfl exported reexported]

theorem coverLabel_withheld {name : Text} {record : Record} {imp : Import} {loadedPaths closurePaths : List Text}
    (untouched : Untouched g withoutImages withoutSymbols walk name record imp loadedPaths closurePaths)
    (loaded : ∀ path ∈ loadedPaths, OnGraph walk path) (closure : ∀ path ∈ closurePaths, OnGraph walk path)
    (some : closurePaths ≠ []) :
    coverLabel (lookupsOf (withheld g withoutImages withoutSymbols) [] walk) imp
        (fieldPath g withoutImages walk name record imp) loadedPaths closurePaths =
      coverLabel (lookupsOf g withoutSymbols walk) imp (fieldPath g withoutImages walk name record imp) loadedPaths
        closurePaths := by
  refine coverLabel_congr some (fun flat => ?_) (fun path field => ?_) (fun path field exported => ?_)
    (fun path field exported reexported => ?_)
  · exact suppliedByLoaded_withheld closure (untouched.flat flat)
  · rw [lookupsOf_detailOf, lookupsOf_detailOf]
    exact ⟨mem_detailOf_withheld (untouched.field path field), aliases_withheld path⟩
  · rw [lookupsOf_chainOf, lookupsOf_chainOf]
    exact mem_chainOf_withheld (untouched.reexports path field exported)
  · exact suppliedByLoaded_withheld loaded (untouched.loaded path field exported reexported)

theorem fieldPath_withheld (name : Text) (record : Record) (imp : Import) :
    fieldPath (withheld g withoutImages withoutSymbols) [] walk name record imp =
      fieldPath g withoutImages walk name record imp := by
  unfold fieldPath
  simp only [dependency_withheld]

theorem pathsOf_onGraph (names : List Text) : ∀ path ∈ pathsOf walk names, OnGraph walk path := by
  intro path listed
  obtain ⟨name, _, found⟩ := List.mem_filterMap.mp listed
  obtain ⟨record, there, rfl⟩ := Option.map_eq_some_iff.mp found
  exact ⟨_, mem_of_lookup there, rfl⟩

theorem pathsOf_snoc (before : List Text) {name : Text} {record : Record}
    (found : walk.images.lookup name = some record) :
    pathsOf walk (before ++ [name]) = pathsOf walk before ++ [record.path] := by
  simp [pathsOf, List.filterMap_append, found]

theorem pathsOf_snoc_none (before : List Text) {name : Text} (found : walk.images.lookup name = none) :
    pathsOf walk (before ++ [name]) = pathsOf walk before := by
  simp [pathsOf, List.filterMap_append, found]

/-- The state after an image whose imports got these labels. -/
def labelledAs (at_ : Labelling) (name : Text) (record : Record) (labelled : List (Import × Cover)) : Labelling :=
  { loadedPaths := at_.loadedPaths ++ [record.path]
    labelled := put at_.labelled name labelled
    missing := at_.missing ++ labelled.flatMap fun (imp, label) => missingOf name record imp label }

theorem labelImage_of_lookup {name : Text} {record : Record} (found : walk.images.lookup name = some record)
    (closurePaths : List Text) (at_ : Labelling) :
    labelImage g withoutImages withoutSymbols walk closurePaths at_ name =
      labelledAs at_ name record (record.imports.map fun imp =>
        (imp, coverLabel (lookupsOf g withoutSymbols walk) imp (fieldPath g withoutImages walk name record imp)
          (at_.loadedPaths ++ [record.path]) closurePaths)) := by
  rw [labelImage, found]
  rfl

theorem labelImage_of_none {name : Text} (found : walk.images.lookup name = none) (closurePaths : List Text)
    (at_ : Labelling) : labelImage g withoutImages withoutSymbols walk closurePaths at_ name = at_ := by
  rw [labelImage, found]

/-- One image is labelled alike, where the images before it have been loaded. -/
theorem labelImage_withheld {names before after : List Text} {name : Text} {at_ : Labelling}
    (agrees : Agrees g withoutImages withoutSymbols walk names) (split : names = before ++ name :: after)
    (loaded : at_.loadedPaths = pathsOf walk before) :
    labelImage (withheld g withoutImages withoutSymbols) [] [] walk (pathsOf walk names) at_ name =
        labelImage g withoutImages withoutSymbols walk (pathsOf walk names) at_ name ∧
      (labelImage g withoutImages withoutSymbols walk (pathsOf walk names) at_ name).loadedPaths =
        pathsOf walk (before ++ [name]) := by
  cases found : walk.images.lookup name with
  | none => rw [labelImage_of_none found, labelImage_of_none found, pathsOf_snoc_none before found,
      loaded]; exact ⟨rfl, rfl⟩
  | some record =>
    rw [labelImage_of_lookup found, labelImage_of_lookup found, pathsOf_snoc before found, loaded]
    refine ⟨congrArg _ (List.map_congr_left fun imp listed => ?_), congrArg (· ++ _) loaded⟩
    have untouched := agrees before name after record split found imp listed
    rw [pathsOf_snoc before found] at untouched
    have some : pathsOf walk names ≠ [] := by
      refine List.ne_nil_of_mem (List.mem_filterMap.mpr ⟨name, ?_, by rw [found]; rfl⟩)
      rw [split]
      simp
    rw [fieldPath_withheld]
    refine congrArg _ (coverLabel_withheld untouched ?_ (pathsOf_onGraph names) some)
    rw [← pathsOf_snoc before found]
    exact pathsOf_onGraph _

theorem labelImages_withheld {names : List Text} (agrees : Agrees g withoutImages withoutSymbols walk names)
    (before rest : List Text) (split : names = before ++ rest) {at_ : Labelling}
    (loaded : at_.loadedPaths = pathsOf walk before) :
    rest.foldl (labelImage (withheld g withoutImages withoutSymbols) [] [] walk (pathsOf walk names)) at_ =
      rest.foldl (labelImage g withoutImages withoutSymbols walk (pathsOf walk names)) at_ := by
  induction rest generalizing before at_ with
  -- not `rfl`, which compares the two functions first
  | nil => rw [List.foldl_nil, List.foldl_nil]
  | cons name rest ih =>
    obtain ⟨same, next⟩ := labelImage_withheld agrees split loaded
    rw [List.foldl_cons, List.foldl_cons, same]
    exact ih (before ++ [name]) (by rw [split]; simp) next

theorem coverWalk_withheld {rows : List Entry}
    (agrees : Agrees g withoutImages withoutSymbols walk (bindNames walk rows)) :
    coverWalk (withheld g withoutImages withoutSymbols) [] [] walk rows =
      coverWalk g withoutImages withoutSymbols walk rows := by
  have start : ({} : Labelling).loadedPaths = pathsOf walk [] := rfl
  have labels := labelImages_withheld agrees [] (bindNames walk rows) rfl start
  unfold bindNames at labels
  unfold coverWalk
  simp only [labels]

/-- The walk before its first step. -/
def startOf (g : Guest) (entries : List Text) : Walk :=
  { queue := (entries.flatMap (entryRows g)).filterMap fun row => (row.start g).map (·, none) }

theorem coverClosure_eq (g : Guest) (withoutImages withoutSymbols : List Text) (maxImages fuel : Nat)
    (entries : List Text) :
    coverClosure g withoutImages withoutSymbols maxImages fuel entries =
      (walkQueue g withoutImages maxImages fuel (startOf g entries)).map fun walk =>
        coverWalk g withoutImages withoutSymbols walk (entries.flatMap (entryRows g)) := rfl

theorem start_withheld (row : Entry) : row.start (withheld g withoutImages withoutSymbols) = row.start g := by
  obtain ⟨entry, path, source⟩ := row
  cases source <;> rfl

theorem startOf_withheld {entries : List Text}
    (rows : entries.flatMap (entryRows (withheld g withoutImages withoutSymbols)) = entries.flatMap (entryRows g)) :
    startOf (withheld g withoutImages withoutSymbols) entries = startOf g entries := by
  unfold startOf
  rw [rows]
  simp only [start_withheld]

/-- The entries and the re-exports are looked up without regard to what is withheld: the past state is reconstructed
where they do not lead to it. -/
theorem coverClosure_reconstructs {maxImages fuel : Nat} {entries : List Text}
    (unasked : ∀ entry ∈ entries, ∀ name ∈ asked g entry, name.1 ∈ withoutImages → g.resolve name.1 name.2 [] = none)
    (agrees : ∀ walk, walkQueue g withoutImages maxImages fuel (startOf g entries) = some walk →
      Agrees g withoutImages withoutSymbols walk (bindNames walk (entries.flatMap (entryRows g)))) :
    Reconstructs g withoutImages withoutSymbols maxImages fuel entries := by
  have rows : entries.flatMap (entryRows (withheld g withoutImages withoutSymbols)) = entries.flatMap (entryRows g) :=
    List.flatMap_congr fun entry listed => entryRows_withheld (unasked entry listed)
  have walked : walkQueue (withheld g withoutImages withoutSymbols) [] maxImages fuel
      (startOf (withheld g withoutImages withoutSymbols) entries) =
      walkQueue g withoutImages maxImages fuel (startOf g entries) := by
    rw [startOf_withheld rows, walkQueue_withheld]
  unfold Reconstructs
  rw [coverClosure_eq, coverClosure_eq, walked, rows]
  cases returned : walkQueue g withoutImages maxImages fuel (startOf g entries) with
  | none => simp only [Option.map_none]
  | some walk =>
    simp only [Option.map_some, coverWalk_withheld (agrees walk returned)]

end Agreement

section Samples

def installedA : Text := "/prefix/usr/lib/liba.dylib".toList

def nameB : Text := "/usr/lib/libb.dylib".toList

/-- An executable with an export of its own, and a library that loads a second one and may forward to it. -/
def forwarding (forwards : Bool) (binds : List Bind) : Guest where
  isFile path := path = "/app".toList
  runLog _ := none
  slice path :=
    if path = "/app".toList then some ⟨true, true, none, [⟨"/usr/lib/liba.dylib".toList, false, false⟩], binds⟩
    else if path = installedA then some ⟨true, true, some "/usr/lib/liba.dylib".toList, [⟨nameB, false, forwards⟩], []⟩
    else some ⟨true, true, some nameB, [], []⟩
  resolver installName _ _ := some ("/prefix".toList ++ installName)
  exportsDetail path :=
    ⟨[if path = "/app".toList then "_h".toList else if path = installedA then "_g".toList else "_f".toList], []⟩
  reexportsOf path := if forwards && path = installedA then [nameB] else []
  real path := path

theorem Free.of_no_reexports {g : Guest} (withoutImages withoutSymbols : List Text) (walk : Walk) (symbol path : Text)
    (none : ∀ path, g.reexportsOf path = []) : Free g withoutImages withoutSymbols walk symbol path where
  names other _ installName named := by
    rw [none] at named
    cases named
  clean other asked := by
    have calls : (chainOf g withoutSymbols walk path).calls = [] := by
      simp [chainOf, Closure.levels, Closure.level, Closure.expandAll, imagesOf, Guest.root, none]
    rw [calls] at asked
    cases asked

def walked (g : Guest) : Walk := (walkQueue g [nameB] 600 9 (startOf g ["/app".toList])).getD { queue := [] }

/-- The executable asks for a symbol of the library and for one of its own, by a flat lookup. -/
def served : Guest := forwarding true [⟨"_g".toList, 1, false, true⟩, ⟨"_h".toList, -2, false, true⟩]

/-- The executable asks for a symbol of each library. -/
def direct : Guest := forwarding false [⟨"_f".toList, 1, false, true⟩, ⟨"_g".toList, 1, false, true⟩]

/-- A withheld library that is forwarded to, where every symbol is found before its re-export is walked; and one
that is loaded and not forwarded to, with a withheld symbol of an image of the graph. -/
theorem forwarding_reconstructs :
    Reconstructs served [nameB] [] 600 9 ["/app".toList] ∧
      Reconstructs direct [nameB] ["_g".toList] 600 9 ["/app".toList] := by
  constructor
  · refine coverClosure_reconstructs (by decide +kernel) fun walk returned before name after record split found
      imp listed => ?_
    obtain rfl : walk = walked served := by
      rw [walked, returned]
      rfl
    have fields : ∀ item ∈ (walked served).images, ∀ imp ∈ item.2.imports,
        (∀ path ∈ (fieldPath served [nameB] (walked served) item.1 item.2 imp).toList,
          path ∈ (walked served).images.map (·.2.path) ∧ imp.name ∈ (detailOf served [] (walked served) path).names) ∧
        (imp.field = none → ∃ path ∈ pathsOf (walked served)
          (bindNames (walked served) (["/app".toList].flatMap (entryRows served))),
          imp.name ∈ (detailOf served [] (walked served) path).names) := by decide +kernel
    obtain ⟨field, flat⟩ := fields _ (mem_of_lookup found) imp listed
    have own (path : Text) (here : fieldPath served [nameB] (walked served) name record imp = some path) :=
      field path (Option.mem_toList.mpr here)
    refine ⟨fun path here => .inl (List.mem_map.mp (own path here).1), fun path here absent =>
      absurd (own path here).2 absent,
      fun path here absent => absurd (own path here).2 absent, fun special path searched => ?_⟩
    obtain ⟨other, there, has⟩ := flat special
    exact absurd has (searched.1 other there)
  · refine coverClosure_reconstructs (by decide +kernel) fun walk returned before name after record split found
      imp listed => ?_
    have none (path : Text) : direct.reexportsOf path = [] := by
      simp only [direct, forwarding, Bool.false_and, Bool.false_eq_true, if_false]
    obtain rfl : walk = walked direct := by
      rw [walked, returned]
      rfl
    have fields : ∀ item ∈ (walked direct).images, ∀ imp ∈ item.2.imports,
        ∀ path ∈ (fieldPath direct [nameB] (walked direct) item.1 item.2 imp).toList,
          path ∈ (walked direct).images.map (·.2.path) := by decide +kernel
    refine ⟨fun path here => .inl ?_, fun _ _ _ => .of_no_reexports _ _ _ _ _ none,
      fun _ _ _ _ _ _ => .of_no_reexports _ _ _ _ _ none, fun _ _ _ => .of_no_reexports _ _ _ _ _ none⟩
    exact List.mem_map.mp (fields _ (mem_of_lookup found) imp listed path (Option.mem_toList.mpr here))

/-- The name is found in the withheld library through the re-export. -/
theorem forwarding_finds :
    ¬Reconstructs (forwarding true [⟨"_f".toList, 1, false, true⟩]) [nameB] [] 600 9 ["/app".toList] := by
  unfold Reconstructs
  decide +kernel

end Samples

end Darling.Covering
