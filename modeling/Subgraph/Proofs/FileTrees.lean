import Mathlib.Data.List.Basic
import Subgraph.Proofs.Directories
import Subgraph.Proofs.Places

/-!
# FileTrees — trees keep files in directories

A path leads to a place of a tree along its names, and all places on the way must be directories.  A
directory is made together with those above it.

* `FileTree.follow_eq_ok_iff`: components lead to a place when there are directories on the way.
* `FileTree.locate_of_lasting`: so do the names of a path that does not end in a separator.
* `FileTree.made_of_ensureDir`: what making a directory changes.
* `FileTree.exists_ensureDir`: a directory can be made where no file is in the way.
* `FileTree.keeps`: trees keep files in directories.
-/

namespace Subgraph.FileTree

open Subgraph.Path

variable {t t' t₁ : FileTree} {place : FilePlace} {path dir : Path} {names : List String}
variable {base : FilePlace}

/-! ### Nodes -/

/-- Of the nodes at some places, those can be found that are at one of the places. -/
theorem lookup_filter (f : FilePlace → Bool) (q : FilePlace) (nodes : List (FilePlace × FileNode)) :
    (nodes.filter fun node => f node.1).lookup q = if f q then nodes.lookup q else none := by
  induction nodes with
  | nil => simp
  | cons node nodes ih =>
      obtain ⟨p, what⟩ := node
      by_cases hq : q = p
      · subst hq
        cases hf : f q <;> simp [hf, ih]
      · have hb : (q == p) = false := beq_eq_false_iff_ne.mpr hq
        cases hf : f p <;> simp [hf, List.lookup_cons, hb, ih]

/-- What is at the places of a tree with something else at one of them. -/
theorem at?_set (h : place ≠ []) (node : FileNode) (q : FilePlace) :
    (t.set place node).at? q = if q = place then some node else t.at? q := by
  unfold at? set
  by_cases root : q = []
  · subst root
    rw [if_pos rfl, if_neg h.symm, if_pos rfl]
  · rw [if_neg root, if_neg root, List.lookup_append, lookup_filter (fun p => decide (p ≠ place))]
    by_cases hq : q = place
    · subst hq
      simp
    · have hb : (q == place) = false := beq_eq_false_iff_ne.mpr hq
      simp [hq, List.lookup_cons, hb]

theorem enter_eq_ok_iff : t.enter place = .ok () ↔ t.at? place = some .dir := by
  unfold enter
  rcases t.at? place with _ | _ | _ <;> simp

/-! ### Components -/

/-- A component that names something. -/
def isName (component : String) : Bool := component ≠ "" ∧ component ≠ "."

/-- A component is not longer than the host admits. -/
def isShort (component : String) : Bool :=
  !isName component || component = ".." || component.utf8ByteSize ≤ maxName

/-- The place to which a name leads. -/
def onward (place : FilePlace) (name : String) : FilePlace :=
  if name = ".." then place.tail else name :: place

/-- The place to which some components lead; those that name nothing lead nowhere else. -/
def walk (place : FilePlace) (components : List String) : FilePlace :=
  (components.filter isName).foldl onward place

theorem walk_cons (place : FilePlace) (component : String) (components : List String) :
    walk place (component :: components) =
      walk (if isName component then onward place component else place) components := by
  unfold walk
  rw [List.filter_cons]
  split <;> rfl

theorem follow_cons (t : FileTree) (place : FilePlace) (component : String)
    (components : List String) : t.follow place (component :: components) = (do
      t.enter place
      if isShort component then
        t.follow (if isName component then onward place component else place) components
      else .error .nameTooLong) := by
  rw [follow]
  refine congrArg _ (funext fun _ => ?_)
  by_cases void : component = "" ∨ component = "."
  · rw [if_pos void]
    rcases void with rfl | rfl <;> rfl
  have named : isName component = true := decide_eq_true (not_or.mp void)
  rw [if_neg void, if_pos named]
  by_cases up : component = ".."
  · subst up
    rfl
  rw [if_neg up, onward, if_neg up]
  by_cases long : maxName < component.utf8ByteSize
  · have short : isShort component = false := by simp [isShort, named, up, long]
    rw [if_pos long, short]
    rfl
  · have short : isShort component = true := by simp [isShort, Nat.le_of_not_lt long]
    rw [if_neg long, short]
    rfl

/-- **Components lead to a place** when there are directories on the way. -/
theorem follow_eq_ok_iff {components : List String} {q : FilePlace} :
    t.follow place components = .ok q ↔
      (∀ before rest, components = before ++ rest → rest ≠ [] →
        t.at? (walk place before) = some .dir) ∧
      (∀ c ∈ components, isShort c = true) ∧ q = walk place components := by
  induction components generalizing place with
  | nil =>
      have none : ∀ before rest, ([] : List String) = before ++ rest → rest ≠ [] → False :=
        fun before rest split some => some (List.append_eq_nil_iff.mp split.symm).2
      constructor
      · intro h
        cases h
        exact ⟨fun before rest split some => (none before rest split some).elim, nofun, rfl⟩
      · rintro ⟨-, -, rfl⟩
        rfl
  | cons c components ih =>
      rw [follow_cons, walk_cons, List.forall_mem_cons]
      constructor
      · intro h
        rcases entered : t.enter place with e | _
        · rw [entered] at h
          cases h
        rw [entered] at h
        change (if _ then _ else _) = _ at h
        split at h
        · next short =>
          obtain ⟨on_way, shorts, rfl⟩ := ih.mp h
          refine ⟨?_, ⟨short, shorts⟩, rfl⟩
          rintro (_ | ⟨_, before⟩) rest split some
          · exact enter_eq_ok_iff.mp entered
          · obtain ⟨rfl, others⟩ := List.cons.inj split
            rw [walk_cons]
            exact on_way before rest others some
        · cases h
      · rintro ⟨on_way, ⟨short, shorts⟩, rfl⟩
        have here : t.at? place = some .dir :=
          on_way [] (c :: components) rfl (List.cons_ne_nil _ _)
        rw [enter_eq_ok_iff.mpr here]
        change (if _ then _ else _) = _
        rw [if_pos short]
        refine ih.mpr ⟨fun before rest split some => ?_, shorts, rfl⟩
        have := on_way (c :: before) rest (by rw [split, List.cons_append]) some
        rwa [walk_cons] at this

/-- Where components that are not too long lead to no place, something else is on the way. -/
theorem of_follow_eq_error {components : List String} {e : FileFailure}
    (short : ∀ c ∈ components, isShort c = true) (h : t.follow place components = .error e) :
    ∃ before rest, components = before ++ rest ∧ rest ≠ [] ∧
      (e = .notFound ∨ ∃ c, t.at? (walk place before) = some (.file c)) := by
  induction components generalizing place with
  | nil => cases h
  | cons c components ih =>
      rw [follow_cons] at h
      obtain ⟨first, others⟩ := List.forall_mem_cons.mp short
      rcases entered : t.enter place with e' | _
      · rw [entered] at h
        cases h
        refine ⟨[], c :: components, rfl, List.cons_ne_nil _ _, ?_⟩
        unfold enter at entered
        split at entered
        · cases entered
        · next content found => exact .inr ⟨content, found⟩
        · cases entered
          exact .inl rfl
      · rw [entered] at h
        change (if _ then _ else _) = _ at h
        rw [if_pos first] at h
        obtain ⟨before, rest, split, some, reason⟩ := ih others h
        refine ⟨c :: before, rest, by rw [split, List.cons_append], some, ?_⟩
        rwa [walk_cons]

/-! ### Paths -/

theorem isName_ofList (piece : List Char) : isName (String.ofList piece) = isNamed piece := by
  have empty : String.ofList piece = "" ↔ piece = [] := by
    rw [← String.toList_inj, String.toList_ofList]
    rfl
  have point : String.ofList piece = "." ↔ piece = ['.'] := by
    rw [← String.toList_inj, String.toList_ofList]
    rfl
  rw [Bool.eq_iff_iff]
  simp [isName, isNamed, isVoid, empty, point]

/-- The components of a path that name something are its names. -/
theorem filter_components (path : Path) : (components path).filter isName = path.names := by
  unfold components Path.components Path.names namesIn
  rw [List.filter_map, show isName ∘ String.ofList = isNamed from funext isName_ofList]

/-- Where a path is seen from. -/
def origin (base : FilePlace) (path : Path) : FilePlace := if path.isAbsolute then [] else base

/-- The place that a path leads to. -/
def leads (base : FilePlace) (path : Path) : FilePlace :=
  path.names.foldl onward (origin base path)

/-- A place on the way along a path, or at its end. -/
def Way (base : FilePlace) (path : Path) (place : FilePlace) : Prop :=
  ∃ ns, ns ≠ [] ∧ ns <+: path.names ∧ place = ns.foldl onward (origin base path)

/-- A place that is entered along a path: where it is seen from, or on the way. -/
def Entered (base : FilePlace) (path : Path) (place : FilePlace) : Prop :=
  ∃ ns, ns <+: path.names.dropLast ∧ place = ns.foldl onward (origin base path)

/-- The host admits the path, as far as its text is concerned. -/
structure IsAdmitted (path : Path) : Prop where
  noZero : path.hasZero = false
  hasText : path.text ≠ ""
  short : path.text.utf8ByteSize < pathLimit
  names : ∀ n ∈ path.names, isShort n = true

theorem isShort_of_mem_components (h : ∀ n ∈ path.names, isShort n = true) {c : String}
    (hc : c ∈ components path) : isShort c = true := by
  by_cases named : isName c = true
  · rw [← filter_components] at h
    exact h c (List.mem_filter.mpr ⟨hc, named⟩)
  · simp [isShort, named]

/-- The first names of a path, up to the last, are those of some components that are not all. -/
theorem exists_components_of_isPrefix (h : names <+: path.names.dropLast) : ∃ before rest,
    components path = before ++ rest ∧ before.filter isName = names ∧ rest ≠ [] := by
  rcases List.eq_nil_or_concat' path.names with none | ⟨above, last, some⟩
  · rw [none, List.dropLast_nil, List.prefix_nil] at h
    refine ⟨[], components path, rfl, h.symm, ?_⟩
    exact mt List.map_eq_nil_iff.mp (Text.pieces_ne_nil _ _)
  · rw [some, List.dropLast_concat] at h
    obtain ⟨more, rfl⟩ := h
    have split := filter_components path
    rw [some, List.append_assoc] at split
    obtain ⟨before, rest, split, named, others⟩ := List.filter_eq_append_iff.mp split
    refine ⟨before, rest, split, named, ?_⟩
    rintro rfl
    exact absurd others.symm (by simp)

/-- The names of some components that are not all are the first of a lasting path, up to the
last. -/
theorem isPrefix_of_components (lasting : path.IsLasting) {before rest : List String}
    (split : components path = before ++ rest) (some : rest ≠ []) :
    before.filter isName <+: path.names.dropLast := by
  obtain ⟨rest, last, rfl⟩ := List.eq_nil_or_concat' rest |>.resolve_left some
  have names := filter_components path
  rw [split, List.filter_append, List.filter_append] at names
  rw [← List.append_assoc] at split
  obtain ⟨pieces₁, pieces₂, pieces, -, final⟩ := List.map_eq_append_iff.mp split
  obtain ⟨piece, rfl, rfl⟩ := List.map_eq_singleton_iff.mp final
  rcases lasting pieces₁ piece pieces with named | none
  · rw [← isName_ofList] at named
    rw [← names, List.filter_cons_of_pos named, List.filter_nil, ← List.append_assoc,
      List.dropLast_concat]
    exact List.prefix_append _ _
  · rw [none] at names
    rw [(List.append_eq_nil_iff.mp names).1]
    exact List.nil_prefix

/-- A path that is located is admitted, and what is entered along it are directories. -/
theorem of_locate {q : FilePlace} (h : t.locate path = .ok q) : IsAdmitted path ∧
    (∀ place, Entered t.base path place → t.at? place = some .dir) ∧ q = leads t.base path := by
  unfold locate at h
  split at h
  · cases h
  split at h
  · cases h
  split at h
  · cases h
  next zero empty long =>
  obtain ⟨on_way, short, rfl⟩ := follow_eq_ok_iff.mp h
  refine ⟨⟨by simpa using zero, empty, Nat.lt_of_not_le long, fun n hn => ?_⟩, ?_, ?_⟩
  · rw [← filter_components] at hn
    exact short n (List.mem_filter.mp hn).1
  · rintro place ⟨ns, sub, rfl⟩
    -- the names up to the last are those of some components, and more components follow
    obtain ⟨before, rest, split, named, some⟩ := exists_components_of_isPrefix sub
    have := on_way before rest split some
    unfold walk at this
    rwa [named] at this
  · unfold walk
    rw [filter_components]
    rfl

/-- An admitted path that is lasting is located when there are directories on the way. -/
theorem locate_of_lasting (admitted : IsAdmitted path) (lasting : path.IsLasting)
    (on_way : ∀ place, Entered t.base path place → t.at? place = some .dir) :
    t.locate path = .ok (leads t.base path) := by
  unfold locate
  rw [if_neg (by rw [admitted.noZero]; exact Bool.false_ne_true), if_neg admitted.hasText,
    if_neg (Nat.not_le_of_lt admitted.short)]
  refine follow_eq_ok_iff.mpr ⟨fun before rest split some => ?_,
    fun c hc => isShort_of_mem_components admitted.names hc, ?_⟩
  · exact on_way _ ⟨_, isPrefix_of_components lasting split some, rfl⟩
  · unfold walk
    rw [filter_components]
    rfl

/-! ### Sound trees -/

/-- The base is a directory, and so is what something lies in. -/
structure Sound (base : FilePlace) (t : FileTree) : Prop where
  base_eq : t.base = base
  base_dir : t.at? base = some .dir
  above : ∀ {name place node}, t.at? (name :: place) = some node → t.at? place = some .dir

theorem Sound.tail (h : Sound base t) {node : FileNode} (there : t.at? place = some node) :
    t.at? place.tail = some .dir := by
  cases place with
  | nil => rfl
  | cons name place => exact h.above there

theorem Sound.origin (h : Sound base t) (path : Path) :
    t.at? (origin base path) = some .dir := by
  unfold FileTree.origin
  split
  · rfl
  · exact h.base_dir

/-- A tree stays sound with something at a place where no directory was, in a directory. -/
theorem Sound.set (h : Sound base t) (free : t.at? place ≠ some .dir)
    (above : t.at? place.tail = some .dir) (node : FileNode) : Sound base (t.set place node) := by
  have root : place ≠ [] := fun root => free (root ▸ rfl)
  have still {q : FilePlace} (dir : t.at? q = some .dir) :
      (t.set place node).at? q = some .dir := by
    rw [at?_set root, if_neg fun same : q = place => free (same ▸ dir), dir]
  refine ⟨h.base_eq, still h.base_dir, fun {name q node'} there => still ?_⟩
  rw [at?_set root] at there
  split at there
  · next same =>
    rw [← same] at above
    exact above
  · exact h.above there

/-- The directories above a place are those that it ends with. -/
theorem lookup_dirs (place q : FilePlace) :
    (dirs place).lookup q = if q ≠ [] ∧ q <:+ place then some .dir else none := by
  induction place with
  | nil =>
      rw [if_neg fun h => h.1 (List.suffix_nil.mp h.2)]
      rfl
  | cons name place ih =>
      rw [dirs, List.lookup_cons]
      by_cases hq : q = name :: place
      · subst hq
        rw [beq_self_eq_true, if_pos ⟨List.cons_ne_nil _ _, List.suffix_rfl⟩]
      · rw [beq_eq_false_iff_ne.mpr hq, ih]
        simp only [List.suffix_cons_iff, hq, false_or]

/-- A tree with nothing but its base is sound, and so is all that comes of it. -/
theorem sound_empty (base : FilePlace) : Sound base (empty base) := by
  have there {q : FilePlace} (h : q <:+ base) : (empty base).at? q = some .dir := by
    unfold at? empty
    split
    · rfl
    · next some => rw [lookup_dirs, if_pos ⟨some, h⟩]
  refine ⟨rfl, there List.suffix_rfl, fun {name place node} found => there ?_⟩
  unfold at? empty at found
  rw [if_neg (List.cons_ne_nil _ _), lookup_dirs] at found
  split at found
  · next h => exact (List.suffix_cons name place).trans h.2
  · cases found

/-- What a path leads to lies in a directory, if what is entered along it are directories. -/
theorem Sound.above_leads (h : Sound base t)
    (on_way : ∀ place, Entered base path place → t.at? place = some .dir) :
    t.at? (leads base path).tail = some .dir := by
  rcases List.eq_nil_or_concat' path.names with none | ⟨names, last, some⟩
  · have here : leads base path = FileTree.origin base path := by rw [leads, none, List.foldl_nil]
    rw [here]
    exact h.tail (h.origin path)
  · have upper : path.names.dropLast = names := by rw [some, List.dropLast_concat]
    have dir : t.at? (names.foldl onward (FileTree.origin base path)) = Option.some .dir :=
      on_way _ ⟨names, upper ▸ List.prefix_rfl, rfl⟩
    have there :
        leads base path = onward (names.foldl onward (FileTree.origin base path)) last := by
      unfold leads
      rw [some, List.foldl_append]
      rfl
    rw [there, onward]
    split
    · exact h.tail (h.tail dir)
    · exact dir

/-- A path leads to a place on its way, or it has no names. -/
theorem leads_cases (base : FilePlace) (path : Path) :
    leads base path = FileTree.origin base path ∨ Way base path (leads base path) := by
  by_cases none : path.names = []
  · left
    unfold leads
    rw [none]
    rfl
  · exact .inr ⟨path.names, none, List.prefix_rfl, rfl⟩

/-- Where no file is on the way, there is none at its end. -/
theorem Sound.leads_free (h : Sound base t)
    (free : ∀ place c, Way base path place → t.at? place ≠ some (.file c)) (c : FileContent) :
    t.at? (leads base path) ≠ some (.file c) := by
  rcases leads_cases base path with here | way
  · rw [here, h.origin path]
    exact nofun
  · exact free _ c way

/-- A place on the way along a path is entered, or the path leads to it. -/
theorem Way.cases (h : Way base path place) :
    Entered base path place ∨ place = leads base path := by
  obtain ⟨ns, some, sub, rfl⟩ := h
  rcases List.eq_nil_or_concat' path.names with none | ⟨names, last, hn⟩
  · rw [none, List.prefix_nil] at sub
    exact absurd sub some
  · rw [hn, List.prefix_concat_iff] at sub
    rcases sub with rfl | sub
    · right
      rw [leads, hn]
    · left
      exact ⟨ns, by rwa [hn, List.dropLast_concat], rfl⟩

/-- A place that is entered along a path is where it is seen from, or on the way. -/
theorem Entered.cases (h : Entered base path place) :
    place = FileTree.origin base path ∨ Way base path place := by
  obtain ⟨ns, sub, rfl⟩ := h
  by_cases none : ns = []
  · left
    rw [none]
    rfl
  · exact .inr ⟨ns, none, sub.trans (List.dropLast_prefix _), rfl⟩

theorem origin_eq_of_start (h : start path.text.toList = start dir.text.toList) :
    FileTree.origin base path = FileTree.origin base dir := by
  have absolute : path.isAbsolute = dir.isAbsolute := by
    rw [Bool.eq_iff_iff, isAbsolute_iff, isAbsolute_iff, h]
  unfold FileTree.origin
  rw [absolute]

/-- The directory of a path leads along the path, up to its last name. -/
theorem way_of_directory? (h : path.directory? = some dir) (hw : Way base dir place) :
    Way base path place := by
  obtain ⟨⟨n, names⟩, starts⟩ := names_of_directory? h
  obtain ⟨ns, some, sub, rfl⟩ := hw
  refine ⟨ns, some, ?_, by rw [origin_eq_of_start starts]⟩
  rw [names]
  exact sub.trans (List.prefix_append _ _)

/-- What is entered along a path is where it is seen from, or on the way to its directory. -/
theorem Entered.cases_directory? (h : path.directory? = some dir) (he : Entered base path place) :
    place = FileTree.origin base path ∨ Way base dir place := by
  obtain ⟨⟨n, names⟩, starts⟩ := names_of_directory? h
  obtain ⟨ns, sub, rfl⟩ := he
  rw [names, List.dropLast_concat] at sub
  by_cases none : ns = []
  · left
    rw [none]
    rfl
  · exact .inr ⟨ns, none, sub, by rw [origin_eq_of_start starts]⟩

/-- Where a path has no directory, nothing is entered but where it is seen from. -/
theorem Entered.eq_of_directory? (h : path.directory? = none) (he : Entered base path place) :
    place = FileTree.origin base path := by
  obtain ⟨ns, sub, rfl⟩ := he
  rcases List.eq_nil_or_concat' path.names with none | ⟨names, last, some⟩
  · rw [none, List.dropLast_nil, List.prefix_nil] at sub
    rw [sub]
    rfl
  · rcases List.eq_nil_or_concat' names with none | ⟨names, last', some'⟩
    · rw [some, List.dropLast_concat, none, List.prefix_nil] at sub
      rw [sub]
      rfl
    · -- two names make a directory
      have two : path.Extends _ (names ++ [last'] ++ [last]) := some' ▸ some ▸ extends_start path
      obtain ⟨dir, named⟩ := two.exists_directory?
      rw [h] at named
      cases named

/-! ### Making directories -/

/-- A directory is there, and those on the way to it; no file was in the way, and nothing else has
changed. -/
structure Made (base : FilePlace) (t t' : FileTree) (path : Path) : Prop where
  sound : Sound base t'
  admitted : IsAdmitted path
  free : ∀ place c, Way base path place → t.at? place ≠ some (.file c)
  dirs : ∀ place, Way base path place → t'.at? place = some .dir
  rest : ∀ place, ¬ Way base path place → t'.at? place = t.at? place

theorem exists_of_makeDir (h : t.makeDir path = .ok t') : ∃ q, t.locate path = .ok q ∧
    t.at? q.tail = some .dir ∧ t.at? q = none ∧ t' = t.set q .dir := by
  unfold makeDir at h
  rcases located : t.locate path with e | q
  · rw [located] at h
    cases h
  rcases entered : t.enter q.tail with e | _
  · simp only [located, entered, bind, Except.bind] at h
    cases h
  rcases found : t.at? q with _ | node
  all_goals simp only [located, entered, found, bind, Except.bind] at h
  · cases h
    exact ⟨q, rfl, enter_eq_ok_iff.mp entered, found, rfl⟩
  · cases h

/-- One directory is made where nothing was. -/
theorem made_of_makeDir (sound : Sound base t) (h : t.makeDir path = .ok t') :
    Made base t t' path := by
  obtain ⟨q, located, above, found, rfl⟩ := exists_of_makeDir h
  obtain ⟨admitted, on_way, rfl⟩ := of_locate located
  rw [sound.base_eq] at on_way found above
  have root : leads base path ≠ [] := fun root => by rw [root] at found; cases found
  have made (place : FilePlace) : (t.set (leads base path) .dir).at? place =
      if place = leads base path then some .dir else t.at? place := at?_set root .dir place
  rw [sound.base_eq]
  refine ⟨sound.set (by rw [found]; exact nofun) above .dir, admitted,
    fun place c way file => ?_, fun place way => ?_, fun place none => ?_⟩
  · rcases way.cases with entered | rfl
    · rw [on_way place entered] at file
      cases file
    · rw [found] at file
      cases file
  · rw [made]
    split
    · rfl
    · next other => exact on_way place (way.cases.resolve_right other)
  · rw [made, if_neg]
    rintro rfl
    rcases leads_cases base path with here | way
    · -- the path leads to where it is seen from, which is there
      rw [here, sound.origin path] at found
      cases found
    · exact none way

/-- One directory is there already. -/
theorem made_of_isDir (sound : Sound base t) (h : t.isDir path = true) : Made base t t path := by
  unfold isDir node? at h
  rcases located : t.locate path with e | q
  · rw [located] at h
    cases h
  obtain ⟨admitted, on_way, rfl⟩ := of_locate located
  rw [sound.base_eq] at on_way located
  have dir : t.at? (leads base path) = some .dir := by
    rcases found : t.at? (leads base path) with _ | _ | c
    all_goals simp only [located, found, bind, Except.bind] at h
    · cases h
    · rfl
    · cases h
  have dirs (place : FilePlace) (way : Way base path place) : t.at? place = some .dir := by
    rcases way.cases with entered | rfl
    · exact on_way place entered
    · exact dir
  refine ⟨sound, admitted, fun place c way file => ?_, dirs, fun _ _ => rfl⟩
  rw [dirs place way] at file
  cases file

/-- A directory is made after the one that it lies in. -/
theorem Made.trans (named : path.directory? = some dir) (h₁ : Made base t t₁ dir)
    (h₂ : Made base t₁ t' path) : Made base t t' path := by
  refine ⟨h₂.sound, h₂.admitted, fun place c way => ?_, h₂.dirs, fun place none => ?_⟩
  · by_cases above : Way base dir place
    · exact h₁.free place c above
    · rw [← h₁.rest place above]
      exact h₂.free place c way
  · rw [h₂.rest place none, h₁.rest place (mt (way_of_directory? named) none)]

/-- Directories are made by making the last of them, if need be after those above it. -/
theorem of_makeDirs_cons {above : List Path} (h : t.makeDirs (path :: above) = .ok t') :
    ∃ t₁, (t₁ = t ∨ t.makeDirs above = .ok t₁) ∧
      (t₁.makeDir path = .ok t' ∨ t₁.isDir path = true ∧ t' = t₁) := by
  have there {t₁ : FileTree} {failure : FileFailure}
      (h : (if t₁.isDir path = true then .ok t₁ else .error failure) = Except.ok t') :
      t₁.isDir path = true ∧ t' = t₁ := by
    split at h
    · next dir =>
      cases h
      exact ⟨dir, rfl⟩
    · cases h
  unfold makeDirs at h
  dsimp only at h
  split at h
  · -- the directory above is not there
    rcases made : t.makeDirs above with e | t₁
    · rw [made] at h
      cases h
    · rw [made] at h
      rcases last : t₁.makeDir path with failure | t₂
      · simp only [last, bind, Except.bind] at h
        exact ⟨t₁, .inr rfl, .inr (there h)⟩
      · simp only [last, bind, Except.bind] at h
        exact ⟨t₁, .inr rfl, .inl (last.trans h)⟩
  · split at h
    · exact ⟨t, .inl rfl, .inr (there h)⟩
    · exact ⟨t, .inl rfl, .inl h⟩

/-- **Making a directory and those above it** changes what `Made` says. -/
theorem made_of_makeDirs (fuel : Nat) (sound : Sound base t)
    (enough : path.text.toList.length < fuel) (h : t.makeDirs (ancestors fuel path) = .ok t') :
    Made base t t' path := by
  induction fuel generalizing path t' with
  | zero => exact absurd enough (Nat.not_lt_zero _)
  | succ fuel ih =>
      -- the directory is made in a tree that is sound
      have last {t₁ : FileTree} (sound : Sound base t₁)
          (h : t₁.makeDir path = .ok t' ∨ t₁.isDir path = true ∧ t' = t₁) :
          Made base t₁ t' path := by
        rcases h with made | ⟨there, rfl⟩
        · exact made_of_makeDir sound made
        · exact made_of_isDir sound there
      rw [ancestors] at h
      obtain ⟨t₁, rfl | above, made⟩ := of_makeDirs_cons h
      · exact last sound made
      · rcases named : path.directory? with _ | dir
        · rw [named] at above
          cases above
          exact last sound made
        · rw [named] at above
          have shorter : dir.text.toList.length < fuel :=
            (length_lt_of_directory? named).trans_le (Nat.le_of_lt_succ enough)
          have first := ih shorter above
          exact first.trans named (last first.sound made)

/-! ### Directories that can be made -/

theorem Sound.locate (sound : Sound base t) (admitted : IsAdmitted path) (lasting : path.IsLasting)
    (on_way : ∀ place, Entered base path place → t.at? place = some .dir) :
    t.locate path = .ok (leads base path) := by
  have := sound.base_eq
  subst this
  exact locate_of_lasting admitted lasting on_way

/-- Where no file is on the way, a path leads to no place only when something is not there. -/
theorem Sound.notFound_of_locate (sound : Sound base t) (admitted : IsAdmitted path)
    (lasting : path.IsLasting)
    (free : ∀ place c, Way base path place → t.at? place ≠ some (.file c)) {e : FileFailure}
    (h : t.locate path = .error e) : e = .notFound := by
  unfold FileTree.locate at h
  rw [if_neg (by rw [admitted.noZero]; exact Bool.false_ne_true), if_neg admitted.hasText,
    if_neg (Nat.not_le_of_lt admitted.short)] at h
  obtain ⟨before, rest, split, some, missing | ⟨c, file⟩⟩ :=
    of_follow_eq_error (fun c hc => isShort_of_mem_components admitted.names hc) h
  · exact missing
  · have := sound.base_eq
    subst this
    have entered : Entered t.base path (walk (FileTree.origin t.base path) before) :=
      ⟨_, isPrefix_of_components lasting split some, rfl⟩
    change t.at? (walk (FileTree.origin t.base path) before) = _ at file
    rcases entered.cases with here | way
    · rw [here, sound.origin path] at file
      cases file
    · exact absurd file (free _ c way)

/-- A directory can be made, or is there, where those on the way to it are. -/
theorem makeDir_of_entered (sound : Sound base t) (admitted : IsAdmitted path)
    (lasting : path.IsLasting)
    (on_way : ∀ place, Entered base path place → t.at? place = some .dir)
    (free : ∀ c, t.at? (leads base path) ≠ some (.file c)) :
    (∃ t', t.makeDir path = .ok t') ∨
      t.makeDir path = .error .alreadyExists ∧ t.isDir path = true := by
  have located := sound.locate admitted lasting on_way
  have entered := enter_eq_ok_iff.mpr (sound.above_leads on_way)
  rcases found : t.at? (leads base path) with _ | _ | c
  · refine .inl ⟨t.set (leads base path) .dir, ?_⟩
    unfold makeDir
    simp only [located, entered, found, bind, Except.bind]
    rfl
  · refine .inr ⟨?_, ?_⟩
    · unfold makeDir
      simp only [located, entered, found, bind, Except.bind]
      rfl
    · unfold isDir node?
      simp only [located, found, bind, Except.bind]
      rfl
  · exact absurd found (free c)

/-- A directory can be made, or is there, or something on the way to it is not there; no more can
happen where no file is on the way. -/
theorem makeDir_of_free (sound : Sound base t) (admitted : IsAdmitted path)
    (lasting : path.IsLasting)
    (free : ∀ place c, Way base path place → t.at? place ≠ some (.file c)) :
    (∃ t', t.makeDir path = .ok t') ∨
      (t.makeDir path = .error .alreadyExists ∧ t.isDir path = true) ∨
      t.makeDir path = .error .notFound := by
  rcases located : t.locate path with e | q
  · right
    right
    unfold makeDir
    rw [located, sound.notFound_of_locate admitted lasting free located]
    rfl
  · obtain ⟨-, on_way, -⟩ := of_locate located
    rw [sound.base_eq] at on_way
    exact (makeDir_of_entered sound admitted lasting on_way (sound.leads_free free)).imp_right .inl

/-- The directory of a path is admitted where the path is. -/
theorem IsAdmitted.of_directory? (h : IsAdmitted path) (named : path.directory? = some dir) :
    IsAdmitted dir := by
  obtain ⟨rest, -, text⟩ := isPrefix_of_directory? named
  have whole : path.text = dir.text ++ String.ofList rest := by
    rw [← String.toList_inj, String.toList_append, String.toList_ofList, text]
  refine ⟨?_, ?_, ?_, fun n hn => ?_⟩
  · have zero := h.noZero
    unfold hasZero at zero ⊢
    rw [text, List.contains_eq_any_beq, List.any_append, Bool.or_eq_false_iff] at zero
    rw [List.contains_eq_any_beq]
    exact zero.1
  · obtain ⟨-, -, -, -, -, -, some, -⟩ := directory?_cases named
    exact some
  · have short := h.short
    rw [whole, String.utf8ByteSize_append] at short
    omega
  · obtain ⟨⟨last, names⟩, -⟩ := names_of_directory? named
    exact h.names n (names ▸ List.mem_append_left _ hn)

/-- A directory that can be made, or is there, is made with those above it. -/
theorem exists_makeDirs_cons {above : List Path}
    (h : (∃ t', t.makeDir path = .ok t') ∨
      (t.makeDir path = .error .alreadyExists ∧ t.isDir path = true) ∨
      t.makeDir path = .error .notFound ∧ ∃ t₁, t.makeDirs above = .ok t₁ ∧
        ((∃ t', t₁.makeDir path = .ok t') ∨
          t₁.makeDir path = .error .alreadyExists ∧ t₁.isDir path = true)) :
    ∃ t', t.makeDirs (path :: above) = .ok t' := by
  unfold makeDirs
  rcases h with ⟨t', made⟩ | ⟨exists_, there⟩ | ⟨missing, t₁, made, ⟨t', made'⟩ | ⟨exists_, there⟩⟩
  · exact ⟨t', by simp only [made]⟩
  · exact ⟨t, by simp only [exists_, there, if_true]⟩
  · exact ⟨t', by simp only [missing, made, made', bind, Except.bind]⟩
  · exact ⟨t₁, by simp only [missing, made, exists_, there, if_true, bind, Except.bind]⟩

/-- **A directory can be made** where no file is on the way, if it is admitted. -/
theorem exists_makeDirs (fuel : Nat) (sound : Sound base t) (admitted : IsAdmitted path)
    (lasting : path.IsLasting) (enough : path.text.toList.length < fuel)
    (free : ∀ place c, Way base path place → t.at? place ≠ some (.file c)) :
    ∃ t', t.makeDirs (ancestors fuel path) = .ok t' := by
  induction fuel generalizing path with
  | zero => exact absurd enough (Nat.not_lt_zero _)
  | succ fuel ih =>
      rw [ancestors]
      refine exists_makeDirs_cons ?_
      refine (makeDir_of_free sound admitted lasting free).imp_right
        (Or.imp_right fun missing => ?_)
      refine ⟨missing, ?_⟩
      rcases named : path.directory? with _ | dir
      · -- nothing is entered but where the path is seen from
        refine ⟨t, rfl, makeDir_of_entered sound admitted lasting (fun place entered => ?_)
          (sound.leads_free free)⟩
        rw [entered.eq_of_directory? named]
        exact sound.origin path
      · have shorter : dir.text.toList.length < fuel :=
          (length_lt_of_directory? named).trans_le (Nat.le_of_lt_succ enough)
        obtain ⟨t₁, above⟩ := ih (admitted.of_directory? named) (isLasting_of_directory? named)
          shorter fun place c way => free place c (way_of_directory? named way)
        have made := made_of_makeDirs fuel sound shorter above
        refine ⟨t₁, above, makeDir_of_entered made.sound admitted lasting (fun place entered => ?_)
          (made.sound.leads_free fun place c way file => ?_)⟩
        · rcases entered.cases_directory? named with rfl | way
          · exact made.sound.origin path
          · exact made.dirs place way
        · by_cases way' : Way base dir place
          · rw [made.dirs place way'] at file
            cases file
          · rw [made.rest place way'] at file
            exact free place c way file

/-! ### Trees keep files -/

/-- A tree as files in directories, seen from a base. -/
def view (base : FilePlace) : TreeView FileTree where
  Sound := Sound base
  node? := at?
  place := leads base
  Above path place := ∃ dir, path.directory? = some dir ∧ Way base dir place

theorem made_of_ensureDir (sound : Sound base t) (named : path.directory? = some dir)
    (h : t.ensureDir dir = .ok t') : Made base t t' dir := by
  obtain ⟨-, -, -, -, -, -, some, -⟩ := directory?_cases named
  unfold ensureDir at h
  rw [if_neg some] at h
  exact made_of_makeDirs _ sound (Nat.lt_succ_self _) h

theorem exists_ensureDir (sound : Sound base t) (named : path.directory? = some dir)
    (admitted : IsAdmitted dir)
    (free : ∀ place c, Way base dir place → t.at? place ≠ some (.file c)) :
    ∃ t', t.ensureDir dir = .ok t' := by
  unfold ensureDir
  rw [if_neg admitted.hasText]
  exact exists_makeDirs _ sound admitted (isLasting_of_directory? named) (Nat.lt_succ_self _) free

/-- A path that leads to something else than a directory is lasting. -/
theorem isLasting_of_locate {q : FilePlace} (h : t.locate path = .ok q)
    (free : t.at? q ≠ some .dir) : path.IsLasting := by
  intro before last split
  refine .inl ?_
  by_contra void
  obtain ⟨-, -, rfl⟩ := of_locate h
  unfold locate at h
  iterate 3 split at h <;> [cases h; skip]
  obtain ⟨on_way, -⟩ := follow_eq_ok_iff.mp h
  have components_eq : components path = before.map String.ofList ++ [String.ofList last] := by
    unfold components Path.components
    rw [split, List.map_append, List.map_singleton]
  -- the last component leads nowhere else, and what comes before it leads to a directory
  have dir := on_way _ _ components_eq (List.cons_ne_nil _ _)
  rw [← isName_ofList] at void
  have names := filter_components path
  rw [components_eq, List.filter_append, List.filter_cons_of_neg void, List.filter_nil,
    List.append_nil] at names
  unfold walk at dir
  rw [names] at dir
  exact free dir

theorem exists_of_write {text : String} (h : t.write path text = .ok t') : ∃ q,
    t.locate path = .ok q ∧ t.at? q.tail = some .dir ∧ t.at? q ≠ some .dir ∧
      t' = t.set q (.file (.text text)) := by
  unfold write at h
  rcases located : t.locate path with e | q
  · rw [located] at h
    cases h
  rcases entered : t.enter q.tail with e | _
  · simp only [located, entered, bind, Except.bind] at h
    cases h
  have free : t.at? q ≠ some .dir := by
    intro dir
    simp only [located, entered, dir, bind, Except.bind] at h
    cases h
  simp only [located, entered, bind, Except.bind] at h
  cases h
  exact ⟨q, rfl, enter_eq_ok_iff.mp entered, free, rfl⟩

/-- A file is written where no directory is, in one. -/
theorem of_write {text : String} (sound : Sound base t) (h : t.write path text = .ok t') :
    IsAdmitted path ∧ path.IsLasting ∧ t.at? (leads base path) ≠ some .dir ∧
      t.at? (leads base path).tail = some .dir ∧
        t' = t.set (leads base path) (.file (.text text)) := by
  obtain ⟨q, located, above, free, made⟩ := exists_of_write h
  have lasting := isLasting_of_locate located free
  obtain ⟨admitted, -, rfl⟩ := of_locate located
  rw [sound.base_eq] at free above made
  exact ⟨admitted, lasting, free, above, made⟩

theorem write_of_locate {q : FilePlace} (located : t.locate path = .ok q)
    (above : t.at? q.tail = some .dir) (free : t.at? q ≠ some .dir) (text : String) :
    t.write path text = .ok (t.set q (.file (.text text))) := by
  unfold write
  simp only [located, enter_eq_ok_iff.mpr above, bind, Except.bind]
  rfl

theorem exists_write {text : String} (sound : Sound base t) (admitted : IsAdmitted path)
    (lasting : path.IsLasting)
    (on_way : ∀ place, Entered base path place → t.at? place = some .dir)
    (free : t.at? (leads base path) ≠ some .dir) : ∃ t', t.write path text = .ok t' := by
  have located := sound.locate admitted lasting on_way
  exact ⟨_, write_of_locate located (sound.above_leads on_way) free text⟩

theorem foldl_onward {ns : List String} (plain : ∀ n ∈ ns, IsSegment n) (place : FilePlace) :
    ns.foldl onward place = ns.reverse ++ place := by
  induction ns generalizing place with
  | nil => rfl
  | cons n ns ih =>
      obtain ⟨⟨-, -, -, -, up⟩, others⟩ := List.forall_mem_cons.mp plain
      rw [List.foldl_cons, ih others, onward, if_neg up, List.reverse_cons, List.append_assoc]
      rfl

/-- Plain names at the end of a path lead further down. -/
theorem leads_extends {root : Path} {ns : List String} (h : path.Extends root ns)
    (plain : ∀ n ∈ ns, IsSegment n) : leads base path = ns.reverse ++ leads base root := by
  unfold leads
  rw [h.names, List.foldl_append, origin_eq_of_start h.start, foldl_onward plain]

theorem way_of_above (named : path.directory? = some dir) (h : (view base).Above path place) :
    Way base dir place := by
  obtain ⟨dir', named', way⟩ := h
  cases named.symm.trans named'
  exact way

/-- **Trees keep files in directories.** -/
theorem keeps (base : FilePlace) : host.Keeps (view base) where
  place_extends := leads_extends
  sound_ensureDir sound named made := (made_of_ensureDir sound named made).sound
  housed sound named made := by
    have h := made_of_ensureDir sound named made
    exact ⟨fun place c above => h.free place c (way_of_above named above),
      fun place above => h.dirs place (way_of_above named above),
      fun place none => h.rest place fun way => none ⟨_, named, way⟩⟩
  exists_ensureDir named sound₁ granted sound free :=
    FileTree.exists_ensureDir sound named (made_of_ensureDir sound₁ named granted).admitted
      fun place c way => free place c ⟨_, named, way⟩
  sound_write sound written := by
    obtain ⟨-, -, free, above, rfl⟩ := of_write sound written
    exact sound.set free above _
  filed {s s' path text} sound written := by
    obtain ⟨-, -, free, -, rfl⟩ := of_write sound written
    have root : leads base path ≠ [] := fun root => free (root ▸ rfl)
    have node (place : FilePlace) := at?_set (t := s) root (.file (.text text)) place
    exact ⟨free, (node _).trans (if_pos rfl), fun place other => (node place).trans (if_neg other)⟩
  exists_write named sound₁ granted sound on_way free := by
    obtain ⟨admitted, lasting, -⟩ := of_write sound₁ granted
    refine FileTree.exists_write sound admitted lasting (fun place entered => ?_) free
    rcases entered.cases_directory? named with rfl | way
    · exact sound.origin _
    · exact on_way place ⟨_, named, way⟩

end Subgraph.FileTree
