import LayoutBinding.Proofs.Layout.Precedence
import Mathlib.Data.List.DropRight

/-!
# Where layouts are looked up

The name of a layout is a relative path: however it is spelled, it starts below a folder of
layouts.  Two points lead up again, so the file lies inside the folder only if the name does not
lead up any further, or comes back through the folders that it has left.  A layout is read from
the place that its path leads to by the names alone.
-/

namespace LayoutBinding

namespace FilePath

/-! ### Stacks of resolved components -/

/-- Resolved components, the last one first: names, and two points below them. -/
def IsStack (stack : List String) : Prop :=
  ∃ names count, ".." ∉ names ∧ stack = names ++ List.replicate count ".."

theorem isStack_nil : IsStack [] :=
  ⟨[], 0, nofun, rfl⟩

theorem resolveStep_of_ne (relative : Bool) (stack : List String) {component : String}
    (name : component ≠ "..") : resolveStep relative stack component = component :: stack :=
  if_neg name

theorem resolveStep_up_cons (relative : Bool) {name : String} (other : name ≠ "..")
    (stack : List String) : resolveStep relative (name :: stack) ".." = stack := by
  simp [resolveStep, other]

/-- Above the start of a relative path there is nothing but further points. -/
theorem resolveStep_true_replicate (count : Nat) :
    resolveStep true (List.replicate count "..") ".." = List.replicate (count + 1) ".." := by
  cases count <;> rfl

theorem IsStack.resolveStep {stack : List String} (shape : IsStack stack) (relative : Bool)
    (component : String) : IsStack (resolveStep relative stack component) := by
  obtain ⟨names, count, noPoints, rfl⟩ := shape
  by_cases up : component = ".."
  · subst up
    cases names with
    | cons name names =>
        rw [List.mem_cons, not_or] at noPoints
        exact ⟨names, count, noPoints.2, resolveStep_up_cons relative (Ne.symm noPoints.1) _⟩
    | nil =>
        refine ⟨[], if relative = false ∧ count = 0 then 0 else count + 1, nofun, ?_⟩
        cases count <;> cases relative <;> rfl
  · refine ⟨component :: names, count, ?_, resolveStep_of_ne relative _ up⟩
    rw [List.mem_cons, not_or]
    exact ⟨Ne.symm up, noPoints⟩

theorem IsStack.foldl {stack : List String} (shape : IsStack stack) (relative : Bool)
    (components : List String) :
    IsStack (components.foldl (FilePath.resolveStep relative) stack) := by
  induction components generalizing stack with
  | nil => exact shape
  | cons component components ih => exact ih (shape.resolveStep relative component)

/-- Without a way above its start, resolving leaves no points. -/
theorem notMem_foldl_resolveStep {stack : List String} (plain : ".." ∉ stack)
    (components : List String) : ".." ∉ components.foldl (resolveStep false) stack := by
  induction components generalizing stack with
  | nil => exact plain
  | cons component components ih =>
      refine ih fun points => ?_
      by_cases up : component = ".."
      · subst up
        cases stack with
        | nil => cases points
        | cons last others =>
            rw [List.mem_cons, not_or] at plain
            rw [resolveStep_up_cons false (Ne.symm plain.1)] at points
            exact plain.2 points
      · rw [resolveStep_of_ne false stack up] at points
        exact plain ((List.mem_cons.mp points).resolve_left (Ne.symm up))

theorem foldl_resolveStep_names (relative : Bool) {names : List String} (plain : ".." ∉ names)
    (stack : List String) :
    names.foldl (resolveStep relative) stack = names.reverse ++ stack := by
  induction names generalizing stack with
  | nil => rfl
  | cons name names ih =>
      rw [List.mem_cons, not_or] at plain
      rw [List.foldl_cons, resolveStep_of_ne relative stack (Ne.symm plain.1), ih plain.2,
        List.reverse_cons, List.append_assoc]
      rfl

/-- Steps up take names away.  At the root they end, and on a relative path they go on. -/
theorem foldl_resolveStep_points (relative : Bool) {names : List String} (plain : ".." ∉ names)
    {count : Nat} (rooted : relative = false → count = 0) (steps : Nat) :
    (List.replicate steps "..").foldl (resolveStep relative)
        (names ++ List.replicate count "..") =
      names.drop steps ++
        List.replicate (count + if relative then steps - names.length else 0) ".." := by
  induction steps generalizing names count with
  | zero => simp
  | succ steps ih =>
      rw [List.replicate_succ, List.foldl_cons]
      cases names with
      | cons name names =>
          rw [List.mem_cons, not_or] at plain
          rw [List.cons_append, resolveStep_up_cons relative (Ne.symm plain.1),
            ih plain.2 rooted, List.drop_succ_cons, List.length_cons, Nat.add_sub_add_right]
      | nil =>
          cases relative with
          | true =>
              rw [List.nil_append, resolveStep_true_replicate]
              have above := @ih [] nofun (count + 1) nofun
              simpa [Nat.add_comm, Nat.add_left_comm] using above
          | false =>
              obtain rfl := rooted rfl
              have root := @ih [] nofun 0 fun _ => rfl
              simpa [resolveStep] using root

/-- What a relative path does to a stack is told from what it is by itself. -/
theorem foldl_resolveStep_resolved (relative : Bool) (stack components : List String) :
    components.foldl (resolveStep relative) stack =
      (components.foldl (resolveStep true) []).reverse.foldl (resolveStep relative) stack := by
  induction components using List.reverseRecOn with
  | nil => rfl
  | append_singleton components component ih =>
      rw [List.foldl_append, List.foldl_cons, List.foldl_nil, ih, List.foldl_append,
        List.foldl_cons, List.foldl_nil]
      by_cases up : component = ".."
      · subst up
        obtain ⟨names, count, plain, same⟩ := isStack_nil.foldl true components
        rw [same]
        cases names with
        | nil =>
            rw [List.nil_append, resolveStep_true_replicate, List.replicate_succ,
              List.reverse_cons, List.foldl_append]
            rfl
        | cons name names =>
            rw [List.mem_cons, not_or] at plain
            rw [List.cons_append, resolveStep_up_cons true (Ne.symm plain.1), List.reverse_cons,
              List.foldl_append, List.foldl_cons, List.foldl_nil,
              resolveStep_of_ne relative _ (Ne.symm plain.1),
              resolveStep_up_cons relative (Ne.symm plain.1)]
      · rw [resolveStep_of_ne true _ up, List.reverse_cons, List.foldl_append]
        rfl

/-! ### Paths below a folder -/

/-- How many folders a path leads up. -/
def climbs (path : FilePath) : Nat :=
  (path.resolved.components.takeWhile (· = "..")).length

/-- The names that a path leads down through after that. -/
def descent (path : FilePath) : List String :=
  path.resolved.components.dropWhile (· = "..")

/-- By the names alone, a path leads to something in a folder. -/
def LiesIn (path folder : FilePath) : Prop :=
  path.resolved.root = folder.resolved.root ∧
    ∃ below, ".." ∉ below ∧ path.resolved.components = folder.resolved.components ++ below

/-- A path leads up no further than to the root, and down again through all the folders that
it has left. -/
def ComesBack (path folder : FilePath) : Prop :=
  (folder.root ≠ "" ∨ path.climbs ≤ folder.resolved.components.length) ∧
    folder.resolved.components.rtake path.climbs <+: path.descent

/-- A path leads up first, and then down. -/
theorem components_resolved (path : FilePath) :
    path.resolved.components = List.replicate path.climbs ".." ++ path.descent ∧
      ".." ∉ path.descent := by
  obtain ⟨names, count, plain, same⟩ :=
    isStack_nil.foldl (path.root = "") path.components
  have shape : path.resolved.components = List.replicate count ".." ++ names.reverse := by
    rw [resolved, same, List.reverse_append, List.reverse_replicate]
  have stops : names.reverse.takeWhile (· = "..") = [] ∧
      names.reverse.dropWhile (· = "..") = names.reverse := by
    cases down : names.reverse with
    | nil => exact ⟨rfl, rfl⟩
    | cons first others =>
        have other : first ≠ ".." := by
          rintro rfl
          exact plain (List.mem_reverse.mp (down ▸ List.mem_cons_self))
        simp [other]
  have up : ∀ component ∈ List.replicate count "..", decide (component = "..") = true := by
    simp +contextual
  have climbs : path.climbs = count := by
    rw [FilePath.climbs, shape, List.takeWhile_append_of_pos up, stops.1]
    simp
  have descent : path.descent = names.reverse := by
    rw [FilePath.descent, shape, List.dropWhile_append_of_pos up, stops.2]
  rw [climbs, descent]
  exact ⟨shape, mt List.mem_reverse.mp plain⟩

/-- Points and names before other names lead down in the same way only if there are no points
and the names end alike. -/
theorem exists_below_iff {names descent : List String} (plain : ".." ∉ names)
    (down : ".." ∉ descent) (above steps : Nat) :
    (∃ below, ".." ∉ below ∧ List.replicate above ".." ++ ((names.drop steps).reverse ++ descent) =
        names.reverse ++ below) ↔
      above = 0 ∧ (names.take steps).reverse <+: descent := by
  have cut : names.reverse = (names.drop steps).reverse ++ (names.take steps).reverse := by
    rw [← List.reverse_append, List.take_append_drop]
  constructor
  · rintro ⟨below, noPoints, same⟩
    have pointless : ".." ∉ names.reverse ++ below := by
      rw [List.mem_append, List.mem_reverse, not_or]
      exact ⟨plain, noPoints⟩
    obtain rfl : above = 0 := by
      by_contra positive
      rw [← same] at pointless
      exact pointless (List.mem_append_left _ (List.mem_replicate.mpr ⟨positive, rfl⟩))
    rw [List.replicate_zero, List.nil_append, cut, List.append_assoc] at same
    exact ⟨rfl, below, (List.append_cancel_left same).symm⟩
  · rintro ⟨rfl, below, rfl⟩
    rw [List.mem_append, not_or] at down
    exact ⟨below, down.2, by rw [cut]; simp⟩

/-- Resolving a path leaves names, and points below them only on a relative path. -/
theorem exists_stack (folder : FilePath) :
    ∃ names count, ".." ∉ names ∧ (decide (folder.root = "") = false → count = 0) ∧
      folder.components.foldl (resolveStep (folder.root = "")) [] =
        names ++ List.replicate count ".." := by
  obtain ⟨names, count, plain, stack⟩ := isStack_nil.foldl (folder.root = "") folder.components
  refine ⟨names, count, plain, fun absolute => ?_, stack⟩
  by_contra positive
  have pointless := notMem_foldl_resolveStep List.not_mem_nil folder.components
  rw [← absolute, stack] at pointless
  exact pointless (List.mem_append_right _ (List.mem_replicate.mpr ⟨positive, rfl⟩))

/-- A relative path from a folder takes away as many names of the folder as it leads up, and goes
on with its own. -/
theorem components_resolved_join (folder : FilePath) {path : FilePath} (relative : path.root = "")
    {names : List String} {count : Nat} (plain : ".." ∉ names)
    (rooted : decide (folder.root = "") = false → count = 0)
    (stack : folder.components.foldl (resolveStep (folder.root = "")) [] =
      names ++ List.replicate count "..") :
    (folder.join path).resolved.components =
      List.replicate count ".." ++ (List.replicate
        (if folder.root = "" then path.climbs - names.length else 0) ".." ++
          ((names.drop path.climbs).reverse ++ path.descent)) := by
  obtain ⟨resolvedPath, down⟩ := path.components_resolved
  have pathStack : (path.components.foldl (resolveStep true) []).reverse =
      List.replicate path.climbs ".." ++ path.descent := by
    rw [← resolvedPath, resolved, relative]
    rfl
  rw [join, if_pos relative, resolved, List.foldl_append, stack, foldl_resolveStep_resolved,
    pathStack, List.foldl_append, foldl_resolveStep_points _ plain rooted,
    foldl_resolveStep_names _ down]
  rw [List.reverse_append, List.reverse_append, List.reverse_reverse, List.reverse_replicate,
    ← List.replicate_append_replicate]
  simp only [List.append_assoc, decide_eq_true_eq]

/-- A relative path from a folder lies in the folder just if it comes back. -/
theorem liesIn_join_iff (folder : FilePath) {path : FilePath} (relative : path.root = "") :
    (folder.join path).LiesIn folder ↔ path.ComesBack folder := by
  obtain ⟨names, count, plain, rooted, stack⟩ := folder.exists_stack
  have down := path.components_resolved.2
  have folderShape : folder.resolved.components =
      List.replicate count ".." ++ names.reverse := by
    rw [resolved, stack, List.reverse_append, List.reverse_replicate]
  have sameRoot : (folder.join path).resolved.root = folder.resolved.root := by
    rw [join, if_pos relative]
    rfl
  rw [LiesIn, and_iff_right sameRoot, components_resolved_join folder relative plain rooted stack,
    folderShape]
  simp only [List.append_assoc, List.append_cancel_left_eq]
  rw [exists_below_iff plain down, ComesBack, folderShape, List.rtake_eq_reverse_take_reverse,
    List.reverse_append, List.reverse_reverse, List.reverse_replicate, List.length_append,
    List.length_replicate, List.length_reverse]
  by_cases enough : path.climbs ≤ names.length
  · rw [List.take_append_of_le_length enough, Nat.sub_eq_zero_of_le enough, ite_self]
    simp only [true_and, Nat.le_add_left_of_le enough, or_true]
  by_cases isRelative : folder.root = ""
  · -- Leading up above the start of a relative folder leaves points that no name takes away.
    rw [if_pos isRelative]
    refine iff_of_false (fun kept => enough (Nat.sub_eq_zero_iff_le.mp kept.1)) ?_
    rintro ⟨inside | inside, back⟩
    · exact inside isRelative
    · refine down (back.subset (List.mem_reverse.mpr ?_))
      rw [List.take_append, List.take_replicate]
      exact List.mem_append_right _ (List.mem_replicate.mpr ⟨by omega, rfl⟩)
  · obtain rfl := rooted (decide_eq_false isRelative)
    rw [if_neg isRelative]
    simp [isRelative]

/-- There is a folder that a path leaves without coming back, unless it never leads up. -/
theorem forall_comesBack_iff (path : FilePath) :
    (∀ folder, path.ComesBack folder) ↔ path.climbs = 0 := by
  constructor
  · intro back
    by_contra leaves
    have other (name : String) (notPoints : name ≠ "..") :
        path.descent.head? = some name := by
      obtain ⟨-, again⟩ := back ⟨"/", [name]⟩
      have single : resolved ⟨"/", [name]⟩ = ⟨"/", [name]⟩ := by
        rw [resolved, List.foldl_cons, List.foldl_nil, resolveStep_of_ne _ _ notPoints]
        rfl
      obtain ⟨steps, leads⟩ := Nat.exists_eq_succ_of_ne_zero leaves
      rw [single, leads, List.rtake_eq_reverse_take_reverse] at again
      obtain ⟨rest, same⟩ := again
      simp [← same]
    have contradictory := (other "a" (by decide)).symm.trans (other "b" (by decide))
    exact absurd contradictory (by decide)
  · intro stays folder
    rw [ComesBack, stays, List.rtake_zero]
    exact ⟨.inr (Nat.zero_le _), List.nil_prefix⟩

/-! ### The name of a layout -/

theorem head?_normalize_ne_slash (cs : List Char) :
    (LayoutName.normalize cs).head? ≠ some '/' := by
  unfold LayoutName.normalize
  dsimp only
  cases named : trimStart (· = '/') (trim Character.isBlank cs) with
  | nil => decide
  | cons c rest =>
      have first : c ≠ '/' := by
        have kept := List.head?_dropWhile_not (· = '/') (trim Character.isBlank cs)
        rw [← trimStart, named] at kept
        simpa using kept
      split <;> simpa using first

/-- However it is spelled, a layout is named by a relative path. -/
theorem root_ofString_normalizeLayout (layout : String) :
    (ofString (normalizeLayout layout)).root = "" := by
  rw [ofString, normalizeLayout, String.toList_ofList]
  exact rootOf_append (.inl rfl) (head?_normalize_ne_slash layout.toList)

end FilePath

/-! ### Files -/

namespace FileStore

/-- Where a path can be followed, it leads to where it leads by the names alone. -/
theorem eq_of_follow {store : FileStore} {here names place : List String}
    (plain : ".." ∉ here) (follows : store.follow here names = .ok place) (relative : Bool) :
    place = (names.foldl (FilePath.resolveStep relative) here.reverse).reverse := by
  induction names generalizing here with
  | nil =>
      cases follows
      exact (List.reverse_reverse _).symm
  | cons name names ih =>
      rw [List.foldl_cons]
      unfold follow at follows
      split at follows
      · cases follows
      split at follows
      · cases follows
      split at follows
      next up =>
        split at follows
        next => cases follows
        next inside =>
          obtain ⟨others, last, rfl⟩ := (List.eq_nil_or_concat' here).resolve_left inside
          rw [List.mem_append, List.mem_singleton, not_or] at plain
          rw [List.dropLast_concat] at follows
          rw [up, List.reverse_append, List.reverse_singleton, List.singleton_append,
            FilePath.resolveStep_up_cons relative (Ne.symm plain.2)]
          exact ih plain.1 follows
      next notUp =>
        split at follows
        next => cases follows
        next =>
          have further : ".." ∉ here ++ [name] := by
            rw [List.mem_append, List.mem_singleton, not_or]
            exact ⟨plain, Ne.symm notUp⟩
          rw [FilePath.resolveStep_of_ne relative _ notUp, ih further follows,
            List.reverse_append]
          rfl

/-- A file that is found stands where its path leads to by the names alone. -/
theorem locate_of_fileAt? {store : FileStore} {path : FilePath} {file : StoredFile}
    (found : store.fileAt? path = .ok (some file)) :
    store.locate path = .ok path.resolved.components := by
  unfold fileAt? at found
  split at found
  next place located =>
    rw [located]
    unfold locate at located
    split at located
    · cases located
    split at located
    · cases located
    · exact congrArg Except.ok
        (eq_of_follow List.not_mem_nil located (decide (path.root = "")))
  all_goals cases found

end FileStore

namespace LayoutShelf

/-- However the name of a layout is spelled, its path starts below each folder that it is looked
up in.  By the names alone it lies inside the folder just if it does not lead up out of the
folder, or comes back through the folders that it has left; so it lies inside every folder just
if it never leads up.  Whatever is done to the files, a layout that is loaded has the path of its
name below one of the folders, and is read from the place that this path leads to by the names
alone. -/
theorem layouts_inside_iff (layout : String) :
    let name := FilePath.ofString (normalizeLayout layout)
    (∀ folder, layoutPath folder layout = ⟨folder.root, folder.components ++ name.components⟩) ∧
      (∀ folder, (layoutPath folder layout).LiesIn folder ↔ name.ComesBack folder) ∧
      ((∀ folder, (layoutPath folder layout).LiesIn folder) ↔ name.climbs = 0) ∧
      ∀ store folders actions found,
        ((ofFolders store folders).after actions).loaded layout = .ok found →
          (∃ folder ∈ folders, found.path = layoutPath folder layout) ∧
            ((ofFolders store folders).after actions).store.locate found.path =
              .ok found.path.resolved.components := by
  intro name
  have relative : name.root = "" := FilePath.root_ofString_normalizeLayout layout
  have below (folder : FilePath) : layoutPath folder layout = folder.join name := rfl
  clear_value name
  have inside (folder : FilePath) :
      (layoutPath folder layout).LiesIn folder ↔ name.ComesBack folder := by
    rw [below]
    exact FilePath.liesIn_join_iff folder relative
  refine ⟨fun folder => (below folder).trans (if_pos relative), inside, ?_, ?_⟩
  · rw [← name.forall_comesBack_iff]
    exact forall_congr' inside
  · intro store folders actions found loads
    obtain ⟨⟨found, library⟩, loading, rfl⟩ := map_eq_ok_iff.mp loads
    obtain ⟨isFrom, file, here, -⟩ := (remembers_after_ofFolders store folders actions).of_load
      (store_after_mem_stores _ actions) loading
    obtain ⟨folder, among, path⟩ := isFrom.folder
    rw [folders_after] at among
    exact ⟨⟨folder, among, path⟩, FileStore.locate_of_fileAt? here⟩

/-- A file beside the only folder of layouts is loaded as a layout. -/
theorem loads_layout_outside :
    let shelf := (ofFolders (.ofFolders 16 [["user"], ["default"]]) [.ofString "user"]).after
      [.write (.ofString "default/secret.html") [0x73] 1]
    let path := layoutPath (.ofString "user") "../default/secret"
    (shelf.loaded "../default/secret").toOption.map ReadLayout.path = some path ∧
      shelf.store.locate path = .ok ["default", "secret.html"] ∧
      ¬path.LiesIn (.ofString "user") := by
  intro shelf path
  refine ⟨by decide +kernel, toOption_eq_some_iff.mp (by decide +kernel), ?_⟩
  rintro ⟨-, below, -, same⟩
  have leads : path.resolved.components = ["default", "secret.html"] := by decide +kernel
  have folder : (FilePath.ofString "user").resolved.components = ["user"] := by decide +kernel
  rw [leads, folder] at same
  exact absurd (List.cons.inj same).1 (by decide)

end LayoutShelf

end LayoutBinding
