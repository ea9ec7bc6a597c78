import LayoutBinding.Proofs.Layout.History

/-!
# Own layouts and default layouts

A library searches a folder of a site's own layouts before a folder of default layouts.
A layout that it remembers is compared with the file that it was read from and with no
other.  So an own layout that is added while the default one of its name is remembered
is hidden, and this is the only way in which a default layout comes before an own one.
-/

namespace LayoutBinding

/-! ### Faults of a source -/

/-- Whether a fault lies in the source of a template. -/
def Fault.isOfSource : Fault → Bool
  | .numberTooLong | .unnamedSection _ | .unknownSection _ => true
  | _ => false

namespace Events

theorem isOfSource_of_delimited {event : String → Event} {skip : Nat}
    {close? : List Char → Option (List Char)} {cs : List Char} {searched : Nat} {fault : Fault}
    (bad : delimited event skip close? cs searched = .bad fault) : fault.isOfSource := by
  unfold delimited at bad
  split at bad <;> cases bad

theorem isOfSource_of_markedSection {cs : List Char} {fault : Fault}
    (bad : markedSection cs = .bad fault) : fault.isOfSource := by
  unfold markedSection at bad
  dsimp only at bad
  repeat' split at bad
  all_goals first | exact isOfSource_of_delimited bad | cases bad
  all_goals rfl

theorem isOfSource_of_declaration {cs : List Char} {fault : Fault}
    (bad : declaration cs = .bad fault) : fault.isOfSource := by
  unfold declaration at bad
  repeat' split at bad
  · exact isOfSource_of_markedSection bad
  all_goals exact isOfSource_of_delimited bad

theorem isOfSource_of_endTag {cs : List Char} {fault : Fault} (bad : endTag cs = .bad fault) :
    fault.isOfSource := by
  unfold endTag at bad
  repeat' split at bad
  all_goals first | cases bad | exact isOfSource_of_delimited bad

theorem isOfSource_of_angleConstruct {place : Place} {cs : List Char} {fault : Fault}
    (bad : angleConstruct place cs = some (.bad fault)) : fault.isOfSource := by
  unfold angleConstruct at bad
  split at bad
  next _ c _ =>
    split at bad
    next =>
      -- Of what the reading of a start tag gives only a number that is too long is bad.
      have tag := Option.some.inj bad
      split at tag <;> cases tag
      rfl
    next =>
      repeat' split at bad
      · exact isOfSource_of_endTag (Option.some.inj bad)
      · exact isOfSource_of_delimited (Option.some.inj bad)
      · exact isOfSource_of_delimited (Option.some.inj bad)
      · exact isOfSource_of_declaration (Option.some.inj bad)
      · cases bad
  next => cases bad

theorem isOfSource_of_move {final : Bool} {raw : Option String} {place : Place} {cs : List Char}
    {fault : Fault} (fails : move final raw place cs = .fail fault) : fault.isOfSource := by
  unfold move at fails
  split at fails
  · unfold inRaw at fails
    repeat' split at fails
    all_goals cases fails
  · split at fails
    · cases fails
    · split at fails
      · unfold atAngle at fails
        split at fails
        next => cases fails
        next bad =>
          cases fails
          exact isOfSource_of_angleConstruct bad
        all_goals split at fails <;> cases fails
      · split at fails
        · unfold atAmpersand at fails
          dsimp only at fails
          repeat' split at fails
          all_goals cases fails
        · cases fails

theorem isOfSource_of_run {final : Bool} {raw : Option String} {place : Place} {cs : List Char}
    {fault : Fault} (fails : run final raw place cs = .error fault) : fault.isOfSource := by
  fun_induction run final raw place cs with
  | case1 => cases fails
  | case2 raw place c tail other moves =>
      cases fails
      exact isOfSource_of_move moves
  | case3 => cases fails
  | case4 raw place c tail event length moves other stops ih =>
      cases fails
      exact ih stops
  | case5 => cases fails

end Events

theorem Template.isOfSource_of_parse {source : String} {name : Option String} {fault : Fault}
    (fails : parse source name = .error fault) : fault.isOfSource := by
  rcases bind_eq_error_iff.mp (map_eq_error_iff.mp fails) with stops | ⟨first, -, fails⟩
  · exact Events.isOfSource_of_run stops
  · rcases bind_eq_error_iff.mp fails with stops | ⟨second, -, fails⟩
    · exact Events.isOfSource_of_run stops
    · cases fails

theorem StoredFile.template_ne_layoutNotFound (file : StoredFile) (name missing : String) :
    file.template name ≠ .error (.layoutNotFound missing) := by
  unfold StoredFile.template
  split
  · exact nofun
  · intro fails
    cases Template.isOfSource_of_parse fails

/-! ### Which file is used -/

def layoutPath (folder : FilePath) (layout : String) : FilePath :=
  folder.join (.ofString (normalizeLayout layout))

theorem LayoutLibrary.find?_pair {store : FileStore} {name own default : FilePath}
    {found : Option StoredFile} (first : store.fileAt? (own.join name) = .ok found)
    {other : Option StoredFile} (second : store.fileAt? (default.join name) = .ok other) :
    find? store name [own, default] =
      .ok ((found.map (own.join name, ·)).or (other.map (default.join name, ·))) := by
  simp only [find?, first, second]
  cases found <;> cases other <;> rfl

/-- Where its file can be looked up it is known whether a remembered layout is current. -/
theorem LayoutLibrary.exists_current? {library : LayoutLibrary} {store : FileStore}
    {name : String} (usable : ∀ known, Entries.get? library.known name = some known →
      ∃ found, store.fileAt? known.path = .ok found) :
    ∃ known, library.current? store name = .ok known := by
  unfold current?
  split
  · exact ⟨none, rfl⟩
  next known isKnown =>
    obtain ⟨found, here⟩ := usable known isKnown
    rw [isCurrent, here]
    cases found with
    | none => exact ⟨none, rfl⟩
    | some file =>
        change ∃ result, (if decide (file.modified = known.modified) then pure (some known)
          else pure none : Except Fault (Option ReadLayout)) = .ok result
        split <;> exact ⟨_, rfl⟩

namespace LayoutShelf

/-- The layout in a file is what loading gives, under the file's path; where the file holds
no layout that can be read, loading fails for that reason. -/
def Uses (shelf : LayoutShelf) (layout : String) (path : FilePath) (file : StoredFile) : Prop :=
  (fun found => (found.path, found.template)) <$> shelf.loaded layout =
    (path, ·) <$> file.template path.toString

/-- A layout is loaded from the first of two paths where there is a file, and is missing only
where there is none. -/
structure Prefers (shelf : LayoutShelf) (layout : String) (own default : FilePath) : Prop where
  usesOwn : ∀ file, shelf.store.fileAt? own = .ok (some file) → shelf.Uses layout own file
  usesDefault : shelf.store.fileAt? own = .ok none → ∀ file,
    shelf.store.fileAt? default = .ok (some file) → shelf.Uses layout default file
  missing : shelf.loaded layout = .error (.layoutNotFound (normalizeLayout layout)) ↔
    shelf.store.fileAt? own = .ok none ∧ shelf.store.fileAt? default = .ok none

/-- A file is hidden: what is remembered of the layout is another file, which has not changed
since. -/
def Hides (shelf : LayoutShelf) (layout : String) (path : FilePath) : Prop :=
  (∃ file, shelf.store.fileAt? path = .ok (some file)) ∧
    ∃ known, shelf.library.current? shelf.store (normalizeLayout layout) = .ok (some known) ∧
      known.path ≠ path

theorem loaded_of_current {shelf : LayoutShelf} {layout : String} {known : ReadLayout}
    (current : shelf.library.current? shelf.store (normalizeLayout layout) = .ok (some known)) :
    shelf.loaded layout = .ok known := by
  rw [loaded, LayoutLibrary.load, current]
  rfl

theorem loaded_of_not_current {shelf : LayoutShelf} {layout : String}
    (current : shelf.library.current? shelf.store (normalizeLayout layout) = .ok none) :
    shelf.loaded layout = shelf.library.read shelf.store (normalizeLayout layout) := by
  rw [loaded, LayoutLibrary.load, current]
  cases shelf.library.read shelf.store (normalizeLayout layout) <;> rfl

theorem uses_of_current {shelf : LayoutShelf} {stores : List FileStore}
    (remembers : shelf.library.Remembers stores) (tell : FileStore.TimesTell stores)
    (member : shelf.store ∈ stores) {layout : String} {known : ReadLayout}
    (current : shelf.library.current? shelf.store (normalizeLayout layout) = .ok (some known))
    {file : StoredFile} (found : shelf.store.fileAt? known.path = .ok (some file)) :
    shelf.Uses layout known.path file := by
  obtain ⟨isKnown, unchanged⟩ := LayoutLibrary.exists_of_current? current
  obtain ⟨same, here, modified⟩ := LayoutLibrary.exists_of_isCurrent unchanged
  rw [found] at here
  cases here
  have opened := (remembers _ known isKnown).template_eq tell member found modified
  rw [Uses, loaded_of_current current, opened]
  rfl

theorem uses_of_find? {shelf : LayoutShelf} {layout : String} {path : FilePath}
    {file : StoredFile}
    (current : shelf.library.current? shelf.store (normalizeLayout layout) = .ok none)
    (first : LayoutLibrary.find? shelf.store (.ofString (normalizeLayout layout))
      shelf.library.folders = .ok (some (path, file))) : shelf.Uses layout path file := by
  rw [Uses, loaded_of_not_current current, LayoutLibrary.read_eq, first]
  change _ <$> (file.template path.toString >>= _) = _
  cases file.template path.toString <;> rfl

theorem loaded_ne_layoutNotFound {shelf : LayoutShelf} {layout : String} {path : FilePath}
    {file : StoredFile} (uses : shelf.Uses layout path file) (name : String) :
    shelf.loaded layout ≠ .error (.layoutNotFound name) := by
  intro fails
  rw [Uses, fails] at uses
  exact file.template_ne_layoutNotFound _ name (map_eq_error_iff.mp uses.symm)

section

variable {shelf : LayoutShelf} {stores : List FileStore} {user default : FilePath}
  {layout : String}

/-- What is remembered of a layout stands in one of the two places. -/
theorem path_of_current (remembers : shelf.library.Remembers stores)
    (folders : shelf.library.folders = [user, default]) {known : ReadLayout}
    (current : shelf.library.current? shelf.store (normalizeLayout layout) = .ok (some known)) :
    known.path = layoutPath user layout ∨ known.path = layoutPath default layout := by
  obtain ⟨isKnown, -⟩ := LayoutLibrary.exists_of_current? current
  obtain ⟨folder, among, below⟩ := (remembers _ known isKnown).folder
  rw [folders] at among
  rcases List.mem_cons.mp among with rfl | among
  · exact .inl below
  · exact .inr (List.mem_singleton.mp among ▸ below)

theorem uses_default_of_hides (remembers : shelf.library.Remembers stores)
    (tell : FileStore.TimesTell stores) (member : shelf.store ∈ stores)
    (folders : shelf.library.folders = [user, default])
    (hides : shelf.Hides layout (layoutPath user layout)) :
    ∃ file, shelf.store.fileAt? (layoutPath default layout) = .ok (some file) ∧
      shelf.Uses layout (layoutPath default layout) file := by
  obtain ⟨-, known, current, elsewhere⟩ := hides
  have below := (path_of_current remembers folders current).resolve_left elsewhere
  obtain ⟨-, unchanged⟩ := LayoutLibrary.exists_of_current? current
  obtain ⟨file, here, -⟩ := LayoutLibrary.exists_of_isCurrent unchanged
  rw [← below]
  exact ⟨file, here, uses_of_current remembers tell member current here⟩

theorem not_prefers_of_hides {own other : FilePath} (hides : shelf.Hides layout own) :
    ¬shelf.Prefers layout own other := by
  obtain ⟨⟨file, here⟩, known, current, elsewhere⟩ := hides
  intro prefers
  have uses := prefers.usesOwn file here
  rw [Uses, loaded_of_current current] at uses
  obtain ⟨template, -, same⟩ := map_eq_ok_iff.mp uses.symm
  exact elsewhere (congrArg Prod.fst same).symm

theorem prefers_of_uses {own other : FilePath} {found second : Option StoredFile}
    (ownHere : shelf.store.fileAt? own = .ok found)
    (otherHere : shelf.store.fileAt? other = .ok second)
    (usesOwn : ∀ file, found = some file → shelf.Uses layout own file)
    (usesOther : found = none → ∀ file, second = some file → shelf.Uses layout other file)
    (missing : found = none → second = none →
      shelf.loaded layout = .error (.layoutNotFound (normalizeLayout layout))) :
    shelf.Prefers layout own other := by
  constructor <;> simp only [ownHere, otherHere, Except.ok.injEq]
  · exact usesOwn
  · exact usesOther
  · refine ⟨fun fails => ?_, fun none => missing none.1 none.2⟩
    cases found with
    | some file => exact absurd fails (loaded_ne_layoutNotFound (usesOwn file rfl) _)
    | none =>
        cases second with
        | some file => exact absurd fails (loaded_ne_layoutNotFound (usesOther rfl file rfl) _)
        | none => exact ⟨rfl, rfl⟩

/-- A layout that is read anew is read from the first place with a file. -/
theorem prefers_of_not_current (folders : shelf.library.folders = [user, default])
    {found second : Option StoredFile}
    (ownHere : shelf.store.fileAt? (layoutPath user layout) = .ok found)
    (otherHere : shelf.store.fileAt? (layoutPath default layout) = .ok second)
    (current : shelf.library.current? shelf.store (normalizeLayout layout) = .ok none) :
    shelf.Prefers layout (layoutPath user layout) (layoutPath default layout) := by
  have first := LayoutLibrary.find?_pair ownHere otherHere
  rw [← folders] at first
  apply prefers_of_uses ownHere otherHere
  · rintro file rfl
    exact uses_of_find? current first
  · rintro rfl file rfl
    exact uses_of_find? current first
  · rintro rfl rfl
    rw [loaded_of_not_current current, LayoutLibrary.read_eq, first]
    rfl

/-- Where no own file is hidden, a remembered layout is the one that reading would give. -/
theorem prefers_of_current (remembers : shelf.library.Remembers stores)
    (tell : FileStore.TimesTell stores) (member : shelf.store ∈ stores)
    (folders : shelf.library.folders = [user, default])
    {found second : Option StoredFile}
    (ownHere : shelf.store.fileAt? (layoutPath user layout) = .ok found)
    (otherHere : shelf.store.fileAt? (layoutPath default layout) = .ok second)
    {known : ReadLayout}
    (current : shelf.library.current? shelf.store (normalizeLayout layout) = .ok (some known))
    (shown : ¬shelf.Hides layout (layoutPath user layout)) :
    shelf.Prefers layout (layoutPath user layout) (layoutPath default layout) := by
  obtain ⟨-, unchanged⟩ := LayoutLibrary.exists_of_current? current
  obtain ⟨file, here, -⟩ := LayoutLibrary.exists_of_isCurrent unchanged
  have uses := uses_of_current remembers tell member current here
  by_cases own : known.path = layoutPath user layout
  · rw [own, ownHere] at here
    cases here
    apply prefers_of_uses ownHere otherHere
    · rintro file ⟨⟩
      exact own ▸ uses
    · exact nofun
    · exact nofun
  · have default := (path_of_current remembers folders current).resolve_left own
    rw [default, otherHere] at here
    cases here
    have absent : found = none := by
      cases found with
      | none => rfl
      | some file => exact absurd ⟨⟨file, ownHere⟩, known, current, own⟩ shown
    apply prefers_of_uses ownHere otherHere
    · rintro file rfl
      cases absent
    · rintro - file ⟨⟩
      exact default ▸ uses
    · exact nofun

end

/-- A layout is loaded from the folder of own layouts where it has a file, else from the
folder of default layouts, and is missing where it has a file in neither, as long as no own
file is hidden by a remembered default one; where one is hidden, the default file is used. -/
theorem prefers_own_iff_not_hides {store : FileStore} {user default : FilePath}
    {actions : List LayoutAction} {shelf : LayoutShelf}
    (reached : (ofFolders store [user, default]).after actions = shelf)
    (tell : FileStore.TimesTell ((ofFolders store [user, default]).stores actions))
    (layout : String)
    (usable : ∀ folder ∈ [user, default], ∃ found,
      shelf.store.fileAt? (layoutPath folder layout) = .ok found) :
    (shelf.Prefers layout (layoutPath user layout) (layoutPath default layout) ↔
        ¬shelf.Hides layout (layoutPath user layout)) ∧
      (shelf.Hides layout (layoutPath user layout) →
        ∃ file, shelf.store.fileAt? (layoutPath default layout) = .ok (some file) ∧
          shelf.Uses layout (layoutPath default layout) file) := by
  subst reached
  have remembers := remembers_after_ofFolders store [user, default] actions
  have member := store_after_mem_stores (ofFolders store [user, default]) actions
  have folders := folders_after (ofFolders store [user, default]) actions
  refine ⟨⟨fun prefers hides => not_prefers_of_hides hides prefers, fun shown => ?_⟩,
    uses_default_of_hides remembers tell member folders⟩
  obtain ⟨found, ownHere⟩ := usable user (by simp)
  obtain ⟨second, otherHere⟩ := usable default (by simp)
  obtain ⟨current, asked⟩ := LayoutLibrary.exists_current? fun known isKnown => by
    obtain ⟨folder, among, below⟩ := (remembers _ known isKnown).folder
    rw [folders] at among
    rw [below]
    exact usable folder among
  cases current with
  | none => exact prefers_of_not_current folders ownHere otherHere asked
  | some known =>
      exact prefers_of_current remembers tell member folders ownHere otherHere asked shown

/-- A default layout is loaded before the site has an own one of its name, and changes
afterwards. -/
def lateOverride : List LayoutAction :=
  [.write (.ofString "default/post.html") [0x61] 1, .load "post",
    .write (.ofString "user/post.html") [0x62] 2, .touch (.ofString "default/post.html") 3]

theorem prefers_own_after_lateOverride :
    FileStore.TimesTell (emptySite.stores lateOverride) ∧
      (emptySite.after lateOverride).Prefers "post" (.ofString "user/post.html")
        (.ofString "default/post.html") := by
  have tell : FileStore.TimesTell (emptySite.stores lateOverride) :=
    FileStore.timesTell_of_files (by decide +kernel)
  have own : (emptySite.after lateOverride).store.fileAt? (layoutPath (.ofString "user") "post") =
      .ok (some ⟨[0x62], 2⟩) := toOption_eq_some_iff.mp (by decide +kernel)
  have default : (emptySite.after lateOverride).store.fileAt?
      (layoutPath (.ofString "default") "post") = .ok (some ⟨[0x61], 3⟩) :=
    toOption_eq_some_iff.mp (by decide +kernel)
  have usable : ∀ folder ∈ [FilePath.ofString "user", .ofString "default"], ∃ found,
      (emptySite.after lateOverride).store.fileAt? (layoutPath folder "post") = .ok found := by
    intro folder member
    rcases List.mem_cons.mp member with rfl | member
    · exact ⟨_, own⟩
    · exact ⟨_, List.mem_singleton.mp member ▸ default⟩
  have shown : ¬(emptySite.after lateOverride).Hides "post"
      (layoutPath (.ofString "user") "post") := by
    rintro ⟨-, known, current, -⟩
    have changed : ((emptySite.after lateOverride).library.current?
        (emptySite.after lateOverride).store (normalizeLayout "post")).toOption.any
          Option.isSome = false := by decide +kernel
    rw [current] at changed
    cases changed
  exact ⟨tell, (prefers_own_iff_not_hides rfl tell "post" usable).1.mpr shown⟩

/-- An own layout that is written after the default one of its name was loaded is not used. -/
theorem not_prefers_own_before_touch :
    FileStore.TimesTell (emptySite.stores (lateOverride.take 3)) ∧
      (emptySite.after (lateOverride.take 3)).store.fileAt? (.ofString "user/post.html") =
        .ok (some ⟨[0x62], 2⟩) ∧
      ((emptySite.after (lateOverride.take 3)).loaded "post").toOption.map ReadLayout.path =
        some (.ofString "default/post.html") ∧
      ¬(emptySite.after (lateOverride.take 3)).Prefers "post" (.ofString "user/post.html")
        (.ofString "default/post.html") := by
  have here : (emptySite.after (lateOverride.take 3)).store.fileAt?
      (.ofString "user/post.html") = .ok (some ⟨[0x62], 2⟩) :=
    toOption_eq_some_iff.mp (by decide +kernel)
  have path : ((emptySite.after (lateOverride.take 3)).loaded "post").toOption.map
      ReadLayout.path = some (.ofString "default/post.html") := by decide +kernel
  refine ⟨FileStore.timesTell_of_files (by decide +kernel), here, path, fun prefers => ?_⟩
  obtain ⟨found, loads, default⟩ := Option.map_eq_some_iff.mp path
  have uses := prefers.usesOwn _ here
  rw [Uses, toOption_eq_some_iff.mp loads] at uses
  obtain ⟨template, -, same⟩ := map_eq_ok_iff.mp uses.symm
  have own : FilePath.ofString "user/post.html" = .ofString "default/post.html" :=
    (congrArg Prod.fst same).trans default
  revert own
  decide

end LayoutShelf

end LayoutBinding
