import AnalyzerSessions.Proofs.LinkFreeDisks

namespace AnalyzerSessions

/-!
# Paths that lead where they led

Where a path leads depends on the links and directories of a disk alone, and on what
the system allows.  Files may come, go and change: as no way goes on from a file, a
path leads to the same place as long as all of that stays.
-/

namespace FileTree

variable {tree other : FileTree}

/-- No way goes on from what is there: it is neither a directory nor a link. -/
def IsEnd (entry : Option Entry) : Prop :=
  entry ≠ some .directory ∧ ∀ target, entry ≠ some (.link target)

theorem isEnd_none : IsEnd none :=
  ⟨fun same => (by cases same), fun _ same => by cases same⟩

theorem isEnd_file (bytes : List UInt8) : IsEnd (some (.file bytes)) :=
  ⟨fun same => (by cases same), fun _ same => by cases same⟩

/-- Two trees have the same directories and the same links, and the same is allowed there. -/
structure SameWays (tree other : FileTree) : Prop where
  places : ∀ place, other.entry? place = tree.entry? place ∨
    IsEnd (tree.entry? place) ∧ IsEnd (other.entry? place)
  restrictions : other.restrictions = tree.restrictions

theorem SameWays.refl (tree : FileTree) : tree.SameWays tree :=
  ⟨fun _ => .inl rfl, rfl⟩

theorem SameWays.trans
    {last : FileTree}
    (first : tree.SameWays other)
    (second : other.SameWays last) :
    tree.SameWays last := by
  refine ⟨fun place => ?_, second.restrictions.trans first.restrictions⟩
  rcases first.places place with same | ⟨isEnd, otherEnd⟩
  · rw [← same]
    exact second.places place
  · rcases second.places place with same | ⟨_, lastEnd⟩
    · exact .inr ⟨isEnd, same ▸ otherEnd⟩
    · exact .inr ⟨isEnd, lastEnd⟩

/-- The same names are refused in both trees. -/
theorem SameWays.refusal?
    (same : tree.SameWays other)
    (directory : List String)
    (name : String) :
    other.refusal? directory name = tree.refusal? directory name := by
  unfold FileTree.refusal?
  rw [same.restrictions]

theorem cameToNoLink_error
    {fault : FileFault}
    (apart : fault ≠ .tooManyLinks) :
    CameToNoLink (.error fault) := by
  refine ⟨fun same => apart (Except.error.inj same), fun _ _ same => ?_⟩
  cases same

/-- A walk that begins where no way goes on comes to no link. -/
theorem cameToNoLink_walk_of_isEnd
    {place : List String}
    (isEnd : IsEnd (tree.entry? place))
    (followLast : Bool)
    (links : Nat)
    (parts : List String) :
    CameToNoLink (walk tree followLast links place parts) := by
  cases parts with
  | nil =>
      rw [walk]
      split
      · rename_i entry found
        refine ⟨fun same => (by cases same), fun known target same => ?_⟩
        cases same
        exact isEnd.2 target found
      · refine cameToNoLink_error fun same => ?_
        cases same
  | cons name rest =>
      rw [walk]
      split
      · rename_i found
        exact (isEnd.1 found).elim
      · refine cameToNoLink_error fun same => ?_
        cases same
      · refine cameToNoLink_error fun same => ?_
        cases same

/-- One step of a walk to a place where no way goes on. -/
theorem cameToNoLink_step_of_isEnd
    {place : List String}
    {name : String}
    (isDirectory : tree.entry? place = some .directory)
    (isEnd : IsEnd (tree.entry? (place ++ [name])))
    (plain : ¬(name = "" ∨ name = "."))
    (noDots : name ≠ "..")
    (followLast : Bool)
    (links : Nat)
    (rest : List String) :
    CameToNoLink (walk tree followLast links place (name :: rest)) := by
  rw [walk, isDirectory]
  simp only [if_neg plain, if_neg noDots]
  split
  · rename_i refused
    exact cameToNoLink_of_not_isAbsence (isAbsence_of_refusal? refused)
  · split
    · split
      · exact ⟨fun same => (by cases same), fun _ _ same => by cases same⟩
      · refine cameToNoLink_error fun same => ?_
        cases same
    · rename_i target found
      exact (isEnd.2 target found).elim
    · exact cameToNoLink_walk_of_isEnd isEnd followLast links rest

/-- A walk ends where a name is not looked up. -/
theorem walk_of_refusal?
    {followLast : Bool}
    {links : Nat}
    {place rest : List String}
    {name : String}
    {fault : FileFault}
    (isDirectory : tree.entry? place = some .directory)
    (refused : tree.refusal? place name = some fault) :
    walk tree followLast links place (name :: rest) = .error fault := by
  rw [walk, isDirectory]
  simp only [refused]

/-- In trees with the same directories and links a walk ends alike, or it comes to no link in
either. -/
theorem SameWays.walk
    (same : tree.SameWays other)
    (followLast : Bool)
    (links : Nat)
    (place parts : List String) :
    walk other followLast links place parts = walk tree followLast links place parts ∨
      CameToNoLink (walk tree followLast links place parts) ∧
        CameToNoLink (walk other followLast links place parts) := by
  induction links using Nat.strongRecOn generalizing place parts with
  | ind links fewer =>
      induction parts generalizing place with
      | nil =>
          rcases same.places place with sameHere | ⟨isEnd, otherEnd⟩
          · rw [FileTree.walk, FileTree.walk, sameHere]
            exact .inl rfl
          · exact .inr
              ⟨cameToNoLink_walk_of_isEnd isEnd .., cameToNoLink_walk_of_isEnd otherEnd ..⟩
      | cons name rest inductionHypothesis =>
          rcases same.places place with sameHere | ⟨isEnd, otherEnd⟩
          · by_cases isDirectory : tree.entry? place = some .directory
            · have otherDirectory := sameHere.trans isDirectory
              have sameRefusal := same.refusal? place name
              cases refused : tree.refusal? place name with
              | some fault =>
                  rw [walk_of_refusal? isDirectory refused,
                    walk_of_refusal? otherDirectory (sameRefusal.trans refused)]
                  exact .inl rfl
              | none =>
                  have otherRefused := sameRefusal.trans refused
                  by_cases idle : name = "" ∨ name = "."
                  · rw [FileTree.walk.eq_2 other, FileTree.walk.eq_2 tree]
                    simp only [isDirectory, otherDirectory, refused, otherRefused, if_pos idle]
                    exact inductionHypothesis place
                  · by_cases dots : name = ".."
                    · rw [FileTree.walk.eq_2 other, FileTree.walk.eq_2 tree]
                      simp only [isDirectory, otherDirectory, refused, otherRefused, if_neg idle,
                        if_pos dots]
                      exact inductionHypothesis place.dropLast
                    · rcases same.places (place ++ [name]) with sameNext | ⟨nextEnd, otherEnd⟩
                      · rw [FileTree.walk.eq_2 other, FileTree.walk.eq_2 tree]
                        simp only [isDirectory, otherDirectory, refused, otherRefused, if_neg idle,
                          if_neg dots, sameNext]
                        split
                        · exact .inl rfl
                        · split
                          · exact .inl rfl
                          · split
                            · exact .inl rfl
                            · exact fewer _ (Nat.lt_succ_self _) _ _
                        · exact inductionHypothesis (place ++ [name])
                      · exact .inr ⟨cameToNoLink_step_of_isEnd isDirectory nextEnd idle dots ..,
                          cameToNoLink_step_of_isEnd otherDirectory otherEnd idle dots ..⟩
            · rw [FileTree.walk.eq_2 other, FileTree.walk.eq_2 tree, sameHere]
              left
              split
              · rename_i found
                exact (isDirectory found).elim
              · rfl
              · rfl
          · exact .inr
              ⟨cameToNoLink_walk_of_isEnd isEnd .., cameToNoLink_walk_of_isEnd otherEnd ..⟩

/-! ## Changing a file -/

/-- What stands where a walk ends. -/
def Location.Stands (tree : FileTree) : Location → Prop
  | .present place entry => tree.entry? place = some entry
  | .vacant place => place ≠ [] ∧ tree.entry? place = none

/-- A walk ends where it says. -/
theorem stands_walk
    {followLast : Bool}
    {links : Nat}
    {place parts : List String}
    {location : Location}
    (ends : walk tree followLast links place parts = .ok location) :
    location.Stands tree := by
  induction links using Nat.strongRecOn generalizing place parts with
  | ind links fewer =>
      induction parts generalizing place with
      | nil =>
          rw [walk] at ends
          split at ends
          · rename_i entry found
            cases ends
            exact found
          · cases ends
      | cons name rest inductionHypothesis =>
          rw [walk] at ends
          split at ends
          · split at ends
            · cases ends
            · split at ends
              · exact inductionHypothesis ends
              · split at ends
                · exact inductionHypothesis ends
                · split at ends
                  · rename_i missing
                    split at ends
                    · cases ends
                      exact ⟨List.append_ne_nil_of_right_ne_nil _ (List.cons_ne_nil _ _), missing⟩
                    · cases ends
                  · rename_i target found
                    split at ends
                    · cases ends
                      exact found
                    · split at ends
                      · cases ends
                      · exact fewer _ (Nat.lt_succ_self _) ends
                  · exact inductionHypothesis ends
          · cases ends
          · cases ends

theorem findEntry?_putEntry
    (parts : List String)
    (entry : Entry)
    (entries : List (List String × Entry))
    (place : List String) :
    findEntry? place (putEntry parts entry entries) =
      if place = parts then some entry else findEntry? place entries := by
  induction entries with
  | nil =>
      simp only [putEntry, findEntry?, eq_comm]
  | cons known rest inductionHypothesis =>
      obtain ⟨there, old⟩ := known
      unfold putEntry
      split
      · rename_i isThere
        subst isThere
        simp only [ findEntry?]
        split <;> simp_all [eq_comm]
      · rename_i apart
        simp only [ findEntry?, inductionHypothesis]
        split <;> simp_all

/-- What was put at a place stands there, and everywhere else stands what stood there. -/
theorem entry?_put
    {parts : List String}
    (nonempty : parts ≠ [])
    (entry : Entry)
    (place : List String) :
    FileTree.entry? (tree.put parts entry) place =
      if place = parts then some entry else tree.entry? place := by
  unfold entry? put
  split
  · rename_i isRoot
    rw [if_neg]
    rintro rfl
    exact nonempty (List.isEmpty_iff.mp isRoot)
  · exact findEntry?_putEntry parts entry tree.entries place

/-- A tree in which a file stands where a file stood or nothing. -/
theorem sameWays_put
    {parts : List String}
    (nonempty : parts ≠ [])
    (isEnd : IsEnd (tree.entry? parts))
    (bytes : List UInt8) :
    tree.SameWays (tree.put parts (.file bytes)) := by
  refine ⟨fun place => ?_, rfl⟩
  rw [entry?_put nonempty]
  split
  · rename_i isPlace
    subst isPlace
    exact .inr ⟨isEnd, isEnd_file bytes⟩
  · exact .inl rfl

end FileTree

namespace Disk

variable {disk other : Disk}

/-- Two disks have the same directories and links, and relative paths begin at the same place. -/
structure SameWays (disk other : Disk) : Prop where
  tree : disk.tree.SameWays other.tree
  workingDirectory : other.workingDirectory = disk.workingDirectory

theorem SameWays.refl (disk : Disk) : disk.SameWays disk :=
  ⟨.refl _, rfl⟩

theorem SameWays.trans
    {last : Disk}
    (first : disk.SameWays other)
    (second : other.SameWays last) :
    disk.SameWays last :=
  ⟨first.tree.trans second.tree, second.workingDirectory.trans first.workingDirectory⟩

theorem SameWays.fromRoot
    (same : disk.SameWays other)
    (path : Path) :
    other.fromRoot path = disk.fromRoot path := by
  unfold Disk.fromRoot
  rw [same.workingDirectory]

/-- A path is walked alike on both disks, or it comes to no link on either. -/
theorem SameWays.reach
    (same : disk.SameWays other)
    (followLast : Bool)
    (path : Path) :
    other.reach followLast path = disk.reach followLast path ∨
      FileTree.CameToNoLink (disk.reach followLast path) ∧
        FileTree.CameToNoLink (other.reach followLast path) := by
  unfold Disk.reach origin
  rw [same.tree.restrictions, same.workingDirectory]
  split
  · exact .inl rfl
  · exact same.tree.walk followLast FileTree.maxLinks _ _

/-- A path is located where it says. -/
theorem stands_locate
    {path : Path}
    {location : FileTree.Location}
    (located : disk.locate path = .ok location) :
    location.Stands disk.tree := by
  unfold locate Disk.reach at located
  split at located
  · cases located
  · exact FileTree.stands_walk located

/-- A file that is written is where the system lets it be written. -/
theorem located_of_update
    {path : Path}
    {change : List UInt8 → List UInt8}
    (updated : disk.update path change = .ok other) :
    (∃ parts bytes, disk.locate path = .ok (.present parts (.file bytes)) ∧
      disk.denies parts .write = false ∧
      other = { disk with tree := disk.tree.put parts (.file (change bytes)) }) ∨
    ∃ parts, disk.locate path = .ok (.vacant parts) ∧
      disk.denies parts.dropLast .write = false ∧
      other = { disk with tree := disk.tree.put parts (.file (change [])) } := by
  unfold update at updated
  split at updated
  · cases updated
  · split at updated
    · cases updated
    · rename_i parts bytes located
      split at updated
      · cases updated
      · rename_i allowed
        cases updated
        exact .inl ⟨parts, bytes, located, (Bool.not_eq_true _).mp allowed, rfl⟩
    · cases updated
    · rename_i parts located
      split at updated
      · cases updated
      · rename_i allowed
        cases updated
        exact .inr ⟨parts, located, (Bool.not_eq_true _).mp allowed, rfl⟩

theorem SameWays.linkTarget?
    (same : disk.SameWays other)
    (place : Path) :
    other.linkTarget? place = disk.linkTarget? place := by
  unfold Disk.linkTarget?
  rcases same.reach false place with alike | ⟨noLink, otherNone⟩
  · rw [alike]
  · split
    · rename_i known target found
      exact (otherNone.2 known target found).elim
    · split
      · rename_i known target found
        exact (noLink.2 known target found).elim
      · rfl

theorem stat_eq_tooManyLinks_iff
    (disk : Disk)
    (path : Path) :
    disk.stat path = .error .tooManyLinks ↔ disk.locate path = .error .tooManyLinks := by
  unfold stat
  split
  · rename_i fault found
    rw [found]
    constructor <;> exact fun same => congrArg _ (Except.error.inj same)
  · rename_i parts found
    rw [found]
    exact ⟨fun same => (by cases same), fun same => by cases same⟩
  · rename_i parts entry found
    rw [found]
    exact ⟨fun same => (by cases same), fun same => by cases same⟩

/-- A path runs into too many links on both disks or on neither. -/
theorem SameWays.loops_iff
    (same : disk.SameWays other)
    (path : Path) :
    other.stat path = .error .tooManyLinks ↔ disk.stat path = .error .tooManyLinks := by
  rw [stat_eq_tooManyLinks_iff, stat_eq_tooManyLinks_iff, locate, locate]
  rcases same.reach true path with alike | ⟨noLink, otherNone⟩
  · rw [alike]
  · exact ⟨fun loops => (otherNone.1 loops).elim, fun loops => (noLink.1 loops).elim⟩

theorem SameWays.follow
    (same : disk.SameWays other)
    (depth : Nat)
    (seen : SeenLinks)
    (place : Path)
    (parts : List String) :
    other.follow depth seen place parts = disk.follow depth seen place parts := by
  induction depth using Nat.strongRecOn generalizing seen place parts with
  | ind depth shallower =>
      induction parts generalizing seen place with
      | nil =>
          rw [Disk.follow, Disk.follow]
      | cons name rest inductionHypothesis =>
          rw [Disk.follow.eq_2 other, Disk.follow.eq_2 disk]
          simp only [same.linkTarget?, inductionHypothesis]
          split
          · rfl
          · split
            · rfl
            · split
              · rfl
              · split
                · rfl
                · split
                  · rfl
                  · rfl
                  · cases depth with
                    | zero =>
                        rfl
                    | succ depth =>
                        simp only [shallower depth (Nat.lt_succ_self depth), inductionHypothesis]

theorem SameWays.isAnchored
    (same : disk.SameWays other)
    (place : Path) :
    other.isAnchored place = disk.isAnchored place := by
  unfold Disk.isAnchored
  rw [same.workingDirectory]
  rcases same.tree.places disk.workingDirectory with alike | ⟨isEnd, otherEnd⟩
  · rw [alike]
  · rw [beq_eq_false_iff_ne.mpr isEnd.1, beq_eq_false_iff_ne.mpr otherEnd.1]

/-- On disks with the same directories and links every path leads to the same place. -/
theorem SameWays.resolve
    (same : disk.SameWays other)
    (path : Path) :
    other.resolve path = disk.resolve path := by
  have settles : ∀ place, other.settled place = disk.settled place := by
    intro place
    unfold settled
    rw [same.fromRoot]
  unfold Disk.resolve
  simp only [same.follow, same.isAnchored, settles]
  split
  · rfl
  · rename_i found _
    split
    · split
      · rfl
      · have loops := same.loops_iff (disk.settled found.place)
        by_cases isLoop : disk.stat (disk.settled found.place) = .error .tooManyLinks
        · rw [isLoop, loops.mpr isLoop]
        · have noLoop := mt loops.mp isLoop
          split
          · rename_i found
            exact (noLoop found).elim
          · rfl
    · rfl

/-- A file that is written changes no directory and no link. -/
theorem sameWays_update
    {path : Path}
    {change : List UInt8 → List UInt8}
    (updated : disk.update path change = .ok other) :
    disk.SameWays other := by
  rcases located_of_update updated with ⟨parts, bytes, located, _, rfl⟩ | ⟨parts, located, _, rfl⟩
  · have stands := stands_locate located
    refine ⟨FileTree.sameWays_put ?_ ?_ _, rfl⟩
    · rintro rfl
      cases stands
    · unfold FileTree.Location.Stands at stands
      rw [stands]
      exact FileTree.isEnd_file bytes
  · obtain ⟨nonempty, missing⟩ := stands_locate located
    refine ⟨FileTree.sameWays_put nonempty ?_ _, rfl⟩
    rw [missing]
    exact FileTree.isEnd_none

end Disk

end AnalyzerSessions
