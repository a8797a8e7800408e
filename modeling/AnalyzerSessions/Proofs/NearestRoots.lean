import AnalyzerSessions.Proofs.LinkFreeDisks
import AnalyzerSessions.Proofs.ManagerRuns

namespace AnalyzerSessions

/-!
# Nearest roots

A file is rooted at the nearest directory above it that holds a manifest, or at a
workspace around that directory which the probe names.  A workspace that does not
contain the directory is ignored, so that the root of a file in a crate contains the
file, whatever the probe answers.

All of this is so where the search can look at every place that it comes to.  At a place
with too long a name, or in a directory that may not be searched, it fails, although a
manifest may stand further up.

Directories are compared by their components: a workspace contains a directory when its
components are the first ones of those of the directory.
-/

namespace Path

theorem isWithin_iff {path root : Path} :
    path.isWithin root ↔ path.anchor = root.anchor ∧ root.parts <+: path.parts := by
  simp [isWithin]

theorem isWithin_refl (path : Path) : path.isWithin path :=
  isWithin_iff.mpr ⟨rfl, List.prefix_refl _⟩

theorem isWithin_trans
    {path middle root : Path}
    (inner : path.isWithin middle)
    (outer : middle.isWithin root) :
    path.isWithin root := by
  rw [isWithin_iff] at inner outer ⊢
  exact ⟨inner.1.trans outer.1, outer.2.trans inner.2⟩

theorem isWithin_antisymm
    {path other : Path}
    (inner : path.isWithin other)
    (outer : other.isWithin path) :
    path = other := by
  rw [isWithin_iff] at inner outer
  obtain ⟨anchor, parts⟩ := path
  obtain ⟨sameAnchor, isPrefix⟩ := inner
  have sameParts : other.parts = parts :=
    isPrefix.eq_of_length_le outer.2.length_le
  subst sameParts
  cases sameAnchor
  rfl

theorem isWithin_parent (path : Path) : path.isWithin path.parent :=
  isWithin_iff.mpr ⟨rfl, List.dropLast_prefix _⟩

/-- The directories above a path are those that it lies within. -/
theorem mem_upward {path directory : Path} :
    directory ∈ path.upward ↔ path.isWithin directory := by
  rw [isWithin_iff]
  constructor
  · intro isAbove
    obtain ⟨dropped, _, rfl⟩ := List.mem_map.mp isAbove
    exact ⟨rfl, List.take_prefix _ _⟩
  · rintro ⟨sameAnchor, isPrefix⟩
    have shorter := isPrefix.length_le
    refine List.mem_map.mpr ⟨path.parts.length - directory.parts.length, ?_, ?_⟩
    · rw [List.mem_range]
      omega
    · rw [sameAnchor, Nat.sub_sub_self shorter, ← List.prefix_iff_eq_take.mp isPrefix]

/-- A path comes before the directories above it. -/
theorem upward_eq_cons (path : Path) :
    ∃ above, path.upward = path :: above := by
  unfold upward
  rw [List.range_succ_eq_map, List.map_cons, Nat.sub_zero, List.take_length]
  exact ⟨_, rfl⟩

/-- Directories come nearest first. -/
theorem pairwise_upward (path : Path) :
    path.upward.Pairwise fun nearer farther => nearer.isWithin farther := by
  apply List.pairwise_map.mpr
  apply List.pairwise_lt_range.imp
  intro fewer more isLess
  exact isWithin_iff.mpr ⟨rfl, List.take_prefix_take_left (by omega)⟩

end Path

namespace Disk

/-- A directory holds something with one of the given names. -/
def Holds (disk : Disk) (names : List String) (directory : Path) : Prop :=
  ∃ name ∈ names, disk.contains (directory / name) = .ok true

/-- The nearest directory, from a start upwards, that holds something with one of the names. -/
structure IsNearest (disk : Disk) (names : List String) (start directory : Path) : Prop where
  isAbove : start.isWithin directory
  holds : disk.Holds names directory
  nearest : ∀ other, start.isWithin other → disk.Holds names other → directory.isWithin other

/-- No directory from a start upwards holds something with one of the names. -/
def HoldsNowhere (disk : Disk) (names : List String) (start : Path) : Prop :=
  ∀ directory, start.isWithin directory → ¬disk.Holds names directory

/-- A search along places comes to one of them: nothing stands at those before it. -/
inductive ComesTo (disk : Disk) : List Path → Path → Prop where
  | first {place : Path} {rest : List Path} : ComesTo disk (place :: rest) place
  | next {other place : Path} {rest : List Path}
      (absent : disk.contains other = .ok false)
      (comes : ComesTo disk rest place) :
      ComesTo disk (other :: rest) place

/-- A search for names from a start upwards can look at every place that it comes to. -/
def CanSearch (disk : Disk) (names : List String) (start : Path) : Prop :=
  ∀ place, disk.ComesTo (candidates names start) place →
    ∃ isThere, disk.contains place = .ok isThere

variable {disk : Disk} {names : List String} {start directory : Path}

theorem IsNearest.unique
    {other : Path}
    (nearest : disk.IsNearest names start directory)
    (alsoNearest : disk.IsNearest names start other) :
    directory = other :=
  Path.isWithin_antisymm (nearest.nearest other alsoNearest.isAbove alsoNearest.holds)
    (alsoNearest.nearest directory nearest.isAbove nearest.holds)

theorem IsNearest.not_holdsNowhere (nearest : disk.IsNearest names start directory) :
    ¬disk.HoldsNowhere names start :=
  fun nowhere => nowhere directory nearest.isAbove nearest.holds

/-- Where everything is allowed every search gets through. -/
theorem canSearch_of_free
    (free : disk.tree.restrictions = .free)
    (names : List String)
    (start : Path) :
    disk.CanSearch names start := by
  intro place _
  cases looked : disk.contains place with
  | ok isThere => exact ⟨isThere, rfl⟩
  | error error =>
    obtain ⟨fault, closed, _⟩ := contains_eq_error_iff.mp looked
    exact absurd closed (not_isClosed_of_free free)

section

variable {places : List Path}

theorem comesTo_append
    {others : List Path}
    {place : Path} :
    disk.ComesTo (places ++ others) place ↔ disk.ComesTo places place ∨
      (∀ place ∈ places, disk.contains place = .ok false) ∧ disk.ComesTo others place := by
  induction places with
  | nil => simp [show ¬disk.ComesTo [] place from nofun]
  | cons head rest inductionHypothesis =>
    rw [List.cons_append, List.forall_mem_cons]
    constructor
    · rintro (_ | ⟨absent, comes⟩)
      · exact .inl .first
      · rcases inductionHypothesis.mp comes with inside | ⟨noneInside, outside⟩
        · exact .inl (.next absent inside)
        · exact .inr ⟨⟨absent, noneInside⟩, outside⟩
    · rintro ((_ | ⟨absent, comes⟩) | ⟨⟨absent, noneInside⟩, outside⟩)
      · exact .first
      · exact .next absent (inductionHypothesis.mpr (.inl comes))
      · exact .next absent (inductionHypothesis.mpr (.inr ⟨noneInside, outside⟩))

/-- How a search along places ends. -/
theorem firstPresent?_eq_some
    {found : Path}
    (isFound : disk.firstPresent? places = .ok (some found)) :
    disk.ComesTo places found ∧ disk.contains found = .ok true := by
  induction places with
  | nil => cases isFound
  | cons head rest inductionHypothesis =>
    rw [firstPresent?] at isFound
    split at isFound
    · cases isFound
    · rename_i isThere
      cases isFound
      exact ⟨.first, isThere⟩
    · rename_i absent
      exact (inductionHypothesis isFound).imp_left (.next absent)

theorem firstPresent?_eq_none
    (notFound : disk.firstPresent? places = .ok none) :
    ∀ place ∈ places, disk.contains place = .ok false := by
  induction places with
  | nil => exact List.forall_mem_nil _
  | cons head rest inductionHypothesis =>
    rw [firstPresent?] at notFound
    split at notFound
    · cases notFound
    · cases notFound
    · rename_i absent
      exact List.forall_mem_cons.mpr ⟨absent, inductionHypothesis notFound⟩

theorem firstPresent?_eq_error_iff
    {error : FileError} :
    disk.firstPresent? places = .error error ↔
      ∃ place, disk.ComesTo places place ∧ disk.contains place = .error error := by
  induction places with
  | nil => exact ⟨nofun, fun ⟨_, comes, _⟩ => nomatch comes⟩
  | cons head rest inductionHypothesis =>
    rw [firstPresent?]
    cases looked : disk.contains head with
    | error other =>
      constructor
      · intro same
        cases same
        exact ⟨head, .first, looked⟩
      · rintro ⟨place, _ | ⟨absent, _⟩, fails⟩
        · cases looked.symm.trans fails
          rfl
        · cases looked.symm.trans absent
    | ok isThere =>
      cases isThere with
      | true =>
        refine ⟨nofun, ?_⟩
        rintro ⟨place, _ | ⟨absent, _⟩, fails⟩
        · cases looked.symm.trans fails
        · cases looked.symm.trans absent
      | false =>
        refine inductionHypothesis.trans (exists_congr fun place => and_congr_left fun fails => ?_)
        refine ⟨.next looked, ?_⟩
        rintro (_ | ⟨_, comes⟩)
        · cases looked.symm.trans fails
        · exact comes

end

/-- A search upwards fails where it comes to a place that nobody may look at. -/
theorem findUpward?_eq_error_iff
    {error : FileError} :
    disk.findUpward? names start = .error error ↔
      ∃ place, disk.ComesTo (candidates names start) place ∧ disk.contains place = .error error :=
  firstPresent?_eq_error_iff

theorem CanSearch.exists_findUpward?
    (searches : disk.CanSearch names start) :
    ∃ found?, disk.findUpward? names start = .ok found? := by
  cases found : disk.findUpward? names start with
  | ok found? => exact ⟨found?, rfl⟩
  | error error =>
    obtain ⟨place, comes, fails⟩ := findUpward?_eq_error_iff.mp found
    obtain ⟨isThere, looked⟩ := searches place comes
    cases looked.symm.trans fails

theorem ComesTo.mem
    {places : List Path}
    {place : Path}
    (comes : disk.ComesTo places place) :
    place ∈ places := by
  induction comes with
  | first => exact List.mem_cons_self
  | next _ _ member => exact List.mem_cons_of_mem _ member

/-- A search through directories comes to a place in one of them, and found nothing in those
before. -/
theorem ComesTo.exists_directory
    {directories : List Path}
    {inside : Path → List Path}
    {place : Path}
    (comes : disk.ComesTo (directories.flatMap inside) place) :
    ∃ nearer directory farther, directories = nearer ++ directory :: farther ∧
      place ∈ inside directory ∧
      ∀ other ∈ nearer, ∀ earlier ∈ inside other, disk.contains earlier = .ok false := by
  induction directories with
  | nil => cases comes
  | cons head rest inductionHypothesis =>
    rw [List.flatMap_cons, comesTo_append] at comes
    rcases comes with comes | ⟨noneInside, comes⟩
    · exact ⟨[], head, rest, rfl, comes.mem, List.forall_mem_nil _⟩
    · obtain ⟨nearer, directory, farther, rfl, isInside, noneNearer⟩ := inductionHypothesis comes
      exact ⟨head :: nearer, directory, farther, rfl, isInside,
        List.forall_mem_cons.mpr ⟨noneInside, noneNearer⟩⟩

/-- Searching upwards finds what the nearest directory holds. -/
theorem findUpward?_eq_some
    {found : Path}
    (isFound : disk.findUpward? names start = .ok (some found)) :
    ∃ directory, disk.IsNearest names start directory ∧
      ∃ name ∈ names, found = directory / name := by
  obtain ⟨comes, isThere⟩ := firstPresent?_eq_some isFound
  obtain ⟨nearer, directory, farther, split, isInside, noneNearer⟩ := comes.exists_directory
  obtain ⟨name, isName, rfl⟩ := List.mem_map.mp isInside
  have isAbove : start.isWithin directory := by
    rw [← Path.mem_upward, split]
    simp
  refine ⟨directory, ⟨isAbove, ⟨name, isName, isThere⟩, ?_⟩, name, isName, rfl⟩
  intro other otherAbove otherHolds
  have ordered := Path.pairwise_upward start
  rw [split, List.pairwise_append, List.pairwise_cons] at ordered
  rw [← Path.mem_upward, split, List.mem_append, List.mem_cons] at otherAbove
  rcases otherAbove with isNearer | rfl | isFarther
  · obtain ⟨held, isListed, isHeld⟩ := otherHolds
    cases isHeld.symm.trans (noneNearer other isNearer _ (List.mem_map_of_mem isListed))
  · exact Path.isWithin_refl other
  · exact ordered.2.1.1 other isFarther

theorem findUpward?_eq_none
    (notFound : disk.findUpward? names start = .ok none) :
    disk.HoldsNowhere names start := by
  rintro directory isAbove ⟨name, isName, isThere⟩
  have isCandidate : directory / name ∈ candidates names start :=
    List.mem_flatMap.mpr ⟨directory, Path.mem_upward.mpr isAbove, List.mem_map_of_mem isName⟩
  cases isThere.symm.trans (firstPresent?_eq_none notFound _ isCandidate)

/-- A search upwards finds the nearest directory that holds a name, if there is one. -/
theorem findUpward?_of_isNearest
    (searches : disk.CanSearch names start)
    (nearest : disk.IsNearest names start directory) :
    ∃ name ∈ names, disk.findUpward? names start = .ok (some (directory / name)) := by
  obtain ⟨found?, found⟩ := searches.exists_findUpward?
  cases found? with
  | none => exact absurd (findUpward?_eq_none found) nearest.not_holdsNowhere
  | some place =>
    obtain ⟨other, otherNearest, name, isName, rfl⟩ := findUpward?_eq_some found
    rw [otherNearest.unique nearest] at found
    exact ⟨name, isName, found⟩

theorem findUpward?_of_holdsNowhere
    (searches : disk.CanSearch names start)
    (nowhere : disk.HoldsNowhere names start) :
    disk.findUpward? names start = .ok none := by
  obtain ⟨found?, found⟩ := searches.exists_findUpward?
  cases found? with
  | none => exact found
  | some place =>
    obtain ⟨directory, nearest, _⟩ := findUpward?_eq_some found
    exact absurd nowhere nearest.not_holdsNowhere

end Disk

/-! ## The root of a file -/

/-- What the root of a file is to be, given the answer of the probe. -/
structure IsRootOf
    (disk : Disk)
    (place : Path)
    (answer : Option String)
    (root? : Option Path) : Prop where
  /-- The root of a file in a crate contains the crate and the file. -/
  contains : ∀ crate, disk.IsNearest [manifestName] place.parent crate →
    ∃ root, root? = some root ∧ crate.isWithin root ∧ place.isWithin root
  /-- It is the workspace that the probe names, if that contains the crate. -/
  workspace : ∀ crate, disk.IsNearest [manifestName] place.parent crate →
    ∀ root, answeredRoot? answer = some root → crate.isWithin root → root? = some root
  /-- It is the crate itself otherwise. -/
  crate : ∀ crate, disk.IsNearest [manifestName] place.parent crate →
    (∀ root, answeredRoot? answer = some root → ¬crate.isWithin root) → root? = some crate
  /-- Without a crate it is whatever the probe names. -/
  named : disk.HoldsNowhere [manifestName] place.parent →
    ∀ root, answeredRoot? answer = some root → root? = some root
  /-- When the probe names nothing it is the nearest directory with a marker. -/
  marked : disk.HoldsNowhere [manifestName] place.parent → answeredRoot? answer = none →
    ∀ directory, disk.IsNearest projectMarkers place.parent directory → root? = some directory
  /-- There is none without crate, answer and marker. -/
  missing : disk.HoldsNowhere [manifestName] place.parent → answeredRoot? answer = none →
    disk.HoldsNowhere projectMarkers place.parent → root? = none
  /-- A root that does not contain the file is one that the probe named without a crate. -/
  foreign : ∀ root, root? = some root → ¬place.isWithin root →
    disk.HoldsNowhere [manifestName] place.parent ∧ answeredRoot? answer = some root

theorem parent_div
    {name : String}
    (isPlain : Path.ofText name = ⟨.relative, [name]⟩)
    (directory : Path) :
    (directory / name).parent = directory := by
  show (directory.join (Path.ofText name)).parent = directory
  simp [isPlain, Path.join, Path.parent]

theorem div_manifestName (directory : Path) :
    directory / manifestName = ⟨directory.anchor, directory.parts ++ [manifestName]⟩ := by
  show directory.join (Path.ofText manifestName) = _
  rw [show Path.ofText manifestName = ⟨.relative, [manifestName]⟩ by decide]
  rfl

theorem findUpward?_manifest
    {disk : Disk}
    {start crate : Path}
    (searches : disk.CanSearch [manifestName] start)
    (nearest : disk.IsNearest [manifestName] start crate) :
    disk.findUpward? [manifestName] start = .ok (some (crate / manifestName)) := by
  obtain ⟨name, isName, found⟩ := Disk.findUpward?_of_isNearest searches nearest
  rwa [List.mem_singleton.mp isName] at found

theorem Disk.CanSearch.isNearest_or_holdsNowhere
    {disk : Disk}
    {names : List String}
    {start : Path}
    (searches : disk.CanSearch names start) :
    (∃ directory, disk.IsNearest names start directory) ∨ disk.HoldsNowhere names start := by
  obtain ⟨found?, found⟩ := searches.exists_findUpward?
  cases found? with
  | none => exact .inr (Disk.findUpward?_eq_none found)
  | some place =>
    obtain ⟨directory, nearest, _⟩ := Disk.findUpward?_eq_some found
    exact .inl ⟨directory, nearest⟩

/-- A marker stands in the directory that it marks. -/
theorem parent_of_marker
    {name : String}
    (isMarker : name ∈ projectMarkers)
    (directory : Path) :
    (directory / name).parent = directory := by
  simp only [projectMarkers, List.mem_cons, List.not_mem_nil, or_false] at isMarker
  rcases isMarker with rfl | rfl
  · exact parent_div (by decide) directory
  · exact parent_div (by decide) directory

/-- The finding for a file in a crate. -/
theorem findRoot_of_crate
    (disk : Disk)
    (directory crate : Path)
    (answer : Option String) :
    ∃ finding, findRoot disk directory (some crate) answer = .ok finding ∧
      finding.root? = some (((answeredRoot? answer).filter crate.isWithin).getD crate) := by
  unfold findRoot
  cases answeredRoot? answer with
  | none => exact ⟨_, rfl, rfl⟩
  | some root =>
    cases contained : crate.isWithin root <;>
      simp [acceptsRoot, contained, findWithoutWorkspace, RootFinding.root?, Option.filter]

/-- The finding for a file without a crate, for which the probe names a root. -/
theorem findRoot_of_named
    {answer : Option String}
    {root : Path}
    (disk : Disk)
    (directory : Path)
    (named : answeredRoot? answer = some root) :
    findRoot disk directory none answer = .ok (.workspace root) := by
  simp [findRoot, named, acceptsRoot]

/-- The finding for a file without a crate, for which the probe names nothing. -/
theorem findRoot_of_unnamed
    {answer : Option String}
    (disk : Disk)
    (directory : Path)
    (unnamed : answeredRoot? answer = none) :
    findRoot disk directory none answer =
      (disk.findUpward? projectMarkers directory).map .ofMarker := by
  simp [findRoot, unnamed, findWithoutWorkspace]

/-- The root that is found for a file in a crate. -/
theorem isRootOf_of_crate
    {disk : Disk}
    {place crate : Path}
    (nearest : disk.IsNearest [manifestName] place.parent crate)
    (answer : Option String) :
    IsRootOf disk place answer
      (some (((answeredRoot? answer).filter crate.isWithin).getD crate)) := by
  have isCrate := nearest.not_holdsNowhere
  have inPlace : place.isWithin crate := Path.isWithin_trans place.isWithin_parent nearest.isAbove
  have contained : crate.isWithin (((answeredRoot? answer).filter crate.isWithin).getD crate) := by
    cases accepted : (answeredRoot? answer).filter crate.isWithin with
    | none => exact crate.isWithin_refl
    | some root => exact (Option.filter_eq_some_iff.mp accepted).2
  constructor
  case contains =>
    intro other otherNearest
    obtain rfl := otherNearest.unique nearest
    exact ⟨_, rfl, contained, Path.isWithin_trans inPlace contained⟩
  case workspace =>
    intro other otherNearest root isNamed isContained
    obtain rfl := otherNearest.unique nearest
    simp [isNamed, Option.filter, isContained]
  case crate =>
    intro other otherNearest isForeign
    obtain rfl := otherNearest.unique nearest
    rw [Option.filter_eq_none_iff.mpr isForeign, Option.getD_none]
  case named => exact fun nowhere => absurd nowhere isCrate
  case marked => exact fun nowhere => absurd nowhere isCrate
  case missing => exact fun nowhere => absurd nowhere isCrate
  case foreign =>
    rintro root isRoot isForeign
    cases isRoot
    exact absurd (Path.isWithin_trans inPlace contained) isForeign

section

variable {disk : Disk} {place : Path} {answer : Option String}

/-- Without a crate the root is what the probe names. -/
theorem isRootOf_of_named
    {root : Path}
    (nowhere : disk.HoldsNowhere [manifestName] place.parent)
    (named : answeredRoot? answer = some root) :
    IsRootOf disk place answer (some root) := by
  constructor
  case contains => exact fun _ nearest => absurd nowhere nearest.not_holdsNowhere
  case workspace => exact fun _ nearest => absurd nowhere nearest.not_holdsNowhere
  case crate => exact fun _ nearest => absurd nowhere nearest.not_holdsNowhere
  case named => exact fun _ other alsoNamed => named.symm.trans alsoNamed
  case marked => exact fun _ unnamed => nomatch named.symm.trans unnamed
  case missing => exact fun _ unnamed => nomatch named.symm.trans unnamed
  case foreign =>
    rintro other same _
    cases same
    exact ⟨nowhere, named⟩

/-- Without a crate and a name the root is the nearest directory with a marker. -/
theorem isRootOf_of_marker
    {found? : Option Path}
    (nowhere : disk.HoldsNowhere [manifestName] place.parent)
    (unnamed : answeredRoot? answer = none)
    (searches : disk.CanSearch projectMarkers place.parent)
    (found : disk.findUpward? projectMarkers place.parent = .ok found?) :
    IsRootOf disk place answer (RootFinding.ofMarker found?).root? := by
  constructor
  case contains => exact fun _ nearest => absurd nowhere nearest.not_holdsNowhere
  case workspace => exact fun _ nearest => absurd nowhere nearest.not_holdsNowhere
  case crate => exact fun _ nearest => absurd nowhere nearest.not_holdsNowhere
  case named => exact fun _ _ named => nomatch unnamed.symm.trans named
  case marked =>
    intro _ _ directory nearest
    obtain ⟨name, isMarker, alsoFound⟩ := Disk.findUpward?_of_isNearest searches nearest
    cases found.symm.trans alsoFound
    exact congrArg some (parent_of_marker isMarker directory)
  case missing =>
    intro _ _ unmarked
    cases found.symm.trans (Disk.findUpward?_of_holdsNowhere searches unmarked)
    rfl
  case foreign =>
    intro root isRoot isForeign
    cases found? with
    | none => cases isRoot
    | some marker =>
      -- A marker stands above the file.
      obtain ⟨directory, nearest, name, isMarker, rfl⟩ := Disk.findUpward?_eq_some found
      cases isRoot
      rw [parent_of_marker isMarker] at isForeign
      exact absurd (Path.isWithin_trans place.isWithin_parent nearest.isAbove) isForeign

/-- Where the searches get through, a root is found, and it is what it is to be. -/
theorem isRootOf_findRoot
    (searches : disk.CanSearch [manifestName] place.parent)
    (searchesMarkers : disk.HoldsNowhere [manifestName] place.parent →
      answeredRoot? answer = none → disk.CanSearch projectMarkers place.parent) :
    ∃ manifest finding, disk.findUpward? [manifestName] place.parent = .ok manifest ∧
      findRoot disk place.parent (manifest.map Path.parent) answer = .ok finding ∧
      IsRootOf disk place answer finding.root? := by
  obtain ⟨crate, nearest⟩ | nowhere := searches.isNearest_or_holdsNowhere
  · obtain ⟨finding, found, isRoot⟩ := findRoot_of_crate disk place.parent crate answer
    refine ⟨_, finding, findUpward?_manifest searches nearest, ?_, ?_⟩
    · rw [Option.map_some, parent_div (by decide), found]
    · rw [isRoot]
      exact isRootOf_of_crate nearest answer
  · have unfound := Disk.findUpward?_of_holdsNowhere searches nowhere
    cases named : answeredRoot? answer with
    | some root =>
      exact ⟨none, _, unfound, findRoot_of_named disk place.parent named,
        isRootOf_of_named nowhere named⟩
    | none =>
      obtain ⟨marker?, found⟩ := (searchesMarkers nowhere named).exists_findUpward?
      refine ⟨none, .ofMarker marker?, unfound, ?_,
        isRootOf_of_marker nowhere named (searchesMarkers nowhere named) found⟩
      rw [Option.map_none, findRoot_of_unnamed disk place.parent named, found]
      rfl

end

/-! ## Asking the probe -/

namespace Probe

/-- The probe gives an answer when it is asked. -/
def Answers (answer : Option String) : Probe → Prop
  | fixed given => given = answer
  | program settings outcome =>
    (∃ cargo, settings.cargo = .str cargo) ∧
      ∃ record, settings.answer outcome = .ok (answer, record)

/-- A build tool gives an answer, however its run ends, if its name is a text and what it writes is
UTF-8. -/
theorem exists_answers_iff {settings : ProbeSettings} {outcome : ProbeOutcome} :
    (∃ answer, (program settings outcome).Answers answer) ↔
      (∃ cargo, settings.cargo = .str cargo) ∧ ∀ fault, outcome ≠ .garbled fault := by
  constructor
  · rintro ⟨answer, isText, record, given⟩
    refine ⟨isText, ?_⟩
    rintro fault rfl
    cases given
  · rintro ⟨isText, notGarbled⟩
    cases given : settings.answer outcome with
    | ok noted => exact ⟨noted.1, isText, noted.2, given⟩
    | error error =>
      cases outcome with
      | garbled fault => exact absurd rfl (notGarbled fault)
      | finished code output errors =>
        simp only [ProbeSettings.answer] at given
        split at given <;> cases given
      | notFound | timedOut | failed => cases given

/-- The question about a manifest and a directory as it is put to the probe.  A build tool is run in
the directory if it is there, which it may not be possible to tell. -/
def question (disk : Disk) (manifest directory : Option Path) :
    Probe → Except FileError ProbeQuestion
  | fixed _ => .ok (.fixed manifest directory)
  | program settings _ => (settings.call disk manifest directory).map .program

/-- Where the search for a manifest can look, the question can be put. -/
theorem exists_question
    {disk : Disk}
    {directory : Path}
    (searches : disk.CanSearch [manifestName] directory)
    (manifest : Option Path)
    (probe : Probe) :
    ∃ question, probe.question disk manifest (some directory) = .ok question := by
  obtain ⟨above, isUpward⟩ := directory.upward_eq_cons
  obtain ⟨_, looked⟩ := searches (directory / manifestName) (by
    rw [Disk.candidates, isUpward]
    exact .first)
  cases probe with
  | fixed answer => exact ⟨_, rfl⟩
  | program settings outcome =>
    cases stands : disk.isDirectory directory with
    | ok isThere =>
      simp only [question, ProbeSettings.call, ProbeSettings.directory?, stands, Except.map]
      exact ⟨_, rfl⟩
    | error error =>
      obtain ⟨fault, closed, _⟩ := Disk.isDirectory_eq_error_iff.mp stands
      have isName : manifestName ≠ "" := by decide
      obtain ⟨later, below⟩ := closed.below isName (by decide)
      rw [← div_manifestName] at below
      cases looked.symm.trans (Disk.contains_eq_error_iff.mpr ⟨later, below, rfl⟩)

end Probe

namespace Act

theorem perform_joinWords
    {words : List Json}
    (areTexts : ∀ word ∈ words, word.str?.isSome)
    (desk : Desk) :
    ∃ text, perform (joinWords words) desk = (.ok text, desk) := by
  unfold joinWords
  split
  · rename_i value index found
    have isNoText := List.find?_some found
    have isWord := List.fst_mem_of_mem_zipIdx (List.mem_of_find?_eq_some found)
    have isText := areTexts value isWord
    simp_all
  · exact ⟨_, rfl⟩

theorem command_areTexts
    {settings : ProbeSettings}
    {cargo : String}
    (isText : settings.cargo = .str cargo)
    (manifest : Option Path) :
    ∀ word ∈ settings.command manifest, word.str?.isSome := by
  cases manifest <;> simp [ProbeSettings.command, isText, Json.str?]

/-- A probe is asked once, and gives its answer. -/
theorem perform_askProbe
    {answer : Option String}
    {desk : Desk}
    {manifest directory : Option Path}
    {question : ProbeQuestion}
    (answers : desk.setup.probe.Answers answer)
    (asked : desk.setup.probe.question desk.disk manifest directory = .ok question) :
    ∃ log, perform (askProbe manifest directory) desk =
      (.ok answer, { desk with questions := desk.questions ++ [question], log }) := by
  unfold askProbe
  rw [perform_get_bind]
  cases isProbe : desk.setup.probe with
  | fixed given =>
    rw [isProbe] at answers asked
    subst answers
    cases asked
    exact ⟨_, rfl⟩
  | program settings outcome =>
    rw [isProbe] at answers asked
    obtain ⟨⟨cargo, isText⟩, record, given⟩ := answers
    obtain ⟨text, joined⟩ := perform_joinWords (command_areTexts isText manifest) desk
    dsimp only
    rw [perform_bind, joined]
    cases called : settings.call desk.disk manifest directory with
    | error error =>
      simp only [Probe.question, called] at asked
      cases asked
    | ok call =>
      simp only [Probe.question, called] at asked
      cases asked
      simp only [given]
      exact ⟨_, rfl⟩

theorem perform_warnOfForeignRoot
    (crate : Option Path)
    (answer : Option String)
    (desk : Desk) :
    ∃ log, perform (warnOfForeignRoot crate answer) desk = (.ok (), { desk with log }) := by
  unfold warnOfForeignRoot
  split
  · split <;> exact ⟨_, rfl⟩
  · exact ⟨_, rfl⟩

/-- The root of an ordinary file is found with one question to the probe. -/
theorem perform_ordinaryRoot
    {answer : Option String}
    {desk : Desk}
    {place : Path}
    {manifest : Option Path}
    {question : ProbeQuestion}
    {finding : RootFinding}
    (answers : desk.setup.probe.Answers answer)
    (searched : desk.disk.findUpward? [manifestName] place.parent = .ok manifest)
    (asked : desk.setup.probe.question desk.disk manifest (some place.parent) = .ok question)
    (found : findRoot desk.disk place.parent (manifest.map Path.parent) answer = .ok finding) :
    ∃ log, perform (ordinaryRoot place) desk =
      (.ok finding.root?, { desk with questions := desk.questions ++ [question], log }) := by
  unfold ordinaryRoot
  rw [perform_get_bind]
  dsimp only
  rw [perform_ofExcept_bind, searched]
  dsimp only
  obtain ⟨log, isAsked⟩ := perform_askProbe answers asked
  rw [perform_bind, isAsked]
  dsimp only
  obtain ⟨warned, isWarned⟩ := perform_warnOfForeignRoot (manifest.map Path.parent) answer
    { desk with questions := desk.questions ++ [question], log }
  rw [perform_bind, isWarned]
  dsimp only
  rw [perform_ofExcept_bind, found]
  exact ⟨_, rfl⟩

/-- A file counts as an ordinary one: it is no source of a dependency, or no session with a root
serves those. -/
structure IsOrdinaryFile (desk : Desk) (place : Path) (isLibrary : Bool) : Prop where
  decided : desk.setup.toolchain.isLibrary desk.disk place = .ok isLibrary
  unserved : isLibrary → ∀ session,
    desk.registry.latest? (some desk.setup.served) = some session → session.root = none

/-- Nothing is reused for an ordinary file. -/
theorem perform_libraryRoot_of_isOrdinaryFile
    {desk : Desk}
    {place : Path}
    {isLibrary : Bool}
    (ordinary : IsOrdinaryFile desk place isLibrary) :
    ∃ log, perform (libraryRoot place) desk = (.ok none, { desk with log }) := by
  unfold libraryRoot
  rw [perform_get_bind, perform_ofExcept_bind, ordinary.decided]
  cases isLibrary with
  | false => exact ⟨_, rfl⟩
  | true =>
    cases latest : desk.registry.latest? (some desk.setup.served) with
    | none => exact ⟨_, rfl⟩
    | some session =>
      have rootless := ordinary.unserved rfl session latest
      dsimp only
      rw [rootless]
      exact ⟨_, rfl⟩

theorem perform_resolvePath
    {desk : Desk}
    {path place : Path}
    (resolved : desk.disk.resolve path = .ok place) :
    perform (resolvePath path) desk = (.ok place, desk) := by
  unfold resolvePath
  rw [perform_get_bind, resolved]
  rfl

/-- Nothing but the log tells an ordinary file from one for which nothing is reused. -/
theorem perform_resolveRoot_of_isOrdinaryFile
    {desk : Desk}
    {path place : Path}
    {isLibrary : Bool}
    (resolved : desk.disk.resolve path = .ok place)
    (ordinary : IsOrdinaryFile desk place isLibrary) :
    ∃ log, perform (resolveRoot path) desk = perform (ordinaryRoot place) { desk with log } := by
  obtain ⟨log, notReused⟩ := perform_libraryRoot_of_isOrdinaryFile ordinary
  refine ⟨log, ?_⟩
  unfold resolveRoot
  rw [perform_bind, perform_resolvePath resolved]
  dsimp only
  rw [perform_bind, notReused]

/-- An ordinary file has the root that it is to have, and the probe is asked once, about the
nearest manifest above the file and its directory.  The searches upwards have to get through. -/
theorem resolveRoot_contains_file
    {desk : Desk}
    {path place : Path}
    {isLibrary : Bool}
    {answer : Option String}
    (resolved : desk.disk.resolve path = .ok place)
    (ordinary : IsOrdinaryFile desk place isLibrary)
    (answers : desk.setup.probe.Answers answer)
    (searches : desk.disk.CanSearch [manifestName] place.parent)
    (searchesMarkers : desk.disk.HoldsNowhere [manifestName] place.parent →
      answeredRoot? answer = none → desk.disk.CanSearch projectMarkers place.parent) :
    ∃ root?, (perform (resolveRoot path) desk).1 = .ok root? ∧
      IsRootOf desk.disk place answer root? ∧
      ∃ manifest question,
        desk.setup.probe.question desk.disk manifest (some place.parent) = .ok question ∧
        (after (resolveRoot path) desk).questions = desk.questions ++ [question] ∧
        (∀ crate, desk.disk.IsNearest [manifestName] place.parent crate →
          manifest = some (crate / manifestName)) ∧
        (desk.disk.HoldsNowhere [manifestName] place.parent → manifest = none) := by
  obtain ⟨log, isOrdinary⟩ := perform_resolveRoot_of_isOrdinaryFile resolved ordinary
  obtain ⟨manifest, finding, searched, found, isRoot⟩ :=
    isRootOf_findRoot searches searchesMarkers
  obtain ⟨question, asked⟩ := desk.setup.probe.exists_question searches manifest
  obtain ⟨laterLog, ended⟩ :=
    @perform_ordinaryRoot answer { desk with log } place _ _ _ answers searched asked found
  refine ⟨_, ?_, isRoot, manifest, question, asked, ?_, fun crate nearest => ?_, fun nowhere => ?_⟩
  · rw [isOrdinary, ended]
  · rw [after, isOrdinary, ended]
  · exact Except.ok.inj (searched.symm.trans (findUpward?_manifest searches nearest))
  · exact Except.ok.inj (searched.symm.trans (Disk.findUpward?_of_holdsNowhere searches nowhere))

/-- Where the search for a manifest comes to a place that nobody may look at, no root is found, and
the probe is not asked. -/
theorem perform_resolveRoot_of_refused
    {desk : Desk}
    {path place closed : Path}
    {isLibrary : Bool}
    {error : FileError}
    (resolved : desk.disk.resolve path = .ok place)
    (ordinary : IsOrdinaryFile desk place isLibrary)
    (comes : desk.disk.ComesTo (Disk.candidates [manifestName] place.parent) closed)
    (refused : desk.disk.contains closed = .error error) :
    ∃ log, perform (resolveRoot path) desk = (.error (.file error), { desk with log }) := by
  obtain ⟨log, isOrdinary⟩ := perform_resolveRoot_of_isOrdinaryFile resolved ordinary
  have searched := Disk.findUpward?_eq_error_iff.mpr ⟨closed, comes, refused⟩
  refine ⟨log, isOrdinary.trans ?_⟩
  unfold ordinaryRoot
  rw [perform_get_bind]
  dsimp only
  rw [perform_ofExcept_bind, searched]

end Act

/-! ## A crate next to a loop of links -/

namespace Disk

open FileTree

/-- A disk with one crate and other entries. -/
def crated (entries : List (List String × Entry)) : Disk :=
  ⟨⟨(["w"], .directory) :: (["w", "Cargo.toml"], .file []) :: entries, .free⟩, []⟩

/-- A disk with one crate whose directory of toolchains is a link to itself. -/
def looped : Disk :=
  crated [(["rustup"], .directory), (["rustup", "toolchains"], .link "toolchains")]

theorem crated_entries (entries : List (List String × Entry)) :
    (crated entries).tree.entry? [] = some .directory ∧
      (crated entries).tree.entry? ["w"] = some .directory ∧
      (crated entries).tree.entry? ["w", "Cargo.toml"] = some (.file []) := by
  simp [crated, entry?, findEntry?]

theorem allows_crated
    (entries : List (List String × Entry))
    (directory : List String)
    (name : String) :
    (crated entries).tree.refusal? directory name = none :=
  refusal?_of_free rfl directory name

/-- Where everything is allowed an absolute path is walked from the root. -/
theorem locate_absolute
    {disk : Disk}
    (free : disk.tree.restrictions = .free)
    (parts : List String) :
    disk.locate (.absolute parts) = walk disk.tree true maxLinks [] parts :=
  reach_of_free free true (.absolute parts)

/-- The directory of the crate is the nearest one with a manifest for its files. -/
theorem isNearest_crated (entries : List (List String × Entry)) :
    (crated entries).IsNearest [manifestName] (.absolute ["w"]) (.absolute ["w"]) := by
  obtain ⟨isRoot, isCrate, isManifest⟩ := crated_entries entries
  have walked : walk (crated entries).tree true maxLinks [] ["w", "Cargo.toml"] =
      .ok (.present ["w", "Cargo.toml"] (.file [])) := by
    simp [walk, allows_crated, isRoot, isCrate, isManifest]
  have isThere : (crated entries).contains (Path.absolute ["w"] / manifestName) = .ok true := by
    have isPath : Path.absolute ["w"] / manifestName = .absolute ["w", "Cargo.toml"] := by decide
    have noNull : hasNull (.absolute ["w", "Cargo.toml"]) = false := by decide
    simp [isPath, contains, entryAt?, noNull, stat, @locate_absolute (crated entries) rfl, walked,
      Except.map]
  exact ⟨Path.isWithin_refl _, ⟨manifestName, List.mem_singleton_self _, isThere⟩,
    fun other isAbove _ => isAbove⟩

theorem hasNoLinks_crated : (crated []).tree.HasNoLinks := by
  intro parts target
  simp only [crated, entry?, findEntry?]
  split
  · nofun
  · split
    · nofun
    · split <;> nofun

/-- A name that no system with the usual limits takes. -/
def longName : String :=
  String.ofList (List.replicate 300 'a')

/-- A disk with one crate, on a system with the usual limits. -/
def limited : Disk :=
  ⟨{ (crated []).tree with restrictions := .usual }, []⟩

theorem hasNoLinks_limited : limited.tree.HasNoLinks :=
  fun parts target => hasNoLinks_crated parts target

theorem plain_longName : ∀ name ∈ ["w", longName], IsPlainName name := by
  have chars : longName.toList = List.replicate 300 'a' := String.toList_ofList
  have apart : ∀ text : String, text.toList.length ≠ 300 → longName ≠ text := by
    rintro _ size rfl
    rw [chars, List.length_replicate] at size
    exact size rfl
  have noNull : longName.toList.contains (Char.ofNat 0) = false := by
    rw [chars]
    decide
  simp only [List.forall_mem_cons]
  exact ⟨by decide, ⟨apart "" (by decide), apart "." (by decide), apart ".." (by decide), noNull⟩,
    List.forall_mem_nil _⟩

/-- Nobody can look for a manifest in a directory with too long a name. -/
theorem isClosed_longName :
    limited.IsClosed (Path.absolute ["w", longName] / manifestName) .nameTooLong := by
  have isPath : Path.absolute ["w", longName] / manifestName =
      .absolute ["w", longName, "Cargo.toml"] :=
    div_manifestName _
  have isShort : Restrictions.exceeds limited.tree.restrictions.maxPath
      (Path.absolute ["w", longName, "Cargo.toml"]).text = false := by
    decide +kernel
  have isRoot : limited.tree.entry? [] = some .directory := rfl
  have isCrate : limited.tree.entry? ["w"] = some .directory := by decide
  have goesOn : limited.tree.refusal? [] "w" = none := by decide +kernel
  have refused : limited.tree.refusal? ["w"] longName = some .nameTooLong := by decide +kernel
  rw [isPath]
  refine ⟨hasNull_eq_false (List.forall_mem_append.mpr ⟨plain_longName, by decide⟩), rfl, ?_⟩
  rw [locate, reach, isShort]
  simp [origin, Path.absolute, Path.isAbsolute, walk, isRoot, isCrate, goesOn, refused]

/-- The directory of the crate is the nearest one with a manifest for a place that cannot exist. -/
theorem isNearest_limited :
    limited.IsNearest [manifestName] (.absolute ["w", longName]) (.absolute ["w"]) := by
  have isThere : limited.contains (Path.absolute ["w"] / manifestName) = .ok true := by
    have isPath : Path.absolute ["w"] / manifestName = .absolute ["w", "Cargo.toml"] :=
      div_manifestName _
    have isShort : Restrictions.exceeds limited.tree.restrictions.maxPath
        (Path.absolute ["w", "Cargo.toml"]).text = false := by
      decide +kernel
    have isRoot : limited.tree.entry? [] = some .directory := rfl
    have isCrate : limited.tree.entry? ["w"] = some .directory := by decide
    have isManifest : limited.tree.entry? ["w", "Cargo.toml"] = some (.file []) := by decide
    have goesOn : limited.tree.refusal? [] "w" = none := by decide +kernel
    have goesFurther : limited.tree.refusal? ["w"] "Cargo.toml" = none := by decide +kernel
    have ends : limited.locate (.absolute ["w", "Cargo.toml"]) =
        .ok (.present ["w", "Cargo.toml"] (.file [])) := by
      rw [locate, reach, isShort]
      simp [origin, Path.absolute, Path.isAbsolute, walk, isRoot, isCrate, isManifest, goesOn,
        goesFurther]
    have noNull : hasNull (.absolute ["w", "Cargo.toml"]) = false := by decide
    simp [isPath, contains, entryAt?, noNull, stat, ends, Except.map]
  refine ⟨Path.isWithin_iff.mpr ⟨rfl, List.prefix_append ["w"] [longName]⟩,
    ⟨manifestName, List.mem_singleton_self _, isThere⟩, fun other isAbove holds => ?_⟩
  obtain ⟨sameAnchor, isFront⟩ := Path.isWithin_iff.mp isAbove
  rcases List.prefix_concat_iff.mp (show other.parts <+: ["w"] ++ [longName] from isFront) with
    isAll | isHigher
  · -- Nobody can look there.
    have isOther : other = .absolute ["w", longName] := by
      cases other
      cases sameAnchor
      exact congrArg Path.absolute isAll
    obtain ⟨name, isName, isHeld⟩ := holds
    rw [List.mem_singleton.mp isName, isOther] at isHeld
    cases isHeld.symm.trans (contains_eq_error_iff.mpr ⟨_, isClosed_longName, rfl⟩)
  · exact Path.isWithin_iff.mpr ⟨sameAnchor, isHigher⟩

variable {disk : Disk}

/-- Resolving goes on at a place where no link stands. -/
theorem follow_step
    {depth : Nat}
    {seen : SeenLinks}
    {place : Path}
    {name : String}
    (plain : IsPlainName name)
    (placed : hasNull ⟨place.anchor, place.parts ++ [name]⟩ = false)
    (noLink : disk.linkTarget? ⟨place.anchor, place.parts ++ [name]⟩ = none)
    (rest : List String) :
    disk.follow depth seen place (name :: rest) =
      disk.follow depth seen ⟨place.anchor, place.parts ++ [name]⟩ rest := by
  rw [follow.eq_def]
  simp [plain.1, plain.2.1, plain.2.2.1, placed, noLink]

/-- Resolving ends at a link that leads to itself. -/
theorem follow_loop
    {depth : Nat}
    {seen : SeenLinks}
    {place : Path}
    {name target : String}
    (plain : IsPlainName name)
    (placed : hasNull ⟨place.anchor, place.parts ++ [name]⟩ = false)
    (isLink : disk.linkTarget? ⟨place.anchor, place.parts ++ [name]⟩ = some target)
    (isUnseen : seenLink? ⟨place.anchor, place.parts ++ [name]⟩ seen = none)
    (isRelative : startOf place target = place)
    (toItself : targetParts target = [name]) :
    disk.follow (depth + 1) seen place [name] =
      .ok ⟨(⟨place.anchor, place.parts ++ [name]⟩, none) :: seen,
        ⟨place.anchor, place.parts ++ [name]⟩, false⟩ := by
  have noRemainder : ∀ path : Path, path.join (remainder []) = path := by
    intro path
    have isEmpty : remainder [] = ⟨.relative, []⟩ := by decide
    simp [isEmpty, Path.join]
  have metAgain : disk.follow depth ((⟨place.anchor, place.parts ++ [name]⟩, none) :: seen) place
      [name] = .ok ⟨(⟨place.anchor, place.parts ++ [name]⟩, none) :: seen,
        ⟨place.anchor, place.parts ++ [name]⟩, false⟩ := by
    rw [follow.eq_def]
    simp [plain.1, plain.2.1, plain.2.2.1, placed, isLink, seenLink?, noRemainder]
  rw [follow.eq_def]
  simp [plain.1, plain.2.1, plain.2.2.1, placed, isLink, isUnseen, isRelative, toItself, metAgain,
    noRemainder]

theorem resolve_absolute
    {parts : List String}
    {found : Resolution}
    (followed : disk.follow maxDepth [] (.absolute []) parts = .ok found)
    (anchored : disk.isAnchored found.place = true)
    (noNull : hasNull (disk.settled found.place) = false) :
    (disk.stat (disk.settled found.place) = .error .tooManyLinks →
      disk.resolve (.absolute parts) = .error (.linkLoop (disk.settled found.place))) ∧
    (disk.stat (disk.settled found.place) ≠ .error .tooManyLinks →
      disk.resolve (.absolute parts) = .ok (disk.settled found.place)) := by
  unfold resolve
  simp only [Path.isAbsolute, Path.absolute, ne_eq, reduceCtorEq, not_false_eq_true, bne_iff_ne,
    ↓reduceIte] at followed ⊢
  simp only [followed, anchored, noNull, Bool.false_eq_true, ↓reduceIte]
  constructor
  · intro loops
    rw [loops]
  · intro ends
    split
    · rename_i loops
      exact absurd loops ends
    · rfl

theorem looped_entries :
    looped.tree.entry? ["rustup"] = some .directory ∧
      looped.tree.entry? ["rustup", "toolchains"] = some (.link "toolchains") ∧
      looped.tree.entry? ["w", "lib.rs"] = none := by
  decide

theorem targetParts_toolchains : targetParts "toolchains" = ["toolchains"] := by
  decide

theorem allows_looped
    (directory : List String)
    (name : String) :
    looped.tree.refusal? directory name = none :=
  allows_crated _ directory name

/-- A walk along the link never ends. -/
theorem walk_looped (links : Nat) :
    walk looped.tree true links ["rustup"] ["toolchains"] = .error .tooManyLinks := by
  obtain ⟨isDirectory, isLink, _⟩ := looped_entries
  induction links with
  | zero => simp [walk, allows_looped, isDirectory, isLink]
  | succ links inductionHypothesis =>
    rw [walk]
    simp [allows_looped, isDirectory, isLink, targetParts_toolchains, targetBase,
      inductionHypothesis]

theorem linkTarget?_looped :
    looped.linkTarget? ⟨.root, ["rustup"]⟩ = none ∧
      looped.linkTarget? ⟨.root, ["rustup", "toolchains"]⟩ = some "toolchains" ∧
      looped.linkTarget? ⟨.root, ["w"]⟩ = none ∧
      looped.linkTarget? ⟨.root, ["w", "lib.rs"]⟩ = none := by
  have isRoot : looped.tree.entry? [] = some .directory := (crated_entries _).1
  have isCrate : looped.tree.entry? ["w"] = some .directory := (crated_entries _).2.1
  obtain ⟨isDirectory, isLink, isFree⟩ := looped_entries
  have walked := @reach_of_free looped rfl false
  simp [linkTarget?, walked, origin, Path.isAbsolute, walk, allows_looped, isRoot, isDirectory,
    isLink, isCrate, isFree]

theorem resolve_looped_toolchains :
    looped.resolve (.absolute ["rustup", "toolchains"]) =
      .error (.linkLoop (.absolute ["rustup", "toolchains"])) := by
  have isRoot : looped.tree.entry? [] = some .directory := (crated_entries _).1
  obtain ⟨isDirectory, _⟩ := looped_entries
  obtain ⟨noLink, isLink, _⟩ := linkTarget?_looped
  have followed : looped.follow maxDepth [] (.absolute []) ["rustup", "toolchains"] =
      .ok ⟨[(⟨.root, ["rustup", "toolchains"]⟩, none)], ⟨.root, ["rustup", "toolchains"]⟩,
        false⟩ := by
    refine (follow_step (by decide) (by decide) noLink ["toolchains"]).trans ?_
    exact follow_loop (by decide) (by decide) isLink rfl (by decide +kernel)
      targetParts_toolchains
  have settles : looped.settled ⟨.root, ["rustup", "toolchains"]⟩ =
      .absolute ["rustup", "toolchains"] := by
    decide
  have loops : looped.stat (looped.settled ⟨.root, ["rustup", "toolchains"]⟩) =
      .error .tooManyLinks := by
    have walked : walk looped.tree true maxLinks [] ["rustup", "toolchains"] =
        .error .tooManyLinks := by
      rw [walk]
      simp [allows_looped, isRoot, isDirectory, walk_looped]
    rw [settles, stat, locate_absolute rfl, walked]
  have resolved := (resolve_absolute followed rfl (by decide)).1 loops
  rwa [settles] at resolved

theorem resolve_looped_file :
    looped.resolve (.absolute ["w", "lib.rs"]) = .ok (.absolute ["w", "lib.rs"]) := by
  have isRoot : looped.tree.entry? [] = some .directory := (crated_entries _).1
  have isCrate : looped.tree.entry? ["w"] = some .directory := (crated_entries _).2.1
  obtain ⟨_, _, isFree⟩ := looped_entries
  obtain ⟨_, _, noLink, alsoNone⟩ := linkTarget?_looped
  have followed : looped.follow maxDepth [] (.absolute []) ["w", "lib.rs"] =
      .ok ⟨[], ⟨.root, ["w", "lib.rs"]⟩, true⟩ := by
    refine (follow_step (by decide) (by decide) noLink ["lib.rs"]).trans ?_
    refine (follow_step (by decide) (by decide) alsoNone []).trans ?_
    rw [follow]
    rfl
  have settles : looped.settled ⟨.root, ["w", "lib.rs"]⟩ = .absolute ["w", "lib.rs"] := by decide
  have ends : looped.stat (looped.settled ⟨.root, ["w", "lib.rs"]⟩) ≠ .error .tooManyLinks := by
    have walked : walk looped.tree true maxLinks [] ["w", "lib.rs"] =
        .ok (.vacant ["w", "lib.rs"]) := by
      simp [walk, allows_looped, isRoot, isCrate, isFree]
    rw [settles, stat, locate_absolute rfl, walked]
    intro loops
    cases loops
  have resolved := (resolve_absolute followed rfl (by decide)).2 ends
  rwa [settles] at resolved

end Disk

/-- A desk for the files of a crate, whose probe names the root of all files. -/
def Desk.crated (disk : Disk) : Desk :=
  .fresh disk (.standard [] ⟨.absolute ["cargo"], .absolute ["rustup"]⟩ (.fixed (some "/")))

namespace Act

theorem crated_libraryRoots (disk : Disk) :
    (Desk.crated disk).setup.toolchain.libraryRoots =
      [.absolute ["rustup", "toolchains"], .absolute ["cargo", "registry", "src"],
        .absolute ["cargo", "git", "checkouts"]] := by
  show Toolchain.libraryRoots ⟨.absolute ["cargo"], .absolute ["rustup"]⟩ = _
  decide

/-- On a disk without links the library roots are where they are written to be. -/
theorem crated_isLibrary
    {disk : Disk}
    (noLinks : disk.tree.HasNoLinks)
    (place : Path) :
    (Desk.crated disk).setup.toolchain.isLibrary disk place =
      .ok ((Desk.crated disk).setup.toolchain.libraryRoots.any place.isWithin) := by
  have resolves : ∀ parts, (∀ name ∈ parts, Disk.IsPlainName name) →
      disk.resolve (.absolute parts) = .ok (.absolute parts) :=
    fun parts plain => Disk.resolve_plain noLinks plain
  unfold Toolchain.isLibrary
  rw [crated_libraryRoots]
  simp only [liesBelowAny, resolves ["rustup", "toolchains"] (by decide),
    resolves ["cargo", "registry", "src"] (by decide),
    resolves ["cargo", "git", "checkouts"] (by decide), List.any_cons, List.any_nil]
  split
  · simp_all
  · split
    · simp_all
    · split <;> simp_all

/-- A file of a crate is rooted at the workspace around it. -/
theorem crated_file_is_rooted :
    let desk := Desk.crated (.crated [])
    let place := Path.absolute ["w", "lib.rs"]
    desk.disk.resolve place = .ok place ∧ IsOrdinaryFile desk place false ∧
      desk.setup.probe.Answers (some "/") ∧
      desk.disk.CanSearch [manifestName] place.parent ∧
      desk.disk.CanSearch projectMarkers place.parent ∧
      desk.disk.IsNearest [manifestName] place.parent (.absolute ["w"]) ∧
      ∃ root?, (perform (resolveRoot place) desk).1 = .ok root? ∧
        IsRootOf desk.disk place (some "/") root? ∧
        ∃ manifest question,
          desk.setup.probe.question desk.disk manifest (some place.parent) = .ok question ∧
          (after (resolveRoot place) desk).questions = [question] ∧
          (∀ crate, desk.disk.IsNearest [manifestName] place.parent crate →
            manifest = some (crate / manifestName)) ∧
          (desk.disk.HoldsNowhere [manifestName] place.parent → manifest = none) := by
  intro desk place
  have resolved : desk.disk.resolve place = .ok place :=
    Disk.resolve_plain Disk.hasNoLinks_crated (by decide)
  have decided : desk.setup.toolchain.isLibrary desk.disk place = .ok false :=
    crated_isLibrary Disk.hasNoLinks_crated place
  have ordinary : IsOrdinaryFile desk place false := ⟨decided, nofun⟩
  have searches := Disk.canSearch_of_free (show desk.disk.tree.restrictions = .free from rfl)
  exact ⟨resolved, ordinary, rfl, searches _ _, searches _ _, Disk.isNearest_crated [],
    resolveRoot_contains_file resolved ordinary rfl (searches _ _) fun _ _ => searches _ _⟩

/-- Below a directory with too long a name no root is found, although there is a manifest above, and
the probe is not asked. -/
theorem long_name_hides_the_crate :
    let desk := Desk.crated .limited
    let place := Path.absolute ["w", Disk.longName, "lib.rs"]
    desk.disk.resolve place = .ok place ∧ IsOrdinaryFile desk place false ∧
      desk.setup.probe.Answers (some "/") ∧
      desk.disk.IsNearest [manifestName] place.parent (.absolute ["w"]) ∧
      ∃ closed log, perform (resolveRoot place) desk =
        (.error (.file (.refused .nameTooLong closed)), { desk with log }) := by
  intro desk place
  have resolved : desk.disk.resolve place = .ok place :=
    Disk.resolve_plain Disk.hasNoLinks_limited
      (List.forall_mem_append.mpr ⟨Disk.plain_longName, by decide⟩)
  have ordinary : IsOrdinaryFile desk place false :=
    ⟨crated_isLibrary Disk.hasNoLinks_limited place, nofun⟩
  have refused := Disk.contains_eq_error_iff.mpr ⟨_, Disk.isClosed_longName, rfl⟩
  obtain ⟨log, fails⟩ := perform_resolveRoot_of_refused resolved ordinary .first refused
  exact ⟨resolved, ordinary, rfl, Disk.isNearest_limited, _, log, fails⟩

/-- Where the directory of toolchains cannot be resolved no root is found, although nothing is
reused, the probe would answer and there is a manifest above the file. -/
theorem toolchain_loop_hides_the_crate :
    let desk := Desk.crated .looped
    let place := Path.absolute ["w", "lib.rs"]
    desk.disk.resolve place = .ok place ∧
      (∀ root, (perform (libraryRoot place) desk).1 ≠ .ok (some root)) ∧
      desk.setup.probe.Answers (some "/") ∧
      desk.disk.IsNearest [manifestName] place.parent (.absolute ["w"]) ∧
      (perform (resolveRoot place) desk).1 =
        .error (.file (.linkLoop (.absolute ["rustup", "toolchains"]))) := by
  intro desk place
  have resolved : desk.disk.resolve place = .ok place := Disk.resolve_looped_file
  have undecided : desk.setup.toolchain.isLibrary desk.disk place =
      .error (.linkLoop (.absolute ["rustup", "toolchains"])) := by
    unfold Toolchain.isLibrary
    rw [crated_libraryRoots, liesBelowAny]
    have isLoop : desk.disk.resolve (.absolute ["rustup", "toolchains"]) = _ :=
      Disk.resolve_looped_toolchains
    rw [isLoop]
  have fails : perform (libraryRoot place) desk =
      (.error (.file (.linkLoop (.absolute ["rustup", "toolchains"]))), desk) := by
    unfold libraryRoot
    rw [perform_get_bind, perform_ofExcept_bind, undecided]
  refine ⟨resolved, ?_, rfl, Disk.isNearest_crated _, ?_⟩
  · intro root gave
    rw [fails] at gave
    cases gave
  · unfold resolveRoot
    rw [perform_bind, perform_resolvePath resolved]
    dsimp only
    rw [perform_bind, fails]

end Act

end AnalyzerSessions
