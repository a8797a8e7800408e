import AnalyzerSessions.Proofs.FileUriTexts
import AnalyzerSessions.Proofs.LinkFreeDisks
import Mathlib.Data.List.Basic
import Mathlib.Data.List.Induction

namespace AnalyzerSessions

open FileTree Text

/-!
# Straight paths

A path is resolved by following the links on its way, and where all of them are followed,
none is left: what a path leads to is straight, and leads to itself.  Only where links lead
back to a link that is still followed is the rest of the path appended as it is written, and
then a link can stand in it again.

A link that nobody may look at is not followed either.  On the way of an absolute path it
stays out of sight for good.  A relative path is looked at from the working directory, from
where more may be hidden than from the root, so that it is compared with what it leads to
where everything is allowed.
-/

namespace FileTree

variable {tree : FileTree}

/-- The same tree where everything is allowed. -/
def freed (tree : FileTree) : FileTree :=
  { tree with restrictions := .free }

/-- What a walk comes to it comes to where everything is allowed. -/
theorem walk_freed
    {followLast : Bool}
    {links : Nat}
    {place parts : List String}
    {location : Location}
    (ends : walk tree followLast links place parts = .ok location) :
    walk tree.freed followLast links place parts = .ok location := by
  have same : ∀ place, tree.freed.entry? place = tree.entry? place := fun _ => rfl
  have allowed := @refusal?_of_free tree.freed rfl
  induction links using Nat.strongRecOn generalizing place parts with
  | ind links fewer =>
      induction parts generalizing place with
      | nil =>
          rw [walk] at ends ⊢
          exact ends
      | cons name rest inductionHypothesis =>
          rw [walk.eq_2] at ends ⊢
          rw [same]
          split at ends
          · rename_i isDirectory
            simp only [allowed]
            split at ends
            · cases ends
            · split at ends
              · rename_i idle
                rw [if_pos idle]
                exact inductionHypothesis ends
              · rename_i idle
                rw [if_neg idle]
                split at ends
                · rename_i dots
                  rw [if_pos dots]
                  exact inductionHypothesis ends
                · rename_i dots
                  rw [if_neg dots, same]
                  split at ends
                  · exact ends
                  · split at ends
                    · rename_i isLast
                      rw [if_pos isLast]
                      exact ends
                    · rename_i goesOn
                      rw [if_neg goesOn]
                      split at ends
                      · cases ends
                      · exact fewer _ (Nat.lt_succ_self _) ends
                  · exact inductionHypothesis ends
          · cases ends
          · cases ends

/-- Along directories a walk goes straight on. -/
theorem walk_append_directories
    {more : List String}
    (free : tree.restrictions = .free)
    (followLast : Bool)
    (links : Nat)
    (done : List String)
    (plain : ∀ name ∈ more, Disk.IsPlainName name)
    (directories : ∀ front, front <+: more → tree.entry? (done ++ front) = some .directory)
    (rest : List String) :
    walk tree followLast links done (more ++ rest) =
      walk tree followLast links (done ++ more) rest := by
  induction more generalizing done with
  | nil =>
      rw [List.nil_append, List.append_nil]
  | cons name more inductionHypothesis =>
      simp only [List.forall_mem_cons] at plain
      obtain ⟨⟨nonempty, noDot, noDots, -⟩, plain⟩ := plain
      have here := directories [] List.nil_prefix
      have next := directories [name] (List.prefix_append [name] more)
      have behind : ∀ front, front <+: more →
          tree.entry? ((done ++ [name]) ++ front) = some .directory := by
        intro front isFront
        rw [List.append_assoc]
        exact directories (name :: front) ((List.prefix_cons_inj name).mpr isFront)
      rw [List.append_nil] at here
      rw [List.cons_append, walk, here]
      simp only [refusal?_of_free free, nonempty, noDot, noDots, or_self, ↓reduceIte, next]
      rw [inductionHypothesis (done ++ [name]) plain behind, List.append_assoc]
      rfl

/-- Up from a directory below directories a walk comes to one of them. -/
theorem walk_append_upward
    (free : tree.restrictions = .free)
    (followLast : Bool)
    (links ups : Nat)
    {done : List String}
    (directories : ∀ front, front <+: done → tree.entry? front = some .directory)
    (rest : List String) :
    walk tree followLast links done (List.replicate ups ".." ++ rest) =
      walk tree followLast links (done.take (done.length - ups)) rest := by
  induction ups generalizing done with
  | zero =>
      rw [Nat.sub_zero, List.take_length]
      rfl
  | succ ups inductionHypothesis =>
      have here := directories done List.prefix_rfl
      have higher : done.dropLast.take (done.dropLast.length - ups) =
          done.take (done.length - (ups + 1)) := by
        rw [List.dropLast_eq_take, List.take_take, List.length_take]
        congr 1
        omega
      rw [List.replicate_succ, List.cons_append, walk, here]
      simp only [refusal?_of_free free, show ¬(".." = "" ∨ ".." = ".") by decide, ↓reduceIte]
      rw [inductionHypothesis fun front isFront =>
        directories front (isFront.trans (List.dropLast_prefix done)), higher]

end FileTree

namespace Disk

variable {disk : Disk}

/-- The working directory is a directory that is there, below directories. -/
structure HasWorkingDirectory (disk : Disk) : Prop where
  plain : ∀ name ∈ disk.workingDirectory, IsPlainName name
  components : ∀ name ∈ disk.workingDirectory, Path.IsComponent name
  directories : ∀ front, front <+: disk.workingDirectory →
    disk.tree.entry? front = some .directory

/-- Where a path begins to be followed. -/
def beginning (path : Path) : Path :=
  if path.isAbsolute then .absolute [] else ⟨.relative, []⟩

/-- How a path is resolved. -/
theorem resolve_eq_ok
    {path resolved : Path}
    (resolves : disk.resolve path = .ok resolved) :
    ∃ found, disk.follow maxDepth [] (beginning path) path.parts = .ok found ∧
      disk.settled found.place = resolved ∧ disk.stat resolved ≠ .error .tooManyLinks := by
  unfold resolve at resolves
  dsimp only at resolves
  split at resolves
  · cases resolves
  · rename_i found follows
    split at resolves
    · split at resolves
      · cases resolves
      · split at resolves
        · cases resolves
        · rename_i noLoop
          cases resolves
          exact ⟨found, follows, rfl, noLoop⟩
    · cases resolves

/-- A path that is followed is resolved to what it comes to. -/
theorem resolve_of_follow
    {path : Path}
    {found : Resolution}
    (follows : disk.follow maxDepth [] (beginning path) path.parts = .ok found)
    (anchored : disk.isAnchored found.place = true)
    (noNull : hasNull (disk.settled found.place) = false)
    (noLoop : disk.stat (disk.settled found.place) ≠ .error .tooManyLinks) :
    disk.resolve path = .ok (disk.settled found.place) := by
  unfold beginning at follows
  unfold resolve
  simp only [follows, anchored, noNull, Bool.false_eq_true, ↓reduceIte]

/-- No link stands on the way from the root to a place, or at its end. -/
structure IsStraight (disk : Disk) (parts : List String) : Prop where
  plain : ∀ name ∈ parts, IsPlainName name
  noLinks : ∀ front, front <+: parts → disk.linkTarget? (.absolute front) = none

theorem IsStraight.of_prefix
    {parts front : List String}
    (straight : disk.IsStraight parts)
    (isFront : front <+: parts) :
    disk.IsStraight front :=
  ⟨fun name member => straight.plain name (isFront.subset member),
    fun further isFurther => straight.noLinks further (isFurther.trans isFront)⟩

theorem IsStraight.append
    {parts : List String}
    {name : String}
    (straight : disk.IsStraight parts)
    (plain : IsPlainName name)
    (noLink : disk.linkTarget? (.absolute (parts ++ [name])) = none) :
    disk.IsStraight (parts ++ [name]) := by
  refine ⟨fun known member => ?_, fun front isFront => ?_⟩
  · rcases List.mem_append.mp member with old | isLast
    · exact straight.plain known old
    · exact List.mem_singleton.mp isLast ▸ plain
  · rcases List.prefix_concat_iff.mp isFront with rfl | isFront
    · exact noLink
    · exact straight.noLinks front isFront

/-- Nothing is followed on a straight way. -/
theorem IsStraight.follow
    (done : List String)
    {more : List String}
    (straight : disk.IsStraight (done ++ more))
    (depth : Nat)
    (seen : SeenLinks) :
    disk.follow depth seen (.absolute done) more =
      .ok ⟨seen, .absolute (done ++ more), true⟩ := by
  induction more generalizing done with
  | nil =>
      rw [Disk.follow, List.append_nil]
  | cons name more inductionHypothesis =>
      have split : done ++ name :: more = (done ++ [name]) ++ more := by
        rw [List.append_assoc]
        rfl
      rw [split] at straight ⊢
      obtain ⟨nonempty, noDot, noDots, -⟩ :=
        straight.plain name (by simp)
      have next := straight.of_prefix (List.prefix_append (done ++ [name]) more)
      have noNull : hasNull (.absolute (done ++ [name])) = false := hasNull_eq_false next.plain
      have noLink := next.noLinks _ List.prefix_rfl
      simp only [Path.absolute] at noNull noLink inductionHypothesis ⊢
      rw [Disk.follow, if_neg (by simp [nonempty, noDot]), if_neg noDots]
      simp only [noNull, noLink, Bool.false_eq_true, ↓reduceIte]
      exact inductionHypothesis (done ++ [name]) straight

theorem IsStraight.settled
    {parts : List String}
    (straight : disk.IsStraight parts) :
    disk.settled (.absolute parts) = .absolute parts :=
  congrArg Path.absolute (normalize_plain straight.plain)

/-- A straight path leads to itself, unless it runs into too many links all the same. -/
theorem IsStraight.resolve
    {parts : List String}
    (straight : disk.IsStraight parts)
    (noLoop : disk.stat (.absolute parts) ≠ .error .tooManyLinks) :
    disk.resolve (.absolute parts) = .ok (.absolute parts) := by
  have follows : disk.follow maxDepth [] (beginning (.absolute parts)) parts =
      .ok ⟨[], .absolute parts, true⟩ :=
    IsStraight.follow [] straight maxDepth []
  have resolves := @resolve_of_follow disk (.absolute parts) _ follows rfl
  rw [straight.settled] at resolves
  exact resolves (hasNull_eq_false straight.plain) noLoop

/-! ## Following a path -/

/-- A name that is followed: one piece that is no dots. -/
structure IsStep (name : String) : Prop extends Path.IsComponent name where
  noDots : name ≠ ".."

/-- What is kept while a path is followed: `reached` holds where it comes through, and `stuck`
where it ends at a link that is still followed. -/
structure Keeps (disk : Disk) (reached stuck : Path → Prop) : Prop where
  root : reached (.absolute [])
  next : ∀ place name, reached place → IsStep name →
    hasNull ⟨place.anchor, place.parts ++ [name]⟩ = false →
    disk.linkTarget? ⟨place.anchor, place.parts ++ [name]⟩ = none →
    reached ⟨place.anchor, place.parts ++ [name]⟩
  above : ∀ place, reached place → reached (above place)
  stops : ∀ place name rest, reached place → IsStep name →
    stuck (Path.join ⟨place.anchor, place.parts ++ [name]⟩ (remainder rest))
  goesOn : ∀ place rest, stuck place → stuck (place.join (remainder rest))

/-- What is known of the links that were followed. -/
def AreReached (reached : Path → Prop) (seen : SeenLinks) : Prop :=
  ∀ link place, (link, some place) ∈ seen → reached place

theorem AreReached.cons
    {reached : Path → Prop}
    {seen : SeenLinks}
    {link : Path}
    {target : Option Path}
    (areReached : AreReached reached seen)
    (isReached : ∀ place, target = some place → reached place) :
    AreReached reached ((link, target) :: seen) := by
  intro other place member
  rcases List.mem_cons.mp member with same | older
  · cases same
    exact isReached place rfl
  · exact areReached other place older

theorem seenLink?_mem
    {link place : Path}
    {seen : SeenLinks}
    (known : seenLink? link seen = some (some place)) :
    (link, some place) ∈ seen := by
  induction seen with
  | nil =>
      cases known
  | cons first rest inductionHypothesis =>
      obtain ⟨other, target⟩ := first
      unfold seenLink? at known
      split at known
      · rename_i same
        cases known
        exact same ▸ List.mem_cons_self
      · exact List.mem_cons_of_mem _ (inductionHypothesis known)

theorem not_mem_targetParts
    (target : String) :
    ∀ name ∈ targetParts target, '/' ∉ name.toList := by
  intro name member
  obtain ⟨piece, isPiece, rfl⟩ := List.mem_map.mp member
  rw [String.toList_ofList]
  exact Path.not_mem_splitOn _ piece isPiece

theorem Keeps.startOf
    {reached stuck : Path → Prop}
    (keeps : disk.Keeps reached stuck)
    {place : Path}
    (isReached : reached place)
    (target : String) :
    reached (startOf place target) := by
  unfold Disk.startOf
  split
  · exact keeps.root
  · exact isReached

/-- Following a path keeps to what each of its steps keeps to. -/
theorem Keeps.follow
    {reached stuck : Path → Prop}
    (keeps : disk.Keeps reached stuck)
    {depth : Nat}
    {seen : SeenLinks}
    {place : Path}
    {parts : List String}
    {found : Resolution}
    (pieces : ∀ name ∈ parts, '/' ∉ name.toList)
    (isReached : reached place)
    (areReached : AreReached reached seen)
    (follows : disk.follow depth seen place parts = .ok found) :
    AreReached reached found.seen ∧
      if found.isComplete then reached found.place else stuck found.place := by
  induction depth using Nat.strongRecOn generalizing seen place parts found with
  | ind depth shallower =>
      induction parts generalizing seen place with
      | nil =>
          rw [Disk.follow] at follows
          cases follows
          exact ⟨areReached, isReached⟩
      | cons name rest inductionHypothesis =>
          simp only [List.forall_mem_cons] at pieces
          rw [Disk.follow.eq_2] at follows
          split at follows
          · exact inductionHypothesis pieces.2 isReached areReached follows
          · rename_i noIdle
            rw [not_or] at noIdle
            split at follows
            · exact inductionHypothesis pieces.2 (keeps.above place isReached) areReached follows
            · rename_i noDots
              have isStep : IsStep name := ⟨⟨noIdle.1, noIdle.2, pieces.1⟩, noDots⟩
              dsimp only at follows
              split at follows
              · cases follows
              · rename_i noNull
                rw [Bool.not_eq_true] at noNull
                split at follows
                · rename_i noLink
                  exact inductionHypothesis pieces.2
                    (keeps.next place name isReached isStep noNull noLink) areReached follows
                · rename_i target isLink
                  split at follows
                  · rename_i known isKnown
                    exact inductionHypothesis pieces.2
                      (areReached _ known (seenLink?_mem isKnown)) areReached follows
                  · cases follows
                    exact ⟨areReached, keeps.stops place name rest isReached isStep⟩
                  · rename_i isNew
                    cases depth with
                    | zero =>
                        cases follows
                    | succ depth =>
                        dsimp only at follows
                        split at follows
                        · cases follows
                        · rename_i inner innerFollows
                          have innerSeen : AreReached reached
                              ((⟨place.anchor, place.parts ++ [name]⟩, none) :: seen) :=
                            areReached.cons (by simp)
                          obtain ⟨seenReached, innerReached⟩ := shallower depth
                            (Nat.lt_succ_self depth) (not_mem_targetParts target)
                            (keeps.startOf isReached target) innerSeen innerFollows
                          split at follows
                          · rename_i isComplete
                            rw [if_pos isComplete] at innerReached
                            refine inductionHypothesis pieces.2 innerReached
                              (seenReached.cons ?_) follows
                            rintro _ ⟨⟩
                            exact innerReached
                          · rename_i isStuck
                            rw [if_neg isStuck] at innerReached
                            cases follows
                            exact ⟨seenReached, keeps.goesOn inner.place rest innerReached⟩

/-! ## What a path is resolved to -/

/-- All components of a path stand for something. -/
def HasComponents (path : Path) : Prop :=
  ∀ part ∈ path.parts, Path.IsComponent part

theorem hasComponents_remainder (rest : List String) : HasComponents (remainder rest) :=
  fun _ member => Path.isComponent_of_mem_partsOf member

theorem HasComponents.join
    {path other : Path}
    (components : HasComponents path)
    (otherComponents : HasComponents other) :
    HasComponents (path.join other) := by
  unfold Path.join
  split
  · intro part member
    rcases List.mem_append.mp member with inPath | inOther
    · exact components part inPath
    · exact otherComponents part inOther
  · exact otherComponents

theorem HasComponents.append
    {place : Path}
    {name : String}
    (components : HasComponents place)
    (component : Path.IsComponent name) :
    HasComponents ⟨place.anchor, place.parts ++ [name]⟩ := by
  intro part member
  rcases List.mem_append.mp member with old | isLast
  · exact components part old
  · exact List.mem_singleton.mp isLast ▸ component

theorem isComponent_dots : Path.IsComponent ".." :=
  ⟨by decide, by decide, by decide⟩

theorem HasComponents.above
    {place : Path}
    (components : HasComponents place) :
    HasComponents (above place) := by
  unfold Disk.above
  split
  · rw [HasComponents, List.forall_mem_singleton]
    exact isComponent_dots
  · exact components.append isComponent_dots
  · exact fun part member => components part (List.dropLast_subset _ member)

theorem keeps_hasComponents (disk : Disk) : disk.Keeps HasComponents HasComponents where
  root := fun _ member => absurd member List.not_mem_nil
  next _ _ components isStep _ _ := components.append isStep.toIsComponent
  above _ components := components.above
  stops _ _ rest components isStep :=
    (components.append isStep.toIsComponent).join (hasComponents_remainder rest)
  goesOn _ rest components := components.join (hasComponents_remainder rest)

/-- A relative path begins at a directory that is there. -/
def IsGrounded (disk : Disk) (path : Path) : Prop :=
  path.anchor = .relative → disk.HasWorkingDirectory

theorem isGrounded_absolute (parts : List String) : disk.IsGrounded (.absolute parts) := by
  intro relative
  cases relative

theorem IsGrounded.join
    {path : Path}
    (grounded : disk.IsGrounded path)
    (other : Path) :
    disk.IsGrounded (path.join other) := by
  unfold Path.join
  split
  · exact grounded
  · rename_i absolute
    exact fun relative => absurd relative absolute

theorem IsGrounded.above
    {place : Path}
    (grounded : disk.IsGrounded place) :
    disk.IsGrounded (above place) := by
  unfold Disk.above
  split
  · rename_i relative _
    exact fun _ => grounded relative
  · exact grounded
  · exact grounded

theorem keeps_isGrounded (disk : Disk) : disk.Keeps disk.IsGrounded disk.IsGrounded where
  root := isGrounded_absolute []
  next _ _ grounded _ _ _ := grounded
  above _ grounded := grounded.above
  stops place name rest grounded _ :=
    have next : disk.IsGrounded ⟨place.anchor, place.parts ++ [name]⟩ := grounded
    next.join (remainder rest)
  goesOn _ rest grounded := grounded.join (remainder rest)

theorem IsGrounded.beginning
    {path : Path}
    (grounded : disk.IsGrounded path) :
    disk.IsGrounded (beginning path) := by
  unfold Disk.beginning
  split
  · exact isGrounded_absolute []
  · rename_i relative
    refine fun _ => grounded ?_
    simpa [Path.isAbsolute] using relative

/-- The places that a path stands for while it is followed. -/
inductive StandsFor (disk : Disk) : Path → List String → Prop where
  | absolute (parts : List String) : StandsFor disk (.absolute parts) parts
  | relative (free : disk.tree.restrictions = .free) (working : disk.HasWorkingDirectory)
    (ups : Nat) (names : List String) :
    StandsFor disk ⟨.relative, List.replicate ups ".." ++ names⟩
      (disk.workingDirectory.take (disk.workingDirectory.length - ups) ++ names)

theorem StandsFor.append
    {place : Path}
    {parts : List String}
    (stands : disk.StandsFor place parts)
    (name : String) :
    disk.StandsFor ⟨place.anchor, place.parts ++ [name]⟩ (parts ++ [name]) := by
  cases stands with
  | absolute =>
      exact .absolute (parts ++ [name])
  | relative free working ups names =>
      rw [List.append_assoc, List.append_assoc]
      exact .relative free working ups (names ++ [name])

/-- The same link is met at a place and at what it stands for. -/
theorem StandsFor.linkTarget?
    {place : Path}
    {parts : List String}
    (stands : disk.StandsFor place parts) :
    disk.linkTarget? place = disk.linkTarget? (.absolute parts) := by
  cases stands with
  | absolute =>
      rfl
  | relative free working ups names =>
      have upward : disk.workingDirectory.take (disk.workingDirectory.length - ups) <+:
          disk.workingDirectory := List.take_prefix ..
      have alike : disk.reach false ⟨.relative, List.replicate ups ".." ++ names⟩ =
          disk.reach false (.absolute
            (disk.workingDirectory.take (disk.workingDirectory.length - ups) ++ names)) := by
        rw [reach_of_free free, reach_of_free free]
        show walk disk.tree false maxLinks disk.workingDirectory (List.replicate ups ".." ++ names) =
          walk disk.tree false maxLinks []
            (disk.workingDirectory.take (disk.workingDirectory.length - ups) ++ names)
        rw [walk_append_upward free false maxLinks ups working.directories,
          walk_append_directories free false maxLinks []
            (fun name member => working.plain name (upward.subset member))
            (fun front isFront => working.directories front (isFront.trans upward)),
          List.nil_append]
      unfold Disk.linkTarget?
      rw [alike]

/-- A place on a straight way, as it is while a path is followed. -/
def IsStraightPlace (disk : Disk) (place : Path) : Prop :=
  ∃ parts, disk.StandsFor place parts ∧ disk.IsStraight parts

theorem HasWorkingDirectory.isStraight
    (free : disk.tree.restrictions = .free)
    (working : disk.HasWorkingDirectory) :
    disk.IsStraight disk.workingDirectory := by
  refine ⟨working.plain, fun front isFront => ?_⟩
  have walked := walk_append_directories free false maxLinks []
    (fun name member => working.plain name (isFront.subset member))
    (fun further isFurther => working.directories further (isFurther.trans isFront)) []
  rw [List.append_nil, List.nil_append, walk, working.directories front isFront] at walked
  unfold linkTarget?
  rw [reach_of_free free, show (Path.absolute front).parts = front from rfl,
    show disk.origin (.absolute front) = [] from rfl, walked]

theorem above_append
    {anchor : Anchor}
    {name : String}
    (noDots : name ≠ "..")
    (parts : List String) :
    above ⟨anchor, parts ++ [name]⟩ = ⟨anchor, parts⟩ := by
  unfold above
  rw [List.getLast?_concat]
  split
  · rename_i isNone
    cases isNone
  · rename_i isDots
    exact absurd (Option.some.inj isDots) noDots
  · rw [Path.parent, List.dropLast_concat]

/-- Above the working directory and what lies above it. -/
theorem above_replicate (ups : Nat) :
    above ⟨.relative, List.replicate ups ".."⟩ = ⟨.relative, List.replicate (ups + 1) ".."⟩ := by
  cases ups with
  | zero =>
      rfl
  | succ ups =>
      have isLast : (List.replicate (ups + 1) "..").getLast? = some ".." := by
        rw [List.replicate_succ', List.getLast?_concat]
      rw [List.replicate_succ' (n := ups + 1)]
      unfold above
      simp only [isLast]

theorem IsStraightPlace.above
    {place : Path}
    (straightPlace : disk.IsStraightPlace place) :
    disk.IsStraightPlace (above place) := by
  obtain ⟨parts, stands, straight⟩ := straightPlace
  cases stands with
  | absolute =>
      rcases List.eq_nil_or_concat' parts with rfl | ⟨front, name, rfl⟩
      · exact ⟨[], .absolute [], straight⟩
      · have noDots : name ≠ ".." := (straight.plain name (by simp)).2.2.1
        refine ⟨front, ?_, straight.of_prefix (List.prefix_append front [name])⟩
        rw [Path.absolute, above_append noDots]
        exact .absolute front
  | relative free working ups names =>
      rcases List.eq_nil_or_concat' names with rfl | ⟨front, name, rfl⟩
      · rw [List.append_nil] at straight
        have stands := StandsFor.relative free working (ups + 1) []
        have higher : disk.workingDirectory.length - (ups + 1) ≤
            disk.workingDirectory.length - ups := by
          omega
        rw [List.append_nil, List.append_nil] at stands
        refine ⟨_, ?_, straight.of_prefix (List.take_prefix_take_left higher)⟩
        rwa [List.append_nil, above_replicate]
      · have noDots : name ≠ ".." := (straight.plain name (by simp)).2.2.1
        rw [← List.append_assoc] at straight
        refine ⟨_, ?_, straight.of_prefix (List.prefix_append _ [name])⟩
        rw [← List.append_assoc, above_append noDots]
        exact .relative free working ups front

theorem isStraight_nil (disk : Disk) : disk.IsStraight [] := by
  refine ⟨fun _ member => absurd member List.not_mem_nil, fun front isFront => ?_⟩
  have walked : walk disk.tree false maxLinks [] [] = .ok (.present [] .directory) := by
    rw [walk]
    rfl
  rw [List.prefix_nil.mp isFront, linkTarget?, reach]
  split
  · rename_i isLink
    split at isLink
    · cases isLink
    · cases walked.symm.trans isLink
  · rfl

theorem keeps_isStraightPlace (disk : Disk) :
    disk.Keeps disk.IsStraightPlace fun _ => True where
  root := ⟨[], .absolute [], isStraight_nil disk⟩
  next := by
    intro place name straightPlace isStep noNull noLink
    obtain ⟨parts, stands, straight⟩ := straightPlace
    have next := stands.append name
    have plain : IsPlainName name := by
      simp only [hasNull, List.any_append, Bool.or_eq_false_iff, List.any_cons, List.any_nil,
        Bool.or_false] at noNull
      exact ⟨isStep.nonempty, isStep.noDot, isStep.noDots, noNull.2⟩
    rw [next.linkTarget?] at noLink
    exact ⟨_, next, straight.append plain noLink⟩
  above _ straightPlace := straightPlace.above
  stops _ _ _ _ _ := trivial
  goesOn _ _ _ := trivial

theorem normalize_concat
    (parts : List String)
    (name : String) :
    normalize (parts ++ [name]) =
      if name = "" ∨ name = "." then normalize parts
      else if name = ".." then (normalize parts).dropLast
      else normalize parts ++ [name] := by
  unfold normalize
  rw [List.foldl_append, List.foldl_cons, List.foldl_nil]
  split
  · rfl
  · split
    · rw [List.drop_one, List.dropLast_reverse]
    · rw [List.reverse_cons]

theorem normalize_subset (parts : List String) : normalize parts ⊆ parts := by
  induction parts using List.reverseRecOn with
  | nil =>
      exact List.Subset.refl []
  | append_singleton parts name inductionHypothesis =>
      rw [normalize_concat]
      split
      · exact List.subset_append_of_subset_left _ inductionHypothesis
      · split
        · exact List.subset_append_of_subset_left _
            (List.Subset.trans (List.dropLast_subset _) inductionHypothesis)
        · exact List.append_subset.mpr ⟨List.subset_append_of_subset_left _ inductionHypothesis,
            List.subset_append_right _ _⟩

theorem normalize_append
    {names : List String}
    (plain : ∀ name ∈ names, IsPlainName name)
    (parts : List String) :
    normalize (parts ++ names) = normalize parts ++ names := by
  induction names using List.reverseRecOn with
  | nil =>
      rw [List.append_nil, List.append_nil]
  | append_singleton names name inductionHypothesis =>
      obtain ⟨nonempty, noDot, noDots, -⟩ := plain name (by simp)
      have earlier := inductionHypothesis fun known member =>
        plain known (List.mem_append_left _ member)
      rw [← List.append_assoc, normalize_concat, if_neg (by simp [nonempty, noDot]),
        if_neg noDots, earlier, List.append_assoc]

theorem normalize_append_upward
    {parts : List String}
    (plain : ∀ name ∈ parts, IsPlainName name)
    (ups : Nat) :
    normalize (parts ++ List.replicate ups "..") = parts.take (parts.length - ups) := by
  induction ups with
  | zero =>
      rw [List.replicate_zero, List.append_nil, normalize_plain plain, Nat.sub_zero,
        List.take_length]
  | succ ups inductionHypothesis =>
      rw [List.replicate_succ', ← List.append_assoc, normalize_concat, if_neg (by decide),
        if_pos rfl, inductionHypothesis, List.dropLast_eq_take, List.take_take, List.length_take]
      congr 1
      omega

/-- A place is settled to what it stands for. -/
theorem StandsFor.settled
    {place : Path}
    {parts : List String}
    (stands : disk.StandsFor place parts)
    (plain : ∀ name ∈ parts, IsPlainName name) :
    disk.settled place = .absolute parts := by
  cases stands with
  | absolute =>
      exact congrArg Path.absolute (normalize_plain plain)
  | relative _ working ups names =>
      have plainNames : ∀ name ∈ names, IsPlainName name :=
        fun name member => plain name (List.mem_append_right _ member)
      refine congrArg Path.absolute ?_
      show normalize (disk.workingDirectory ++ (List.replicate ups ".." ++ names)) = _
      rw [← List.append_assoc, normalize_append plainNames,
        normalize_append_upward working.plain]

/-- A path that was read is followed to what is kept from its beginning on. -/
theorem Keeps.follow_ofText
    {reached stuck : Path → Prop}
    {text : String}
    {found : Resolution}
    (keeps : disk.Keeps reached stuck)
    (start : reached (beginning (.ofText text)))
    (follows : disk.follow maxDepth [] (beginning (.ofText text)) (Path.ofText text).parts =
      .ok found) :
    if found.isComplete then reached found.place else stuck found.place :=
  (keeps.follow (fun _ member => (Path.isComponent_of_mem_partsOf member).onePiece) start
    (fun _ _ member => absurd member List.not_mem_nil) follows).2

/-- What a path that was read is resolved to: an absolute path that can be written and read. -/
theorem hasComponents_resolve
    {text : String}
    {resolved : Path}
    (grounded : disk.IsGrounded (.ofText text))
    (resolves : disk.resolve (.ofText text) = .ok resolved) :
    resolved.isAbsolute ∧ HasComponents resolved := by
  obtain ⟨found, follows, rfl, -⟩ := resolve_eq_ok resolves
  have components : HasComponents found.place := by
    have start : HasComponents (beginning (.ofText text)) := by
      unfold beginning
      split <;> exact fun _ member => absurd member List.not_mem_nil
    have kept := (keeps_hasComponents disk).follow_ofText start follows
    rwa [ite_self] at kept
  have stillGrounded := (keeps_isGrounded disk).follow_ofText grounded.beginning follows
  rw [ite_self] at stillGrounded
  unfold settled
  split
  · exact ⟨rfl, fun part member => components part (normalize_subset _ member)⟩
  · refine ⟨rfl, fun part member => ?_⟩
    have fromRoot := normalize_subset _ member
    unfold Disk.fromRoot at fromRoot
    split at fromRoot
    · exact components part fromRoot
    · rename_i relative
      have working := stillGrounded (by simpa [Path.isAbsolute] using relative)
      rcases List.mem_append.mp fromRoot with inWorking | inPlace
      · exact working.components part inWorking
      · exact components part inPlace

/-! ## Where everything is allowed -/

/-- The same files where everything is allowed. -/
def freed (disk : Disk) : Disk :=
  { disk with tree := disk.tree.freed }

/-- What is no link where everything is allowed is none where less is. -/
theorem linkTarget?_of_freed
    {place : Path}
    (noLink : disk.freed.linkTarget? place = none) :
    disk.linkTarget? place = none := by
  cases isLink : disk.linkTarget? place with
  | none =>
      rfl
  | some target =>
      unfold linkTarget? reach at isLink
      split at isLink
      · rename_i known other found
        split at found
        · cases found
        · have alsoFound := walk_freed found
          unfold linkTarget? at noLink
          rw [reach_of_free rfl] at noLink
          have isWalk : walk disk.freed.tree false maxLinks (disk.freed.origin place) place.parts =
              .ok (.present known (.link other)) := alsoFound
          rw [isWalk] at noLink
          cases noLink
      · cases isLink

theorem IsStraight.of_freed
    {parts : List String}
    (straight : disk.freed.IsStraight parts) :
    disk.IsStraight parts :=
  ⟨straight.plain, fun front isFront => linkTarget?_of_freed (straight.noLinks front isFront)⟩

/-- All links on the way of a path are followed, and none is out of sight from where a relative path
begins. -/
def GetsThrough (disk : Disk) (path : Path) : Prop :=
  ∃ found, disk.follow maxDepth [] (beginning path) path.parts = .ok found ∧ found.isComplete ∧
    (path.anchor = .relative →
      disk.freed.follow maxDepth [] (beginning path) path.parts = .ok found)

/-- A path whose links are all followed comes to a straight one, if it is absolute or everything is
allowed. -/
theorem isStraight_of_follow
    {text : String}
    {found : Resolution}
    (start : disk.IsStraightPlace (beginning (.ofText text)))
    (follows : disk.follow maxDepth [] (beginning (.ofText text)) (Path.ofText text).parts =
      .ok found)
    (isComplete : found.isComplete) :
    ∃ parts, disk.settled found.place = .absolute parts ∧ disk.IsStraight parts := by
  have kept := (keeps_isStraightPlace disk).follow_ofText start follows
  rw [if_pos isComplete] at kept
  obtain ⟨parts, stands, straight⟩ := kept
  exact ⟨parts, stands.settled straight.plain, straight⟩

/-- A path whose links are all followed is resolved to a straight one. -/
theorem GetsThrough.isStraight
    {text : String}
    {resolved : Path}
    (getsThrough : disk.GetsThrough (.ofText text))
    (grounded : disk.IsGrounded (.ofText text))
    (resolves : disk.resolve (.ofText text) = .ok resolved) :
    ∃ parts, resolved = .absolute parts ∧ disk.IsStraight parts := by
  obtain ⟨found, follows, isComplete, freely⟩ := getsThrough
  obtain ⟨same, alsoFollows, rfl, -⟩ := resolve_eq_ok resolves
  cases follows.symm.trans alsoFollows
  by_cases relative : (Path.ofText text).anchor = .relative
  · have isBeginning : beginning (.ofText text) = ⟨.relative, []⟩ := by
      simp [beginning, Path.isAbsolute, relative]
    have working : disk.freed.HasWorkingDirectory :=
      ⟨(grounded relative).plain, (grounded relative).components, (grounded relative).directories⟩
    have stands := @StandsFor.relative disk.freed rfl working 0 []
    rw [Nat.sub_zero, List.take_length, List.append_nil, List.append_nil] at stands
    obtain ⟨parts, settles, straight⟩ := isStraight_of_follow
      (isBeginning ▸ ⟨_, stands, working.isStraight rfl⟩) (freely relative) isComplete
    exact ⟨parts, settles, straight.of_freed⟩
  · have isBeginning : beginning (.ofText text) = .absolute [] := by
      simp [beginning, Path.isAbsolute, relative]
    exact isStraight_of_follow (isBeginning ▸ (keeps_isStraightPlace disk).root) follows isComplete

end Disk

end AnalyzerSessions
