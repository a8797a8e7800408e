import AnalyzerSessions.Proofs.AllowedPlaces

namespace AnalyzerSessions

/-!
# Disks without links

On a disk without links nothing is followed, so that a path without dots resolves to
itself, whether it exists or not.
-/

namespace FileTree

variable {tree : FileTree}

/-- No entry of a tree is a link. -/
def HasNoLinks (tree : FileTree) : Prop :=
  ∀ parts target, tree.entry? parts ≠ some (.link target)

/-- A walk that came to no link, and did not give up for too many of them. -/
def CameToNoLink (result : Except FileFault Location) : Prop :=
  result ≠ .error .tooManyLinks ∧ ∀ place target, result ≠ .ok (.present place (.link target))

/-- A walk that is refused came to no link. -/
theorem cameToNoLink_of_not_isAbsence
    {fault : FileFault}
    (refused : fault.isAbsence = false) :
    CameToNoLink (.error fault) := by
  refine ⟨fun same => ?_, fun _ _ same => ?_⟩
  · cases same
    cases refused
  · cases same

theorem hasNoLinks_empty (restrictions : Restrictions) : HasNoLinks ⟨[], restrictions⟩ := by
  intro parts target
  unfold entry?
  split <;> nofun

theorem HasNoLinks.walk
    (noLinks : tree.HasNoLinks)
    (followLast : Bool)
    (links : Nat)
    (place parts : List String) :
    CameToNoLink (walk tree followLast links place parts) := by
  have absent : ∀ fault, fault ≠ .tooManyLinks → CameToNoLink (.error fault) :=
    fun fault apart => ⟨fun same => apart (Except.error.inj same), fun _ _ same => by cases same⟩
  induction parts generalizing place with
  | nil =>
      rw [FileTree.walk]
      split
      · rename_i entry found
        refine ⟨(fun same => by cases same), fun known target same => ?_⟩
        cases same
        exact noLinks place target found
      · exact absent _ fun same => by cases same
  | cons name rest inductionHypothesis =>
      rw [FileTree.walk]
      split
      · split
        · rename_i refused
          exact cameToNoLink_of_not_isAbsence (isAbsence_of_refusal? refused)
        · split
          · exact inductionHypothesis place
          · split
            · exact inductionHypothesis place.dropLast
            · split
              · split
                · exact ⟨(fun same => by cases same), fun _ _ same => by cases same⟩
                · exact absent _ fun same => by cases same
              · rename_i target found
                exact (noLinks _ target found).elim
              · exact inductionHypothesis (place ++ [name])
      · exact absent _ fun same => by cases same
      · exact absent _ fun same => by cases same

end FileTree

namespace Disk

variable {disk : Disk}

/-- A component that names something and is no dots. -/
def IsPlainName (name : String) : Prop :=
  name ≠ "" ∧ name ≠ "." ∧ name ≠ ".." ∧ name.toList.contains (Char.ofNat 0) = false

instance : DecidablePred IsPlainName :=
  fun name => inferInstanceAs (Decidable (name ≠ "" ∧ name ≠ "." ∧ name ≠ ".." ∧
    name.toList.contains (Char.ofNat 0) = false))

/-- On a disk without links no path leads to a link. -/
theorem cameToNoLink_reach
    (noLinks : disk.tree.HasNoLinks)
    (followLast : Bool)
    (path : Path) :
    FileTree.CameToNoLink (disk.reach followLast path) := by
  unfold reach
  split
  · exact FileTree.cameToNoLink_of_not_isAbsence rfl
  · exact noLinks.walk followLast FileTree.maxLinks _ _

theorem linkTarget?_eq_none
    (noLinks : disk.tree.HasNoLinks)
    (place : Path) :
    disk.linkTarget? place = none := by
  have cameTo := cameToNoLink_reach noLinks false place
  unfold linkTarget?
  split
  · rename_i known target found
    exact (cameTo.2 known target found).elim
  · rfl

theorem hasNull_eq_false
    {anchor : Anchor}
    {parts : List String}
    (plain : ∀ name ∈ parts, IsPlainName name) :
    hasNull ⟨anchor, parts⟩ = false := by
  simp only [hasNull, List.any_eq_false, Bool.not_eq_true]
  exact fun name member => (plain name member).2.2.2

theorem follow_plain
    {parts : List String}
    (noLinks : disk.tree.HasNoLinks)
    (depth : Nat)
    (seen : SeenLinks)
    {place : Path}
    (placed : ∀ name ∈ place.parts, IsPlainName name)
    (plain : ∀ name ∈ parts, IsPlainName name) :
    disk.follow depth seen place parts =
      .ok ⟨seen, ⟨place.anchor, place.parts ++ parts⟩, true⟩ := by
  induction parts generalizing place with
  | nil =>
      rw [follow, List.append_nil]
  | cons name rest inductionHypothesis =>
      obtain ⟨nonempty, noDot, noDots, _⟩ := plain name List.mem_cons_self
      have later : ∀ known ∈ place.parts ++ [name], IsPlainName known := by
        intro known member
        rcases List.mem_append.mp member with old | isLast
        · exact placed known old
        · exact plain known (List.mem_singleton.mp isLast ▸ List.mem_cons_self)
      rw [follow, if_neg (by simp [nonempty, noDot]), if_neg noDots]
      simp only [hasNull_eq_false later, linkTarget?_eq_none noLinks, Bool.false_eq_true,
        ↓reduceIte]
      rw [inductionHypothesis later fun known member => plain known (List.mem_cons_of_mem _ member)]
      simp

theorem normalize_plain
    {parts : List String}
    (plain : ∀ name ∈ parts, IsPlainName name) :
    normalize parts = parts := by
  have kept : ∀ done, parts.foldl (fun done part =>
      if part = "" ∨ part = "." then done
      else if part = ".." then done.drop 1
      else part :: done) done = parts.reverse ++ done := by
    induction parts with
    | nil => exact fun done => rfl
    | cons name rest inductionHypothesis =>
        intro done
        obtain ⟨nonempty, noDot, noDots, _⟩ := plain name List.mem_cons_self
        rw [List.foldl_cons, if_neg (by simp [nonempty, noDot]), if_neg noDots,
          inductionHypothesis fun known member => plain known (List.mem_cons_of_mem _ member)]
        simp
  rw [normalize, kept, List.append_nil, List.reverse_reverse]

/-- On a disk without links an absolute path without dots leads to itself. -/
theorem resolve_plain
    {parts : List String}
    (noLinks : disk.tree.HasNoLinks)
    (plain : ∀ name ∈ parts, IsPlainName name) :
    disk.resolve (.absolute parts) = .ok (.absolute parts) := by
  have cameTo := cameToNoLink_reach noLinks true (.absolute parts)
  have followed : disk.follow maxDepth [] (.absolute []) parts =
      .ok ⟨[], ⟨.root, [] ++ parts⟩, true⟩ :=
    follow_plain noLinks maxDepth [] (fun _ member => (List.not_mem_nil member).elim) plain
  have isSettled : disk.settled (.absolute parts) = .absolute parts :=
    congrArg Path.absolute (normalize_plain plain)
  unfold resolve
  simp only [Path.isAbsolute, Path.absolute, ne_eq, reduceCtorEq, not_false_eq_true, bne_iff_ne,
    ↓reduceIte, List.nil_append] at followed isSettled cameTo ⊢
  have anchored : disk.isAnchored ⟨.root, parts⟩ = true := rfl
  simp only [followed, anchored, isSettled, hasNull_eq_false plain, Bool.false_eq_true, ↓reduceIte]
  have notLooping : disk.stat ⟨.root, parts⟩ ≠ .error .tooManyLinks := by
    unfold stat locate
    split
    · rename_i fault found
      intro same
      cases same
      exact cameTo.1 found
    · intro same
      cases same
    · intro same
      cases same
  split
  · rename_i isLooping
    exact (notLooping isLooping).elim
  · rfl

end Disk

end AnalyzerSessions
