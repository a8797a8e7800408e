import AnalyzerSessions.Path.Resolution

namespace AnalyzerSessions

/-!
# Places that may be looked at

Asking what stands at a place fails only where the system does not let a walk go on.  Such a
refusal holds for everything below the place as well.  Where everything is allowed no question
fails.
-/

namespace FileTree

variable {tree : FileTree}

/-- A refusal to look up a name does not say that nothing is there. -/
theorem isAbsence_of_refusal?
    {directory : List String}
    {name : String}
    {fault : FileFault}
    (refused : tree.refusal? directory name = some fault) :
    fault.isAbsence = false := by
  unfold refusal? at refused
  split at refused
  · cases refused
  · split at refused
    · cases refused
      rfl
    · split at refused
      · cases refused
        rfl
      · cases refused

/-- Where everything is allowed every name is looked up. -/
theorem refusal?_of_free
    (free : tree.restrictions = .free)
    (directory : List String)
    (name : String) :
    tree.refusal? directory name = none := by
  simp [refusal?, free, Restrictions.free, Restrictions.denies, Restrictions.exceeds]

/-- Where everything is allowed a walk fails only since nothing is there. -/
theorem isAbsence_of_walk
    {followLast : Bool}
    {links : Nat}
    {place parts : List String}
    {fault : FileFault}
    (free : tree.restrictions = .free)
    (fails : walk tree followLast links place parts = .error fault) :
    fault.isAbsence = true := by
  have allowed := refusal?_of_free free
  fun_induction FileTree.walk tree followLast links place parts <;> simp_all <;> cases fails <;> rfl

/-- A walk that is refused is refused for every longer path too. -/
theorem walk_append_of_refused
    {links : Nat}
    {place parts : List String}
    {fault : FileFault}
    (refused : fault.isAbsence = false)
    (fails : walk tree true links place parts = .error fault)
    (more : List String) :
    walk tree true links place (parts ++ more) = .error fault := by
  fun_induction FileTree.walk tree true links place parts
  case case3 isDirectory _ isRefused => simp [walk, isDirectory, isRefused, fails]
  case case4 isDirectory isAllowed idle inductionHypothesis =>
    simp [walk, isDirectory, isAllowed, idle, inductionHypothesis fails]
  case case5 isDirectory isAllowed _ inductionHypothesis =>
    simp [walk, isDirectory, isAllowed, inductionHypothesis fails]
  case case10 isDirectory isAllowed idle noDots _ isLink _ _ inductionHypothesis =>
    have goesOn := inductionHypothesis fails
    rw [List.append_assoc] at goesOn
    simp [walk, isDirectory, isAllowed, idle, noDots, isLink, goesOn]
  case case11 isDirectory isAllowed idle noDots entry noLink isThere inductionHypothesis =>
    simp [walk, isDirectory, isAllowed, idle, noDots, isThere, inductionHypothesis fails]
  -- Every other end of a walk says what is there, or that nothing is.
  all_goals
    cases fails
    try cases refused

end FileTree

namespace Path

/-- A path is not longer than what is written below it. -/
theorem size_text_le
    {name : String}
    (nonempty : name ≠ "")
    (path : Path) :
    path.text.utf8ByteSize ≤ (⟨path.anchor, path.parts ++ [name]⟩ : Path).text.utf8ByteSize := by
  have joined : ∀ parts : List String, (Text.joinWith "/" parts).utf8ByteSize ≤
      (Text.joinWith "/" (parts ++ [name])).utf8ByteSize := by
    intro parts
    induction parts with
    | nil =>
        simp [Text.joinWith]
    | cons first rest inductionHypothesis =>
        cases rest with
        | nil =>
            simp [Text.joinWith, String.utf8ByteSize_append, Nat.add_assoc]
        | cons second more =>
            simp only [List.cons_append, Text.joinWith, String.utf8ByteSize_append] at inductionHypothesis ⊢
            omega
  obtain ⟨anchor, parts⟩ := path
  have size : ∀ parts, parts ≠ [] → (⟨anchor, parts⟩ : Path).text = anchor.text ++ Text.joinWith "/" parts := by
    intro parts some
    cases parts with
    | nil => exact absurd rfl some
    | cons first rest => cases anchor <;> rfl
  rw [size (parts ++ [name]) (by simp), String.utf8ByteSize_append]
  cases parts with
  | nil =>
      have named : name.utf8ByteSize ≠ 0 := by simpa using nonempty
      cases anchor
      · show 1 ≤ 0 + name.utf8ByteSize
        omega
      · simp [text, Anchor.text, Text.joinWith]
      · simp [text, Anchor.text, Text.joinWith]
  | cons first rest =>
      rw [size (first :: rest) (by simp), String.utf8ByteSize_append]
      have := joined (first :: rest)
      omega

end Path

namespace Disk

open FileTree

variable {disk : Disk} {path : Path} {error : FileError}

/-- Where everything is allowed a path of any length is walked. -/
theorem reach_of_free
    (free : disk.tree.restrictions = .free)
    (followLast : Bool)
    (path : Path) :
    disk.reach followLast path = walk disk.tree followLast maxLinks (disk.origin path) path.parts := by
  simp [reach, free, Restrictions.free, Restrictions.exceeds]

theorem denies_of_free
    (free : disk.tree.restrictions = .free)
    (parts : List String)
    (use : Access) :
    disk.denies parts use = false := by
  simp [denies, free, Restrictions.free, Restrictions.denies]

/-- Nobody may look at a place: the walk to it is refused. -/
structure IsClosed (disk : Disk) (path : Path) (fault : FileFault) : Prop where
  noNull : hasNull path = false
  refused : fault.isAbsence = false
  ends : disk.locate path = .error fault

theorem not_isClosed_of_free
    {fault : FileFault}
    (free : disk.tree.restrictions = .free) :
    ¬disk.IsClosed path fault := by
  intro closed
  have ends := closed.ends
  rw [locate, reach_of_free free] at ends
  cases closed.refused.symm.trans (isAbsence_of_walk free ends)

/-- What is below a place that nobody may look at is out of sight too. -/
theorem IsClosed.below
    {fault : FileFault}
    {name : String}
    (closed : disk.IsClosed path fault)
    (nonempty : name ≠ "")
    (noNull : name.toList.contains (Char.ofNat 0) = false) :
    ∃ fault, disk.IsClosed ⟨path.anchor, path.parts ++ [name]⟩ fault := by
  obtain ⟨alsoNoNull, refused, ends⟩ := closed
  have noNulls : hasNull ⟨path.anchor, path.parts ++ [name]⟩ = false := by
    unfold hasNull at alsoNoNull ⊢
    simp only [List.any_append, alsoNoNull, List.any_cons, noNull, List.any_nil, Bool.or_false]
  cases isLong : Restrictions.exceeds disk.tree.restrictions.maxPath
      (⟨path.anchor, path.parts ++ [name]⟩ : Path).text with
  | true => exact ⟨.nameTooLong, noNulls, rfl, by simp only [locate, reach, isLong, ↓reduceIte]⟩
  | false =>
      have isShort : Restrictions.exceeds disk.tree.restrictions.maxPath path.text = false := by
        have shorter := path.size_text_le nonempty
        unfold Restrictions.exceeds at isLong ⊢
        cases limit : disk.tree.restrictions.maxPath with
        | none => rfl
        | some most =>
            simp only [limit, Option.any_some, decide_eq_false_iff_not] at isLong ⊢
            omega
      simp only [locate, reach, isShort, Bool.false_eq_true, ↓reduceIte] at ends
      refine ⟨fault, noNulls, refused, ?_⟩
      simp only [locate, reach, isLong, Bool.false_eq_true, ↓reduceIte]
      exact walk_append_of_refused refused ends [name]

theorem entryAt?_eq_error_iff :
    disk.entryAt? path = .error error ↔
      ∃ fault, disk.IsClosed path fault ∧ error = .refused fault path := by
  unfold entryAt? stat
  constructor
  · intro fails
    split at fails
    · cases fails
    · rename_i noNull
      split at fails
      · cases fails
      · rename_i fault ends
        split at fails
        · cases fails
        · rename_i refused
          cases fails
          split at ends
          · rename_i other ends
            cases ends
            exact ⟨fault, ⟨by simpa using noNull, by simpa using refused, ends⟩, rfl⟩
          · cases ends
            cases refused rfl
          · cases ends
  · rintro ⟨fault, ⟨noNull, refused, ends⟩, rfl⟩
    simp [noNull, ends, refused]

theorem map_eq_error_iff {α β : Type} {f : α → β} {result : Except FileError α} :
    result.map f = .error error ↔ result = .error error := by
  cases result <;> simp [Except.map]

theorem contains_eq_error_iff :
    disk.contains path = .error error ↔
      ∃ fault, disk.IsClosed path fault ∧ error = .refused fault path :=
  map_eq_error_iff.trans entryAt?_eq_error_iff

theorem isFile_eq_error_iff :
    disk.isFile path = .error error ↔
      ∃ fault, disk.IsClosed path fault ∧ error = .refused fault path :=
  map_eq_error_iff.trans entryAt?_eq_error_iff

theorem isDirectory_eq_error_iff :
    disk.isDirectory path = .error error ↔
      ∃ fault, disk.IsClosed path fault ∧ error = .refused fault path :=
  map_eq_error_iff.trans entryAt?_eq_error_iff

end Disk

end AnalyzerSessions
