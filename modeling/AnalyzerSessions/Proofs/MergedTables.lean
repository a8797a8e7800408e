import AnalyzerSessions.Config.Tree
import Mathlib.Data.List.Basic

namespace AnalyzerSessions.Config

/-!
# Merged tables

The last table that says something about a path of keys decides what stands there, and what
no table says anything about stays as it was.  Entries keep their order, and merging a table
once more changes nothing.  Tables that stand too deep inside each other are not merged.
-/

variable {α : Type}

/-! ## Paths and tables -/

/-- What stands in a tree at a path of keys. -/
def at? : (tree : Tree α) → (path : List String) → Option (Tree α)
  | tree, [] => some tree
  | .leaf _, _ :: _ => none
  | .table entries, key :: path => (find? key entries).bind fun tree => at? tree path

/-- The names of the entries of a table. -/
def names (entries : Entries α) : List String :=
  entries.map Prod.fst

/-- A path leaves a table: it leads to a table inside that lacks the next key. -/
def Leaves (entries : Entries α) (path : List String) : Prop :=
  ∃ front key rest inner, path = front ++ key :: rest ∧
    at? (.table entries) front = some (.table inner) ∧ find? key inner = none

mutual

/-- No table of a tree has two entries of one name. -/
def Tree.IsDistinct : Tree α → Prop
  | .leaf _ => True
  | .table entries => AreDistinct entries

/-- Neither a table nor a table inside it has two entries of one name. -/
def AreDistinct : Entries α → Prop
  | [] => True
  | (name, tree) :: rest => find? name rest = none ∧ tree.IsDistinct ∧ AreDistinct rest

end

/-- What stands in a table into which another one is merged. -/
structure IsMerged (base added merged : Entries α) : Prop where
  takes : ∀ {path : List String} {value : α},
    at? (.table added) path = some (.leaf value) → at? (.table merged) path = some (.leaf value)
  keeps : ∀ {front : List String} {key : String} {inner old : Entries α},
    at? (.table added) front = some (.table inner) → find? key inner = none →
      at? (.table base) front = some (.table old) →
        ∀ rest, at? (.table merged) (front ++ key :: rest) = at? (.table base) (front ++ key :: rest)
  plants : ∀ {path : List String} {inner : Entries α},
    at? (.table added) path = some (.table inner) →
      (∀ old, at? (.table base) path ≠ some (.table old)) →
        at? (.table merged) path = some (.table inner)
  ordered : ∀ {path : List String} {inner old : Entries α},
    at? (.table added) path = some (.table inner) → at? (.table base) path = some (.table old) →
      ∃ both, at? (.table merged) path = some (.table both) ∧
        names both = names old ++ (names inner).filter (· ∉ names old)

/-- Each table that is there is merged into what the ones before it have left. -/
inductive AreMerged : (base : Entries α) → (overrides : List (Option (Entries α))) →
    (merged : Entries α) → Prop where
  | nothing (base : Entries α) :
      AreMerged base [] base
  | absent {base merged : Entries α} {later : List (Option (Entries α))}
      (others : AreMerged base later merged) :
      AreMerged base (none :: later) merged
  | present {base added between merged : Entries α} {later : List (Option (Entries α))}
      (isMerged : IsMerged base added between)
      (others : AreMerged between later merged) :
      AreMerged base (some added :: later) merged

/-- What tables that are merged come to. -/
structure HasMerged (base : Entries α) (overrides : List (Option (Entries α)))
    (merged : Entries α) : Prop where
  areMerged : AreMerged base overrides merged
  /-- A value stands where no later table mentions its path. -/
  wins : ∀ {earlier later : List (Option (Entries α))} {added : Entries α} {path : List String}
    {value : α}, overrides = earlier ++ some added :: later →
      at? (.table added) path = some (.leaf value) →
        (∀ table, some table ∈ later → Leaves table path) →
          at? (.table merged) path = some (.leaf value)
  /-- What no table mentions is not lost. -/
  stays : ∀ {path : List String} {tree : Tree α},
    (∀ table, some table ∈ overrides → Leaves table path) →
      at? (.table base) path = some tree → at? (.table merged) path = some tree
  /-- A table without entries, or none, changes nothing. -/
  skips : ∀ {earlier later : List (Option (Entries α))} {absent : Option (Entries α)},
    overrides = earlier ++ absent :: later → absent.getD [] = [] →
      merge? base (earlier ++ later) = some merged
  /-- The same table once more changes nothing. -/
  once : ∀ {earlier later : List (Option (Entries α))} {added : Option (Entries α)},
    overrides = earlier ++ added :: added :: later →
      merge? base (earlier ++ added :: later) = some merged

/-! ## Entries -/

variable {name other key : String} {tree : Tree α} {entries base added : Entries α}

theorem find?_insert_self
    (name : String)
    (tree : Tree α)
    (entries : Entries α) :
    find? name (insert name tree entries) = some tree := by
  induction entries with
  | nil =>
      exact if_pos rfl
  | cons entry rest inductionHypothesis =>
      by_cases isEntry : entry.1 = name
      · rw [insert, if_pos isEntry, find?, if_pos isEntry]
      · rw [insert, if_neg isEntry, find?, if_neg isEntry, inductionHypothesis]

theorem find?_insert_of_ne
    (different : name ≠ other)
    (tree : Tree α)
    (entries : Entries α) :
    find? other (insert name tree entries) = find? other entries := by
  induction entries with
  | nil =>
      exact if_neg different
  | cons entry rest inductionHypothesis =>
      by_cases isEntry : entry.1 = name
      · have isOther : entry.1 ≠ other := isEntry ▸ different
        rw [insert, if_pos isEntry, find?, if_neg isOther, find?, if_neg isOther]
      · rw [insert, if_neg isEntry, find?, inductionHypothesis, find?]

theorem insert_eq_self
    (isEntry : find? name entries = some tree) :
    insert name tree entries = entries := by
  induction entries with
  | nil =>
      cases isEntry
  | cons entry rest inductionHypothesis =>
      by_cases isFirst : entry.1 = name
      · rw [find?, if_pos isFirst] at isEntry
        rw [insert, if_pos isFirst, ← Option.some.inj isEntry]
      · rw [find?, if_neg isFirst] at isEntry
        rw [insert, if_neg isFirst, inductionHypothesis isEntry]

theorem insert_eq_append
    (lacks : find? name entries = none)
    (tree : Tree α) :
    insert name tree entries = entries ++ [(name, tree)] := by
  induction entries with
  | nil =>
      rfl
  | cons entry rest inductionHypothesis =>
      by_cases isFirst : entry.1 = name
      · rw [find?, if_pos isFirst] at lacks
        cases lacks
      · rw [find?, if_neg isFirst] at lacks
        rw [insert, if_neg isFirst, inductionHypothesis lacks, List.cons_append]

theorem find?_eq_none_iff : find? name entries = none ↔ name ∉ names entries := by
  induction entries with
  | nil =>
      simp [find?, names]
  | cons entry rest inductionHypothesis =>
      by_cases isFirst : entry.1 = name
      · simp [find?, names, isFirst]
      · simp [find?, names, isFirst, inductionHypothesis, Ne.symm isFirst]

theorem names_insert_of_mem
    (isName : name ∈ names entries)
    (tree : Tree α) :
    names (insert name tree entries) = names entries := by
  induction entries with
  | nil =>
      cases isName
  | cons entry rest inductionHypothesis =>
      by_cases isFirst : entry.1 = name
      · rw [insert, if_pos isFirst]
        rfl
      · have inRest : name ∈ names rest :=
          (List.mem_cons.mp isName).resolve_left (Ne.symm isFirst)
        rw [insert, if_neg isFirst]
        exact congrArg (entry.1 :: ·) (inductionHypothesis inRest)

theorem names_insert_of_not_mem
    (isNew : name ∉ names entries)
    (tree : Tree α) :
    names (insert name tree entries) = names entries ++ [name] := by
  rw [insert_eq_append (find?_eq_none_iff.mpr isNew)]
  exact List.map_append

theorem AreDistinct.of_find?
    (distinct : AreDistinct entries)
    (isEntry : find? name entries = some tree) :
    tree.IsDistinct := by
  induction entries with
  | nil =>
      cases isEntry
  | cons entry rest inductionHypothesis =>
      obtain ⟨_, isDistinct, others⟩ := distinct
      by_cases isFirst : entry.1 = name
      · rw [find?, if_pos isFirst] at isEntry
        exact Option.some.inj isEntry ▸ isDistinct
      · rw [find?, if_neg isFirst] at isEntry
        exact inductionHypothesis others isEntry

/-! ## One table into another -/

/-- A tree that comes to the place of another one, or to a place where nothing stands. -/
def overlay : (old : Option (Tree α)) → (tree : Tree α) → Tree α
  | some (.table inner), .table added => .table (mergeInto inner added)
  | _, tree => tree

theorem overlay_leaf (old : Option (Tree α)) (value : α) :
    overlay old (.leaf value) = .leaf value := by
  rcases old with _ | _ | _ <;> rfl

theorem overlay_of_ne_table
    {old : Option (Tree α)}
    (noTable : ∀ inner, old ≠ some (.table inner))
    (tree : Tree α) :
    overlay old tree = tree := by
  rcases old with _ | _ | inner
  · rfl
  · rfl
  · exact (noTable inner rfl).elim

theorem mergeInto_nil (base : Entries α) : mergeInto base [] = base := by
  rw [mergeInto]

theorem mergeEntry_eq (base : Entries α) (name : String) (tree : Tree α) :
    mergeEntry base name tree = insert name (overlay (find? name base) tree) base := by
  cases tree with
  | leaf value =>
      rw [mergeEntry, overlay_leaf]
  | table added =>
      rw [mergeEntry]
      rcases find? name base with _ | _ | inner <;> rfl

theorem find?_mergeEntry_of_ne
    (different : name ≠ other)
    (base : Entries α)
    (tree : Tree α) :
    find? other (mergeEntry base name tree) = find? other base := by
  rw [mergeEntry_eq, find?_insert_of_ne different]

theorem find?_mergeInto_of_eq_none
    (lacks : find? name added = none)
    (base : Entries α) :
    find? name (mergeInto base added) = find? name base := by
  induction added generalizing base with
  | nil =>
      rw [mergeInto_nil]
  | cons entry rest inductionHypothesis =>
      by_cases isFirst : entry.1 = name
      · rw [find?, if_pos isFirst] at lacks
        cases lacks
      · rw [find?, if_neg isFirst] at lacks
        rw [mergeInto, inductionHypothesis lacks, find?_mergeEntry_of_ne isFirst]

theorem find?_mergeInto_of_eq_some
    (distinct : AreDistinct added)
    (isEntry : find? name added = some tree)
    (base : Entries α) :
    find? name (mergeInto base added) = some (overlay (find? name base) tree) := by
  induction added generalizing base with
  | nil =>
      cases isEntry
  | cons entry rest inductionHypothesis =>
      obtain ⟨lacks, _, others⟩ := distinct
      by_cases isFirst : entry.1 = name
      · rw [find?, if_pos isFirst] at isEntry
        cases isEntry
        subst isFirst
        rw [mergeInto, find?_mergeInto_of_eq_none lacks, mergeEntry_eq, find?_insert_self]
      · rw [find?, if_neg isFirst] at isEntry
        rw [mergeInto, inductionHypothesis others isEntry, find?_mergeEntry_of_ne isFirst]

/-- New names come behind those that are there. -/
theorem names_mergeInto
    (distinct : AreDistinct added)
    (base : Entries α) :
    names (mergeInto base added) = names base ++ (names added).filter (· ∉ names base) := by
  induction added generalizing base with
  | nil =>
      simp [mergeInto, names]
  | cons entry rest inductionHypothesis =>
      obtain ⟨lacks, _, others⟩ := distinct
      have notAgain : entry.1 ∉ names rest := find?_eq_none_iff.mp lacks
      have cons : names (entry :: rest) = entry.1 :: names rest := rfl
      rw [mergeInto, inductionHypothesis others, mergeEntry_eq, cons]
      by_cases isName : entry.1 ∈ names base
      · rw [names_insert_of_mem isName, List.filter_cons_of_neg (by simpa using isName)]
      · have same : (names rest).filter (· ∉ names base ++ [entry.1]) =
            (names rest).filter (· ∉ names base) := by
          refine List.filter_congr fun name isLater => ?_
          have different : name ≠ entry.1 := ne_of_mem_of_not_mem isLater notAgain
          simp [different]
        rw [names_insert_of_not_mem isName, List.filter_cons_of_pos (by simpa using isName), same,
          List.append_assoc, List.singleton_append]

/-! ## Paths through merged tables -/

theorem at?_overlay_leaf
    {path : List String}
    {value : α}
    (isLeaf : at? tree path = some (.leaf value))
    (distinct : tree.IsDistinct)
    (old : Option (Tree α)) :
    at? (overlay old tree) path = some (.leaf value) := by
  induction path generalizing tree old with
  | nil =>
      cases isLeaf
      rw [overlay_leaf]
      rfl
  | cons key path inductionHypothesis =>
      rcases tree with _ | added
      · cases isLeaf
      · rcases old with _ | _ | inner
        · exact isLeaf
        · exact isLeaf
        · obtain ⟨tree, isEntry, isLeaf⟩ := Option.bind_eq_some_iff.mp isLeaf
          have found := find?_mergeInto_of_eq_some distinct isEntry inner
          rw [overlay, at?, found]
          exact inductionHypothesis isLeaf (AreDistinct.of_find? distinct isEntry) _

theorem at?_overlay_of_lacks
    {front : List String}
    {inner old : Entries α}
    {under : Tree α}
    (leads : at? tree front = some (.table inner))
    (lacks : find? key inner = none)
    (isTable : at? under front = some (.table old))
    (distinct : tree.IsDistinct)
    (rest : List String) :
    at? (overlay (some under) tree) (front ++ key :: rest) = at? under (front ++ key :: rest) := by
  induction front generalizing tree under with
  | nil =>
      cases leads
      cases isTable
      rw [overlay, List.nil_append, at?, find?_mergeInto_of_eq_none lacks]
      rfl
  | cons first front inductionHypothesis =>
      rcases tree with _ | added
      · cases leads
      · rcases under with _ | base
        · cases isTable
        · obtain ⟨tree, isEntry, leads⟩ := Option.bind_eq_some_iff.mp leads
          obtain ⟨under, isOld, isTable⟩ := Option.bind_eq_some_iff.mp isTable
          have found := find?_mergeInto_of_eq_some distinct isEntry base
          rw [overlay, List.cons_append, at?, found, at?, isOld]
          exact inductionHypothesis leads isTable (AreDistinct.of_find? distinct isEntry)

theorem at?_overlay_of_ne_table
    {path : List String}
    {inner : Entries α}
    {old : Option (Tree α)}
    (leads : at? tree path = some (.table inner))
    (noTable : ∀ under, old = some under → ∀ entries, at? under path ≠ some (.table entries))
    (distinct : tree.IsDistinct) :
    at? (overlay old tree) path = some (.table inner) := by
  induction path generalizing tree old with
  | nil =>
      have noTable : ∀ entries, old ≠ some (.table entries) :=
        fun entries isTable => noTable _ isTable entries rfl
      rw [overlay_of_ne_table noTable]
      exact leads
  | cons key path inductionHypothesis =>
      rcases tree with _ | added
      · cases leads
      · rcases old with _ | _ | base
        · exact leads
        · exact leads
        · obtain ⟨tree, isEntry, leads⟩ := Option.bind_eq_some_iff.mp leads
          have found := find?_mergeInto_of_eq_some distinct isEntry base
          rw [overlay, at?, found]
          refine inductionHypothesis leads (fun under isOld entries isTable => ?_)
            (AreDistinct.of_find? distinct isEntry)
          refine noTable _ rfl entries ?_
          rw [at?, isOld]
          exact isTable

theorem at?_overlay_tables
    {path : List String}
    {inner old : Entries α}
    {under : Tree α}
    (leads : at? tree path = some (.table inner))
    (isTable : at? under path = some (.table old))
    (distinct : tree.IsDistinct) :
    at? (overlay (some under) tree) path = some (.table (mergeInto old inner)) ∧
      AreDistinct inner := by
  induction path generalizing tree under with
  | nil =>
      cases leads
      cases isTable
      exact ⟨rfl, distinct⟩
  | cons key path inductionHypothesis =>
      rcases tree with _ | added
      · cases leads
      · rcases under with _ | base
        · cases isTable
        · obtain ⟨tree, isEntry, leads⟩ := Option.bind_eq_some_iff.mp leads
          obtain ⟨under, isOld, isTable⟩ := Option.bind_eq_some_iff.mp isTable
          have found := find?_mergeInto_of_eq_some distinct isEntry base
          rw [overlay, at?, found, isOld]
          exact inductionHypothesis leads isTable (AreDistinct.of_find? distinct isEntry)

theorem isMerged_mergeInto
    (distinct : AreDistinct added)
    (base : Entries α) :
    IsMerged base added (mergeInto base added) where
  takes isLeaf := at?_overlay_leaf isLeaf distinct (some (.table base))
  keeps leads lacks isTable rest := at?_overlay_of_lacks leads lacks isTable distinct rest
  plants := by
    intro path inner leads noTable
    have apart : ∀ under, some (Tree.table base) = some under →
        ∀ entries, at? under path ≠ some (.table entries) := by
      rintro _ ⟨⟩
      exact noTable
    exact at?_overlay_of_ne_table leads apart distinct
  ordered leads isTable := by
    obtain ⟨found, distinct⟩ := at?_overlay_tables leads isTable distinct
    exact ⟨_, found, names_mergeInto distinct _⟩

/-- Only tables stand on the way to what stands in a tree. -/
theorem at?_front
    {front rest : List String}
    {under : Tree α}
    (stands : at? tree (front ++ key :: rest) = some under) :
    ∃ entries, at? tree front = some (.table entries) := by
  induction front generalizing tree with
  | nil =>
      rcases tree with _ | entries
      · cases stands
      · exact ⟨entries, rfl⟩
  | cons first front inductionHypothesis =>
      rcases tree with _ | entries
      · cases stands
      · obtain ⟨tree, isEntry, stands⟩ := Option.bind_eq_some_iff.mp stands
        rw [at?, isEntry]
        exact inductionHypothesis stands

/-- What a table that is merged in says nothing about stays. -/
theorem IsMerged.at?_of_leaves
    {merged : Entries α}
    {path : List String}
    (isMerged : IsMerged base added merged)
    (leaves : Leaves added path)
    (stands : at? (.table base) path = some tree) :
    at? (.table merged) path = some tree := by
  obtain ⟨front, key, rest, inner, rfl, leads, lacks⟩ := leaves
  obtain ⟨old, isTable⟩ := at?_front stands
  rw [isMerged.keeps leads lacks isTable, stands]

/-! ## The same table once more -/

/-- Coming to the same place again changes nothing. -/
def IsSteady (tree : Tree α) : Prop :=
  ∀ old, overlay (some (overlay old tree)) tree = overlay old tree

theorem mergeInto_eq_self
    (distinct : AreDistinct added)
    (stand : ∀ {name tree}, find? name added = some tree →
      find? name base = some (overlay (find? name base) tree)) :
    mergeInto base added = base := by
  induction added with
  | nil =>
      exact mergeInto_nil base
  | cons entry rest inductionHypothesis =>
      obtain ⟨lacks, _, others⟩ := distinct
      have first : find? entry.1 (entry :: rest) = some entry.2 := if_pos rfl
      have same : mergeEntry base entry.1 entry.2 = base := by
        rw [mergeEntry_eq, insert_eq_self (stand first)]
      rw [mergeInto, same]
      refine inductionHypothesis others fun {name tree} isEntry => stand ?_
      have different : entry.1 ≠ name := by
        rintro rfl
        cases lacks.symm.trans isEntry
      rw [find?, if_neg different, isEntry]

/-- Trees that are there already change nothing. -/
theorem mergeInto_eq_self_of_isSteady
    (distinct : AreDistinct added)
    (steady : ∀ {name tree}, find? name added = some tree → IsSteady tree)
    (stand : ∀ {name tree}, find? name added = some tree →
      ∃ old, find? name base = some (overlay old tree)) :
    mergeInto base added = base := by
  refine mergeInto_eq_self distinct fun isEntry => ?_
  obtain ⟨old, isOld⟩ := stand isEntry
  rw [isOld, steady isEntry old]

theorem isSteady_table
    (distinct : AreDistinct added)
    (steady : ∀ {name tree}, find? name added = some tree → IsSteady tree) :
    IsSteady (.table added) := by
  have itself : mergeInto added added = added :=
    mergeInto_eq_self_of_isSteady distinct steady fun isEntry => ⟨none, isEntry⟩
  rintro (_ | _ | inner)
  · exact congrArg Tree.table itself
  · exact congrArg Tree.table itself
  · exact congrArg Tree.table (mergeInto_eq_self_of_isSteady distinct steady fun isEntry =>
      ⟨_, find?_mergeInto_of_eq_some distinct isEntry inner⟩)

mutual

theorem Tree.IsDistinct.isSteady : (tree : Tree α) → (distinct : tree.IsDistinct) → IsSteady tree
  | .leaf _, _ => fun _ => by
      rw [overlay_leaf, overlay_leaf]
  | .table added, distinct =>
      isSteady_table distinct fun isEntry => AreDistinct.isSteady added distinct isEntry

theorem AreDistinct.isSteady : (added : Entries α) → (distinct : AreDistinct added) →
    ∀ {name tree}, find? name added = some tree → IsSteady tree
  | [], _, _, _, isEntry => nomatch isEntry
  | (first, firstTree) :: rest, ⟨_, isDistinct, others⟩, name, tree, isEntry => by
      by_cases isFirst : first = name
      · rw [find?, if_pos isFirst] at isEntry
        exact Option.some.inj isEntry ▸ Tree.IsDistinct.isSteady firstTree isDistinct
      · rw [find?, if_neg isFirst] at isEntry
        exact AreDistinct.isSteady rest others isEntry

end

/-- Merging a table once more changes nothing. -/
theorem mergeInto_twice
    (distinct : AreDistinct added)
    (base : Entries α) :
    mergeInto (mergeInto base added) added = mergeInto base added :=
  Tree.table.inj (Tree.IsDistinct.isSteady (.table added) distinct (some (.table base)))

/-! ## Several tables -/

variable {overrides earlier later : List (Option (Entries α))} {merged : Entries α}

/-- What the tables that are merged in leave unmentioned stays. -/
theorem AreMerged.at?_of_leaves
    {path : List String}
    (areMerged : AreMerged base overrides merged)
    (leave : ∀ added, some added ∈ overrides → Leaves added path)
    (stands : at? (.table base) path = some tree) :
    at? (.table merged) path = some tree := by
  induction areMerged with
  | nothing =>
      exact stands
  | absent _ inductionHypothesis =>
      exact inductionHypothesis (fun added isLater => leave added (.tail _ isLater)) stands
  | present isMerged _ inductionHypothesis =>
      exact inductionHypothesis (fun added isLater => leave added (.tail _ isLater))
        (isMerged.at?_of_leaves (leave _ (.head _)) stands)

theorem areMerged_merge
    (distinct : ∀ added, some added ∈ overrides → AreDistinct added)
    (base : Entries α) :
    AreMerged base overrides (merge base overrides) := by
  induction overrides generalizing base with
  | nil =>
      exact .nothing base
  | cons override later inductionHypothesis =>
      have others := inductionHypothesis fun added isLater => distinct added (.tail _ isLater)
      cases override with
      | none =>
          refine .absent ?_
          rw [merge, List.foldl_cons, Option.getD_none, mergeInto_nil]
          exact others base
      | some added =>
          exact .present (isMerged_mergeInto (distinct added (.head _)) base) (others _)

theorem AreMerged.split
    (areMerged : AreMerged base overrides merged)
    (isSplit : overrides = earlier ++ some added :: later) :
    ∃ before between, IsMerged before added between ∧ AreMerged between later merged := by
  induction areMerged generalizing earlier with
  | nothing =>
      cases earlier <;> cases isSplit
  | absent _ inductionHypothesis =>
      cases earlier with
      | nil => cases isSplit
      | cons _ earlier => exact inductionHypothesis (List.cons.inj isSplit).2
  | present isMerged others inductionHypothesis =>
      cases earlier with
      | nil =>
          cases isSplit
          exact ⟨_, _, isMerged, others⟩
      | cons _ earlier => exact inductionHypothesis (List.cons.inj isSplit).2

/-- Tables do not stand too deep inside each other. -/
def AreShallow (tables : List (Option (Entries α))) : Prop :=
  ∀ table ∈ tables, depthOfEntries (table.getD []) < maxDepth

theorem merge?_of_areShallow (shallow : AreShallow (some base :: overrides)) :
    merge? base overrides = some (merge base overrides) := by
  refine if_neg fun tooDeep => ?_
  obtain ⟨table, isTable, isDeep⟩ := List.any_eq_true.mp tooDeep
  exact absurd (shallow table isTable) (Nat.not_lt.mpr (of_decide_eq_true isDeep))

/-- Of tables that do not stand too deep inside each other the later ones win, and what none of
them mentions stays. -/
theorem merge?_hasMerged
    (shallow : AreShallow (some base :: overrides))
    (distinct : ∀ added, some added ∈ overrides → AreDistinct added) :
    ∃ merged, merge? base overrides = some merged ∧ HasMerged base overrides merged := by
  have areMerged := areMerged_merge distinct base
  refine ⟨merge base overrides, merge?_of_areShallow shallow, areMerged, ?_, ?_, ?_, ?_⟩
  · intro earlier later added path value isSplit isLeaf leave
    obtain ⟨_, _, isMerged, others⟩ := areMerged.split isSplit
    exact others.at?_of_leaves leave (isMerged.takes isLeaf)
  · intro path tree leave stands
    exact areMerged.at?_of_leaves leave stands
  · rintro earlier later absent rfl isEmpty
    have fewer : AreShallow (some base :: (earlier ++ later)) := fun table isTable =>
      shallow table (by grind)
    rw [merge?_of_areShallow fewer, merge, merge, List.foldl_append, List.foldl_append,
      List.foldl_cons, isEmpty, mergeInto_nil]
  · rintro earlier later added rfl
    have fewer : AreShallow (some base :: (earlier ++ added :: later)) := fun table isTable =>
      shallow table (by grind)
    have isDistinct : AreDistinct (added.getD []) := by
      cases added with
      | none => exact trivial
      | some added => exact distinct added (by simp)
    rw [merge?_of_areShallow fewer, merge, merge, List.foldl_append, List.foldl_append,
      List.foldl_cons, List.foldl_cons, List.foldl_cons, mergeInto_twice isDistinct]

theorem layered_hasMerged :
    let base : Entries Nat :=
      [("client", .table [("log", .leaf 1), ("wait", .leaf 30)]), ("tools", .leaf 2)]
    let file : Entries Nat := [("client", .table [("log", .leaf 3)]), ("probe", .leaf 4)]
    AreShallow [some base, none, some file] ∧
      merge? base [none, some file] = some
        [("client", .table [("log", .leaf 3), ("wait", .leaf 30)]), ("tools", .leaf 2),
          ("probe", .leaf 4)] ∧
      ∃ merged, merge? base [none, some file] = some merged ∧
        HasMerged base [none, some file] merged := by
  intro base file
  have shallow : AreShallow [some base, none, some file] := by
    simp [AreShallow, base, file, depthOfEntries, depth, maxDepth]
  have distinct : ∀ added, some added ∈ [none, some file] → AreDistinct added := by
    simp [file, AreDistinct, Tree.IsDistinct, find?]
  exact ⟨shallow, rfl, merge?_hasMerged shallow distinct⟩

/-- Tables that stand inside each other to a depth. -/
def nestedTables : Nat → Entries α
  | 0 => []
  | depth + 1 => [("inner", .table (nestedTables depth))]

theorem depthOfEntries_nestedTables (count : Nat) :
    depthOfEntries (nestedTables count : Entries α) = count := by
  induction count with
  | zero =>
      rw [nestedTables, depthOfEntries]
  | succ count inductionHypothesis =>
      rw [nestedTables, depthOfEntries, depth, depthOfEntries, inductionHypothesis, Nat.max_zero]

/-- Not all tables can be merged. -/
theorem nestedTables_are_not_merged :
    let replaced : Entries Json := [("inner", .leaf (.int 1))]
    at? (.table replaced) ["inner"] = some (.leaf (.int 1)) ∧
      merge? (nestedTables 1500) [some replaced] = none := by
  refine ⟨rfl, if_pos ?_⟩
  rw [List.any_cons, Option.getD_some, depthOfEntries_nestedTables]
  rfl

end AnalyzerSessions.Config
