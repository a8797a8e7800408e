import AnalyzerSessions.Proofs.JsonDocuments

namespace AnalyzerSessions.Json

open Text Number

/-!
# Values and their texts

The text that is written for a value without fractions spells it, with as much room as the value is
deep.  So it is read as the value that it was written for.
-/

/-- A value that its text tells all about: it has no fractions, and the fields of each object have
distinct names. -/
inductive Plain : Json → Prop where
  | null :
      Plain .null
  | bool
      (value : Bool) :
      Plain (.bool value)
  | int
      (value : Int) :
      Plain (.int value)
  | str
      (text : String) :
      Plain (.str text)
  | arr
      {items : List Json}
      (all : ∀ item ∈ items, Plain item) :
      Plain (.arr items)
  | obj
      {fields : List (String × Json)}
      (distinct : (fields.map Prod.fst).Nodup)
      (all : ∀ field ∈ fields, Plain field.2) :
      Plain (.obj fields)

example : compactChars (.arr [.null, .obj []]) = "[null, {}]".toList := by
  cbv

/-! ## Integers -/

/-- The digits of a number are an integer part. -/
theorem isWhole_toDigits (number : Nat) : IsWhole (Nat.toDigits 10 number) := by
  constructor
  · exact isDigits_toDigits number
  · intro rest isZero
    rcases Nat.eq_zero_or_pos number with rfl | positive
    · exact (List.cons.inj isZero).2.symm
    · exact (toDigits_ne_zero_cons positive rest isZero).elim

/-- An integer is spelled by the text that is written for it. -/
theorem spellsNumber_intText
    {number : Int}
    (small : number.natAbs < Nat.pow 10 maxDigits) :
    SpellsNumber (.int number) (intText number) := by
  have isWhole := isWhole_toDigits number.natAbs
  have few := toDigits_length_le small
  unfold intText
  split
  · have spelled := SpellsNumber.integer .minus isWhole few
    have sameNumber : -(number.natAbs : Int) = number := by
      omega
    rwa [decimalValue_toDigits, if_pos rfl, sameNumber] at spelled
  · have spelled := SpellsNumber.integer .nothing isWhole few
    have sameNumber : (number.natAbs : Int) = number := by
      omega
    rwa [decimalValue_toDigits, if_neg Bool.false_ne_true, sameNumber] at spelled

/-! ## Containers -/

/-- A text with no blanks around it. -/
def Padded.bare (text : List Char) : Padded :=
  ⟨[], text, [], fun _ member => (List.not_mem_nil member).elim,
    fun _ member => (List.not_mem_nil member).elim⟩

/-- A text behind a blank. -/
def Padded.spaced (text : List Char) : Padded :=
  ⟨[' '], text, [], fun _ member => List.mem_singleton.mp member ▸ rfl,
    fun _ member => (List.not_mem_nil member).elim⟩

@[simp] theorem Padded.chars_bare (text : List Char) : (bare text).chars = text := by
  simp [bare, chars]

@[simp] theorem Padded.chars_spaced (text : List Char) : (spaced text).chars = ' ' :: text := by
  simp [spaced, chars]

/-- An item as it is written. -/
def Item.written (place : List Char → Padded) (value : Json) : Item :=
  ⟨value, place value.compactChars⟩

/-- A field as it is written. -/
def Member.written (place : List Char → Padded) (field : String × Json) : Member :=
  ⟨.written .spaced field.2, field.1, place (stringText field.1)⟩

/-- The items after the first are the rest of a list. -/
theorem compactItems_eq (rest : List Json) :
    compactItems rest = listTail ']' ((rest.map (Item.written .spaced)).map (·.content.chars)) := by
  induction rest with
  | nil =>
      rw [compactItems]
      rfl
  | cons item others inductionHypothesis =>
      rw [compactItems, inductionHypothesis]
      simp [listTail, Item.written]

/-- The fields after the first are the rest of a list. -/
theorem compactFields_eq (rest : List (String × Json)) :
    compactFields rest = listTail '}' ((rest.map (Member.written .spaced)).map Member.chars) := by
  induction rest with
  | nil =>
      rw [compactFields]
      rfl
  | cons field others inductionHypothesis =>
      rw [compactFields, inductionHypothesis]
      simp [listTail, Member.written, Member.chars, Item.written]

/-- An array is spelled by its text when its items are. -/
theorem spells_arr
    {room : Nat}
    {items : List Json}
    (each : ∀ item ∈ items, Spells room item item.compactChars) :
    Spells (room + 1) (.arr items) (compactChars (.arr items)) := by
  cases items with
  | nil =>
      rw [compactChars]
      exact @Spells.emptyArray room [] fun _ member => (List.not_mem_nil member).elim
  | cons first rest =>
      obtain ⟨isFirst, areRest⟩ := List.forall_mem_cons.mp each
      have written : ∀ item ∈ Item.written .bare first :: rest.map (Item.written .spaced),
          Spells room item.value item.content.text :=
        List.forall_mem_cons.mpr ⟨isFirst, List.forall_mem_map.mpr areRest⟩
      have spelled := Spells.array written
      rw [← compactItems_eq] at spelled
      rw [compactChars]
      simpa [Item.written, Function.comp_def] using spelled

/-- A field that is not there yet is put at the end. -/
theorem insertField_eq_append
    {name : String}
    {done : List (String × Json)}
    (absent : name ∉ done.map Prod.fst)
    (content : Json) :
    insertField name content done = done ++ [(name, content)] := by
  induction done with
  | nil =>
      rfl
  | cons field rest inductionHypothesis =>
      obtain ⟨old, kept⟩ := field
      simp only [List.map_cons, List.mem_cons, not_or] at absent
      rw [insertField, if_neg (Ne.symm absent.1), inductionHypothesis absent.2]
      rfl

/-- Fields with names that are not there yet are put at the end. -/
theorem foldl_insertField
    {done fields : List (String × Json)}
    (distinct : ((done ++ fields).map Prod.fst).Nodup) :
    fields.foldl (fun done field => insertField field.1 field.2 done) done = done ++ fields := by
  induction fields generalizing done with
  | nil =>
      simp
  | cons field rest inductionHypothesis =>
      have absent : field.1 ∉ done.map Prod.fst := by
        intro present
        rw [List.map_append, List.nodup_append] at distinct
        exact distinct.2.2 field.1 present field.1 (by simp) rfl
      have later : (((done ++ [field]) ++ rest).map Prod.fst).Nodup := by
        rwa [List.append_assoc]
      rw [List.foldl_cons, insertField_eq_append absent, inductionHypothesis later,
        List.append_assoc, List.singleton_append]

/-- An object is spelled by its text when its fields are. -/
theorem spells_obj
    {room : Nat}
    {fields : List (String × Json)}
    (distinct : (fields.map Prod.fst).Nodup)
    (each : ∀ field ∈ fields, Spells room field.2 field.2.compactChars) :
    Spells (room + 1) (.obj fields) (compactChars (.obj fields)) := by
  cases fields with
  | nil =>
      rw [compactChars]
      exact @Spells.emptyObject room [] fun _ member => (List.not_mem_nil member).elim
  | cons first rest =>
      obtain ⟨isFirst, areRest⟩ := List.forall_mem_cons.mp each
      have labels : ∀ member ∈ Member.written .bare first :: rest.map (Member.written .spaced),
          SpellsString member.name member.label.text :=
        List.forall_mem_cons.mpr ⟨spellsString_stringText _,
          List.forall_mem_map.mpr fun field _ => spellsString_stringText field.1⟩
      have written : ∀ member ∈ Member.written .bare first :: rest.map (Member.written .spaced),
          Spells room member.value member.content.text :=
        List.forall_mem_cons.mpr ⟨isFirst, List.forall_mem_map.mpr areRest⟩
      have spelled := Spells.object labels written
      have sameFields : ofFields (first :: rest) = .obj (first :: rest) := by
        rw [ofFields, foldl_insertField distinct, List.nil_append]
      rw [← compactFields_eq] at spelled
      rw [compactChars]
      simpa [Member.written, Member.chars, Item.written, Function.comp_def, sameFields]
        using spelled

/-- An array without long integers has none in its items. -/
theorem hasLongInteger_of_mem_items
    {items : List Json}
    (short : anyLongItem items = false) :
    ∀ item ∈ items, item.hasLongInteger = false := by
  induction items with
  | nil =>
      simp
  | cons first rest inductionHypothesis =>
      simp only [anyLongItem, Bool.or_eq_false_iff] at short
      intro item member
      rcases List.mem_cons.mp member with rfl | later
      · exact short.1
      · exact inductionHypothesis short.2 item later

/-- An object without long integers has none in its fields. -/
theorem hasLongInteger_of_mem_fields
    {fields : List (String × Json)}
    (short : anyLongField fields = false) :
    ∀ field ∈ fields, field.2.hasLongInteger = false := by
  induction fields with
  | nil =>
      simp
  | cons first rest inductionHypothesis =>
      simp only [anyLongField, Bool.or_eq_false_iff] at short
      intro field member
      rcases List.mem_cons.mp member with rfl | later
      · exact short.1
      · exact inductionHypothesis short.2 field later

theorem depth_le_of_mem_items
    {items : List Json} :
    ∀ item ∈ items, item.depth ≤ depthOfItems items := by
  induction items with
  | nil =>
      simp
  | cons first rest inductionHypothesis =>
      intro item member
      rw [depthOfItems]
      rcases List.mem_cons.mp member with rfl | later
      · exact Nat.le_max_left ..
      · exact Nat.le_trans (inductionHypothesis item later) (Nat.le_max_right ..)

theorem depth_le_of_mem_fields
    {fields : List (String × Json)} :
    ∀ field ∈ fields, field.2.depth ≤ depthOfFields fields := by
  induction fields with
  | nil =>
      simp
  | cons first rest inductionHypothesis =>
      intro field member
      rw [depthOfFields]
      rcases List.mem_cons.mp member with rfl | later
      · exact Nat.le_max_left ..
      · exact Nat.le_trans (inductionHypothesis field later) (Nat.le_max_right ..)

/-- A value without long integers is spelled by its text. -/
theorem Plain.spells
    {written : Json}
    (plain : Plain written)
    (short : written.hasLongInteger = false)
    {room : Nat}
    (deep : written.depth ≤ room) :
    Spells room written written.compactChars := by
  induction plain generalizing room with
  | null =>
      exact @Spells.named room "null" .null (by simp [names])
  | bool value =>
      cases value with
      | false => exact @Spells.named room "false" (.bool false) (by simp [names])
      | true => exact @Spells.named room "true" (.bool true) (by simp [names])
  | int value =>
      rw [hasLongInteger, decide_eq_false_iff_not, Nat.not_le] at short
      rw [compactChars]
      exact .number (spellsNumber_intText short)
  | str text =>
      rw [compactChars]
      exact .string (spellsString_stringText text)
  | arr all inductionHypothesis =>
      rw [hasLongInteger] at short
      rw [depth] at deep
      obtain ⟨inner, rfl⟩ : ∃ inner, room = inner + 1 := ⟨room - 1, by omega⟩
      apply spells_arr
      intro item member
      have within := depth_le_of_mem_items item member
      exact inductionHypothesis item member (hasLongInteger_of_mem_items short item member)
        (by omega)
  | obj distinct all inductionHypothesis =>
      rw [hasLongInteger] at short
      rw [depth] at deep
      obtain ⟨inner, rfl⟩ : ∃ inner, room = inner + 1 := ⟨room - 1, by omega⟩
      apply spells_obj distinct
      intro field member
      have within := depth_le_of_mem_fields field member
      exact inductionHypothesis field member (hasLongInteger_of_mem_fields short field member)
        (by omega)

/-! ## Whole texts -/

/-- A text is the value that was written as it. -/
theorem Plain.parseWithin_compactChars
    {written : Json}
    (plain : Plain written)
    (short : written.hasLongInteger = false)
    {room : Nat}
    (deep : written.depth ≤ room) :
    parseWithin room written.compactChars = .ok written :=
  IsDocument.parseWithin
    ⟨.bare written.compactChars, plain.spells short deep, (Padded.chars_bare _).symm⟩

theorem isAscii_toDigits (number : Nat) : IsAscii (Nat.toDigits 10 number) :=
  (isDigits_toDigits number).isAscii

theorem isAscii_compactItems
    {items : List Json}
    (all : ∀ item ∈ items, IsAscii item.compactChars) :
    IsAscii (compactItems items) := by
  induction items with
  | nil =>
      rw [compactItems]
      exact isAscii_cons.mpr ⟨by decide, by simp [IsAscii]⟩
  | cons item rest inductionHypothesis =>
      obtain ⟨first, others⟩ := List.forall_mem_cons.mp all
      rw [compactItems, List.cons_append, List.cons_append, isAscii_cons, isAscii_cons,
        isAscii_append]
      exact ⟨by decide, by decide, first, inductionHypothesis others⟩

theorem isAscii_compactFields
    {fields : List (String × Json)}
    (all : ∀ field ∈ fields, IsAscii field.2.compactChars) :
    IsAscii (compactFields fields) := by
  induction fields with
  | nil =>
      rw [compactFields]
      exact isAscii_cons.mpr ⟨by decide, by simp [IsAscii]⟩
  | cons field rest inductionHypothesis =>
      obtain ⟨name, content⟩ := field
      obtain ⟨first, others⟩ := List.forall_mem_cons.mp all
      rw [compactFields]
      simp only [List.cons_append, isAscii_cons, isAscii_append]
      exact ⟨by decide, by decide, ⟨isAscii_stringText name, by decide, by decide, first⟩,
        inductionHypothesis others⟩

theorem Plain.isAscii_compactChars
    {written : Json}
    (plain : Plain written) :
    IsAscii written.compactChars := by
  induction plain with
  | null =>
      decide
  | bool value =>
      cases value <;> decide
  | int value =>
      rw [compactChars, intText]
      split
      · exact isAscii_cons.mpr ⟨by decide, isAscii_toDigits _⟩
      · exact isAscii_toDigits _
  | str text =>
      rw [compactChars]
      exact isAscii_stringText text
  | @arr items all inductionHypothesis =>
      cases items with
      | nil =>
          decide
      | cons first rest =>
          obtain ⟨firstAscii, restAscii⟩ := List.forall_mem_cons.mp inductionHypothesis
          rw [compactChars, List.cons_append, isAscii_cons, isAscii_append]
          exact ⟨by decide, firstAscii, isAscii_compactItems restAscii⟩
  | @obj fields distinct all inductionHypothesis =>
      cases fields with
      | nil =>
          decide
      | cons first rest =>
          obtain ⟨name, content⟩ := first
          obtain ⟨firstAscii, restAscii⟩ := List.forall_mem_cons.mp inductionHypothesis
          rw [compactChars]
          simp only [List.cons_append, isAscii_cons, isAscii_append]
          exact ⟨by decide, ⟨isAscii_stringText name, by decide, by decide, firstAscii⟩,
            isAscii_compactFields restAscii⟩

end AnalyzerSessions.Json
