import AnalyzerSessions.Proofs.StringEscapes

namespace AnalyzerSessions

open Text Number

/-!
# Integers as they are spelled

An ASCII text spells an integer with a sign or without, in digits that may stand in groups with an
underscore between neighbours.  The reader of integers takes what spells one, and nothing else.
-/

/-!
## Decimal digits

The digits that a number is written with, and the number that the readers of
JSON and of header fields make of them.
-/

/-- The ASCII digits are ten characters in a row. -/
theorem isAsciiDigit_iff (char : Char) :
    isAsciiDigit char ↔ 48 ≤ char.toNat ∧ char.toNat ≤ 57 := by
  simp only [isAsciiDigit, Bool.and_eq_true, decide_eq_true_eq, Char.le_def, UInt32.le_iff_toNat_le]
  rfl

/-- A character that is no digit is different from every digit. -/
theorem ne_of_isAsciiDigit
    {digit other : Char}
    (isDigit : isAsciiDigit digit)
    (noDigit : isAsciiDigit other = false) :
    digit ≠ other := by
  rintro rfl
  rw [isDigit] at noDigit
  cases noDigit

/-- A number is written with ASCII digits. -/
theorem isAsciiDigit_of_mem_toDigits
    {number : Nat}
    {char : Char}
    (member : char ∈ Nat.toDigits 10 number) :
    isAsciiDigit char := by
  have isDigit := Nat.isDigit_of_mem_toDigits (by decide) (by decide) member
  simpa [isAsciiDigit, Char.isDigit, Char.le_def] using isDigit

/-- A number has few enough digits to be read as long as it is small enough. -/
theorem toDigits_length_le
    {number : Nat}
    (small : number < Nat.pow 10 maxDigits) :
    (Nat.toDigits 10 number).length ≤ maxDigits := by
  rw [Nat.pow_eq] at small
  exact (Nat.length_toDigits_le_iff (by decide) (by decide)).mpr (by omega)

/-- Only zero is written with a zero in front. -/
theorem toDigits_ne_zero_cons
    {number : Nat}
    (positive : 0 < number)
    (rest : List Char) :
    Nat.toDigits 10 number ≠ '0' :: rest := by
  induction number using Nat.strongRecOn generalizing rest with
  | ind number inductionHypothesis =>
      by_cases small : number < 10
      · rw [Nat.toDigits_of_lt_base small]
        intro same
        have isZero : number.digitChar = '0' := (List.cons.inj same).1
        have value := Nat.toNat_digitChar_sub_48_of_lt_ten small
        rw [isZero] at value
        exact absurd value.symm (Nat.ne_of_gt positive)
      · rw [Nat.toDigits_of_base_le (by decide) (by omega)]
        intro same
        cases shorter : Nat.toDigits 10 (number / 10) with
        | nil =>
            exact Nat.toDigits_ne_nil shorter
        | cons first others =>
            rw [shorter] at same
            have isZero : first = '0' := (List.cons.inj same).1
            subst isZero
            exact inductionHypothesis (number / 10) (by omega) (by omega) others shorter

/-- The value of the digits of a number is the number. -/
theorem decimalValue_toDigits (number : Nat) :
    Json.decimalValue (Nat.toDigits 10 number) = number := by
  have sameStep : (fun (value : Nat) (digit : Char) => value * 10 + (digit.toNat - 48)) =
      fun value digit => 10 * value + (digit.toNat - '0'.toNat) := by
    funext value digit
    rw [Nat.mul_comm]
    rfl
  unfold Json.decimalValue
  rw [sameStep]
  exact Nat.ofDigitChars_ten_toDigits

/-- An ASCII digit has its value among the digits of all scripts. -/
theorem decimalValue?_of_isAsciiDigit
    {char : Char}
    (isDigit : isAsciiDigit char) :
    Text.decimalValue? char = some (char.toNat - 48) := by
  obtain ⟨lower, upper⟩ := (isAsciiDigit_iff char).mp isDigit
  simp [Text.decimalValue?, digitZeros, lower, upper]

/-- An ASCII digit is no blank. -/
theorem isBlank_of_isAsciiDigit
    {char : Char}
    (isDigit : isAsciiDigit char) :
    isBlank char = false := by
  obtain ⟨lower, upper⟩ := (isAsciiDigit_iff char).mp isDigit
  simp only [isBlank, isWhiteSpace, Bool.or_eq_false_iff, Bool.and_eq_false_iff,
    decide_eq_false_iff_not, beq_eq_false_iff_ne]
  omega

/-- Nothing is trimmed where nothing is to be dropped. -/
theorem trimBoth_eq_self
    {drops : Char → Bool}
    {chars : List Char}
    (kept : ∀ char ∈ chars, drops char = false) :
    trimBoth drops chars = chars := by
  have keptFront : ∀ texts : List Char, (∀ char ∈ texts, drops char = false) →
      texts.dropWhile drops = texts := by
    intro texts front
    cases texts with
    | nil =>
        rfl
    | cons first rest =>
        simp [front first (by simp)]
  have keptBack : ∀ char ∈ chars.reverse, drops char = false :=
    fun char member => kept char (List.mem_reverse.mp member)
  rw [trimBoth, keptFront chars kept, keptFront chars.reverse keptBack, List.reverse_reverse]

namespace Number

/-! ## The spelling of integers -/

/-- Digits, one of them at least. -/
def IsDigits (chars : List Char) : Prop :=
  chars ≠ [] ∧ ∀ char ∈ chars, isAsciiDigit char

instance
    (chars : List Char) :
    Decidable (IsDigits chars) :=
  @instDecidableAnd _ _ _ (List.decidableBAll (fun char : Char => isAsciiDigit char) chars)

/-- Groups of digits with an underscore between neighbours spell the number that all the digits in
a row stand for, as long as there are not too many of them. -/
inductive SpellsNatural : List Char → Nat → Prop where
  | groups
      {first : List Char}
      {others : List (List Char)}
      (areDigits : ∀ group ∈ first :: others, IsDigits group)
      (few : (first :: others).flatten.length ≤ maxDigits) :
      SpellsNatural (first ++ others.flatMap ('_' :: ·))
        (Json.decimalValue (first :: others).flatten)

/-- A text spells an integer, with a sign in front or without one. -/
inductive SpellsInteger : List Char → Int → Prop where
  | unsigned
      {text : List Char}
      {number : Nat}
      (spelled : SpellsNatural text number) :
      SpellsInteger text number
  | plus
      {text : List Char}
      {number : Nat}
      (spelled : SpellsNatural text number) :
      SpellsInteger ('+' :: text) number
  | minus
      {text : List Char}
      {number : Nat}
      (spelled : SpellsNatural text number) :
      SpellsInteger ('-' :: text) (-number)

/-- Digits have a first one. -/
theorem IsDigits.head
    {chars : List Char}
    (areDigits : IsDigits chars) :
    ∃ first rest, chars = first :: rest ∧ isAsciiDigit first ∧
      ∀ char ∈ rest, isAsciiDigit char := by
  obtain ⟨nonempty, allDigits⟩ := areDigits
  cases chars with
  | nil =>
      exact (nonempty rfl).elim
  | cons first rest =>
      obtain ⟨isDigit, restDigits⟩ := List.forall_mem_cons.mp allDigits
      exact ⟨first, rest, rfl, isDigit, restDigits⟩

theorem IsDigits.isAscii
    {chars : List Char}
    (areDigits : IsDigits chars) :
    Json.IsAscii chars := by
  intro char member
  obtain ⟨_, upper⟩ := (isAsciiDigit_iff char).mp (areDigits.2 char member)
  omega

/-- The digits of a number. -/
theorem isDigits_toDigits (number : Nat) : IsDigits (Nat.toDigits 10 number) :=
  ⟨Nat.toDigits_ne_nil, fun _ member => isAsciiDigit_of_mem_toDigits member⟩

/-! ## ASCII digits -/

/-- Among the ASCII characters only the ASCII digits are decimal digits. -/
theorem decimalValue?_eq_some_iff
    {char : Char}
    (ascii : char.toNat < 128)
    {digit : Nat} :
    decimalValue? char = some digit ↔ isAsciiDigit char ∧ digit = char.toNat - 48 := by
  constructor
  · intro found
    have others : ∀ first ∈ digitZeros, first = 48 ∨ 128 ≤ first := by
      decide
    obtain ⟨first, member, isDigit⟩ := List.exists_of_findSome?_eq_some found
    split at isDigit
    · rename_i within
      simp only [Bool.and_eq_true, decide_eq_true_eq] at within
      rcases others first member with rfl | large
      · exact ⟨(isAsciiDigit_iff char).mpr within, (Option.some.inj isDigit).symm⟩
      · omega
    · cases isDigit
  · rintro ⟨isDigit, rfl⟩
    exact decimalValue?_of_isAsciiDigit isDigit

theorem isDecimal_of_isAsciiDigit
    {char : Char}
    (isDigit : isAsciiDigit char) :
    isDecimal char := by
  simp [isDecimal, decimalValue?_of_isAsciiDigit isDigit]

/-- All of a row of digits are decimal digits. -/
theorem IsDigits.filter_isDecimal
    {chars : List Char}
    (areDigits : IsDigits chars) :
    chars.filter isDecimal = chars :=
  List.filter_eq_self.mpr fun char member => isDecimal_of_isAsciiDigit (areDigits.2 char member)

/-! ## Groups of digits -/

/-- The value of digits behind a value. -/
abbrev valueFrom (value : Nat) (digits : List Char) : Nat :=
  digits.foldl (fun value digit => value * 10 + (digit.toNat - 48)) value

/-- Digits in front are read first. -/
theorem digitsFrom?_append
    {digits : List Char}
    (areDigits : ∀ char ∈ digits, isAsciiDigit char)
    (value : Nat)
    (rest : List Char) :
    digitsFrom? value (digits ++ rest) = digitsFrom? (valueFrom value digits) rest := by
  induction digits generalizing value with
  | nil =>
      rfl
  | cons char more inductionHypothesis =>
      obtain ⟨isDigit, moreDigits⟩ := List.forall_mem_cons.mp areDigits
      rw [List.cons_append, digitsFrom?.eq_3]
      · simp only [decimalValue?_of_isAsciiDigit isDigit]
        exact inductionHypothesis moreDigits _
      · intro other others isUnderscore _
        exact ne_of_isAsciiDigit isDigit (rfl : isAsciiDigit '_' = false) isUnderscore

/-- Groups behind underscores are read one after the other. -/
theorem digitsFrom?_groups
    {groups : List (List Char)}
    (areDigits : ∀ group ∈ groups, IsDigits group)
    (value : Nat) :
    digitsFrom? value (groups.flatMap ('_' :: ·)) = some (valueFrom value groups.flatten) := by
  induction groups generalizing value with
  | nil =>
      rfl
  | cons group more inductionHypothesis =>
      obtain ⟨isGroup, moreGroups⟩ := List.forall_mem_cons.mp areDigits
      obtain ⟨char, rest, rfl, isDigit, restDigits⟩ := isGroup.head
      simp only [List.flatMap_cons, List.cons_append, digitsFrom?,
        decimalValue?_of_isAsciiDigit isDigit, digitsFrom?_append restDigits,
        inductionHypothesis moreGroups, List.flatten_cons, List.foldl_cons, List.foldl_append]

/-- What is read as digits behind a value is a row of digits and groups behind underscores. -/
theorem groups_of_digitsFrom?
    {value result : Nat}
    {chars : List Char}
    (ascii : Json.IsAscii chars)
    (reads : digitsFrom? value chars = some result) :
    ∃ (digits : List Char) (groups : List (List Char)),
      (∀ char ∈ digits, isAsciiDigit char) ∧ (∀ group ∈ groups, IsDigits group) ∧
        chars = digits ++ groups.flatMap ('_' :: ·) ∧
        result = valueFrom value (digits ++ groups.flatten) := by
  fun_induction digitsFrom? value chars with
  | case1 value =>
      exact ⟨[], [], by simp, by simp, rfl, (Option.some.inj reads).symm⟩
  | case2 value char rest digit found inductionHypothesis =>
      obtain ⟨small, restAscii⟩ := Json.isAscii_cons.mp (Json.isAscii_cons.mp ascii).2
      obtain ⟨isDigit, rfl⟩ := (decimalValue?_eq_some_iff small).mp found
      obtain ⟨digits, groups, areDigits, areGroups, rfl, rfl⟩ := inductionHypothesis restAscii reads
      refine ⟨[], (char :: digits) :: groups, by simp, ?_, rfl, rfl⟩
      exact List.forall_mem_cons.mpr ⟨⟨List.cons_ne_nil _ _,
        List.forall_mem_cons.mpr ⟨isDigit, areDigits⟩⟩, areGroups⟩
  | case4 value char rest notGroup digit found inductionHypothesis =>
      obtain ⟨small, restAscii⟩ := Json.isAscii_cons.mp ascii
      obtain ⟨isDigit, rfl⟩ := (decimalValue?_eq_some_iff small).mp found
      obtain ⟨digits, groups, areDigits, areGroups, rfl, rfl⟩ := inductionHypothesis restAscii reads
      exact ⟨char :: digits, groups, List.forall_mem_cons.mpr ⟨isDigit, areDigits⟩, areGroups, rfl,
        rfl⟩
  | case3 => cases reads
  | case5 => cases reads

/-- The decimal digits of groups are all their characters but the underscores. -/
theorem filter_isDecimal_groups
    {first : List Char}
    {others : List (List Char)}
    (areDigits : ∀ group ∈ first :: others, IsDigits group) :
    (first ++ others.flatMap ('_' :: ·)).filter isDecimal = (first :: others).flatten := by
  have noDigit : isDecimal '_' = false := by
    decide
  obtain ⟨isFirst, areOthers⟩ := List.forall_mem_cons.mp areDigits
  have restKept : (others.flatMap ('_' :: ·)).filter isDecimal = others.flatten := by
    clear areDigits
    induction others with
    | nil =>
        rfl
    | cons group more inductionHypothesis =>
        obtain ⟨isGroup, moreGroups⟩ := List.forall_mem_cons.mp areOthers
        simp [isGroup.filter_isDecimal, noDigit, inductionHypothesis moreGroups]
  rw [List.filter_append, isFirst.filter_isDecimal, restKept, List.flatten_cons]

/-- What is read as digits are groups of digits. -/
theorem digits?_eq_some_iff
    {chars : List Char}
    (ascii : Json.IsAscii chars)
    (few : (chars.filter isDecimal).length ≤ maxDigits)
    {number : Nat} :
    digits? chars = some number ↔ SpellsNatural chars number := by
  constructor
  · intro reads
    cases chars with
    | nil =>
        cases reads
    | cons char rest =>
        obtain ⟨small, restAscii⟩ := Json.isAscii_cons.mp ascii
        unfold digits? at reads
        cases found : decimalValue? char with
        | none =>
            simp [found] at reads
        | some digit =>
            obtain ⟨isDigit, rfl⟩ := (decimalValue?_eq_some_iff small).mp found
            simp only [found] at reads
            obtain ⟨digits, groups, areDigits, areGroups, rfl, rfl⟩ :=
              groups_of_digitsFrom? restAscii reads
            have areAll : ∀ group ∈ (char :: digits) :: groups, IsDigits group :=
              List.forall_mem_cons.mpr ⟨⟨List.cons_ne_nil _ _,
                List.forall_mem_cons.mpr ⟨isDigit, areDigits⟩⟩, areGroups⟩
            have spelled := SpellsNatural.groups areAll
              (by rw [← filter_isDecimal_groups areAll]; exact few)
            simpa [Json.decimalValue] using spelled
  · intro spelled
    obtain ⟨areDigits, -⟩ := spelled
    obtain ⟨isFirst, areOthers⟩ := List.forall_mem_cons.mp areDigits
    obtain ⟨char, rest, rfl, isDigit, restDigits⟩ := isFirst.head
    simp [digits?, decimalValue?_of_isAsciiDigit isDigit, digitsFrom?_append restDigits,
      digitsFrom?_groups areOthers, Json.decimalValue]

/-! ## Integers -/

theorem mem_of_mem_trim
    {text : List Char}
    {char : Char}
    (member : char ∈ trim text) :
    char ∈ text := by
  rw [trim, trimBoth, List.mem_reverse] at member
  have inside := (List.dropWhile_sublist _).subset member
  rw [List.mem_reverse] at inside
  exact (List.dropWhile_sublist _).subset inside

/-- Digits in one group spell a number. -/
theorem SpellsNatural.ofDigits
    {digits : List Char}
    (areDigits : IsDigits digits)
    (few : digits.length ≤ maxDigits) :
    SpellsNatural digits (Json.decimalValue digits) := by
  have spelled := @SpellsNatural.groups digits [] (by simpa using areDigits) (by simpa using few)
  simpa using spelled

/-- Groups of digits do not begin with a sign. -/
theorem SpellsNatural.head
    {text : List Char}
    {number : Nat}
    (spelled : SpellsNatural text number) :
    ∃ first rest, text = first :: rest ∧ isAsciiDigit first := by
  cases spelled with
  | groups areDigits few =>
      obtain ⟨isFirst, _⟩ := List.forall_mem_cons.mp areDigits
      obtain ⟨char, rest, rfl, isDigit, _⟩ := isFirst.head
      exact ⟨char, _, rfl, isDigit⟩

theorem SpellsNatural.few
    {text : List Char}
    {number : Nat}
    (spelled : SpellsNatural text number) :
    (text.filter isDecimal).length ≤ maxDigits := by
  cases spelled with
  | groups areDigits few =>
      rw [filter_isDecimal_groups areDigits]
      exact few

/-- A sign is no digit, and what stands behind it has the digits. -/
theorem few_of_sign
    {sign : Char}
    (noDigit : isDecimal sign = false)
    {rest : List Char}
    (few : ((sign :: rest).filter isDecimal).length ≤ maxDigits) :
    (rest.filter isDecimal).length ≤ maxDigits := by
  simpa [noDigit] using few

/-- An ASCII text is read as the integer that it spells, whatever blanks stand around it. -/
theorem integer?_eq_some_iff
    {text : List Char}
    (ascii : Json.IsAscii text)
    {number : Int} :
    integer? text = some number ↔ SpellsInteger (trim text) number := by
  have trimmedAscii : Json.IsAscii (trim text) := fun char member =>
    ascii char (mem_of_mem_trim member)
  unfold integer?
  generalize trim text = trimmed at trimmedAscii
  dsimp only
  constructor
  · intro reads
    split at reads
    · cases reads
    · rename_i notMany
      have few := Nat.not_lt.mp notMany
      split at reads
      · rename_i rest
        obtain ⟨_, restAscii⟩ := Json.isAscii_cons.mp trimmedAscii
        have restFew := few_of_sign (by decide) few
        cases isValue : digits? rest with
        | none =>
            simp [isValue] at reads
        | some value =>
            simp only [isValue] at reads
            cases reads
            exact .minus ((digits?_eq_some_iff restAscii restFew).mp isValue)
      · rename_i rest
        obtain ⟨value, isValue, rfl⟩ := Option.map_eq_some_iff.mp reads
        obtain ⟨_, restAscii⟩ := Json.isAscii_cons.mp trimmedAscii
        exact .plus ((digits?_eq_some_iff restAscii (few_of_sign (by decide) few)).mp isValue)
      · obtain ⟨value, isValue, rfl⟩ := Option.map_eq_some_iff.mp reads
        exact .unsigned ((digits?_eq_some_iff trimmedAscii few).mp isValue)
  · intro spelled
    cases spelled with
    | unsigned spelled =>
        obtain ⟨first, rest, rfl, isDigit⟩ := spelled.head
        rw [if_neg (Nat.not_lt.mpr spelled.few)]
        split
        · rename_i same
          exact (ne_of_isAsciiDigit isDigit rfl (List.cons.inj same).1).elim
        · rename_i same
          exact (ne_of_isAsciiDigit isDigit rfl (List.cons.inj same).1).elim
        · rw [(digits?_eq_some_iff trimmedAscii spelled.few).mpr spelled]
          rfl
    | @plus text _ spelled =>
        obtain ⟨_, restAscii⟩ := Json.isAscii_cons.mp trimmedAscii
        have few : (('+' :: text).filter isDecimal).length ≤ maxDigits := spelled.few
        rw [if_neg (Nat.not_lt.mpr few)]
        simp only [(digits?_eq_some_iff restAscii spelled.few).mpr spelled]
        rfl
    | @minus text _ spelled =>
        obtain ⟨_, restAscii⟩ := Json.isAscii_cons.mp trimmedAscii
        have few : (('-' :: text).filter isDecimal).length ≤ maxDigits := spelled.few
        rw [if_neg (Nat.not_lt.mpr few)]
        simp only [(digits?_eq_some_iff restAscii spelled.few).mpr spelled]
        rfl

end Number

end AnalyzerSessions
