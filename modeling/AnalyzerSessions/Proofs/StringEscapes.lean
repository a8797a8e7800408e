import AnalyzerSessions.Json.Parser
import AnalyzerSessions.Json.Printer

namespace AnalyzerSessions.Json

open Text

/-!
# Escapes in strings

A character of a string may stand for itself or be escaped, with a letter or in UTF-16 units.
Reading takes each character back from what it is spelled as, whatever follows it in the text, and
U+FFFD from a surrogate without a partner.  Written strings have escapes for everything outside the
printable part of ASCII.
-/

/-! ## How characters are spelled -/

/-- The letters that may stand behind a backslash, and what each stands for. -/
def letterEscapes : List (Char × Char) := [
  ('"', '"'), ('\\', '\\'), ('/', '/'), ('b', Char.ofNat 8), ('f', Char.ofNat 12), ('n', '\n'),
  ('r', '\r'), ('t', '\t')]

/-- Four hexadecimal digits spell a unit. -/
inductive SpellsUnit : Nat → List Char → Prop where
  | digits
      {first second third fourth : Char}
      {a b c d : Nat}
      (isFirst : hexValue? first = some a)
      (isSecond : hexValue? second = some b)
      (isThird : hexValue? third = some c)
      (isFourth : hexValue? fourth = some d) :
      SpellsUnit (a * 4096 + b * 256 + c * 16 + d) [first, second, third, fourth]

/-- What a character of a string may be spelled as. -/
inductive SpellsChar : Char → List Char → Prop where
  | itself
      {char : Char}
      (noControl : 32 ≤ char.toNat)
      (noQuote : char ≠ '"')
      (noBackslash : char ≠ '\\') :
      SpellsChar char [char]
  | letter
      {char letter : Char}
      (listed : (letter, char) ∈ letterEscapes) :
      SpellsChar char ['\\', letter]
  | unit
      {char : Char}
      {digits : List Char}
      (spelled : SpellsUnit char.toNat digits) :
      SpellsChar char ('\\' :: 'u' :: digits)
  | pair
      {char : Char}
      {high low : Nat}
      {highDigits lowDigits : List Char}
      (highUnit : isHigh high)
      (lowUnit : isLow low)
      (highSpelled : SpellsUnit high highDigits)
      (lowSpelled : SpellsUnit low lowDigits)
      (joined : 0x10000 + (high - 0xd800) * 1024 + (low - 0xdc00) = char.toNat) :
      SpellsChar char ('\\' :: 'u' :: (highDigits ++ '\\' :: 'u' :: lowDigits))

/-- A text begins with the escape of a low surrogate. -/
def BeginsLow (chars : List Char) : Prop :=
  ∃ low digits rest, isLow low ∧ SpellsUnit low digits ∧ chars = '\\' :: 'u' :: (digits ++ rest)

/-- What the characters of a string are spelled as, one after the other.  A surrogate that is no
half of a pair stands for U+FFFD. -/
inductive SpellsContent : List Char → List Char → Prop where
  | nil :
      SpellsContent [] []
  | cons
      {char : Char}
      {rest spelling others : List Char}
      (first : SpellsChar char spelling)
      (later : SpellsContent rest others) :
      SpellsContent (char :: rest) (spelling ++ others)
  | lone
      {unit : Nat}
      {rest digits others : List Char}
      (isSurrogate : isHigh unit ∨ isLow unit)
      (spelled : SpellsUnit unit digits)
      (unpaired : isHigh unit → ¬BeginsLow others)
      (later : SpellsContent rest others) :
      SpellsContent (Char.ofNat 0xfffd :: rest) ('\\' :: 'u' :: (digits ++ others))

/-- What a string is spelled as between its quotes. -/
def SpellsString (text : String) (chars : List Char) : Prop :=
  ∃ content, SpellsContent text.toList content ∧ chars = '"' :: (content ++ ['"'])

/-! ## Reading -/

/-- A character is no surrogate. -/
theorem notSurrogate (char : Char) :
    isHigh char.toNat = false ∧ isLow char.toNat = false := by
  have valid : char.toNat < 0xd800 ∨ 0xdfff < char.toNat ∧ char.toNat < 0x110000 := char.valid
  simp only [isHigh, isLow, Bool.and_eq_false_iff, decide_eq_false_iff_not]
  omega

/-- The character of its own unit. -/
theorem unitChar_toNat (char : Char) : unitChar char.toNat = char := by
  obtain ⟨notHigh, notLow⟩ := notSurrogate char
  simp [unitChar, notHigh, notLow]

section

variable (content : List Char) (next : Char) (rest : List Char)

/-- The digits of a unit are read as the unit when more text follows them. -/
theorem unit?_of_spells
    {unit : Nat}
    {digits : List Char}
    (spelled : SpellsUnit unit digits) :
    unit? (digits ++ next :: rest) = some (unit, next :: rest) := by
  cases spelled with
  | digits isFirst isSecond isThird isFourth =>
      simp [unit?, isFirst, isSecond, isThird, isFourth]

/-- An escape of a unit that is no surrogate is read as its character. -/
theorem escape_unit
    {char : Char}
    {digits : List Char}
    (spelled : SpellsUnit char.toNat digits) :
    escape content ('u' :: (digits ++ next :: rest)) = .ok (char, next :: rest) := by
  obtain ⟨notHigh, _⟩ := notSurrogate char
  simp only [escape, unit?_of_spells next rest spelled, notHigh, Bool.false_and,
    Bool.false_eq_true, ↓reduceIte, unitChar_toNat]
  split <;> rfl

/-- The escapes of two surrogates are read as one character. -/
theorem escape_pair
    {char : Char}
    {high low : Nat}
    {highDigits lowDigits : List Char}
    (highUnit : isHigh high)
    (lowUnit : isLow low)
    (highSpelled : SpellsUnit high highDigits)
    (lowSpelled : SpellsUnit low lowDigits)
    (joined : 0x10000 + (high - 0xd800) * 1024 + (low - 0xdc00) = char.toNat) :
    escape content ('u' :: (highDigits ++ '\\' :: 'u' :: (lowDigits ++ next :: rest))) =
      .ok (char, next :: rest) := by
  have isHighRead := unit?_of_spells '\\' ('u' :: (lowDigits ++ next :: rest)) highSpelled
  have isLowRead := unit?_of_spells next rest lowSpelled
  have long : 4 < (lowDigits ++ next :: rest).length := by
    cases lowSpelled
    simp
  simp only [escape, isHighRead, isLowRead, highUnit, lowUnit, long, Bool.true_and, decide_true,
    ↓reduceIte, joined, Char.ofNat_toNat]

/-- The escape of a surrogate is read as U+FFFD when no low surrogate follows a high one. -/
theorem escape_lone
    {unit : Nat}
    {digits : List Char}
    (isSurrogate : isHigh unit ∨ isLow unit)
    (spelled : SpellsUnit unit digits)
    (unpaired : ∀ second, next :: rest = '\\' :: 'u' :: second →
      ∃ other after, unit? second = some (other, after) ∧ (isHigh unit → isLow other = false)) :
    escape content ('u' :: (digits ++ next :: rest)) = .ok (Char.ofNat 0xfffd, next :: rest) := by
  have isLone : unitChar unit = Char.ofNat 0xfffd := by
    simp [unitChar, isSurrogate]
  simp only [escape, unit?_of_spells next rest spelled, isLone]
  split
  · rename_i second same
    obtain ⟨other, after, isOther, notLow⟩ := unpaired second same
    split
    · rename_i paired
      rw [Bool.and_eq_true] at paired
      simp [isOther, notLow paired.1]
    · rfl
  · rfl

/-- The rest of a string is read behind an escape that is read as a character. -/
theorem stringTail_of_escape
    {char : Char}
    {chars : List Char}
    (fuel : Nat)
    (escaped : escape content chars = .ok (char, next :: rest)) :
    stringTail content (fuel + 1) ('\\' :: chars) =
      (stringTail content fuel (next :: rest)).map fun read => (char :: read.1, read.2) := by
  simp only [stringTail, escaped]
  cases stringTail content fuel (next :: rest) <;> rfl

/-- The rest of a string is read behind one of its characters. -/
theorem stringTail_of_spellsChar
    {char : Char}
    {spelling : List Char}
    (spelled : SpellsChar char spelling)
    (fuel : Nat) :
    stringTail content (fuel + 1) (spelling ++ next :: rest) =
      (stringTail content fuel (next :: rest)).map fun read => (char :: read.1, read.2) := by
  cases spelled with
  | itself noControl noQuote noBackslash =>
      rw [List.singleton_append]
      simp only [stringTail, Nat.not_lt.mpr noControl, ↓reduceIte]
      cases stringTail content fuel (next :: rest) <;> rfl
  | @letter letter listed =>
      have isRead : ∀ entry ∈ letterEscapes, entry.1 ≠ 'u' ∧
          simpleEscape? entry.1 = some entry.2 := by
        decide
      obtain ⟨noUnit, isEscape⟩ := isRead _ listed
      apply stringTail_of_escape
      simp [escape, isEscape]
  | unit spelled =>
      exact stringTail_of_escape content next rest fuel (escape_unit content next rest spelled)
  | @pair high low highDigits lowDigits highUnit lowUnit highSpelled lowSpelled joined =>
      simp only [List.cons_append, List.append_assoc]
      exact stringTail_of_escape content next rest fuel
        (escape_pair content next rest highUnit lowUnit highSpelled lowSpelled joined)

end

/-- A string has at most as many characters as they are spelled with. -/
theorem SpellsContent.length_le
    {chars spelling : List Char}
    (spelled : SpellsContent chars spelling) :
    chars.length ≤ spelling.length := by
  induction spelled with
  | nil =>
      exact Nat.le_refl 0
  | @cons char rest first others isChar _ inductionHypothesis =>
      have one : 1 ≤ first.length := by
        cases isChar <;> simp
      rw [List.length_append, List.length_cons]
      omega
  | lone _ _ _ _ inductionHypothesis =>
      rw [List.length_cons, List.length_cons, List.length_cons, List.length_append]
      omega

/-- What follows in a string as the escape of a unit has the digits of one. -/
theorem SpellsContent.unit_of_escape
    {chars spelling second : List Char}
    (spelled : SpellsContent chars spelling)
    (isEscape : spelling = '\\' :: 'u' :: second) :
    ∃ unit digits rest, SpellsUnit unit digits ∧ second = digits ++ rest := by
  cases spelled with
  | nil =>
      cases isEscape
  | cons first later =>
      cases first with
      | itself noControl noQuote noBackslash =>
          exact (noBackslash (List.cons.inj isEscape).1).elim
      | letter listed =>
          have noUnit : ∀ entry ∈ letterEscapes, entry.1 ≠ 'u' := by
            decide
          simp only [List.cons_append, List.cons.injEq, true_and] at isEscape
          exact (noUnit _ listed isEscape.1).elim
      | unit isUnit =>
          simp only [List.cons_append, List.cons.injEq, true_and] at isEscape
          exact ⟨_, _, _, isUnit, isEscape.symm⟩
      | pair highUnit lowUnit highSpelled lowSpelled joined =>
          simp only [List.cons_append, List.append_assoc, List.cons.injEq, true_and] at isEscape
          exact ⟨_, _, _, highSpelled, isEscape.symm⟩
  | lone isSurrogate isUnit unpaired later =>
      simp only [List.cons.injEq, true_and] at isEscape
      exact ⟨_, _, _, isUnit, isEscape.symm⟩

/-- What follows a high surrogate without a partner is read as no low one. -/
theorem SpellsContent.unit_behind
    {chars spelling : List Char}
    {high : Nat}
    (spelled : SpellsContent chars spelling)
    (unpaired : isHigh high → ¬BeginsLow spelling)
    (rest : List Char) :
    ∀ second, spelling ++ '"' :: rest = '\\' :: 'u' :: second →
      ∃ other after, unit? second = some (other, after) ∧ (isHigh high → isLow other = false) := by
  intro second isEscape
  obtain ⟨within, isWithin, rfl⟩ : ∃ within, spelling = '\\' :: 'u' :: within ∧
      second = within ++ '"' :: rest := by
    cases spelling with
    | nil =>
        simp at isEscape
    | cons first others =>
        cases others with
        | nil =>
            simp at isEscape
        | cons letter more =>
            simp only [List.cons_append, List.cons.injEq] at isEscape
            obtain ⟨rfl, rfl, rfl⟩ := isEscape
            exact ⟨more, rfl, rfl⟩
  obtain ⟨unit, digits, others, isUnit, rfl⟩ := spelled.unit_of_escape isWithin
  have notLow : isHigh high → isLow unit = false := by
    intro isHighUnit
    rw [Bool.eq_false_iff]
    intro isLowUnit
    exact unpaired isHighUnit ⟨unit, digits, others, isLowUnit, isUnit, isWithin⟩
  cases following : others ++ '"' :: rest with
  | nil =>
      simp at following
  | cons next after =>
      refine ⟨unit, next :: after, ?_, notLow⟩
      rw [List.append_assoc, following, unit?_of_spells next after isUnit]

/-- A string is read from its content and the quote behind it, whatever follows. -/
theorem SpellsContent.stringTail
    {chars spelling : List Char}
    (spelled : SpellsContent chars spelling)
    (content : List Char)
    {fuel : Nat}
    (enough : chars.length < fuel)
    (rest : List Char) :
    Json.stringTail content fuel (spelling ++ '"' :: rest) = .ok (chars, rest) := by
  induction spelled generalizing fuel with
  | nil =>
      obtain ⟨more, rfl⟩ := Nat.exists_eq_add_of_lt enough
      rfl
  | @cons char others first later isChar _ inductionHypothesis =>
      obtain ⟨more, rfl⟩ : ∃ more, fuel = more + 1 := ⟨fuel - 1, by omega⟩
      have othersRead := inductionHypothesis (Nat.lt_of_succ_lt_succ enough)
      rw [List.append_assoc]
      cases following : later ++ '"' :: rest with
      | nil =>
          simp at following
      | cons next after =>
          rw [following] at othersRead
          rw [stringTail_of_spellsChar content next after isChar, othersRead]
          rfl
  | @lone unit chars digits later isSurrogate isUnit unpaired laterSpelled inductionHypothesis =>
      obtain ⟨more, rfl⟩ : ∃ more, fuel = more + 1 := ⟨fuel - 1, by omega⟩
      have othersRead := inductionHypothesis (Nat.lt_of_succ_lt_succ enough)
      simp only [List.cons_append, List.append_assoc]
      -- The reader of a surrogate looks at the next escape, which lies in the rest of the string.
      cases following : later ++ '"' :: rest with
      | nil =>
          simp at following
      | cons next after =>
          have notLow := escape_lone content next after isSurrogate isUnit
            (following ▸ laterSpelled.unit_behind unpaired rest)
          rw [following] at othersRead
          rw [stringTail_of_escape content next after more notLow, othersRead]
          rfl

/-- A string is read from what it is spelled as, whatever follows. -/
theorem SpellsString.string
    {text : String}
    {chars : List Char}
    (spelled : SpellsString text chars)
    {fuel : Nat}
    (enough : chars.length ≤ fuel + 1)
    (rest : List Char) :
    ∃ tail, chars ++ rest = '"' :: tail ∧ Json.string fuel tail = .ok (text, rest) := by
  obtain ⟨content, isContent, rfl⟩ := spelled
  have fewer := isContent.length_le
  simp only [List.length_cons, List.length_append, List.length_nil] at enough
  refine ⟨content ++ '"' :: rest, by simp, ?_⟩
  simp only [Json.string, isContent.stringTail _ (by omega : text.toList.length < fuel),
    String.ofList_toList]

/-! ## Written strings -/

/-- A hexadecimal digit is read as the value that it was written for. -/
theorem hexValue?_hexDigit
    {value : Nat}
    (small : value < 16) :
    hexValue? (hexDigit value) = some value := by
  revert value
  decide

/-- A unit is spelled by the digits that are written for it. -/
theorem escapeUnit_eq
    {unit : Nat}
    (small : unit < 0x10000) :
    ∃ digits, escapeUnit unit = '\\' :: 'u' :: digits ∧ SpellsUnit unit digits := by
  have digit : ∀ value, hexValue? (hexDigit (value % 16)) = some (value % 16) :=
    fun value => hexValue?_hexDigit (Nat.mod_lt value (by decide))
  have spelled := SpellsUnit.digits (digit (unit / 4096)) (digit (unit / 256)) (digit (unit / 16))
    (digit unit)
  have isUnit : unit / 4096 % 16 * 4096 + unit / 256 % 16 * 256 + unit / 16 % 16 * 16 + unit % 16 =
      unit := by
    omega
  rw [isUnit] at spelled
  exact ⟨_, rfl, spelled⟩

/-- The surrogates of a character outside the basic plane. -/
theorem surrogates
    {char : Char}
    (outside : ¬char.toNat < 0x10000) :
    isHigh (0xd800 + (char.toNat - 0x10000) / 1024) ∧
      isLow (0xdc00 + (char.toNat - 0x10000) % 1024) ∧
      0x10000 + (0xd800 + (char.toNat - 0x10000) / 1024 - 0xd800) * 1024 +
        (0xdc00 + (char.toNat - 0x10000) % 1024 - 0xdc00) = char.toNat := by
  have valid : char.toNat < 0xd800 ∨ 0xdfff < char.toNat ∧ char.toNat < 0x110000 := char.valid
  simp only [isHigh, isLow, Bool.and_eq_true, decide_eq_true_eq]
  omega

/-- What is written for a character spells it. -/
theorem spellsChar_stringChar (char : Char) : SpellsChar char (stringChar char) := by
  have ofCode : ∀ code, char.toNat = code → Char.ofNat code = char := by
    rintro code rfl
    exact Char.ofNat_toNat char
  unfold stringChar
  split
  · rename_i isQuote
    subst isQuote
    exact .letter (by decide)
  rename_i noQuote
  split
  · rename_i isBackslash
    subst isBackslash
    exact .letter (by decide)
  rename_i noBackslash
  split
  · rename_i isLineFeed
    subst isLineFeed
    exact .letter (by decide)
  split
  · rename_i isReturn
    subst isReturn
    exact .letter (by decide)
  split
  · rename_i isTab
    subst isTab
    exact .letter (by decide)
  split
  · rename_i isBackspace
    obtain rfl := ofCode 8 isBackspace
    exact .letter (by decide)
  split
  · rename_i isFormFeed
    obtain rfl := ofCode 12 isFormFeed
    exact .letter (by decide)
  simp only [Bool.or_eq_true, Bool.and_eq_true, decide_eq_true_eq]
  split
  · rename_i isEscaped
    obtain ⟨digits, isWritten, spelled⟩ := escapeUnit_eq (by omega : char.toNat < 0x10000)
    exact isWritten ▸ .unit spelled
  rename_i notEscaped
  split
  · exact .itself (by omega) noQuote noBackslash
  · obtain ⟨highUnit, lowUnit, joined⟩ := surrogates (by omega : ¬char.toNat < 0x10000)
    have small : ∀ unit, isHigh unit ∨ isLow unit → unit < 0x10000 := by
      intro unit isSurrogate
      simp only [isHigh, isLow, Bool.and_eq_true, decide_eq_true_eq] at isSurrogate
      omega
    obtain ⟨highDigits, isHighWritten, highSpelled⟩ := escapeUnit_eq (small _ (.inl highUnit))
    obtain ⟨lowDigits, isLowWritten, lowSpelled⟩ := escapeUnit_eq (small _ (.inr lowUnit))
    rw [isHighWritten, isLowWritten]
    exact .pair highUnit lowUnit highSpelled lowSpelled joined

/-- What is written for a string spells it. -/
theorem spellsString_stringText (text : String) : SpellsString text (stringText text) := by
  have spelled : ∀ chars : List Char, SpellsContent chars (chars.flatMap stringChar) := by
    intro chars
    induction chars with
    | nil => exact .nil
    | cons char rest inductionHypothesis =>
        exact .cons (spellsChar_stringChar char) inductionHypothesis
  exact ⟨_, spelled text.toList, rfl⟩

/-! ## ASCII -/

/-- Whether all characters of a text are ASCII. -/
def IsAscii (chars : List Char) : Prop :=
  ∀ char ∈ chars, char.toNat < 128

instance
    (chars : List Char) :
    Decidable (IsAscii chars) :=
  List.decidableBAll (fun char : Char => char.toNat < 128) chars

theorem isAscii_append
    {first second : List Char} :
    IsAscii (first ++ second) ↔ IsAscii first ∧ IsAscii second := by
  simp [IsAscii, or_imp, forall_and]

theorem isAscii_cons
    {char : Char}
    {rest : List Char} :
    IsAscii (char :: rest) ↔ char.toNat < 128 ∧ IsAscii rest := by
  simp [IsAscii]

/-- A hexadecimal digit is ASCII. -/
theorem hexDigit_toNat_lt
    {value : Nat}
    (small : value < 16) :
    (hexDigit value).toNat < 128 := by
  revert value
  decide

theorem isAscii_escapeUnit (unit : Nat) : IsAscii (escapeUnit unit) := by
  have digit : ∀ value, (hexDigit (value % 16)).toNat < 128 :=
    fun value => hexDigit_toNat_lt (Nat.mod_lt value (by decide))
  simp [escapeUnit, IsAscii, digit]

theorem isAscii_stringChar (char : Char) : IsAscii (stringChar char) := by
  have letters : ∀ letter : Char, letter.toNat < 128 → IsAscii ['\\', letter] := by
    intro letter small
    simp [IsAscii, small]
  unfold stringChar
  split
  · exact letters '"' (by decide)
  split
  · exact letters '\\' (by decide)
  split
  · exact letters 'n' (by decide)
  split
  · exact letters 'r' (by decide)
  split
  · exact letters 't' (by decide)
  split
  · exact letters 'b' (by decide)
  split
  · exact letters 'f' (by decide)
  split
  · exact isAscii_escapeUnit _
  split
  · rename_i isPlain
    simp only [IsAscii, List.mem_singleton, forall_eq]
    omega
  · exact isAscii_append.mpr ⟨isAscii_escapeUnit _, isAscii_escapeUnit _⟩

theorem isAscii_stringText (text : String) : IsAscii (stringText text) := by
  intro char member
  simp only [stringText, List.cons_append, List.mem_cons, List.mem_append, List.mem_flatMap,
    List.not_mem_nil, or_false] at member
  rcases member with rfl | ⟨inside, _, written⟩ | rfl
  · decide
  · exact isAscii_stringChar inside char written
  · decide

end AnalyzerSessions.Json
