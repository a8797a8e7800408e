import AnalyzerSessions.Proofs.SpelledIntegers

namespace AnalyzerSessions.Json

open Text Number

/-!
# JSON documents

A grammar of JSON texts: what a value is spelled as, in numbers, strings and containers, with the
blanks that may stand in between.  Each text of the grammar is read as its value wherever one may
stand.  The reader needs two steps for each character, and no more room than the containers in the
text are deep.
-/

/-! ## The grammar -/

/-- The digits of an integer part: a zero alone, or digits that begin with another one. -/
structure IsWhole (digits : List Char) : Prop where
  areDigits : IsDigits digits
  alone : ∀ rest, digits = '0' :: rest → rest = []

/-- A minus sign, or nothing. -/
inductive SpellsSign : Bool → List Char → Prop where
  | nothing :
      SpellsSign false []
  | minus :
      SpellsSign true ['-']

/-- The digits behind a point, or nothing. -/
inductive SpellsFraction : Option (List Char) → List Char → Prop where
  | nothing :
      SpellsFraction none []
  | point
      {digits : List Char}
      (areDigits : IsDigits digits) :
      SpellsFraction (some digits) ('.' :: digits)

/-- The sign of an exponent, or nothing. -/
inductive SpellsPowerSign : Bool → List Char → Prop where
  | nothing :
      SpellsPowerSign false []
  | plus :
      SpellsPowerSign false ['+']
  | minus :
      SpellsPowerSign true ['-']

/-- A power of ten, or nothing. -/
inductive SpellsExponent : Option Int → List Char → Prop where
  | nothing :
      SpellsExponent none []
  | power
      {mark : Char}
      {negative : Bool}
      {sign digits : List Char}
      (isMark : mark = 'e' ∨ mark = 'E')
      (isSign : SpellsPowerSign negative sign)
      (areDigits : IsDigits digits) :
      SpellsExponent
        (some (if negative then -(decimalValue digits : Int) else decimalValue digits))
        (mark :: (sign ++ digits))

/-- What a number is spelled as.  An integer has neither a fraction nor an exponent, and not too
many digits; any other number is the double that is nearest to it. -/
inductive SpellsNumber : Json → List Char → Prop where
  | integer
      {negative : Bool}
      {sign whole : List Char}
      (isSign : SpellsSign negative sign)
      (isWhole : IsWhole whole)
      (few : whole.length ≤ maxDigits) :
      SpellsNumber (.int (if negative then -(decimalValue whole : Int) else decimalValue whole))
        (sign ++ whole)
  | float
      {negative : Bool}
      {sign whole fraction exponent : List Char}
      {decimals : Option (List Char)}
      {power : Option Int}
      (isSign : SpellsSign negative sign)
      (isWhole : IsWhole whole)
      (isFraction : SpellsFraction decimals fraction)
      (isExponent : SpellsExponent power exponent)
      (noInteger : decimals.isSome ∨ power.isSome) :
      SpellsNumber
        (.float (Binary64.ofDecimal negative (decimalValue (whole ++ decimals.getD []))
          (power.getD 0 - (decimals.getD []).length)))
        (sign ++ (whole ++ (fraction ++ exponent)))

/-- Blanks, or nothing. -/
def AreBlank (chars : List Char) : Prop :=
  ∀ char ∈ chars, isSpace char

/-- A text with blanks around it. -/
structure Padded where
  before : List Char
  text : List Char
  after : List Char
  blankBefore : AreBlank before
  blankAfter : AreBlank after

/-- The characters of a text and of the blanks around it. -/
def Padded.chars (padded : Padded) : List Char :=
  padded.before ++ (padded.text ++ padded.after)

/-- An item of an array and its text. -/
structure Item where
  value : Json
  content : Padded

/-- A field of an object and the texts of its name and value. -/
structure Member extends Item where
  name : String
  label : Padded

/-- The characters of a field. -/
def Member.chars (member : Member) : List Char :=
  member.label.chars ++ ':' :: member.content.chars

/-- The texts after the first of a list, each behind a comma, and what closes the list. -/
def listTail (close : Char) (rest : List (List Char)) : List Char :=
  rest.flatMap (',' :: ·) ++ [close]

/-- What a value is spelled as, with arrays and objects inside each other up to a depth. -/
inductive Spells : Nat → Json → List Char → Prop where
  | named
      {room : Nat}
      {word : String}
      {value : Json}
      (listed : (word, value) ∈ names) :
      Spells room value word.toList
  | number
      {room : Nat}
      {value : Json}
      {chars : List Char}
      (spelled : SpellsNumber value chars) :
      Spells room value chars
  | string
      {room : Nat}
      {text : String}
      {chars : List Char}
      (spelled : SpellsString text chars) :
      Spells room (.str text) chars
  | emptyArray
      {room : Nat}
      {blanks : List Char}
      (areBlank : AreBlank blanks) :
      Spells (room + 1) (.arr []) ('[' :: (blanks ++ [']']))
  | array
      {room : Nat}
      {first : Item}
      {rest : List Item}
      (each : ∀ item ∈ first :: rest, Spells room item.value item.content.text) :
      Spells (room + 1) (.arr ((first :: rest).map Item.value))
        ('[' :: (first.content.chars ++ listTail ']' (rest.map (·.content.chars))))
  | emptyObject
      {room : Nat}
      {blanks : List Char}
      (areBlank : AreBlank blanks) :
      Spells (room + 1) (.obj []) ('{' :: (blanks ++ ['}']))
  | object
      {room : Nat}
      {first : Member}
      {rest : List Member}
      (labels : ∀ member ∈ first :: rest, SpellsString member.name member.label.text)
      (each : ∀ member ∈ first :: rest, Spells room member.value member.content.text) :
      Spells (room + 1) (ofFields ((first :: rest).map fun member => (member.name, member.value)))
        ('{' :: (first.chars ++ listTail '}' (rest.map Member.chars)))

/-- A text is that of a value, with blanks around it. -/
def IsDocument (room : Nat) (value : Json) (chars : List Char) : Prop :=
  ∃ padded : Padded, Spells room value padded.text ∧ chars = padded.chars

/-! ## What stands behind a value -/

/-- What may stand behind a value: nothing, a blank, or what goes on with a container or ends it. -/
def Closes (rest : List Char) : Prop :=
  ∀ char ∈ rest.head?, isSpace char ∨ char ∈ [',', ']', '}']

theorem closes_cons
    {char : Char}
    (listed : char ∈ [',', ']', '}'])
    (rest : List Char) :
    Closes (char :: rest) := by
  intro first isFirst
  obtain rfl := Option.some.inj isFirst
  exact .inr listed

/-- Blanks may stand in front of what closes a value. -/
theorem AreBlank.closes
    {blanks rest : List Char}
    (areBlank : AreBlank blanks)
    (closes : Closes rest) :
    Closes (blanks ++ rest) := by
  cases blanks with
  | nil =>
      exact closes
  | cons first others =>
      intro char isFirst
      obtain rfl := Option.some.inj isFirst
      exact .inl (areBlank first List.mem_cons_self)

/-- What closes a value does not go on with a number. -/
theorem Closes.ends
    {rest : List Char}
    (closes : Closes rest) :
    ∀ char ∈ rest.head?, isAsciiDigit char = false ∧ char ∉ ['.', 'e', 'E'] := by
  intro char isFirst
  rcases closes char isFirst with blank | listed
  · simp only [isSpace, Bool.or_eq_true, beq_iff_eq] at blank
    rcases blank with ((rfl | rfl) | rfl) | rfl <;> decide
  · simp only [List.mem_cons, List.not_mem_nil, or_false] at listed
    rcases listed with rfl | rfl | rfl <;> decide

/-! ## Reading numbers -/

/-- Digits are taken up to what is none. -/
theorem spanDigits_append
    {digits rest : List Char}
    (allDigits : ∀ char ∈ digits, isAsciiDigit char)
    (ends : ∀ char ∈ rest.head?, isAsciiDigit char = false) :
    spanDigits (digits ++ rest) = (digits, rest) := by
  have stop : rest.takeWhile isAsciiDigit = [] ∧ rest.dropWhile isAsciiDigit = rest := by
    cases rest with
    | nil => exact ⟨rfl, rfl⟩
    | cons first others => simp [ends first rfl]
  rw [spanDigits, List.takeWhile_append_of_pos allDigits, List.dropWhile_append_of_pos allDigits,
    stop.1, stop.2, List.append_nil]

section

variable {digits text rest : List Char}

/-- A sign is read in front of digits. -/
theorem sign_append
    {negative : Bool}
    (isSign : SpellsSign negative text)
    (areDigits : IsDigits digits)
    (rest : List Char) :
    sign (text ++ (digits ++ rest)) = (negative, digits ++ rest) := by
  cases isSign with
  | nothing =>
      obtain ⟨first, others, rfl, isDigit, _⟩ := areDigits.head
      unfold sign
      split
      · rename_i same
        exact (ne_of_isAsciiDigit isDigit rfl (List.cons.inj same).1).elim
      · rfl
  | minus =>
      rfl

/-- An integer part is read in front of what is no digit. -/
theorem integerPart?_append
    (isWhole : IsWhole digits)
    (ends : ∀ char ∈ rest.head?, isAsciiDigit char = false) :
    integerPart? (digits ++ rest) = some (digits, rest) := by
  obtain ⟨areDigits, alone⟩ := isWhole
  have span := spanDigits_append areDigits.2 ends
  obtain ⟨first, others, rfl, isDigit, _⟩ := areDigits.head
  rw [List.cons_append] at span ⊢
  unfold integerPart?
  split
  · rename_i same
    obtain ⟨rfl, rfl⟩ := List.cons.inj same
    obtain rfl := alone others rfl
    rfl
  · rename_i same
    rw [← (List.cons.inj same).1, if_pos isDigit, span]
  · rename_i same
    cases same

/-- A fraction is read in front of what goes on with none. -/
theorem fraction_append
    {decimals : Option (List Char)}
    (isFraction : SpellsFraction decimals text)
    (ends : ∀ char ∈ rest.head?, isAsciiDigit char = false ∧ char ≠ '.') :
    fraction (text ++ rest) = (decimals, rest) := by
  cases isFraction with
  | nothing =>
      unfold fraction
      split
      · rename_i same
        exact ((ends '.' (by rw [← List.nil_append rest, same]; rfl)).2 rfl).elim
      · rfl
  | @point digits areDigits =>
      have span := spanDigits_append areDigits.2 fun char isFirst => (ends char isFirst).1
      obtain ⟨first, others, rfl, _⟩ := areDigits.head
      simp only [fraction, List.cons_append]
      rw [← List.cons_append, span]

/-- An exponent is read in front of what closes a value. -/
theorem exponent_append
    {power : Option Int}
    (isExponent : SpellsExponent power text)
    (closes : Closes rest) :
    exponent (text ++ rest) = (power, rest) := by
  have ends := closes.ends
  cases isExponent with
  | nothing =>
      cases rest with
      | nil =>
          rfl
      | cons first others =>
          have noMark := (ends first rfl).2
          simp only [List.mem_cons, List.not_mem_nil, not_or, or_false] at noMark
          simp [exponent, noMark]
  | power isMark isSign areDigits =>
      have span := spanDigits_append areDigits.2 fun char isFirst => (ends char isFirst).1
      obtain ⟨first, others, rfl, isDigit, _⟩ := areDigits.head
      rw [List.cons_append] at span
      cases isSign with
      | nothing =>
          have noMinus : first ≠ '-' := ne_of_isAsciiDigit isDigit rfl
          have noPlus : first ≠ '+' := ne_of_isAsciiDigit isDigit rfl
          simp [exponent, isMark, span, noMinus, noPlus]
      | plus =>
          simp [exponent, isMark, span]
      | minus =>
          simp [exponent, isMark, span]

/-- An exponent and what closes a value do not go on with the digits of a number. -/
theorem SpellsExponent.ends
    {power : Option Int}
    (isExponent : SpellsExponent power text)
    (closes : Closes rest) :
    ∀ char ∈ (text ++ rest).head?, isAsciiDigit char = false ∧ char ≠ '.' := by
  cases isExponent with
  | nothing =>
      intro char isFirst
      obtain ⟨noDigit, notListed⟩ := closes.ends char isFirst
      exact ⟨noDigit, fun isPoint => notListed (isPoint ▸ List.mem_cons_self)⟩
  | power isMark isSign areDigits =>
      intro char isFirst
      obtain rfl := Option.some.inj isFirst
      rcases isMark with rfl | rfl <;> decide

/-- A number is read in front of what closes a value. -/
theorem number_append
    {value : Json}
    (spelled : SpellsNumber value text)
    (closes : Closes rest) :
    number (text ++ rest) = .ok (value, rest) := by
  cases spelled with
  | integer isSign isWhole few =>
      have noFraction := fraction_append .nothing (SpellsExponent.nothing.ends closes)
      have noExponent := exponent_append .nothing closes
      have whole := integerPart?_append isWhole fun char isFirst => (closes.ends char isFirst).1
      simp only [List.nil_append] at noFraction noExponent
      rw [List.append_assoc]
      simp [number, sign_append isSign isWhole.areDigits, whole, noFraction, noExponent,
        Nat.not_lt.mpr few]
  | @float negative sign digits fraction exponent decimals power isSign isWhole isFraction
      isExponent noInteger =>
      have exponentRead := exponent_append isExponent closes
      have fractionRead := fraction_append isFraction (isExponent.ends closes)
      have wholeEnds : ∀ char ∈ (fraction ++ (exponent ++ rest)).head?,
          isAsciiDigit char = false := by
        cases isFraction with
        | nothing =>
            exact fun char isFirst => (isExponent.ends closes char isFirst).1
        | point areDigits =>
            intro char isFirst
            obtain rfl := Option.some.inj isFirst
            rfl
      have whole := integerPart?_append isWhole wholeEnds
      have isFloat : (decimals.isNone && power.isNone) = false := by
        rw [Bool.and_eq_false_iff, Option.isNone_eq_false_iff, Option.isNone_eq_false_iff]
        exact noInteger
      simp only [List.append_assoc]
      simp [number, sign_append isSign isWhole.areDigits, whole, fractionRead, exponentRead,
        isFloat]

/-- A number begins with a digit, behind a minus sign or without. -/
theorem SpellsNumber.head
    {value : Json}
    (spelled : SpellsNumber value text) :
    ∃ first others, isAsciiDigit first ∧
      (text = first :: others ∨ text = '-' :: first :: others) := by
  have signed : ∀ negative sign digits after, SpellsSign negative sign → IsDigits digits →
      ∃ first others, isAsciiDigit first ∧ (sign ++ (digits ++ after) = first :: others ∨
        sign ++ (digits ++ after) = '-' :: first :: others) := by
    intro negative sign digits after isSign areDigits
    obtain ⟨first, others, rfl, isDigit, _⟩ := areDigits.head
    cases isSign with
    | nothing => exact ⟨first, others ++ after, isDigit, .inl rfl⟩
    | minus => exact ⟨first, others ++ after, isDigit, .inr rfl⟩
  cases spelled with
  | integer isSign isWhole few =>
      simpa using signed _ _ _ [] isSign isWhole.areDigits
  | float isSign isWhole isFraction isExponent noInteger =>
      exact signed _ _ _ _ isSign isWhole.areDigits

end

/-! ## Reading values -/

/-- A text begins with an ASCII character that is neither a blank nor a closing bracket. -/
def BeginsValue (chars : List Char) : Prop :=
  ∃ first rest, chars = first :: rest ∧ isSpace first = false ∧ first ≠ ']' ∧ first.toNat < 128

/-- A digit is no blank. -/
theorem isSpace_of_isAsciiDigit
    {char : Char}
    (isDigit : isAsciiDigit char) :
    isSpace char = false := by
  simp only [isSpace, Bool.or_eq_false_iff, beq_eq_false_iff_ne]
  refine ⟨⟨⟨?_, ?_⟩, ?_⟩, ?_⟩ <;>
    (rintro rfl; cases isDigit)

/-- Every value begins as one. -/
theorem Spells.head
    {room : Nat}
    {value : Json}
    {chars : List Char}
    (spelled : Spells room value chars) :
    BeginsValue chars := by
  cases spelled with
  | named listed =>
      simp only [names, List.mem_cons, Prod.mk.injEq, List.not_mem_nil, or_false] at listed
      rcases listed with ⟨rfl, -⟩ | ⟨rfl, -⟩ | ⟨rfl, -⟩ | ⟨rfl, -⟩ | ⟨rfl, -⟩ | ⟨rfl, -⟩ <;>
        exact ⟨_, _, rfl, rfl, by decide, by decide⟩
  | number spelled =>
      obtain ⟨first, others, isDigit, rfl | rfl⟩ := spelled.head
      · obtain ⟨_, upper⟩ := (isAsciiDigit_iff first).mp isDigit
        exact ⟨first, others, rfl, isSpace_of_isAsciiDigit isDigit,
          ne_of_isAsciiDigit isDigit rfl, by omega⟩
      · exact ⟨'-', _, rfl, rfl, by decide, by decide⟩
  | string spelled =>
      obtain ⟨content, _, rfl⟩ := spelled
      exact ⟨'"', _, rfl, rfl, by decide, by decide⟩
  | emptyArray => exact ⟨'[', _, rfl, rfl, by decide, by decide⟩
  | array => exact ⟨'[', _, rfl, rfl, by decide, by decide⟩
  | emptyObject => exact ⟨'\x7b', _, rfl, rfl, by decide, by decide⟩
  | object => exact ⟨'\x7b', _, rfl, rfl, by decide, by decide⟩

/-- A text is read as a value wherever one may stand. -/
def ReadsAs (room : Nat) (read : Json) (text : List Char) : Prop :=
  ∀ fuel rest, 2 * text.length ≤ fuel → Closes rest →
    value room fuel (text ++ rest) = .ok (read, rest)

/-- The reader of a text that is not empty takes a step. -/
theorem exists_step
    {chars : List Char}
    {fuel : Nat}
    (nonempty : 0 < chars.length)
    (enough : 2 * chars.length ≤ fuel) :
    ∃ more, fuel = more + 1 :=
  ⟨fuel - 1, by omega⟩

/-- A value that has a name is read from it. -/
theorem readsAs_named
    {word : String}
    {read : Json}
    (listed : (word, read) ∈ names)
    (room : Nat) :
    ReadsAs room read word.toList := by
  intro fuel rest enough _
  have nonempty : ∀ entry ∈ names, 0 < entry.1.toList.length := by
    decide
  obtain ⟨more, rfl⟩ := exists_step (nonempty _ listed) enough
  simp only [names, List.mem_cons, Prod.mk.injEq, List.not_mem_nil, or_false] at listed
  rcases listed with ⟨rfl, rfl⟩ | ⟨rfl, rfl⟩ | ⟨rfl, rfl⟩ | ⟨rfl, rfl⟩ | ⟨rfl, rfl⟩ |
    ⟨rfl, rfl⟩ <;> simp [value, named?, names, dropWord?]

/-- Nothing is read as a named value that begins with a digit, with or without a sign. -/
theorem named?_digit
    {first : Char}
    (isDigit : isAsciiDigit first)
    (rest : List Char) :
    named? (first :: rest) = none ∧ named? ('-' :: first :: rest) = none := by
  have different : ∀ letter : Char, isAsciiDigit letter = false → letter ≠ first :=
    fun letter noDigit => (ne_of_isAsciiDigit isDigit noDigit).symm
  have n := different 'n' rfl
  have t := different 't' rfl
  have f := different 'f' rfl
  have capitalN := different 'N' rfl
  have capitalI := different 'I' rfl
  have minus := different '-' rfl
  constructor
  · simp [named?, names, dropWord?, n, t, f, capitalN, capitalI, minus]
  · simp [named?, names, dropWord?, capitalI]

/-- A text that begins with neither a quote nor an opening bracket is a named value or a number. -/
theorem value_eq_number
    {first : Char}
    (noQuote : first ≠ '"')
    (noBracket : first ≠ '[')
    (noBrace : first ≠ '{')
    {rest : List Char}
    (unnamed : named? (first :: rest) = none)
    (room fuel : Nat) :
    value room (fuel + 1) (first :: rest) = number (first :: rest) := by
  simp only [value, unnamed]
  split
  · rename_i same
    exact (noQuote (List.cons.inj same).1).elim
  · rename_i same
    exact (noBracket (List.cons.inj same).1).elim
  · rename_i same
    exact (noBrace (List.cons.inj same).1).elim
  · rfl

example : value 0 2 ['7', ' '] = .ok (.int 7, [' ']) := by
  cbv

theorem readsAs_number
    {read : Json}
    {text : List Char}
    (spelled : SpellsNumber read text)
    (room : Nat) :
    ReadsAs room read text := by
  intro fuel rest enough closes
  have isNumber := number_append spelled closes
  obtain ⟨first, others, isDigit, rfl | rfl⟩ := spelled.head
  · obtain ⟨more, rfl⟩ := exists_step (by simp) enough
    obtain ⟨unnamed, _⟩ := named?_digit isDigit (others ++ rest)
    rw [List.cons_append] at isNumber ⊢
    rw [value_eq_number (ne_of_isAsciiDigit isDigit rfl) (ne_of_isAsciiDigit isDigit rfl)
      (ne_of_isAsciiDigit isDigit rfl) unnamed, isNumber]
  · obtain ⟨more, rfl⟩ := exists_step (by simp) enough
    obtain ⟨_, unnamed⟩ := named?_digit isDigit (others ++ rest)
    rw [List.cons_append, List.cons_append] at isNumber ⊢
    rw [value_eq_number (by decide) (by decide) (by decide) unnamed, isNumber]

theorem readsAs_string
    {read : String}
    {text : List Char}
    (spelled : SpellsString read text)
    (room : Nat) :
    ReadsAs room (.str read) text := by
  intro fuel rest enough _
  have nonempty : 0 < text.length := by
    obtain ⟨content, _, rfl⟩ := spelled
    exact Nat.succ_pos _
  obtain ⟨more, rfl⟩ := exists_step nonempty enough
  obtain ⟨tail, isText, isString⟩ := spelled.string (by omega : text.length ≤ more + 1) rest
  rw [isText]
  simp only [value, isString]

/-! ## Blanks -/

/-- No blank is skipped where there is none. -/
theorem skipSpace_cons
    {first : Char}
    (noSpace : isSpace first = false)
    (rest : List Char) :
    skipSpace (first :: rest) = first :: rest := by
  simp [skipSpace, noSpace]

theorem AreBlank.skipSpace
    {blanks : List Char}
    (areBlank : AreBlank blanks)
    (rest : List Char) :
    Json.skipSpace (blanks ++ rest) = Json.skipSpace rest :=
  List.dropWhile_append_of_pos areBlank

/-- The blanks in front of a value are skipped. -/
theorem Padded.skipSpace
    {padded : Padded}
    (begins : BeginsValue padded.text)
    (rest : List Char) :
    Json.skipSpace (padded.chars ++ rest) = padded.text ++ (padded.after ++ rest) := by
  obtain ⟨first, others, isText, noSpace, _⟩ := begins
  rw [Padded.chars, List.append_assoc, List.append_assoc, padded.blankBefore.skipSpace, isText,
    List.cons_append, skipSpace_cons noSpace]

/-! ## Reading containers -/

/-- What closes or goes on with a list closes the value in front of it. -/
theorem closes_listTail
    {close : Char}
    (listed : close ∈ [']', '}'])
    (rest : List (List Char))
    (tail : List Char) :
    Closes (listTail close rest ++ tail) := by
  cases rest with
  | nil => exact closes_cons (List.mem_cons_of_mem _ listed) tail
  | cons next more => exact closes_cons List.mem_cons_self _

theorem length_listTail_pos
    (close : Char)
    (rest : List (List Char)) :
    0 < (listTail close rest).length := by
  rw [listTail, List.length_append]
  exact Nat.succ_pos _

/-- How reading goes on behind an item, where the blanks were skipped. -/
def afterItem (room fuel : Nat) (first : Json) : List Char → Parsed (List Json)
  | ']' :: rest => .ok ([first], rest)
  | ',' :: rest =>
    match items room fuel (skipSpace rest) with
    | .error fault => .error fault
    | .ok (others, final) => .ok (first :: others, final)
  | rest => .error (.at .expectingComma rest.length)

/-- An item is read from its text. -/
theorem items_item
    {room fuel : Nat}
    {item : Item}
    (begins : BeginsValue item.content.text)
    (readsAs : ReadsAs room item.value item.content.text)
    {rest : List Char}
    (closes : Closes rest)
    (enough : 2 * item.content.chars.length ≤ fuel) :
    items room (fuel + 1) (skipSpace (item.content.chars ++ rest)) =
      afterItem room fuel item.value (skipSpace rest) := by
  have shorter : item.content.text.length ≤ item.content.chars.length := by
    simp only [Padded.chars, List.length_append]
    omega
  have itemRead := readsAs fuel (item.content.after ++ rest) (by omega)
    (item.content.blankAfter.closes closes)
  simp only [Padded.skipSpace begins, items, itemRead, item.content.blankAfter.skipSpace]
  rfl

/-- The items of an array are read from their texts. -/
theorem items_listTail
    {room : Nat}
    {first : Item}
    {rest : List Item}
    (begins : ∀ item ∈ first :: rest, BeginsValue item.content.text)
    (readsAs : ∀ item ∈ first :: rest, ReadsAs room item.value item.content.text)
    {fuel : Nat}
    (enough : 2 * (first.content.chars ++ listTail ']' (rest.map (·.content.chars))).length ≤ fuel)
    (tail : List Char) :
    items room fuel
        (skipSpace (first.content.chars ++ (listTail ']' (rest.map (·.content.chars)) ++ tail))) =
      .ok ((first :: rest).map Item.value, tail) := by
  induction rest generalizing first fuel with
  | nil =>
      rw [List.map_nil, List.length_append] at enough
      have one := length_listTail_pos ']' []
      obtain ⟨more, rfl⟩ : ∃ more, fuel = more + 1 := ⟨fuel - 1, by omega⟩
      rw [items_item (begins first List.mem_cons_self) (readsAs first List.mem_cons_self)
        (closes_listTail (by decide) _ tail) (by omega)]
      rfl
  | cons next others inductionHypothesis =>
      obtain ⟨beginsFirst, beginOthers⟩ := List.forall_mem_cons.mp begins
      obtain ⟨readsFirst, readOthers⟩ := List.forall_mem_cons.mp readsAs
      have isTail : listTail ']' ((next :: others).map (·.content.chars)) =
          ',' :: (next.content.chars ++ listTail ']' (others.map (·.content.chars))) := by
        simp [listTail]
      have comma := closes_listTail (by decide : ']' ∈ [']', '}'])
        ((next :: others).map (·.content.chars)) tail
      rw [isTail] at enough comma ⊢
      rw [List.length_append, List.length_cons] at enough
      obtain ⟨more, rfl⟩ : ∃ more, fuel = more + 1 := ⟨fuel - 1, by omega⟩
      have othersRead := inductionHypothesis beginOthers readOthers (by omega : _ ≤ more)
      rw [items_item beginsFirst readsFirst comma (by omega)]
      simp only [List.cons_append, List.append_assoc, skipSpace_cons (rfl : isSpace ',' = false),
        afterItem, othersRead, List.map_cons]

/-- How reading goes on behind a field, where the blanks were skipped. -/
def afterField
    (room fuel : Nat)
    (read : List (String × Json)) :
    List Char → Parsed (List (String × Json))
  | '}' :: final => .ok (read, final)
  | ',' :: final => fields room fuel read (skipSpace final)
  | final => .error (.at .expectingComma final.length)

/-- A name begins with a quote, which is no blank. -/
theorem SpellsString.head
    {text : String}
    {chars : List Char}
    (spelled : SpellsString text chars) :
    BeginsValue chars := by
  obtain ⟨content, _, rfl⟩ := spelled
  exact ⟨'"', _, rfl, rfl, by decide, by decide⟩

/-- A field is read from its text. -/
theorem fields_member
    {room fuel : Nat}
    {member : Member}
    (label : SpellsString member.name member.label.text)
    (begins : BeginsValue member.content.text)
    (readsAs : ReadsAs room member.value member.content.text)
    {rest : List Char}
    (closes : Closes rest)
    (enough : 2 * member.chars.length ≤ fuel)
    (done : List (String × Json)) :
    fields room (fuel + 1) done (skipSpace (member.chars ++ rest)) =
      afterField room fuel (insertField member.name member.value done) (skipSpace rest) := by
  simp only [Member.chars, Padded.chars, List.length_append, List.length_cons] at enough
  obtain ⟨tail, isText, nameRead⟩ := label.string (by omega : _ ≤ fuel + 1)
    (member.label.after ++ (':' :: (member.content.chars ++ rest)))
  have contentRead := readsAs fuel (member.content.after ++ rest) (by omega)
    (member.content.blankAfter.closes closes)
  rw [Member.chars, List.append_assoc, Padded.skipSpace label.head, List.cons_append, isText]
  simp only [fields, nameRead, member.label.blankAfter.skipSpace,
    skipSpace_cons (rfl : isSpace ':' = false), Padded.skipSpace begins, contentRead,
    member.content.blankAfter.skipSpace]
  rfl

/-- The fields of an object are read from their texts, and added to those read so far. -/
theorem fields_listTail
    {room : Nat}
    {first : Member}
    {rest : List Member}
    (labels : ∀ member ∈ first :: rest, SpellsString member.name member.label.text)
    (begins : ∀ member ∈ first :: rest, BeginsValue member.content.text)
    (readsAs : ∀ member ∈ first :: rest, ReadsAs room member.value member.content.text)
    {fuel : Nat}
    (enough : 2 * (first.chars ++ listTail '}' (rest.map Member.chars)).length ≤ fuel)
    (done : List (String × Json))
    (tail : List Char) :
    fields room fuel done
        (skipSpace (first.chars ++ (listTail '}' (rest.map Member.chars) ++ tail))) =
      .ok ((first :: rest).foldl
        (fun done member => insertField member.name member.value done) done, tail) := by
  induction rest generalizing first done fuel with
  | nil =>
      rw [List.map_nil, List.length_append] at enough
      have one := length_listTail_pos '}' []
      obtain ⟨more, rfl⟩ : ∃ more, fuel = more + 1 := ⟨fuel - 1, by omega⟩
      rw [fields_member (labels first List.mem_cons_self) (begins first List.mem_cons_self)
        (readsAs first List.mem_cons_self) (closes_listTail (by decide) _ tail) (by omega)]
      rfl
  | cons next others inductionHypothesis =>
      obtain ⟨firstLabel, otherLabels⟩ := List.forall_mem_cons.mp labels
      obtain ⟨beginsFirst, beginOthers⟩ := List.forall_mem_cons.mp begins
      obtain ⟨readsFirst, readOthers⟩ := List.forall_mem_cons.mp readsAs
      have isTail : listTail '}' ((next :: others).map Member.chars) =
          ',' :: (next.chars ++ listTail '}' (others.map Member.chars)) := by
        simp [listTail]
      have comma := closes_listTail (by decide : '}' ∈ [']', '}'])
        ((next :: others).map Member.chars) tail
      rw [isTail] at enough comma ⊢
      rw [List.length_append, List.length_cons] at enough
      obtain ⟨more, rfl⟩ : ∃ more, fuel = more + 1 := ⟨fuel - 1, by omega⟩
      have othersRead := fun done =>
        inductionHypothesis otherLabels beginOthers readOthers (by omega : _ ≤ more) done
      rw [fields_member firstLabel beginsFirst readsFirst comma (by omega)]
      simp only [List.cons_append, List.append_assoc, skipSpace_cons (rfl : isSpace ',' = false),
        afterField, othersRead, List.foldl_cons]

/-- An array is read by the reader of its items. -/
theorem value_array
    {first : Char}
    (noBracket : first ≠ ']')
    {chars rest : List Char}
    (begins : skipSpace chars = first :: rest)
    (room fuel : Nat) :
    value (room + 1) (fuel + 1) ('[' :: chars) =
      (items room fuel (skipSpace chars)).map fun read => (.arr read.1, read.2) := by
  simp only [value, begins]
  split
  · rename_i same
    cases same
  · rename_i same
    exact (noBracket (List.cons.inj same).1).elim
  · rename_i sameRoom _
    cases sameRoom
    cases items room fuel (first :: rest) <;> rfl

/-- An object is read by the reader of its fields. -/
theorem value_object
    {chars rest : List Char}
    (begins : skipSpace chars = '"' :: rest)
    (room fuel : Nat) :
    value (room + 1) (fuel + 1) ('{' :: chars) =
      (fields room fuel [] (skipSpace chars)).map fun read => (.obj read.1, read.2) := by
  simp only [value, begins]
  split
  · rename_i same
    cases same
  · rename_i same
    cases same
  · rename_i sameRoom _
    cases sameRoom
    cases fields room fuel [] ('"' :: rest) <;> rfl

/-- A value is read from each text that spells it. -/
theorem Spells.readsAs
    {room : Nat}
    {read : Json}
    {text : List Char}
    (spelled : Spells room read text) :
    ReadsAs room read text := by
  induction spelled with
  | named listed =>
      exact readsAs_named listed _
  | number isNumber =>
      exact readsAs_number isNumber _
  | string isString =>
      exact readsAs_string isString _
  | emptyArray areBlank =>
      intro fuel rest enough _
      obtain ⟨more, rfl⟩ := exists_step (by simp) enough
      simp [value, areBlank.skipSpace, skipSpace_cons (rfl : isSpace ']' = false)]
  | emptyObject areBlank =>
      intro fuel rest enough _
      obtain ⟨more, rfl⟩ := exists_step (by simp) enough
      simp [value, areBlank.skipSpace, skipSpace_cons (rfl : isSpace '}' = false)]
  | @array room first others each inductionHypothesis =>
      -- The bracket leaves one step for the array and one more that its items do not need.
      intro fuel rest enough _
      obtain ⟨more, rfl⟩ := exists_step (by simp) enough
      rw [List.length_cons] at enough
      have begins : ∀ item ∈ first :: others, BeginsValue item.content.text :=
        fun item member => (each item member).head
      have itemsRead := items_listTail begins inductionHypothesis (by omega : _ ≤ more) rest
      obtain ⟨char, following, isText, _, noBracket, _⟩ := begins first List.mem_cons_self
      have firstText := first.content.skipSpace (begins first List.mem_cons_self)
        (listTail ']' (others.map (·.content.chars)) ++ rest)
      rw [isText, List.cons_append] at firstText
      rw [List.cons_append, List.append_assoc, value_array noBracket firstText, itemsRead]
      rfl
  | @object room first others labels each inductionHypothesis =>
      intro fuel rest enough _
      obtain ⟨more, rfl⟩ := exists_step (by simp) enough
      rw [List.length_cons] at enough
      have begins : ∀ member ∈ first :: others, BeginsValue member.content.text :=
        fun member isMember => (each member isMember).head
      have fieldsRead := fields_listTail labels begins inductionHypothesis (by omega : _ ≤ more)
        [] rest
      have isLabel := labels first List.mem_cons_self
      have firstText := first.label.skipSpace isLabel.head
        (':' :: (first.content.chars ++ (listTail '}' (others.map Member.chars) ++ rest)))
      obtain ⟨content, _, isText⟩ := isLabel
      rw [isText, List.cons_append] at firstText
      have isMember : first.chars ++ (listTail '}' (others.map Member.chars) ++ rest) =
          first.label.chars ++
            ':' :: (first.content.chars ++ (listTail '}' (others.map Member.chars) ++ rest)) := by
        simp [Member.chars]
      rw [← isMember] at firstText
      rw [List.cons_append, List.append_assoc, ofFields, List.foldl_map, value_object firstText,
        fieldsRead]
      rfl

/-! ## Whole documents -/

/-- A document is read as the value that it spells. -/
theorem IsDocument.parseWithin
    {room : Nat}
    {read : Json}
    {chars : List Char}
    (document : IsDocument room read chars) :
    Json.parseWithin room chars = .ok read := by
  obtain ⟨padded, spelled, rfl⟩ := document
  have noMark : padded.chars.head? ≠ some (Char.ofNat 0xfeff) := by
    intro isMark
    obtain ⟨first, rest, isText, _, _, ascii⟩ := spelled.head
    cases blanks : padded.before with
    | nil =>
        rw [Padded.chars, blanks, isText] at isMark
        obtain rfl := Option.some.inj isMark
        exact absurd ascii (by decide)
    | cons blank others =>
        have isBlank := padded.blankBefore blank (by simp [blanks])
        rw [Padded.chars, blanks] at isMark
        obtain rfl := Option.some.inj isMark
        exact absurd isBlank (by decide)
  have shorter : padded.text.length ≤ padded.chars.length := by
    simp only [Padded.chars, List.length_append]
    omega
  have blanks := padded.blankAfter.skipSpace []
  have begins := padded.skipSpace spelled.head []
  simp only [List.append_nil] at blanks begins
  have closes : Closes padded.after := by
    have closesNothing : Closes [] := fun _ isFirst => absurd isFirst (by simp)
    simpa using padded.blankAfter.closes closesNothing
  rw [Json.parseWithin, if_neg noMark, begins, spelled.readsAs _ _ (by omega) closes]
  simp only [blanks]
  rfl

end AnalyzerSessions.Json
