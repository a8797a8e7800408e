import AnalyzerSessions.Proofs.HostBuffers

namespace AnalyzerSessions

open Text

/-!
# Spliced texts

Edits are put in from the back to the front, so that an edit never moves the place of
one that is still to come.  When no edit reaches into another one, the outcome is the
text with every range replaced at once: the stretches between the ranges, in order,
with the new texts between them.

An offset below zero counts from the end of the text.  There is none but in UTF-32,
where a position may lie in front of its line.
-/

/-! ## Edits that can be made at once -/

namespace Span

/-- A span goes with one behind it in the list: neither reaches into the other, and nothing
is taken out where both start. -/
structure GoesWith (earlier later : Span) : Prop where
  before : earlier.start < later.start → earlier.stop ≤ later.start
  behind : later.start < earlier.start → later.stop ≤ earlier.start
  level : earlier.start = later.start → earlier.stop = earlier.start

/-- A span is to be put in first, or it is listed first where both start. -/
def Precedes (left right : Span × Nat) : Prop :=
  left.1.start < right.1.start ∨ left.1.start = right.1.start ∧ left.2 < right.2

/-- A character lies in the range of a span. -/
def Covers (span : Span) (index : Nat) : Prop :=
  span.start ≤ index ∧ index < span.stop

instance (span : Span) (index : Nat) : Decidable (span.Covers index) :=
  inferInstanceAs (Decidable (_ ∧ _))

/-- No span of a list reaches into another one, and none ends before it starts. -/
structure AreLegal (spans : List Span) : Prop where
  forward : ∀ span ∈ spans, span.start ≤ span.stop
  apart : spans.Pairwise GoesWith

/-- The spans of a list in the order of the text; those that start together in that of the list. -/
def AreOrdered (spans ordered : List Span) : Prop :=
  ∃ numbered : List (Span × Nat), numbered.Perm spans.zipIdx ∧ numbered.Pairwise Precedes ∧
    numbered.map Prod.fst = ordered

/-- Every span ends where the next one starts or before. -/
def AreChained (offset : Nat) : List Span → Prop
  | [] => True
  | span :: rest =>
    (offset : Int) ≤ span.start ∧ span.start ≤ span.stop ∧ AreChained span.stop.toNat rest

end Span

open AnalyzerSessions.Span

/-- The characters of a text that no span covers, from an offset on. -/
def outsideFrom (offset : Nat) (text : List Char) (spans : List Span) : List Char :=
  ((text.zipIdx offset).filter fun numbered =>
    spans.all fun span => ¬span.Covers numbered.2).map Prod.fst

/-- The stretches of a text from an offset on that spans in order leave. -/
def stretchesFrom (offset : Nat) (text : List Char) : List Span → List (List Char)
  | [] => [text.drop offset]
  | span :: rest =>
    (text.drop offset).take (span.start.toNat - offset) ::
      stretchesFrom span.stop.toNat text rest

/-- Stretches with texts between them. -/
def alternate : (stretches texts : List (List Char)) → List Char
  | stretch :: stretches, text :: texts => stretch ++ text ++ alternate stretches texts
  | stretches, _ => stretches.flatten

/-- A text with all spans replaced at once. -/
structure Splicing (text : List Char) (spans : List Span) where
  ordered : List Span
  stretches : List (List Char)
  isOrdered : AreOrdered spans ordered
  cut : stretches = stretchesFrom 0 text ordered
  between : stretches.length = ordered.length + 1
  kept : stretches.flatten = outsideFrom 0 text spans

/-- The text that a splicing makes. -/
def Splicing.result {text : List Char} {spans : List Span} (splicing : Splicing text spans) :
    List Char :=
  alternate splicing.stretches (splicing.ordered.map Span.newText)

/-! ## The order of the edits -/

theorem precedes_of_zipIdxLE
    {left right : Span × Nat}
    (different : left.2 ≠ right.2)
    (listed : List.zipIdxLE (fun left right : Span => decide (left.start ≤ right.start))
      left right) :
    Precedes left right := by
  simp only [List.zipIdxLE, decide_eq_true_eq] at listed
  unfold Precedes
  split at listed
  · split at listed
    · have := of_decide_eq_true listed
      omega
    · omega
  · simp at listed

/-- Edits are put in behind each other in the reverse of the order of the text. -/
theorem areOrdered_mergeSort (spans : List Span) :
    AreOrdered spans (spans.mergeSort fun left right => left.start ≤ right.start) := by
  let order : Span → Span → Bool := fun left right => left.start ≤ right.start
  have transitive : ∀ a b c : Span, order a b → order b c → order a c := by
    simp only [order, decide_eq_true_eq]
    omega
  have total : ∀ a b : Span, order a b || order b a := by
    simp only [order, Bool.or_eq_true, decide_eq_true_eq]
    omega
  have isPermutation := List.mergeSort_perm spans.zipIdx (List.zipIdxLE order)
  refine ⟨spans.zipIdx.mergeSort (List.zipIdxLE order), isPermutation, ?_,
    List.mergeSort_zipIdx⟩
  have sorted := List.pairwise_mergeSort (List.zipIdxLE_trans transitive)
    (List.zipIdxLE_total total) spans.zipIdx
  -- Two numbered spans are never level: their numbers differ.
  have numbers : ((spans.zipIdx.mergeSort (List.zipIdxLE order)).map Prod.snd).Nodup := by
    apply (isPermutation.map Prod.snd).nodup_iff.mpr
    simp [List.nodup_range']
  apply (sorted.and (List.pairwise_map.mp numbers)).imp
  rintro left right ⟨listed, different⟩
  exact precedes_of_zipIdxLE different listed

theorem stop_le_start_of_precedes
    {spans : List Span}
    (legal : AreLegal spans)
    {left right : Span × Nat}
    (hasLeft : left ∈ spans.zipIdx)
    (hasRight : right ∈ spans.zipIdx)
    (precedes : Precedes left right) :
    left.1.stop ≤ right.1.start := by
  obtain ⟨leftSpan, leftNumber⟩ := left
  obtain ⟨rightSpan, rightNumber⟩ := right
  rw [List.mem_zipIdx_iff_getElem?] at hasLeft hasRight
  obtain ⟨leftBound, leftAt⟩ := List.getElem?_eq_some_iff.mp hasLeft
  obtain ⟨rightBound, rightAt⟩ := List.getElem?_eq_some_iff.mp hasRight
  have goesWith := List.pairwise_iff_getElem.mp legal.apart
  unfold Precedes at precedes
  dsimp only at *
  rcases Nat.lt_trichotomy leftNumber rightNumber with listedFirst | same | listedLast
  · have pair := goesWith _ _ leftBound rightBound listedFirst
    rw [leftAt, rightAt] at pair
    rcases precedes with isBefore | ⟨isLevel, _⟩
    · exact pair.before isBefore
    · exact Int.le_of_eq ((pair.level isLevel).trans isLevel)
  · subst same
    have : leftSpan = rightSpan := leftAt.symm.trans rightAt
    subst this
    omega
  · have pair := goesWith _ _ rightBound leftBound listedLast
    rw [leftAt, rightAt] at pair
    rcases precedes with isBefore | ⟨_, isListed⟩
    · exact pair.behind isBefore
    · omega

theorem areChained_of_pairwise
    {ordered : List Span}
    (forward : ∀ span ∈ ordered, span.start ≤ span.stop)
    (apart : ordered.Pairwise fun left right => left.stop ≤ right.start)
    {offset : Nat}
    (behind : ∀ span ∈ ordered, (offset : Int) ≤ span.start) :
    AreChained offset ordered := by
  induction apart generalizing offset with
  | nil => trivial
  | cons isFirst _ inductionHypothesis =>
    simp only [List.forall_mem_cons] at forward behind
    refine ⟨behind.1, forward.1, inductionHypothesis forward.2 fun later hasLater => ?_⟩
    have := isFirst later hasLater
    omega

/-- Legal edits in the order of the text never reach into each other. -/
theorem Span.AreOrdered.areChained
    {spans ordered : List Span}
    (isOrdered : AreOrdered spans ordered)
    (legal : AreLegal spans)
    (counted : ∀ span ∈ spans, 0 ≤ span.start) :
    AreChained 0 ordered := by
  obtain ⟨numbered, isPermutation, sorted, rfl⟩ := isOrdered
  have listed : ∀ span ∈ numbered.map Prod.fst, span ∈ spans := by
    intro span hasSpan
    have := (isPermutation.map Prod.fst).subset hasSpan
    rwa [List.zipIdx_map_fst] at this
  apply areChained_of_pairwise
  · exact fun span hasSpan => legal.forward span (listed span hasSpan)
  · apply List.pairwise_map.mpr
    apply sorted.imp_of_mem
    intro left right hasLeft hasRight precedes
    exact stop_le_start_of_precedes legal (isPermutation.subset hasLeft)
      (isPermutation.subset hasRight) precedes
  · exact fun span hasSpan => by simpa using counted span (listed span hasSpan)

/-! ## Putting edits in -/

theorem sliceIndex_natCast
    (length offset : Nat) :
    sliceIndex length offset = min offset length := by
  have : ¬(offset : Int) < 0 := by omega
  simp [sliceIndex, this]

/-- Putting in a span in front of what was put in already. -/
theorem put_take
    {text : List Char}
    {span : Span}
    {start stop : Nat}
    (startIs : span.start = start)
    (stopIs : span.stop = stop)
    (isForward : start ≤ stop)
    (fits : stop ≤ text.length)
    (behind : List Char) :
    Span.put (text.take stop ++ behind) span = text.take start ++ span.newText ++ behind := by
  have startIndex : sliceIndex (text.take stop ++ behind).length span.start = start := by
    simp only [startIs, sliceIndex_natCast, List.length_append, List.length_take]
    omega
  have stopIndex : sliceIndex (text.take stop ++ behind).length span.stop = stop := by
    simp only [stopIs, sliceIndex_natCast, List.length_append, List.length_take]
    omega
  have stopLength : (text.take stop).length = stop := List.length_take_of_le fits
  simp only [Span.put, before, after, startIndex, stopIndex]
  rw [List.take_append_of_le_length (by omega), List.take_take, Nat.min_eq_left isForward,
    List.drop_left' stopLength]

/-- Edits that are put in behind an offset leave the text before it, and what follows is the
stretches with the new texts between them. -/
theorem foldr_put
    {text : List Char}
    {offset : Nat}
    {ordered : List Span}
    (chained : AreChained offset ordered)
    (fits : ∀ span ∈ ordered, span.stop ≤ text.length) :
    ordered.foldr (fun span spliced => Span.put spliced span) text =
      text.take offset ++
        alternate (stretchesFrom offset text ordered) (ordered.map Span.newText) := by
  induction ordered generalizing offset with
  | nil => simp [stretchesFrom, alternate]
  | cons span rest inductionHypothesis =>
    obtain ⟨isBehind, isForward, restChained⟩ := chained
    simp only [List.forall_mem_cons] at fits
    have isPut : ∀ behind, Span.put (text.take span.stop.toNat ++ behind) span =
        text.take span.start.toNat ++ span.newText ++ behind :=
      put_take (by omega) (by omega) (by omega) (by omega)
    have cut : text.take span.start.toNat =
        text.take offset ++ (text.drop offset).take (span.start.toNat - offset) := by
      rw [← List.take_add]
      congr 1
      omega
    simp only [List.foldr_cons, inductionHypothesis restChained fits.2, isPut, cut,
      stretchesFrom, List.map_cons, alternate, List.append_assoc]

theorem length_stretchesFrom
    (text : List Char)
    (offset : Nat)
    (ordered : List Span) :
    (stretchesFrom offset text ordered).length = ordered.length + 1 := by
  induction ordered generalizing offset with
  | nil => rfl
  | cons span rest inductionHypothesis => simp [stretchesFrom, inductionHypothesis]

/-! ## What the stretches hold -/

theorem outsideFrom_append
    (offset : Nat)
    (front behind : List Char)
    (spans : List Span) :
    outsideFrom offset (front ++ behind) spans =
      outsideFrom offset front spans ++ outsideFrom (offset + front.length) behind spans := by
  simp [outsideFrom, List.zipIdx_append]

theorem outsideFrom_eq_self
    {offset : Nat}
    {text : List Char}
    {spans : List Span}
    (uncovered : ∀ index, offset ≤ index → index < offset + text.length →
      ∀ span ∈ spans, ¬span.Covers index) :
    outsideFrom offset text spans = text := by
  unfold outsideFrom
  rw [List.filter_eq_self.mpr, List.zipIdx_map_fst]
  rintro ⟨char, index⟩ numbered
  have bounds := List.mem_zipIdx numbered
  simpa using uncovered index bounds.1 bounds.2.1

theorem outsideFrom_eq_nil
    {offset : Nat}
    {text : List Char}
    {spans : List Span}
    {span : Span}
    (listed : span ∈ spans)
    (covered : ∀ index, offset ≤ index → index < offset + text.length → span.Covers index) :
    outsideFrom offset text spans = [] := by
  unfold outsideFrom
  rw [List.map_eq_nil_iff, List.filter_eq_nil_iff]
  rintro ⟨char, index⟩ numbered
  have bounds := List.mem_zipIdx numbered
  simpa using ⟨span, listed, covered index bounds.1 bounds.2.1⟩

theorem outsideFrom_congr
    {offset : Nat}
    {text : List Char}
    {spans others : List Span}
    (same : ∀ index, offset ≤ index →
      ((∀ span ∈ spans, ¬span.Covers index) ↔ ∀ span ∈ others, ¬span.Covers index)) :
    outsideFrom offset text spans = outsideFrom offset text others := by
  unfold outsideFrom
  congr 1
  apply List.filter_congr
  rintro ⟨char, index⟩ numbered
  have bounds := List.mem_zipIdx numbered
  rw [Bool.eq_iff_iff]
  simpa using same index bounds.1

theorem Span.AreChained.le_start
    {offset : Nat}
    {ordered : List Span}
    (chained : AreChained offset ordered) :
    ∀ span ∈ ordered, (offset : Int) ≤ span.start := by
  induction ordered generalizing offset with
  | nil => simp
  | cons first rest inductionHypothesis =>
    obtain ⟨isBehind, isForward, restChained⟩ := chained
    refine List.forall_mem_cons.mpr ⟨isBehind, fun later hasLater => ?_⟩
    have := inductionHypothesis restChained later hasLater
    omega

theorem text_parts
    (text : List Char)
    {offset start stop : Nat}
    (isBehind : offset ≤ start)
    (isForward : start ≤ stop) :
    text.drop offset = (text.drop offset).take (start - offset) ++
      ((text.drop start).take (stop - start) ++ text.drop stop) := by
  have rest : text.drop start = (text.drop start).take (stop - start) ++ text.drop stop := by
    have := List.take_append_drop (stop - start) (text.drop start)
    rwa [List.drop_drop, Nat.add_sub_cancel' isForward, eq_comm] at this
  have := List.take_append_drop (start - offset) (text.drop offset)
  rwa [List.drop_drop, Nat.add_sub_cancel' isBehind, rest, eq_comm] at this

/-- What the first span leaves is the stretch before it and what the others leave behind it. -/
theorem outsideFrom_cons
    {text : List Char}
    {offset : Nat}
    {span : Span}
    {rest : List Span}
    (chained : AreChained offset (span :: rest))
    (fits : span.stop ≤ text.length) :
    outsideFrom offset (text.drop offset) (span :: rest) =
      (text.drop offset).take (span.start.toNat - offset) ++
        outsideFrom span.stop.toNat (text.drop span.stop.toNat) rest := by
  obtain ⟨isBehind, isForward, restChained⟩ := chained
  let stretch := (text.drop offset).take (span.start.toNat - offset)
  let range := (text.drop span.start.toNat).take (span.stop.toNat - span.start.toNat)
  have stretchEnds : offset + stretch.length = span.start.toNat := by
    simp only [stretch, List.length_take, List.length_drop]
    omega
  have rangeEnds : span.start.toNat + range.length = span.stop.toNat := by
    simp only [range, List.length_take, List.length_drop]
    omega
  have stretchKept : outsideFrom offset stretch (span :: rest) = stretch := by
    apply outsideFrom_eq_self
    intro index _ isBelow
    have restStarts := restChained.le_start
    refine List.forall_mem_cons.mpr ⟨fun covered => ?_, fun later hasLater covered => ?_⟩
    · have := covered.1
      omega
    · have := covered.1
      have := restStarts later hasLater
      omega
  have rangeGone : outsideFrom span.start.toNat range (span :: rest) = [] := by
    apply outsideFrom_eq_nil List.mem_cons_self
    intro index isAbove isBelow
    constructor <;> omega
  have restKept : outsideFrom span.stop.toNat (text.drop span.stop.toNat) (span :: rest) =
      outsideFrom span.stop.toNat (text.drop span.stop.toNat) rest := by
    apply outsideFrom_congr
    intro index isAbove
    rw [List.forall_mem_cons]
    apply and_iff_right
    rintro ⟨_, isBelow⟩
    omega
  have parts : text.drop offset = stretch ++ (range ++ text.drop span.stop.toNat) :=
    text_parts text (by omega) (by omega)
  change _ = stretch ++ _
  rw [parts, outsideFrom_append, outsideFrom_append, stretchEnds, rangeEnds, stretchKept,
    rangeGone, restKept, List.nil_append]

/-- Together the stretches are the characters that no span covers, each once and in order. -/
theorem flatten_stretchesFrom
    {text : List Char}
    {offset : Nat}
    {ordered : List Span}
    (chained : AreChained offset ordered)
    (fits : ∀ span ∈ ordered, span.stop ≤ text.length) :
    (stretchesFrom offset text ordered).flatten =
      outsideFrom offset (text.drop offset) ordered := by
  induction ordered generalizing offset with
  | nil =>
    rw [outsideFrom_eq_self (by simp)]
    simp [stretchesFrom]
  | cons span rest inductionHypothesis =>
    simp only [List.forall_mem_cons] at fits
    rw [outsideFrom_cons chained fits.1, ← inductionHypothesis chained.2.2 fits.2]
    simp [stretchesFrom]

/-! ## Offsets of positions -/

theorem indexFrom_le_length
    (encoding : Encoding)
    (target : Int)
    (units : Nat)
    (line : List Char) :
    indexFrom encoding target units line ≤ line.length := by
  fun_induction indexFrom encoding target units line with
  | case1 => simp
  | case2 => simp
  | case3 units char rest _ inductionHypothesis => simpa using inductionHypothesis

theorem characterToIndex_le_length
    (line : List Char)
    (target : Int)
    (encoding : Encoding) :
    characterToIndex line target encoding ≤ line.length := by
  have := indexFrom_le_length encoding target 0 line
  cases encoding <;> simp only [characterToIndex] <;> omega

theorem length_chomp_le (line : List Char) : (chomp line).length ≤ line.length := by
  unfold chomp
  have := (List.dropWhile_sublist (fun char => char == '\r' || char == '\n')
    (l := line.reverse)).length_le
  simpa using this

theorem flatten_lines (text : List Char) : (lines text).flatten = text := by
  fun_induction lines text with
  | case1 => rfl
  | case2 char rest inductionHypothesis =>
    rw [List.flatten_cons, inductionHypothesis, cutLine_append]

theorem offsetInLines_le
    (encoding : Encoding)
    (line character : Int)
    (number offset : Nat)
    (remaining : List (List Char)) :
    offsetInLines encoding line character number offset remaining ≤
      offset + remaining.flatten.length := by
  induction remaining generalizing number offset with
  | nil => simp [offsetInLines]
  | cons current rest inductionHypothesis =>
    unfold offsetInLines
    rw [List.flatten_cons, List.length_append]
    split
    · have := characterToIndex_le_length (chomp current) character encoding
      have := length_chomp_le current
      omega
    · have := inductionHypothesis (number + 1) (offset + current.length)
      omega

/-- No position lies behind the end of the text. -/
theorem positionToOffset_le_length
    (content : List Char)
    (line character : Int)
    (encoding : Encoding) :
    positionToOffset content line character encoding ≤ content.length := by
  have := offsetInLines_le encoding line character 0 0 (lines content)
  rw [flatten_lines] at this
  unfold positionToOffset
  omega

theorem characterToIndex_nonneg
    (line : List Char)
    (target : Int)
    (encoding : Encoding)
    (counted : encoding = .utf32 → 0 ≤ target) :
    0 ≤ characterToIndex line target encoding := by
  cases encoding with
  | utf32 => exact Int.le_min.mpr ⟨counted rfl, by omega⟩
  | _ => exact Int.natCast_nonneg _

theorem le_offsetInLines
    (encoding : Encoding)
    (line character : Int)
    (counted : encoding = .utf32 → 0 ≤ character)
    (number offset : Nat)
    (remaining : List (List Char)) :
    (offset : Int) ≤ offsetInLines encoding line character number offset remaining := by
  induction remaining generalizing number offset with
  | nil => simp [offsetInLines]
  | cons current rest inductionHypothesis =>
    unfold offsetInLines
    split
    · have := characterToIndex_nonneg (chomp current) character encoding counted
      omega
    · have := inductionHypothesis (number + 1) (offset + current.length)
      omega

/-- Nor does one lie in front of the text, unless characters are counted below zero. -/
theorem positionToOffset_nonneg
    (content : List Char)
    (line character : Int)
    (encoding : Encoding)
    (counted : encoding = .utf32 → 0 ≤ character) :
    0 ≤ positionToOffset content line character encoding :=
  le_offsetInLines encoding line character counted 0 0 (lines content)

/-! ## Splicing -/

/-- Legal edits are made at once. -/
theorem exists_splicing
    (encoding : Encoding)
    (edits : List TextEdit)
    (text : List Char)
    (legal : AreLegal (edits.map (TextEdit.span encoding text)))
    (counted : encoding = .utf32 → ∀ edit ∈ edits, 0 ≤ (edit.span encoding text).start) :
    ∃ splicing : Splicing text (edits.map (TextEdit.span encoding text)),
      splice encoding edits text = splicing.result := by
  let spans := edits.map (TextEdit.span encoding text)
  let ordered := spans.mergeSort fun left right => left.start ≤ right.start
  have isOrdered : AreOrdered spans ordered := areOrdered_mergeSort spans
  have starts : ∀ span ∈ spans, 0 ≤ span.start := by
    intro span hasSpan
    obtain ⟨edit, hasEdit, rfl⟩ := List.mem_map.mp hasSpan
    by_cases isWide : encoding = .utf32
    · exact counted isWide edit hasEdit
    · exact positionToOffset_nonneg _ _ _ _ fun same => absurd same isWide
  have chained := isOrdered.areChained legal starts
  have isPermutation : ordered.Perm spans := List.mergeSort_perm spans _
  have fits : ∀ span ∈ ordered, span.stop ≤ text.length := by
    intro span hasSpan
    obtain ⟨edit, _, rfl⟩ := List.mem_map.mp (isPermutation.subset hasSpan)
    exact positionToOffset_le_length _ _ _ _
  have kept : (stretchesFrom 0 text ordered).flatten = outsideFrom 0 text spans := by
    rw [flatten_stretchesFrom chained fits, List.drop_zero]
    apply outsideFrom_congr
    simp [isPermutation.mem_iff]
  have spliced : splice encoding edits text =
      alternate (stretchesFrom 0 text ordered) (ordered.map Span.newText) := by
    rw [splice, backToFront, List.foldl_reverse]
    simpa using foldr_put chained fits
  exact ⟨⟨ordered, _, isOrdered, rfl, length_stretchesFrom text 0 ordered, kept⟩, spliced⟩

/-! ## Edits of a buffer -/

namespace Host

variable {Action : Type} {host : Host Action}

theorem buffer?_setText
    {number : Int}
    {buffer : Buffer}
    (isOpen : host.buffer? number = some buffer)
    (text : String) :
    (host.setText number text).buffer? number = some { buffer with text } := by
  have hasNumber : buffer.number = number := by
    simpa using List.find?_some isOpen
  have numbered : (fun buffer : Buffer => buffer.number == number) ∘ (fun buffer : Buffer =>
      if buffer.number = number then { buffer with text } else buffer) =
        fun buffer => buffer.number == number := by
    funext buffer
    simp only [Function.comp_apply]
    split <;> rfl
  simp only [buffer?, setText, List.find?_map, numbered]
  rw [← buffer?, isOpen, Option.map_some, if_pos hasNumber]

/-- Legal edits of a buffer are made at once: whatever their order, its new text is the
stretches of the old one that no edit covers with the new texts between them. -/
theorem applyEdits?_splices
    {number : Int}
    {buffer : Buffer}
    (isOpen : host.buffer? number = some buffer)
    (encoding : Encoding)
    (edits : List TextEdit)
    (legal : AreLegal (edits.map (TextEdit.span encoding buffer.text.toList)))
    (counted : encoding = .utf32 →
      ∀ edit ∈ edits, 0 ≤ (edit.span encoding buffer.text.toList).start) :
    ∃ (after : Host Action) (record : Record)
        (splicing : Splicing buffer.text.toList
          (edits.map (TextEdit.span encoding buffer.text.toList))),
      host.applyEdits? edits number encoding = some (after, record) ∧
        after.buffer? number = some { buffer with text := String.ofList splicing.result } := by
  obtain ⟨splicing, spliced⟩ := exists_splicing encoding edits buffer.text.toList legal counted
  have applied : host.applyEdits? edits number encoding =
      some (host.setText number (String.ofList splicing.result),
        ⟨.debug, "Applied " ++ toString edits.length ++ " edits to buffer " ++ toString number⟩) := by
    rw [applyEdits?, isOpen, Option.map_some, spliced]
  exact ⟨_, _, splicing, applied, buffer?_setText isOpen _⟩

/-- A host with one buffer. -/
def single (text : String) : Host Unit :=
  { empty with buffers := [⟨1, "/main.rs", text⟩], nextId := 2 }

/-- An edit within the first line of a text. -/
def lineEdit (start stop : Int) (newText : String) : TextEdit :=
  ⟨⟨⟨0, start⟩, ⟨0, stop⟩⟩, newText, none⟩

/-- Edits that are listed in another order than that of the text; two start together. -/
def shuffledEdits : List TextEdit :=
  [lineEdit 2 2 "X", lineEdit 0 1 "P", lineEdit 2 3 "Z"]

theorem shuffledEdits_spans :
    shuffledEdits.map (TextEdit.span .utf16 "abcd".toList) =
      [⟨2, 2, ['X']⟩, ⟨0, 1, ['P']⟩, ⟨2, 3, ['Z']⟩] := by
  decide +kernel

theorem single_buffer (text : String) :
    (single text).buffer? 1 = some ⟨1, "/main.rs", text⟩ :=
  rfl

theorem shuffledEdits_legal :
    AreLegal (shuffledEdits.map (TextEdit.span .utf16 "abcd".toList)) := by
  rw [shuffledEdits_spans]
  constructor
  · decide
  · simp only [List.pairwise_cons, List.forall_mem_cons, List.not_mem_nil, false_implies,
      implies_true, List.Pairwise.nil, and_true]
    refine ⟨⟨⟨?_, ?_, ?_⟩, ⟨?_, ?_, ?_⟩⟩, ⟨?_, ?_, ?_⟩⟩ <;> decide

/-- The edits of the shuffled list are made in the order of the text. -/
theorem shuffledEdits_splice :
    AreLegal (shuffledEdits.map (TextEdit.span .utf16 "abcd".toList)) ∧
    ∃ (after : Host Unit) (record : Record)
        (splicing : Splicing "abcd".toList
          (shuffledEdits.map (TextEdit.span .utf16 "abcd".toList))),
      (single "abcd").applyEdits? shuffledEdits 1 .utf16 = some (after, record) ∧
        after.buffer? 1 = some ⟨1, "/main.rs", String.ofList splicing.result⟩ :=
  ⟨shuffledEdits_legal,
    applyEdits?_splices (single_buffer "abcd") .utf16 shuffledEdits
      shuffledEdits_legal nofun⟩

example : String.ofList (splice .utf16 shuffledEdits "abcd".toList) = "PbXZd" := by
  rw [splice, shuffledEdits_spans]
  cbv

/-- An edit in front of its line, counted in whole characters. -/
def frontEdit : TextEdit :=
  lineEdit (-1) 0 "X"

/-- An offset below zero is taken from the end of the text, so that characters are doubled. -/
theorem frontEdit_doubles_characters :
    AreLegal ([frontEdit].map (TextEdit.span .utf32 "abc".toList)) ∧
      (∃ (after : Host Unit) (record : Record),
        (single "abc").applyEdits? [frontEdit] 1 .utf32 = some (after, record) ∧
          after.buffer? 1 = some ⟨1, "/main.rs", "abXabc"⟩) ∧
      ∀ splicing : Splicing "abc".toList ([frontEdit].map (TextEdit.span .utf32 "abc".toList)),
        String.ofList splicing.result = "Xabc" := by
  have spans : [frontEdit].map (TextEdit.span .utf32 "abc".toList) = [⟨-1, 0, ['X']⟩] := by
    decide +kernel
  rw [spans]
  refine ⟨⟨by decide, List.pairwise_singleton _ _⟩, ⟨_, _, rfl, by decide +kernel⟩, ?_⟩
  rintro ⟨ordered, stretches, ⟨numbered, isPermutation, _, rfl⟩, rfl, _, _⟩
  have isSingle : numbered = [(⟨-1, 0, ['X']⟩, 0)] := List.perm_singleton.mp isPermutation
  subst isSingle
  simp [Splicing.result, stretchesFrom, alternate]

end Host

end AnalyzerSessions
