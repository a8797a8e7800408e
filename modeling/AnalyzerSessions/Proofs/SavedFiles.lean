import AnalyzerSessions.Proofs.ManifestRuns
import AnalyzerSessions.Proofs.UriBuffers

namespace AnalyzerSessions

open Text

/-!
# Files that are saved

A buffer that was opened and not edited is written back as it was read.  Reading unifies the ends
of lines and writing does not bring the old ones back, so a file stays the same exactly when there
is no carriage return in it.
-/

/-! ## Ends of lines -/

namespace Text

theorem not_mem_unifyLineEnds (chars : List Char) : '\r' ∉ unifyLineEnds chars := by
  fun_induction unifyLineEnds chars <;> simp_all [eq_comm]

theorem unifyLineEnds_of_not_mem
    {chars : List Char}
    (noReturn : '\r' ∉ chars) :
    unifyLineEnds chars = chars := by
  fun_induction unifyLineEnds chars <;> simp_all

/-- A text without carriage returns is all that reading does not change. -/
theorem unifyLineEnds_eq_self_iff
    {chars : List Char} :
    unifyLineEnds chars = chars ↔ '\r' ∉ chars :=
  ⟨fun same => same ▸ not_mem_unifyLineEnds chars, unifyLineEnds_of_not_mem⟩

end Text

/-! ## Files -/

namespace FileTree

variable {tree : FileTree} {target : List String} {bytes : List UInt8}

/-- Where a file stands, an entry that is there already changes nothing. -/
theorem putEntry_of_findEntry?
    {entry : Entry}
    {entries : List (List String × Entry)}
    (found : findEntry? target entries = some entry) :
    putEntry target entry entries = entries := by
  induction entries with
  | nil =>
      cases found
  | cons known rest inductionHypothesis =>
      obtain ⟨place, old⟩ := known
      unfold findEntry? at found
      unfold putEntry
      split at found
      · rename_i isPlace
        cases found
        rw [if_pos isPlace]
      · rename_i apart
        rw [if_neg apart, inductionHypothesis found]

theorem ne_nil_of_file
    (found : tree.entry? target = some (.file bytes)) :
    target ≠ [] := by
  rintro rfl
  cases found

/-- A file that is written as it is changes nothing. -/
theorem put_of_entry?
    (found : tree.entry? target = some (.file bytes)) :
    tree.put target (.file bytes) = tree := by
  have nonempty := ne_nil_of_file found
  unfold FileTree.entry? at found
  rw [if_neg (by simpa using nonempty)] at found
  rw [put, putEntry_of_findEntry? found]

/-- A walk that ends at a file ends there when the file has changed. -/
theorem walk_put_file
    {followLast : Bool}
    {links : Nat}
    {place parts : List String}
    (ends : walk tree followLast links place parts = .ok (.present target (.file bytes)))
    (changed : List UInt8) :
    walk (tree.put target (.file changed)) followLast links place parts =
      .ok (.present target (.file changed)) := by
  have isFile : tree.entry? target = some (.file bytes) := stands_walk ends
  have isPut : ∀ place, FileTree.entry? (tree.put target (.file changed)) place =
      if place = target then some (.file changed) else tree.entry? place :=
    entry?_put (ne_nil_of_file isFile) (.file changed)
  have stays : ∀ {place : List String} {entry : Option Entry}, tree.entry? place = entry →
      entry ≠ some (.file bytes) →
        FileTree.entry? (tree.put target (.file changed)) place = entry := by
    rintro place _ rfl apart
    rw [isPut, if_neg]
    rintro rfl
    exact apart isFile
  have sameRefusal : ∀ directory name,
      FileTree.refusal? (tree.put target (.file changed)) directory name =
        tree.refusal? directory name := fun _ _ => rfl
  have noDirectory : some Entry.directory ≠ some (.file bytes) := by
    simp
  have noLink : ∀ linkTarget, some (Entry.link linkTarget) ≠ some (.file bytes) := by
    simp
  fun_induction FileTree.walk tree followLast links place parts with
  | case1 links place entry found =>
      cases ends
      rw [FileTree.walk, isPut, if_pos rfl]
  | case4 links place name rest isDirectory isAllowed idle inductionHypothesis =>
      rw [FileTree.walk, stays isDirectory noDirectory]
      simp only [sameRefusal, isAllowed, if_pos idle, inductionHypothesis ends]
  | case5 links place rest isDirectory isAllowed notIdle inductionHypothesis =>
      rw [FileTree.walk, stays isDirectory noDirectory]
      simp only [sameRefusal, isAllowed, if_neg notIdle, ↓reduceIte, inductionHypothesis ends]
  | case10 place name rest isDirectory isAllowed notIdle noDots linkTarget isLink goesOn links
      inductionHypothesis =>
      rw [FileTree.walk, stays isDirectory noDirectory, stays isLink (noLink linkTarget)]
      simp only [sameRefusal, isAllowed, if_neg notIdle, if_neg noDots, if_neg goesOn,
        inductionHypothesis ends]
  | case11 links place name rest isDirectory isAllowed notIdle noDots entry notLink found
      inductionHypothesis =>
      rw [FileTree.walk, stays isDirectory noDirectory, isPut]
      simp only [sameRefusal, isAllowed, if_neg notIdle, if_neg noDots]
      by_cases isTarget : place ++ [name] = target
      · simp only [if_pos isTarget]
        exact inductionHypothesis ends
      · simp only [if_neg isTarget, found]
        cases entry with
        | link linkTarget => exact (notLink linkTarget rfl).elim
        | file known => exact inductionHypothesis ends
        | directory => exact inductionHypothesis ends
  | _ => cases ends

end FileTree

namespace Disk

variable {disk : Disk} {place : Path} {bytes : List UInt8}

/-- A path that leads to a file leads there when the file has changed. -/
theorem locate_put_file
    {parts : List String}
    (isThere : disk.locate place = .ok (.present parts (.file bytes)))
    (changed : List UInt8) :
    ({ disk with tree := disk.tree.put parts (.file changed) } : Disk).locate place =
      .ok (.present parts (.file changed)) := by
  unfold locate reach at isThere ⊢
  split at isThere
  · cases isThere
  · rename_i short
    exact (if_neg short).trans (FileTree.walk_put_file isThere changed)

/-- What stands where a path leads may be written. -/
def isWritable (disk : Disk) (path : Path) : Bool :=
  match disk.locate path with
  | .ok (.present parts _) => !disk.denies parts .write
  | _ => false

/-- A file that can be read stands where its path leads, and may be read. -/
theorem readBytes_eq_ok_iff :
    disk.readBytes place = .ok bytes ↔
      hasNull place = false ∧ ∃ parts, disk.locate place = .ok (.present parts (.file bytes)) ∧
        disk.denies parts .read = false := by
  constructor
  · intro reads
    unfold readBytes at reads
    split at reads
    · cases reads
    · rename_i noNull
      refine ⟨Bool.eq_false_iff.mpr noNull, ?_⟩
      cases isThere : disk.locate place with
      | error fault =>
          rw [isThere] at reads
          cases reads
      | ok location =>
          rw [isThere] at reads
          cases location with
          | vacant parts =>
              cases reads
          | present parts entry =>
              cases denied : disk.denies parts .read with
              | true => simp [denied] at reads
              | false =>
                  simp only [denied, Bool.false_eq_true, ↓reduceIte] at reads
                  cases entry with
                  | file known =>
                      cases reads
                      exact ⟨parts, rfl, denied⟩
                  | link target => cases reads
                  | directory => cases reads
  · rintro ⟨noNull, parts, isThere, allowed⟩
    simp [readBytes, noNull, isThere, allowed]

theorem isFile_of_readBytes
    (reads : disk.readBytes place = .ok bytes) :
    disk.isFile place = .ok true := by
  obtain ⟨noNull, parts, isThere, _⟩ := readBytes_eq_ok_iff.mp reads
  simp [isFile, entryAt?, noNull, stat, isThere, Except.map]

/-- A file that may be written holds what was written; the disk is the same when the file is. -/
theorem writeText_of_readBytes
    (reads : disk.readBytes place = .ok bytes)
    (writable : disk.isWritable place = true)
    (text : String) :
    ∃ written, disk.writeText place text = .ok written ∧
      written.readBytes place = .ok (Utf8.encode text.toList) ∧
      (Utf8.encode text.toList = bytes → written = disk) := by
  obtain ⟨noNull, parts, isThere, mayRead⟩ := readBytes_eq_ok_iff.mp reads
  have mayWrite : disk.denies parts .write = false := by simpa [isWritable, isThere] using writable
  refine ⟨{ disk with tree := disk.tree.put parts (.file (Utf8.encode text.toList)) }, ?_,
    readBytes_eq_ok_iff.mpr ⟨noNull, parts, locate_put_file isThere _, mayRead⟩, ?_⟩
  · simp [writeText, update, noNull, isThere, mayWrite]
  · rintro rfl
    have isFile : disk.tree.entry? parts = some (.file (Utf8.encode text.toList)) :=
      stands_locate isThere
    rw [FileTree.put_of_entry? isFile]

/-- A file that may not be written is refused. -/
theorem writeText_of_not_isWritable
    (reads : disk.readBytes place = .ok bytes)
    (unwritable : disk.isWritable place = false)
    (text : String) :
    disk.writeText place text = .error (.refused .forbidden place) := by
  obtain ⟨noNull, parts, isThere, _⟩ := readBytes_eq_ok_iff.mp reads
  have denied : disk.denies parts .write = true := by
    simpa [isWritable, isThere] using unwritable
  simp [writeText, update, noNull, isThere, denied]

end Disk

/-- An absolute path has a text. -/
theorem Path.isEmpty_text
    {place : Path}
    (absolute : place.isAbsolute)
    (components : ∀ part ∈ place.parts, IsComponent part) :
    place.text.isEmpty = false := by
  cases empty : place.text.isEmpty with
  | false =>
      rfl
  | true =>
      have isPath := ofText_text absolute components
      rw [String.isEmpty_iff.mp empty] at isPath
      rw [← isPath] at absolute
      exact absurd absolute (by decide)

/-! ## Buffers that are saved as they were opened -/

/-- The buffer that was added last is found by its number. -/
theorem Host.IsNumbered.buffer?_addBuffer
    {host : Host Action}
    (numbered : host.IsNumbered)
    (name text : String)
    (focus : Bool) :
    (((host.addBuffer name text).2.focusOn host.nextId focus).buffer? host.nextId) =
      some ⟨host.nextId, name, text⟩ := by
  have stillNumbered := (numbered.addBuffer name text).focusOn host.nextId focus
  have member : (⟨host.nextId, name, text⟩ : Buffer) ∈
      ((host.addBuffer name text).2.focusOn host.nextId focus).buffers := by
    cases focus <;> exact List.mem_append_right _ (List.mem_singleton_self _)
  exact stillNumbered.buffer?_number member

theorem Host.initialText_of_readBytes
    {disk : Disk}
    {place : Path}
    {chars : List Char}
    (holds : disk.readBytes place = .ok (Utf8.encode chars)) :
    initialText disk place none = .ok (String.ofList (unifyLineEnds chars)) := by
  simp [initialText, Disk.isFile_of_readBytes holds, Disk.readText, holds, Utf8.decode_encode]

namespace Act

/-- A file that is opened from its URI or its path becomes a buffer whose ends of lines are unified,
and when the buffer is saved as it is, so are those of the file: it keeps its bytes exactly when
there is no carriage return in it.  A file that may not be written stays as it is. -/
theorem saving_unifies_line_ends
    (desk : Desk)
    {text : String}
    {place : Path}
    {chars : List Char}
    (grounded : desk.disk.IsGrounded (.ofText text))
    (leads : desk.disk.resolve (.ofText text) = .ok place)
    (holds : desk.disk.readBytes place = .ok (Utf8.encode chars))
    (closed : desk.host.bufferNamed? place.text = none)
    (numbered : desk.host.IsNumbered) :
    (∀ uri, FileUri.toPath uri = .ok (.ofText text) →
      perform (bufferForUri uri) desk = perform (openBuffer (.ofText text) none false) desk) ∧
    ∀ focus, ∃ opened,
      perform (openBuffer (.ofText text) none focus) desk = (.ok desk.host.nextId, opened) ∧
      opened.disk = desk.disk ∧
      ∀ later : Desk, later.disk = desk.disk →
        later.host.buffer? desk.host.nextId = opened.host.buffer? desk.host.nextId →
        (desk.disk.isWritable place = true → ∃ disk,
          perform (writeFile (some desk.host.nextId)) later =
            (.ok place.text, { later with disk }) ∧
          (∀ station : Station, station.desk = later → later.orders = [] →
            Move.perform (Move.writeBuffer (some desk.host.nextId)) station =
              Move.perform (Move.into (Move.fire Move.writeEvent place.text) .discarding)
                { station with desk := { later with disk } }) ∧
          disk.readBytes place = .ok (Utf8.encode (unifyLineEnds chars)) ∧
          (disk.readBytes place = later.disk.readBytes place ↔ '\r' ∉ chars) ∧
          (disk = later.disk ↔ '\r' ∉ chars)) ∧
        (desk.disk.isWritable place = false →
          perform (writeFile (some desk.host.nextId)) later =
            (.error (.file (.refused .forbidden place)), later)) := by
  refine ⟨fun uri isPath => by rw [bufferForUri, isPath]; rfl, fun focus => ?_⟩
  refine ⟨_, perform_openBuffer_of_missing desk leads closed
    (Host.initialText_of_readBytes holds) focus, rfl, fun later sameDisk sameBuffer => ?_⟩
  obtain ⟨absolute, components⟩ := Disk.hasComponents_resolve grounded leads
  have found := sameBuffer.trans
    (numbered.buffer?_addBuffer place.text (String.ofList (unifyLineEnds chars)) focus)
  have holdsStill : later.disk.readBytes place = .ok (Utf8.encode chars) := sameDisk ▸ holds
  have written := perform_writeFile found (Path.isEmpty_text absolute components)
  dsimp only at written
  rw [Path.ofText_text absolute components] at written
  rw [← sameDisk]
  refine ⟨fun writable => ?_, fun unwritable => ?_⟩
  case refine_2 => rw [written, Disk.writeText_of_not_isWritable holdsStill unwritable]
  obtain ⟨disk, writes, reads, same⟩ :=
    Disk.writeText_of_readBytes holdsStill writable (String.ofList (unifyLineEnds chars))
  rw [String.toList_ofList] at reads same
  have saves : perform (writeFile (some desk.host.nextId)) later =
      (.ok place.text, { later with disk }) := by
    rw [written, writes]
  have keepsBytes : disk.readBytes place = later.disk.readBytes place ↔ '\r' ∉ chars := by
    rw [reads, holdsStill, Except.ok.injEq, Utf8.encode_inj, unifyLineEnds_eq_self_iff]
  refine ⟨disk, saves, ?_, reads, keepsBytes, fun sameDisk => keepsBytes.mp (by rw [sameDisk]),
    fun noReturn => same (by rw [unifyLineEnds_of_not_mem noReturn])⟩
  rintro station rfl noOrders
  rw [Move.perform_writeBuffer noOrders, saves]

end Act

/-! ## Two files -/

/-- A disk with one file, where everything is allowed. -/
def Disk.single (content : String) : Disk :=
  ⟨⟨[(["a.rs"], .file (Utf8.encode content.toList))], .free⟩, []⟩

/-- A desk with one file and nothing open. -/
def Desk.withFile (content : String) : Desk :=
  .ofDisk (.single content)

theorem Disk.locate_single (content : String) :
    (Disk.single content).locate (.absolute ["a.rs"]) =
      .ok (.present ["a.rs"] (.file (Utf8.encode content.toList))) := by
  simp [locate, reach_of_free, single, origin, FileTree.refusal?_of_free, Path.absolute,
    Path.isAbsolute, FileTree.walk, FileTree.entry?, FileTree.findEntry?, FileTree.maxLinks]

theorem Disk.isWritable_single (content : String) :
    (Disk.single content).isWritable (.absolute ["a.rs"]) = true := by
  simp [isWritable, locate_single, @denies_of_free (single content) rfl]

theorem Desk.withFile_leads (content : String) :
    (Desk.withFile content).disk.resolve (.ofText "/a.rs") = .ok (.absolute ["a.rs"]) := by
  have isPath : Path.ofText "/a.rs" = .absolute ["a.rs"] := by
    decide
  rw [isPath]
  exact Disk.resolve_plain (FileTree.hasNoLinks_file _ _) (by decide)

theorem Desk.withFile_holds (content : String) :
    (Desk.withFile content).disk.readBytes (.absolute ["a.rs"]) =
      .ok (Utf8.encode content.toList) := by
  have noNull : Disk.hasNull (.absolute ["a.rs"]) = false := by
    decide
  exact Disk.readBytes_eq_ok_iff.mpr
    ⟨noNull, ["a.rs"], Disk.locate_single content, Disk.denies_of_free rfl _ _⟩

namespace Act

/-- A file with line feeds alone is the same when it was saved. -/
theorem plain_file_is_kept :
    let desk := Desk.withFile "a\nb\n"
    ∃ opened saved,
      perform (openBuffer (.ofText "/a.rs") none true) desk = (.ok 1, opened) ∧
      perform (writeFile (some 1)) opened = (.ok "/a.rs", saved) ∧
      saved.disk = desk.disk := by
  obtain ⟨-, opens⟩ := saving_unifies_line_ends (.withFile "a\nb\n")
    (fun relative => absurd relative (by decide)) (Desk.withFile_leads _) (Desk.withFile_holds _)
    rfl Host.isNumbered_empty
  obtain ⟨opened, isOpened, sameDisk, saves⟩ := opens true
  obtain ⟨disk, isSaved, -, -, -, keeps⟩ :=
    (saves opened sameDisk rfl).1 (Disk.isWritable_single _)
  exact ⟨opened, _, isOpened, isSaved, (keeps.mpr (by decide)).trans sameDisk⟩

/-- A file with another end of a line has lost it when it was saved, although nobody edited it. -/
theorem saved_file_loses_carriage_return :
    let desk := Desk.withFile "x\r\ny"
    ∃ opened saved,
      perform (openBuffer (.ofText "/a.rs") none true) desk = (.ok 1, opened) ∧
      perform (writeFile (some 1)) opened = (.ok "/a.rs", saved) ∧
      desk.disk.readBytes (.absolute ["a.rs"]) = .ok (Utf8.encode "x\r\ny".toList) ∧
      saved.disk.readBytes (.absolute ["a.rs"]) = .ok (Utf8.encode "x\ny".toList) := by
  have holds := Desk.withFile_holds "x\r\ny"
  obtain ⟨-, opens⟩ := saving_unifies_line_ends (.withFile "x\r\ny")
    (fun relative => absurd relative (by decide)) (Desk.withFile_leads _) holds rfl
    Host.isNumbered_empty
  obtain ⟨opened, isOpened, sameDisk, saves⟩ := opens true
  obtain ⟨disk, isSaved, -, reads, -⟩ :=
    (saves opened sameDisk rfl).1 (Disk.isWritable_single _)
  have isUnified : unifyLineEnds "x\r\ny".toList = "x\ny".toList := by
    decide
  rw [isUnified] at reads
  exact ⟨opened, _, isOpened, isSaved, holds, reads⟩

end Act

end AnalyzerSessions
