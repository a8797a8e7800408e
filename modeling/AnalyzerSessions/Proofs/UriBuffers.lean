import AnalyzerSessions.Proofs.HostOperations
import AnalyzerSessions.Proofs.StraightPaths

namespace AnalyzerSessions

open Text

/-!
# Buffers by their URIs

The URI of a file names the place that the path of the file leads to.  An edit that is
addressed by it comes to the buffer of the file, however the file was opened.
-/

variable {disk : Disk}

/-- No link is left in a place. -/
def Disk.IsLinkFree (disk : Disk) (place : Path) : Prop :=
  place.anchor = .root ∧ disk.IsStraight place.parts

/-- A place without links leads to itself. -/
theorem Disk.IsLinkFree.resolve
    {path place : Path}
    (linkFree : disk.IsLinkFree place)
    (leads : disk.resolve path = .ok place) :
    disk.resolve place = .ok place := by
  obtain ⟨anchor, parts⟩ := place
  obtain ⟨rfl, straight⟩ := linkFree
  obtain ⟨_, _, _, noLoop⟩ := resolve_eq_ok leads
  exact straight.resolve noLoop

theorem Host.onward_turns
    {host after : Host Action}
    (turns : Relation.ReflTransGen Turn host after) :
    host.Onward after := by
  induction turns with
  | refl =>
      exact .refl host
  | tail _ turn inductionHypothesis =>
      exact inductionHypothesis.trans turn.onward

namespace Act

/-- The buffer of the URI of a place is opened as any path is that leads there. -/
theorem perform_bufferForUri_ofPlace
    {path place : Path}
    {desk : Desk}
    (reads : FileUri.toPath (FileUri.ofPlace place) = .ok place)
    (leads : desk.disk.resolve path = .ok place)
    (leadsAgain : desk.disk.resolve place = .ok place) :
    perform (bufferForUri (FileUri.ofPlace place)) desk =
      perform (openBuffer path none false) desk := by
  have isOpening : perform (bufferForUri (FileUri.ofPlace place)) desk =
      perform (openBuffer place none false) desk := by
    unfold bufferForUri
    rw [reads]
    rfl
  rw [isOpening, perform_openBuffer, perform_openBuffer, Host.openBuffer, Host.openBuffer, leads,
    leadsAgain]

/-- A file that was opened is the buffer of its URI ever after, as long as the directories and
links stay. -/
theorem perform_bufferForUri_of_opened
    {path place : Path}
    {content : Option String}
    {focus : Bool}
    {number : Int}
    {desk opened later : Desk}
    (reads : FileUri.toPath (FileUri.ofPlace place) = .ok place)
    (leads : desk.disk.resolve path = .ok place)
    (leadsAgain : desk.disk.resolve place = .ok place)
    (opens : perform (openBuffer path content focus) desk = (.ok number, opened))
    (turns : Relation.ReflTransGen Host.Turn opened.host later.host)
    (same : desk.disk.SameWays later.disk) :
    perform (bufferForUri (FileUri.ofPlace place)) later = (.ok number, later) := by
  have named : (opened.host.bufferNamed? place.text).map Buffer.number = some number := by
    rw [perform_openBuffer] at opens
    cases isOpened : desk.host.openBuffer desk.disk path content focus with
    | error error =>
        rw [isOpened] at opens
        cases opens
    | ok result =>
        rw [isOpened] at opens
        cases opens
        exact Host.named_of_openBuffer leads isOpened
  have stillNamed := (Host.onward_turns turns).bufferNamed? named
  have stillLeads : later.disk.resolve place = .ok place := (same.resolve place).trans leadsAgain
  rw [perform_bufferForUri_ofPlace reads stillLeads stillLeads, perform_openBuffer,
    Host.openBuffer_of_named stillLeads stillNamed]
  rfl

end Act

/-- The URI of a path leads to the place that the path leads to, and no other place has the same
one.  Where the links on the way of the path are followed none is left in that place; and where
none is left, the place has its own URI, and that is the URI of the path's buffer. -/
theorem FileUri.ofPath_leads_back
    (text : String)
    {place : Path}
    (grounded : disk.IsGrounded (.ofText text))
    (leads : disk.resolve (.ofText text) = .ok place) :
    ofPath disk (.ofText text) = .ok (ofPlace place) ∧
      toPath (ofPlace place) = .ok place ∧
      (∀ other otherPlace, disk.IsGrounded (.ofText other) →
        disk.resolve (.ofText other) = .ok otherPlace →
        ofPlace otherPlace = ofPlace place → otherPlace = place) ∧
      (disk.GetsThrough (.ofText text) → disk.IsLinkFree place) ∧
      (disk.IsLinkFree place →
        ofPath disk place = .ok (ofPlace place) ∧
        ∀ desk : Desk, desk.disk = disk →
          Act.perform (Act.bufferForUri (ofPlace place)) desk =
            Act.perform (Act.openBuffer (.ofText text) none false) desk ∧
          ∀ content focus number opened,
            Act.perform (Act.openBuffer (.ofText text) content focus) desk =
              (.ok number, opened) →
            ∀ later : Desk, Relation.ReflTransGen Host.Turn opened.host later.host →
              disk.SameWays later.disk →
              Act.perform (Act.bufferForUri (ofPlace place)) later = (.ok number, later)) := by
  obtain ⟨absolute, components⟩ := Disk.hasComponents_resolve grounded leads
  have reads := toPath_ofPlace absolute components
  refine ⟨by rw [ofPath, leads]; rfl, reads, ?_, ?_, ?_⟩
  · intro other otherPlace otherGrounded otherLeads same
    obtain ⟨otherAbsolute, otherComponents⟩ := Disk.hasComponents_resolve otherGrounded otherLeads
    have otherReads := toPath_ofPlace otherAbsolute otherComponents
    rw [same, reads] at otherReads
    exact (Except.ok.inj otherReads).symm
  · intro getsThrough
    obtain ⟨parts, rfl, straight⟩ := getsThrough.isStraight grounded leads
    exact ⟨rfl, straight⟩
  · intro linkFree
    have leadsAgain := linkFree.resolve leads
    refine ⟨by rw [ofPath, leadsAgain]; rfl, ?_⟩
    rintro desk rfl
    exact ⟨Act.perform_bufferForUri_ofPlace reads leads leadsAgain,
      fun content focus number opened opens later turns same =>
        Act.perform_bufferForUri_of_opened reads leads leadsAgain opens turns same⟩

/-! ## A path with other characters -/

/-- A disk with a link to a directory whose name has to be escaped. -/
def Disk.remote : Disk :=
  ⟨⟨[(["w"], .directory), (["é #1"], .directory), (["w", "link"], .link "/é #1")], .free⟩,
    ["w"]⟩

theorem Disk.follow_remote :
    Disk.remote.follow maxDepth [] (beginning (.ofText "./link//a?b"))
        (Path.ofText "./link//a?b").parts =
      .ok ⟨[(⟨.relative, ["link"]⟩, some (.absolute ["é #1"])), (⟨.relative, ["link"]⟩, none)],
        .absolute ["é #1", "a?b"], true⟩ := by
  have isPath : Path.ofText "./link//a?b" = ⟨.relative, ["link", "a?b"]⟩ := by
    decide
  have target : FileTree.targetParts "/é #1" = ["", "é #1"] := by
    decide
  have start : startOf ⟨.relative, []⟩ "/é #1" = .absolute [] := by
    decide +kernel
  rw [isPath]
  simp [beginning, follow, linkTarget?, remote, FileTree.walk, FileTree.entry?,
    FileTree.findEntry?, Path.absolute, Path.isAbsolute, maxDepth, FileTree.maxLinks, seenLink?,
    start, hasNull, target, reach_of_free, origin, FileTree.refusal?_of_free]

theorem Disk.resolve_remote :
    Disk.remote.resolve (.ofText "./link//a?b") = .ok (.absolute ["é #1", "a?b"]) := by
  have isSettled : Disk.remote.settled (.absolute ["é #1", "a?b"]) =
      .absolute ["é #1", "a?b"] := by
    decide
  have resolves := resolve_of_follow follow_remote rfl
  rw [isSettled] at resolves
  refine resolves (by decide) ?_
  simp [stat, locate, reach_of_free, origin, FileTree.refusal?_of_free, remote, Path.absolute,
    Path.isAbsolute, FileTree.walk, FileTree.entry?, FileTree.findEntry?, FileTree.maxLinks]

theorem Disk.hasWorkingDirectory_remote : Disk.remote.HasWorkingDirectory := by
  refine ⟨by decide, ?_, ?_⟩
  · have component : Path.IsComponent "w" := ⟨by decide, by decide, by decide⟩
    simpa [remote] using component
  · intro front isFront
    rcases List.prefix_cons_iff.mp isFront with rfl | ⟨behind, rfl, isNone⟩
    · rfl
    · rw [List.prefix_nil.mp isNone]
      rfl

/-- A desk with given files. -/
def Desk.ofDisk (disk : Disk) : Desk :=
  .fresh disk (.standard [] ⟨default, default⟩ (.fixed none))

/-- A file behind a link, below the working directory, whose path has characters that mean something
in a URI. -/
theorem FileUri.remote_path_leads_back :
    Disk.remote.HasWorkingDirectory ∧
      Disk.remote.resolve (.ofText "./link//a?b") = .ok (.absolute ["é #1", "a?b"]) ∧
      ofPath Disk.remote (.ofText "./link//a?b") = .ok "file:///%C3%A9%20%231/a%3Fb" ∧
      toPath "file:///%C3%A9%20%231/a%3Fb" = .ok (.absolute ["é #1", "a?b"]) ∧
      Act.perform (Act.bufferForUri "file:///%C3%A9%20%231/a%3Fb") (.ofDisk .remote) =
        Act.perform (Act.openBuffer (.ofText "./link//a?b") none false) (.ofDisk .remote) := by
  have isUri : ofPlace (.absolute ["é #1", "a?b"]) = "file:///%C3%A9%20%231/a%3Fb" := by
    decide +kernel
  obtain ⟨hasUri, reads, -, isFree, opens⟩ := ofPath_leads_back "./link//a?b"
    (fun _ => Disk.hasWorkingDirectory_remote) Disk.resolve_remote
  have linkFree := isFree ⟨_, Disk.follow_remote, rfl, fun _ => Disk.follow_remote⟩
  have same := ((opens linkFree).2 (.ofDisk .remote) rfl).1
  rw [isUri] at hasUri reads same
  exact ⟨Disk.hasWorkingDirectory_remote, Disk.resolve_remote, hasUri, reads, same⟩

/-! ## A path with a link that leads to itself -/

/-- A disk with a link that leads to itself and another one that leads to a free place. -/
def Disk.circling : Disk :=
  ⟨⟨[(["loop"], .link "loop"), (["link"], .link "target")], .free⟩, []⟩

theorem Disk.targetParts_circling :
    FileTree.targetParts "loop" = ["loop"] ∧ FileTree.targetParts "target" = ["target"] ∧
      startOf ⟨.root, []⟩ "loop" = ⟨.root, []⟩ ∧ startOf ⟨.root, []⟩ "target" = ⟨.root, []⟩ := by
  decide +kernel

/-- Behind the link that leads to itself the path is left as it is written. -/
theorem Disk.resolve_circling_loop :
    Disk.circling.resolve (.ofText "/loop/../link") = .ok (.absolute ["link"]) := by
  have isPath : Path.ofText "/loop/../link" = .absolute ["loop", "..", "link"] := by
    decide
  obtain ⟨target, freeTarget, start, freeStart⟩ := targetParts_circling
  have isRest : remainder ["..", "link"] = ⟨.relative, ["..", "link"]⟩ := by
    decide
  have noRest : remainder [] = ⟨.relative, []⟩ := by
    decide
  have follows : Disk.circling.follow maxDepth [] (beginning (.ofText "/loop/../link"))
        (Path.ofText "/loop/../link").parts =
      .ok ⟨[(⟨.root, ["loop"]⟩, none)], ⟨.root, ["loop", "..", "link"]⟩, false⟩ := by
    rw [isPath]
    simp [beginning, follow, linkTarget?, circling, FileTree.walk, FileTree.entry?,
      FileTree.findEntry?, Path.absolute, Path.isAbsolute, Path.join, maxDepth, FileTree.maxLinks,
      seenLink?, start, hasNull, target, isRest, noRest, reach_of_free, origin,
      FileTree.refusal?_of_free]
  have isSettled : Disk.circling.settled ⟨.root, ["loop", "..", "link"]⟩ = .absolute ["link"] := by
    decide
  have resolves := resolve_of_follow follows rfl
  rw [isSettled] at resolves
  refine resolves (by decide) ?_
  simp [stat, locate, reach_of_free, origin, FileTree.refusal?_of_free, circling, Path.absolute,
    Path.isAbsolute, FileTree.walk, FileTree.entry?, FileTree.findEntry?, FileTree.maxLinks,
    FileTree.targetBase, freeTarget]

theorem Disk.resolve_circling_link :
    Disk.circling.resolve (.absolute ["link"]) = .ok (.absolute ["target"]) := by
  obtain ⟨-, target, -, start⟩ := targetParts_circling
  have follows : Disk.circling.follow maxDepth [] (beginning (.absolute ["link"])) ["link"] =
      .ok ⟨[(⟨.root, ["link"]⟩, some ⟨.root, ["target"]⟩), (⟨.root, ["link"]⟩, none)],
        ⟨.root, ["target"]⟩, true⟩ := by
    simp [beginning, follow, linkTarget?, circling, FileTree.walk, FileTree.entry?,
      FileTree.findEntry?, Path.absolute, Path.isAbsolute, maxDepth, FileTree.maxLinks,
      seenLink?, start, hasNull, target, reach_of_free, origin, FileTree.refusal?_of_free]
  have isSettled : Disk.circling.settled ⟨.root, ["target"]⟩ = .absolute ["target"] := by
    decide
  have resolves := @resolve_of_follow _ (.absolute ["link"]) _ follows rfl
  rw [isSettled] at resolves
  refine resolves (by decide) ?_
  simp [stat, locate, reach_of_free, origin, FileTree.refusal?_of_free, circling, Path.absolute,
    Path.isAbsolute, FileTree.walk, FileTree.entry?, FileTree.findEntry?, FileTree.maxLinks]

/-- A file that is not open yet is opened with the next number. -/
theorem Act.perform_openBuffer_of_missing
    (desk : Desk)
    {path place : Path}
    {text : Option String}
    {content : String}
    (leads : desk.disk.resolve path = .ok place)
    (missing : desk.host.bufferNamed? place.text = none)
    (initial : Host.initialText desk.disk place text = .ok content)
    (focus : Bool) :
    perform (openBuffer path text focus) desk =
      (.ok desk.host.nextId, { desk with
        host := (desk.host.addBuffer place.text content).2.focusOn desk.host.nextId focus }) := by
  rw [perform_openBuffer]
  simp only [Host.openBuffer, leads, missing, initial]
  rfl

/-- A desk with such a disk, on which the other link was opened. -/
def Desk.circled : Desk :=
  { Desk.ofDisk .circling with host := ((Desk.ofDisk .circling).host.addBuffer "/link" "").2 }

/-- Neither place is a file. -/
theorem Disk.initialText_circling :
    Host.initialText Disk.circling (.absolute ["link"]) none = .ok "" ∧
      Host.initialText Disk.circling (.absolute ["target"]) none = .ok "" := by
  obtain ⟨-, target, -, -⟩ := targetParts_circling
  constructor <;>
    simp [Host.initialText, isFile, entryAt?, hasNull, stat, locate, reach_of_free, origin,
      FileTree.refusal?_of_free, circling, Path.absolute, Path.isAbsolute, FileTree.walk,
      FileTree.entry?, FileTree.findEntry?, FileTree.maxLinks, FileTree.targetBase, target,
      FileFault.isAbsence, Except.map]

/-- A path that comes through the link leads to a place that leads on, and the buffer of its URI is
a second one. -/
theorem FileUri.circling_path_leads_on :
    Disk.circling.HasWorkingDirectory ∧
      ofPath Disk.circling (.ofText "/loop/../link") = .ok "file:///link" ∧
      toPath "file:///link" = .ok (.absolute ["link"]) ∧
      ofPath Disk.circling (.absolute ["link"]) = .ok "file:///target" ∧
      (Act.perform (Act.openBuffer (.ofText "/loop/../link") none false)
        (.ofDisk .circling)).1 = .ok 1 ∧
      (Act.perform (Act.bufferForUri "file:///link")
        (Act.after (Act.openBuffer (.ofText "/loop/../link") none false)
          (.ofDisk .circling))).1 = .ok 2 := by
  have working : Disk.circling.HasWorkingDirectory := by
    refine ⟨by decide, fun _ member => absurd member List.not_mem_nil, fun front isFront => ?_⟩
    rw [List.prefix_nil.mp isFront]
    rfl
  have reads : toPath "file:///link" = .ok (.absolute ["link"]) := by
    decide +kernel
  refine ⟨working, ?_, reads, ?_, ?_⟩
  · rw [ofPath, Disk.resolve_circling_loop]
    decide +kernel
  · rw [ofPath, Disk.resolve_circling_link]
    decide +kernel
  · obtain ⟨noLink, noTarget⟩ := Disk.initialText_circling
    have first : Act.perform (Act.openBuffer (.ofText "/loop/../link") none false)
        (.ofDisk .circling) = (.ok 1, .circled) :=
      Act.perform_openBuffer_of_missing (.ofDisk .circling) Disk.resolve_circling_loop rfl noLink
        false
    have missing : Desk.circled.host.bufferNamed? (Path.absolute ["target"]).text = none := by
      decide
    have second : Act.perform (Act.openBuffer (.absolute ["link"]) none false) .circled =
        (.ok 2, _) :=
      Act.perform_openBuffer_of_missing .circled Disk.resolve_circling_link missing noTarget false
    refine ⟨by rw [first], ?_⟩
    rw [Act.after, first, Act.bufferForUri, reads]
    exact congrArg Prod.fst second

end AnalyzerSessions
