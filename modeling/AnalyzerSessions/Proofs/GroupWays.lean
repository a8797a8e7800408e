import AnalyzerSessions.Proofs.SoundHosts
import AnalyzerSessions.Proofs.SessionAspects

namespace AnalyzerSessions

/-!
# Acts that leave the groups alone

A session has a group of auto-commands on the host from its beginning to its end.
Nothing but the report that its server is initialized gives it one, and nothing but the
report that its server has exited takes it away; whatever else a manager does leaves the
groups, the auto-commands and what the sessions know of them alone.
-/

/-- The auto-command group of a session, if there is such a session and it has one. -/
def Registry.group? (registry : Registry) (id : Nat) : Option Int :=
  (registry.get? id).bind Session.group

theorem Registry.group?_eq_some_iff
    {registry : Registry}
    {id : Nat}
    {group : Int} :
    registry.group? id = some group ↔
      ∃ session, registry.get? id = some session ∧ session.group = some group :=
  Option.bind_eq_some_iff

/-- The sessions have the groups that they had, and new sessions have none. -/
def Registry.SharesGroups (before after : Registry) : Prop :=
  ∀ id, after.group? id = before.group? id

/-- The groups and the auto-commands of a host are as they were; whatever else was done to it is what
may be done to a host. -/
structure Host.KeepsGroups (before after : Host Action) : Prop where
  turns : Relation.ReflTransGen Host.Turn before after
  groups : after.groups = before.groups
  autoCommands : after.autoCommands = before.autoCommands

namespace Host.KeepsGroups

theorem refl (host : Host Action) : host.KeepsGroups host :=
  ⟨.refl, rfl, rfl⟩

theorem trans
    {before mid after : Host Action}
    (first : before.KeepsGroups mid)
    (second : mid.KeepsGroups after) :
    before.KeepsGroups after :=
  ⟨first.turns.trans second.turns, second.groups.trans first.groups,
    second.autoCommands.trans first.autoCommands⟩

theorem currentBuffer (host : Host Action) : host.KeepsGroups host.currentBuffer.2 := by
  refine ⟨.single .currentBuffer, ?_, ?_⟩ <;> unfold Host.currentBuffer <;> split <;> rfl

theorem createCommand
    (host : Host Action)
    (command : UserCommand Action) :
    host.KeepsGroups (host.createCommand command) :=
  ⟨.single (.createCommand command), rfl, rfl⟩

theorem dropCommand
    (host : Host Action)
    (name : String) :
    host.KeepsGroups (host.dropCommand name) := by
  by_cases has : host.hasCommand name = true
  · have deleted : host.deleteCommand name = .ok (host.dropCommand name) := if_pos has
    exact ⟨.single (.deleteCommand deleted), rfl, rfl⟩
  · have same : host.dropCommand name = host := by
      have kept : host.commands.filter (fun command => command.name != name) = host.commands := by
        refine List.filter_eq_self.mpr fun command member => ?_
        rw [bne_iff_ne]
        rintro rfl
        exact has ((hasCommand_iff host command.name).mpr (List.mem_map_of_mem member))
      rw [Host.dropCommand, kept]
    rw [same]
    exact refl host

end Host.KeepsGroups

/-- A new session has no group. -/
theorem Act.group_newSession
    {server : Config.Entries Setting}
    {root : Option Path}
    {desk : Desk}
    {session : Session}
    (gave : (perform (newSession server root) desk).1 = .ok session) :
    session.group = none := by
  unfold newSession at gave
  repeat
    obtain ⟨_, _, same⟩ := ok_of_bind gave
    rw [same] at gave
    clear same
  cases gave
  rfl

/-- The groups: those of the host, and what the sessions know of them. -/
def Aspect.groups : Aspect Int where
  part := Session.group
  host := Host.KeepsGroups
  hostRefl := .refl
  hostTrans := .trans
  currentBuffer := .currentBuffer
  createCommand := .createCommand
  dropCommand := .dropCommand
  transition _ _ _ := rfl
  buffers _ _ := rfl
  commands _ _ := rfl
  exitCode _ _ := rfl
  client _ _ := rfl
  unborn := Act.group_newSession

/-- The groups of the host and those of the sessions are as they were, and the configuration is the
same. -/
structure Desk.KeepsGroups (before after : Desk) : Prop where
  host : before.host.KeepsGroups after.host
  sessions : before.registry.SharesGroups after.registry
  setup : after.setup = before.setup

theorem Desk.isWay_keepsGroups : Desk.IsWay Desk.KeepsGroups where
  refl desk := ⟨.refl desk.host, fun _ => rfl, rfl⟩
  trans first second :=
    ⟨first.host.trans second.host, fun id => (second.sessions id).trans (first.sessions id),
      second.setup.trans first.setup⟩

namespace Act

theorem KeepsAspect.keepsGroups
    {α : Type}
    {act : Act α}
    (keeps : KeepsAspect .groups act) :
    KeepsTo Desk.KeepsGroups act :=
  fun desk => ⟨(keeps desk).host, (keeps desk).sessions, (keeps desk).setup⟩

theorem KeepsTo.keepsAspect
    {α : Type}
    {act : Act α}
    (keeps : KeepsTo Desk.KeepsGroups act) :
    KeepsAspect .groups act :=
  fun desk => ⟨(keeps desk).host, (keeps desk).sessions, (keeps desk).setup⟩

/-! What a manager does, apart from the two reports of its transport. -/

theorem keepsGroups_say
    (level : Level)
    (text : String) :
    KeepsTo Desk.KeepsGroups (say level text) :=
  (keepsAspect_say _ level text).keepsGroups

theorem keepsGroups_tellAll
    (id : Nat)
    (more : List Json)
    (listeners : List Listener) :
    KeepsTo Desk.KeepsGroups (tellAll id more listeners) :=
  (keepsAspect_tellAll _ id more listeners).keepsGroups

theorem keepsGroups_installTransform (transform : Transform) :
    KeepsTo Desk.KeepsGroups (installTransform transform) :=
  (keepsAspect_installTransform _ transform).keepsGroups

/-- A start leaves the groups alone when finding a root does. -/
theorem keepsGroups_startWith
    {resolve : Path → Act (Option Path)}
    (resolves : ∀ path, KeepsTo Desk.KeepsGroups (resolve path))
    (overrides : Config.Entries Setting)
    (buffer : Option Int) :
    KeepsTo Desk.KeepsGroups (startWith resolve overrides buffer) :=
  (keepsAspect_startWith _ (fun path => (resolves path).keepsAspect) overrides buffer).keepsGroups

theorem keepsGroups_resolveRoot (path : Path) :
    KeepsTo Desk.KeepsGroups (resolveRoot path) :=
  (keepsAspect_resolveRoot _ path).keepsGroups

theorem keepsGroups_stop (buffer : Option Int) : KeepsTo Desk.KeepsGroups (stop buffer) :=
  (keepsAspect_stop _ buffer).keepsGroups

theorem keepsGroups_equip (id : Nat) : KeepsTo Desk.KeepsGroups (equip id) :=
  (keepsAspect_equip _ id).keepsGroups

theorem keepsGroups_beginRunning (session : Session) :
    KeepsTo Desk.KeepsGroups (beginRunning session) :=
  (keepsAspect_beginRunning _ session).keepsGroups

theorem keepsGroups_removeCommands (session : Session) :
    KeepsTo Desk.KeepsGroups (removeCommands session) :=
  (keepsAspect_removeCommands _ session).keepsGroups

/-- A session that ends keeps what it has left of a group. -/
theorem keepsGroups_conclude
    (session : Session)
    (code : Json) :
    KeepsTo Desk.KeepsGroups (conclude session code) :=
  (keepsAspect_conclude _ session code).keepsGroups

end Act

end AnalyzerSessions
