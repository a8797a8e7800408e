import AnalyzerSessions.Session.ServerSettings

namespace AnalyzerSessions

open Config

/-!
# Setting up a manager

A manager that is given nothing else works with the standard catalog of commands,
and asks the build tool as its configuration says.
-/

namespace Setup

/-- A manager with a configuration, the directories of a toolchain, and a probe. -/
def standard (config : Entries Json) (toolchain : Toolchain) (probe : Probe) : Setup where
  config
  toolchain
  probe
  actions := []
  bindings := CommandBinding.catalog
  served := serverName

/-- The probe of a configuration, for the ends of runs of the build tool by its name. -/
def configuredProbe (config : Entries Json) (outcome : Json → ProbeOutcome) :
    Except Failure Probe :=
  match ProbeSettings.ofConfig config with
  | .error misuse => .error (.misuse misuse)
  | .ok settings => .ok (.program settings (outcome settings.cargo))

/-- A manager that finds its toolchain and its probe by itself. -/
def ofConfig (config : Entries Json) (environment : Environment) (outcome : Json → ProbeOutcome) :
    Except Failure Setup := do
  let probe ← configuredProbe config outcome
  match Toolchain.find? environment environment with
  | none => .error (.load .noHome)
  | some toolchain => return standard config toolchain probe

/-- A manager of which only the probe is used, so that no toolchain has to be found for it. -/
def onlyProbing (config : Entries Json) (outcome : Json → ProbeOutcome) : Except Failure Setup := do
  return standard config ⟨Path.ofText "", Path.ofText ""⟩ (← configuredProbe config outcome)

end Setup

/-- A desk before anything is done at it. -/
def Desk.fresh (disk : Disk) (setup : Setup) : Desk where
  disk
  host := Host.empty
  registry := Registry.empty
  nextSession := 1
  transforms := []
  setup
  questions := []
  orders := []
  history := []
  log := []

end AnalyzerSessions
