import AnalyzerSessions.Path.Basic
import AnalyzerSessions.Text.Class

namespace AnalyzerSessions

/-!
# Places

Where things are, as the environment says: the home directory, configuration,
logs, and the directories of the Rust toolchain.
-/

/-- What the system tells a process. -/
structure Environment where
  /-- The environment variables with their values. -/
  entries : List (String × String)
  /-- The home directory of the account, if the system knows the account. -/
  accountHome : Option String
  deriving Repr, DecidableEq, Inhabited

namespace Environment

/-- The value of a variable. -/
def get? (environment : Environment) (name : String) : Option String :=
  (environment.entries.find? fun entry => entry.1 == name).map Prod.snd

/-- The value of a variable that is set to something. -/
def nonempty? (environment : Environment) (name : String) : Option String :=
  (environment.get? name).filter fun value => !value.isEmpty

/-- Give a variable a value. -/
def set (environment : Environment) (name value : String) : Environment :=
  { environment with
    entries := environment.entries.filter (fun entry => entry.1 != name) ++ [(name, value)] }

/-- The home directory as it is written, without slashes at its end: the one that a variable tells,
or else that of the account. -/
def homeText? (environment : Environment) : Option String :=
  ((environment.get? "HOME").or environment.accountHome).map fun home =>
    String.ofList (home.toList.reverse.dropWhile (· == '/')).reverse

/-- The home directory; there is none when nobody tells it, or it would have to be looked up
itself. -/
def home? (environment : Environment) : Option Path :=
  environment.homeText?.bind fun home =>
    if home.isEmpty then some (Path.ofText "/")
    else if home.toList.head? = some '~' then none
    else some (Path.ofText home)

/-- The base directory that a variable names, or else one below the home directory. -/
def baseDirectory? (environment : Environment) (name fallback : String) : Option Path :=
  match environment.nonempty? name with
  | some base => some (Path.ofText base)
  | none => environment.home?.map (· / fallback)

/-- The directory of caches. -/
def cacheDirectory? (environment : Environment) : Option Path :=
  (environment.baseDirectory? "XDG_CACHE_HOME" ".cache").map (· / "ferris")

/-- The directory of logs. -/
def logDirectory? (environment : Environment) : Option Path :=
  environment.cacheDirectory?.map (· / "log")

/-- The configuration file. -/
def configFile? (environment : Environment) : Option Path :=
  (environment.baseDirectory? "XDG_CONFIG_HOME" ".config").map fun base =>
    base / "ferris" / "config.toml"

end Environment

/-- The directories of the Rust toolchain. -/
structure Toolchain where
  cargoHome : Path
  rustupHome : Path
  deriving Repr, DecidableEq

namespace Toolchain

/-- The directories that the given variables name, or those below the home directory of the
process. -/
def find? (environment given : Environment) : Option Toolchain :=
  environment.home?.map fun home =>
    ⟨Path.ofText ((given.nonempty? "CARGO_HOME").getD (home / ".cargo").text),
      Path.ofText ((given.nonempty? "RUSTUP_HOME").getD (home / ".rustup").text)⟩

/-- The directories whose sources belong to dependencies. -/
def libraryRoots (toolchain : Toolchain) : List Path :=
  [toolchain.rustupHome / "toolchains", toolchain.cargoHome / "registry" / "src",
    toolchain.cargoHome / "git" / "checkouts"]

end Toolchain

/-- The directories in which a server program is looked up, those of the toolchain first. -/
def searchPath? (environment : Environment) : Option String :=
  (Toolchain.find? environment environment).map fun toolchain =>
    Text.joinWith ":" [(toolchain.cargoHome / "bin").text,
      environment.homeText?.getD "~" ++ "/.local/bin", "/usr/local/bin", "/opt/homebrew/bin",
      (environment.get? "PATH").getD ""]

end AnalyzerSessions
