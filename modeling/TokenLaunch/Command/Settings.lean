/-
# Settings

Settings that hold for every command are kept in a TOML file: where the dashboard is, which chain
the wallet connects to, and how fast the simulated phases go.  Each may be missing, and a missing
file says nothing.
-/
import TokenLaunch.Command.Error
import TokenLaunch.Command.Line
import TokenLaunch.Decimal.Shortest
import TokenLaunch.Launch.Timing
import TokenLaunch.Text.Shown
import TokenLaunch.Toml.Reader

namespace TokenLaunch

/-- The settings, as far as they are given. -/
structure Settings where
  /-- Where the dashboard is. -/
  dashboard : Option Path := none
  /-- The chain that the wallet connects to. -/
  chainId : Option UInt64 := none
  /-- The factor that the times of the phases are multiplied by. -/
  timeScale : Option Float := none

namespace Settings

/-! ## Reading -/

open Json (Fields.optional?)

/-- The settings that members describe. -/
def ofMembers? (ms : List (String × Toml)) : Option Settings := do
  let dashboard ←
    Fields.optional? ["state_file"] (fun v => v.text?.map fun s => some ⟨s⟩) none ms
  let chainId ← Fields.optional? ["default_chain_id"] (fun v => v.word?.map some) none ms
  let timeScale ← Fields.optional? ["phase_duration_scale"] (fun v => v.number?.map some) none ms
  return { dashboard, chainId, timeScale }

/-- The settings that a text describes. -/
def parse? (s : String) : Option Settings :=
  (Toml.parse? s).bind fun v => v.members?.bind ofMembers?

/-- The settings in a file. -/
def load (d : Disk) (p : Path) : Except CommandError Settings :=
  if d.holds p then
    match d.readText p with
    | .error e => .error (.io e)
    | .ok s =>
      match parse? s with
      | some settings => .ok settings
      | none => .error (.configuration "not settings")
  else .ok {}

/-! ## What they mean -/

/-- The chain that the wallet connects to if nothing else is said. -/
def usualChain : UInt64 := 11155111

/-- The chain that the wallet connects to. -/
def chain (s : Settings) : UInt64 := s.chainId.getD usualChain

/-- The times of the phases. -/
def timing (s : Settings) : Timing :=
  match s.timeScale with
  | some factor => .scaled factor
  | none => {}

/-! ## Showing -/

/-- A setting as it is shown. -/
def shownField (name : String) (value : Option String) : String :=
  name ++ ": " ++
    match value with
    | some text => "Some(" ++ text ++ ")"
    | none => "None"

/-- The settings as they are shown. -/
def shown (s : Settings) : String :=
  "CliConfig \x7b " ++
    ", ".intercalate
      [shownField "state_file" (s.dashboard.map fun p => Text.shown p.text),
        shownField "default_chain_id" (s.chainId.map fun n => Digits.text n.toNat),
        shownField "phase_duration_scale" (s.timeScale.map Decimal.shortestText)] ++ " \x7d"

/-! ## Usual places -/

/-- A directory of the user: where a name of the environment says, if it is an absolute path,
and else below the home directory. -/
def userDirectory? (env : Environment) (name below : String) : Option String :=
  match (env name).filter fun s => (Path.mk s).isAbsolute with
  | some directory => some directory
  | none => ((env "HOME").filter fun s => !s.isEmpty).map fun home => home ++ "/" ++ below

/-- Where the settings usually are. -/
def usualPlace? (env : Environment) : Option Path :=
  (userDirectory? env "XDG_CONFIG_HOME" ".config").map fun s => ⟨s ++ "/tokenforge/config.toml"⟩

/-- Where the dashboard usually is. -/
def usualDashboard? (env : Environment) : Option Path :=
  (userDirectory? env "XDG_DATA_HOME" ".local/share").map fun s =>
    ⟨s ++ "/tokenforge/dashboard.json"⟩

/-- Where the dashboard is if the command line does not say it. -/
def dashboardPath (s : Settings) (env : Environment) : Except CommandError Path :=
  match s.dashboard, usualDashboard? env with
  | some p, _ | none, some p => .ok p
  | none, none => .error (.configuration "Cannot find data directory")

end Settings
end TokenLaunch
