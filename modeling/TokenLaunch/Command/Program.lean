/-
# The program

The program as a function: it takes the arguments of its command line and what it finds around it,
and answers with what it writes, how it ends, and the disk that it leaves behind.
-/
import TokenLaunch.Command.Run

namespace TokenLaunch
namespace Program

/-- How the program ended. -/
structure Ending where
  /-- Zero for success, one for a request that failed, two for a wrong command line. -/
  code : UInt8
  /-- What was written on the standard output. -/
  output : String
  /-- What was written on the standard error output. -/
  complaint : String
  disk : Disk
  /-- How many milliseconds it took. -/
  elapsed : Nat := 0

/-- The name of the program and its version. -/
def versionText : String := "tokenforge 0.1.0\n"

/-- How to use the program. -/
def usageText : String :=
  "Usage: tokenforge [OPTIONS] <COMMAND>\n\n" ++
    "Commands: generate, inspect, features, deploy, tokens, rpc, config\n" ++
    "Options: --config <CONFIG>, --state <STATE>, --output <table|json|yaml>, --verbose\n"

/-- How a request that was run ends the program. -/
def Ending.ofPerformed (p : Performed) : Ending :=
  match p.result with
  | .ok () => ⟨0, p.output, "", p.disk, p.elapsed⟩
  | .error e => ⟨1, p.output, Output.line ("✗ " ++ e.message), p.disk, p.elapsed⟩

/-- Run the program. -/
def run (args : List String) (w : Surroundings) : Ending :=
  match CommandLine.parse w.environment args with
  | .error .usage => { code := 2, output := "", complaint := usageText, disk := w.disk }
  | .error .help => { code := 0, output := usageText, complaint := "", disk := w.disk }
  | .error .version => { code := 0, output := versionText, complaint := "", disk := w.disk }
  | .ok i => .ofPerformed (i.run w)

end Program
end TokenLaunch
