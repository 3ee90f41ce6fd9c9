/-
# Spec files

A spec can be kept in a file.  The extension of the file's name says in which format; its case does
not matter.  A file is read before its extension is judged.
-/
import TokenLaunch.Command.Error
import TokenLaunch.Json.Reader
import TokenLaunch.Text.Ascii
import TokenLaunch.Toml.Fields
import TokenLaunch.Yaml.Fields

namespace TokenLaunch
namespace SpecFile

/-- A format of spec files. -/
inductive Format
  | json
  | yaml
  | toml
deriving DecidableEq

namespace Format

/-- The format that an extension stands for. -/
def ofExtension? (extension : String) : Option Format :=
  [("json", json), ("yaml", yaml), ("yml", yaml), ("toml", toml)].lookup (Text.lowerCase extension)

/-- The spec that a text of a format describes. -/
def spec? : Format → String → Option Spec
  | json, s => (Json.parse? s).bind Spec.ofJson?
  | yaml, s => Yaml.spec? s
  | toml, s => Toml.spec? s

/-- What is wrong with a text of a format that describes no spec. -/
def complaint : Format → CommandError
  | json => .json "not a spec"
  | yaml => .yaml "not a spec"
  | toml => .invalidSpec "not a spec"

end Format

/-- The spec in a file. -/
def load (d : Disk) (p : Path) : Except CommandError Spec :=
  match d.readText p with
  | .error e => .error (.io e)
  | .ok s =>
    match p.extension?.bind Format.ofExtension? with
    | none => .error (.unsupportedFile p)
    | some format =>
      match format.spec? s with
      | none => .error format.complaint
      | some spec => .ok spec

end SpecFile
end TokenLaunch
