/-
# Errors of a command

Why a command did not do what it was asked for.  The command line itself was in order; a wrong
command line is refused before any command begins.
-/
import TokenLaunch.Launch.Failure
import TokenLaunch.Storage.Disk

namespace TokenLaunch

/-- Why a command failed. -/
inductive CommandError
  /-- The settings are wrong, or a place that they should name is missing. -/
  | configuration (reason : String)
  /-- A text in TOML is no spec. -/
  | invalidSpec (reason : String)
  /-- A spec file has no extension that stands for a format. -/
  | unsupportedFile (p : Path)
  /-- The dashboard has no such token. -/
  | notFound (what : String)
  | unknownStandard (e : UnknownStandard)
  | launch (f : Failure)
  | store (e : StoreError)
  /-- The disk refused. -/
  | io (e : Refusal)
  /-- A text in JSON is no spec. -/
  | json (reason : String)
  /-- A text in YAML is no spec. -/
  | yaml (reason : String)

namespace CommandError

/-- The sentence that reports an error. -/
def message : CommandError → String
  | configuration reason => "configuration error: " ++ reason
  | invalidSpec reason => "invalid spec: " ++ reason
  | unsupportedFile p => "invalid spec: unsupported spec file extension: " ++ p.text
  | notFound what => "not found: " ++ what
  | unknownStandard e => e.message
  | launch f => f.message
  | store e => e.message
  | io e => "io error: " ++ e.message
  | json reason => "json error: " ++ reason
  | yaml reason => "yaml error: " ++ reason

end CommandError
end TokenLaunch
