/-
# Requests

What a user asks the program for, with all that the command line says about it.
-/
import TokenLaunch.Command.Output
import TokenLaunch.Command.SpecSource

namespace TokenLaunch

/-- How a token is to be launched. -/
structure LaunchOptions where
  /-- The chain of the wallet, unless the settings are to decide. -/
  chainId : Option UInt64 := none
  /-- Where the simulated executor's words come from, unless they are to be unforeseeable. -/
  seed : Option UInt64 := none
  /-- Whether the phases take no time. -/
  instant : Bool := false
deriving DecidableEq

/-- What the program is asked for. -/
inductive Request
  /-- The source of a spec, on the standard output or in a file. -/
  | generate (source : SpecSource) (out : Option Path)
  /-- A summary of the contract of a spec. -/
  | inspect (source : SpecSource)
  /-- The features of a standard. -/
  | features (standard : String)
  /-- A launch of a spec. -/
  | deploy (source : SpecSource) (options : LaunchOptions)
  /-- The launched tokens, of a standard if one is given. -/
  | listTokens (standard : Option String)
  /-- The token with an id or at an address. -/
  | showToken (key : String)
  | removeToken (id : String)
  /-- Say of the tokens at an address whether they are verified. -/
  | markToken (address : String) (verified : Bool)
  /-- The node to talk to, or another one in its place. -/
  | endpoint (other : Option String)
  | showSettings
deriving DecidableEq

/-- A request with what is said about the program as a whole. -/
structure Invocation where
  /-- Where the settings are, unless in the usual place. -/
  settings : Option Path
  /-- Where the dashboard is, unless the settings say it. -/
  dashboard : Option Path
  format : OutputFormat
  request : Request
deriving DecidableEq

end TokenLaunch
