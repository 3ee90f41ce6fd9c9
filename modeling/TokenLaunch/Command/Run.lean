/-
# Running a request

A request is run on a disk.  It writes its output, may change the disk, and succeeds or fails; what
it wrote before it failed stays written.
-/
import TokenLaunch.Command.Settings
import TokenLaunch.Dashboard.FileStore
import TokenLaunch.Launch.Pipeline

namespace TokenLaunch

/-- What a request finds when it is run. -/
structure Surroundings where
  environment : Environment
  disk : Disk
  /-- What the record of a launch is marked with. -/
  stamp : Stamp
  /-- Words that nobody can foresee. -/
  entropy : Words

/-- How a request went. -/
structure Performed where
  /-- What was written on the standard output. -/
  output : String
  result : Except CommandError Unit
  disk : Disk
  /-- How many milliseconds the request took. -/
  elapsed : Nat := 0

namespace Performed

/-- A request that wrote an output, left the disk alone and succeeded. -/
def wrote (d : Disk) (output : String) : Performed := { output, result := .ok (), disk := d }

/-- A request that wrote an output, left the disk alone and failed. -/
def failed (d : Disk) (output : String) (e : CommandError) : Performed :=
  { output, result := .error e, disk := d }

end Performed

namespace Request

open Output (line)

/-- A message about something that was done. -/
def success (message : String) : String := line ("✓ " ++ message)

/-! ## Contracts -/

/-- The warnings about a spec. -/
def warnings (spec : Spec) : String :=
  match spec.readiness with
  | .ready => ""
  | .missingName => line "⚠ token name is empty"
  | .missingSymbol => line "⚠ token symbol is empty"

/-- Write the source of a spec. -/
def runGenerate (source : SpecSource) (out : Option Path) (d : Disk) : Performed :=
  match source.resolve d with
  | .error e => .failed d "" e
  | .ok spec =>
    match spec.generate, out with
    | .error e, _ => .failed d (warnings spec) (.unknownStandard e)
    | .ok text, none => .wrote d (warnings spec ++ text)
    | .ok text, some p =>
      match d.perform (.write p text.toByteArray) with
      | .error e => .failed d (warnings spec) (.io e)
      | .ok d =>
        .wrote d (warnings spec ++
          success ("Wrote " ++ p.text ++ " (" ++ Digits.text text.utf8ByteSize ++ " bytes)"))

/-- The summary of a contract. -/
def summary (c : Contract) : Table where
  headings := ["contract", "standard", "features", "bytes", "hash"]
  rows := [[c.name, c.standard.text, ", ".intercalate c.features, Digits.text c.size,
    c.fingerprint]]

/-- Write the summary of a spec's contract, or all of the contract as a single value. -/
def runInspect (source : SpecSource) (format : OutputFormat) (d : Disk) : Performed :=
  match source.resolve d with
  | .error e => .failed d "" e
  | .ok spec =>
    match spec.contract with
    | .error e => .failed d "" (.unknownStandard e)
    | .ok c =>
      .wrote d (if format = .table then (summary c).written format else c.toJson.written format)

/-- A truth as a word. -/
def yesNo (b : Bool) : String := if b then "yes" else "no"

/-- Which features a standard has. -/
def featureTable (s : Standard) : Table where
  headings := ["feature", "supported"]
  rows := Feature.all.map fun f => [f.displayName, yesNo (f.appliesToStandard s)]

/-- Write which features a standard has. -/
def runFeatures (name : String) (format : OutputFormat) (d : Disk) : Performed :=
  match (Standard.ofText name).kind with
  | .error e => .failed d "" (.unknownStandard e)
  | .ok _ => .wrote d ((featureTable (Standard.ofText name)).written format)

/-! ## Launches -/

/-- What is told of a step while a launch goes on. -/
def stepLine (s : Step) : String :=
  match s.status with
  | .pending => ""
  | .inProgress => line ("… " ++ s.phase.activity ++ "...")
  | .completed =>
    success (s.phase.title ++ (s.detail.map fun text => " (" ++ text ++ ")").getD "")
  | .failed reason => line ("✗ " ++ s.phase.title ++ ": " ++ reason)

/-- What is told before a launch. -/
def announcement (spec : Spec) (chain : UInt64) : String :=
  line ("ℹ Deploying " ++ spec.name ++ " (" ++ spec.standard.text ++ ") on chain " ++
    Digits.text chain.toNat)

/-- What is told after a launch. -/
def conclusion (r : Report) : String :=
  success ("Deployed " ++ r.contract.name ++ " at " ++ r.record.address) ++
    line ("  Transaction: " ++ r.record.transaction) ++
    line ("  Network:     " ++ r.record.network.name) ++
    line ("  Gas:         " ++ r.gasEstimate ++ " ETH")

/-- The pipeline of a launch, and the session that it begins. -/
def pipeline (o : LaunchOptions) (settings : Settings) (dashboard : Path) (entropy : Words) :
    Pipeline Wallet.Simulated Executor.Simulated Disk where
  timing := if o.instant then .instant else settings.timing
  wallet := .simulated
  executor := .simulated ((o.seed.map Words.ofSeed).getD entropy) none
  store := .onDisk dashboard

/-- Launch a spec. -/
def runDeploy (source : SpecSource) (o : LaunchOptions) (settings : Settings) (dashboard : Path)
    (format : OutputFormat) (w : Surroundings) : Performed :=
  match source.resolve w.disk with
  | .error e => .failed w.disk "" e
  | .ok spec =>
    let chain := o.chainId.getD settings.chain
    let went := (pipeline o settings dashboard w.entropy).run w.stamp spec
      { wallet := { chainId := chain }, executor := {}, store := w.disk }
    let told :=
      if format = .table then
        announcement spec chain ++ String.join (went.events.map fun e => stepLine e.step)
      else ""
    match went.result with
    | .error f => ⟨told, .error (.launch f), went.session.store, went.session.clock⟩
    | .ok r =>
      let concluded := if format = .table then conclusion r else r.record.toJson.written format
      ⟨told ++ concluded, .ok (), went.session.store, went.session.clock⟩

/-! ## The dashboard -/

/-- The number of characters of an id that a list shows. -/
def shortId : Nat := 8

/-- The tokens of a list. -/
def tokenTable (tokens : List Record) : Table where
  headings := ["id", "name", "symbol", "standard", "address", "network", "verified", "deployed"]
  rows := tokens.map fun t =>
    [(t.id.take shortId).toString, t.name, t.symbol, t.standard.text, t.address, t.network.name,
      yesNo t.verified, Timestamp.shortText t.deployedAt]

/-- Write what the dashboard says. -/
def reading (dashboard : Path) (d : Disk) (write : Dashboard → Except CommandError String) :
    Performed :=
  match FileStore.load dashboard d with
  | .error e => .failed d "" (.store e)
  | .ok b =>
    match write b with
    | .error e => .failed d "" e
    | .ok text => .wrote d text

/-- Edit the dashboard, and then say what was done or that there was nothing to do. -/
def editing {α : Type} (dashboard : Path) (d : Disk) (edit : Dashboard → α × Dashboard)
    (write : α → Except CommandError String) : Performed :=
  match (Store.onDisk dashboard).update edit d with
  | (.error e, d) => .failed d "" (.store e)
  | (.ok a, d) =>
    match write a with
    | .error e => .failed d "" e
    | .ok text => .wrote d text

/-- Write a list of the tokens of a standard, or of all. -/
def runList (standard : Option String) (format : OutputFormat) (dashboard : Path) (d : Disk) :
    Performed :=
  reading dashboard d fun b =>
    let wanted (t : Record) : Bool := standard.all fun s => t.standard == Standard.ofText s
    .ok ((tokenTable (b.tokens.filter wanted)).written format)

/-- Write a token. -/
def runShow (key : String) (format : OutputFormat) (dashboard : Path) (d : Disk) : Performed :=
  reading dashboard d fun b =>
    match b.find? key with
    | none => .error (.notFound ("token " ++ key))
    | some r => .ok (r.toJson.written format)

/-- Forget a token. -/
def runRemove (id : String) (dashboard : Path) (d : Disk) : Performed :=
  editing dashboard d (Store.removing id) fun found =>
    if found then .ok (success ("Removed token " ++ id)) else .error (.notFound ("token " ++ id))

/-- Say of the tokens at an address whether they are verified. -/
def runMark (address : String) (verified : Bool) (dashboard : Path) (d : Disk) : Performed :=
  editing dashboard d (Store.verifying address verified) fun count =>
    if count = 0 then .error (.notFound ("token at " ++ address))
    else .ok (success
      ("Marked " ++ address ++ " as " ++ if verified then "verified" else "unverified"))

/-- Write the node to talk to, or choose another one. -/
def runEndpoint (other : Option String) (dashboard : Path) (d : Disk) : Performed :=
  match other with
  | none => reading dashboard d fun b => .ok (line b.rpcEndpoint)
  | some node =>
    editing dashboard d (Store.redirecting node) fun _ =>
      .ok (success ("RPC endpoint set to " ++ node))

/-! ## All requests -/

/-- Write the settings. -/
def runShowSettings (settings : Settings) (dashboard : Path) (d : Disk) : Performed :=
  .wrote d
    (line ("State file: " ++ dashboard.text) ++
      line ("Chain id: " ++ Digits.text settings.chain.toNat) ++
      line ("Config: " ++ settings.shown))

/-- Run a request with settings and the place of the dashboard. -/
def run (settings : Settings) (dashboard : Path) (format : OutputFormat) (w : Surroundings) :
    Request → Performed
  | generate source out => runGenerate source out w.disk
  | inspect source => runInspect source format w.disk
  | features standard => runFeatures standard format w.disk
  | deploy source options => runDeploy source options settings dashboard format w
  | listTokens standard => runList standard format dashboard w.disk
  | showToken key => runShow key format dashboard w.disk
  | removeToken id => runRemove id dashboard w.disk
  | markToken address verified => runMark address verified dashboard w.disk
  | endpoint other => runEndpoint other dashboard w.disk
  | showSettings => runShowSettings settings dashboard w.disk

end Request

namespace Request

/-- The files that a request names. -/
def paths : Request → List Path
  | generate source out => source.file.toList ++ out.toList
  | inspect source | deploy source _ => source.file.toList
  | _ => []

end Request

namespace Invocation

/-- Where the settings are. -/
def settingsPath (i : Invocation) (env : Environment) : Option Path :=
  i.settings.or (Settings.usualPlace? env)

/-- The settings, and where the dashboard is. -/
def prepare (i : Invocation) (env : Environment) (d : Disk) :
    Except CommandError (Settings × Path) :=
  match ((i.settingsPath env).map (Settings.load d)).getD (.ok {}) with
  | .error e => .error e
  | .ok settings =>
    ((i.dashboard.map .ok).getD (settings.dashboardPath env)).map fun p => (settings, p)

/-- Run an invocation: read the settings, find the dashboard and run the request. -/
def run (i : Invocation) (w : Surroundings) : Performed :=
  match i.prepare w.environment w.disk with
  | .error e => .failed w.disk "" e
  | .ok (settings, dashboard) => i.request.run settings dashboard i.format w

/-- The files that an invocation is about, as the settings on a disk say. -/
def paths (i : Invocation) (env : Environment) (d : Disk) : List Path :=
  match i.prepare env d with
  | .error _ => []
  | .ok (_, dashboard) => dashboard :: dashboard.temporary :: i.request.paths

end Invocation
end TokenLaunch
