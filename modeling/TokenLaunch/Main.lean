/-
# The command line program

This is the program around `Program.run`.  It looks up the part of the file system that a command
line is about, draws what must be unforeseeable, runs the program on that, and repeats on the file
system what the program did to its disk.
-/
import Std.Time.DateTime.Timestamp
import TokenLaunch.Command.Program
import TokenLaunch.Text.Uuid

namespace TokenLaunch
namespace Program

/-! ## Looking around -/

/-- The names of the environment that the program knows. -/
def environmentNames : List String :=
  ["TOKENFORGE_CONFIG", "TOKENFORGE_STATE", "TOKENFORGE_CHAIN_ID", "XDG_CONFIG_HOME",
    "XDG_DATA_HOME", "HOME"]

/-- The environment. -/
def lookAtEnvironment : IO Environment := do
  let found ← environmentNames.mapM fun name => return (name, ← IO.getEnv name)
  return fun name => (found.lookup name).join

/-- What the file system has under a path whose directory is there. -/
def lookAt (path : String) : IO (Option Entry) := do
  try
    return some (.file (← IO.FS.readBinFile path))
  catch e =>
    match e with
    | .noFileOrDirectory .. => return none
    | .inappropriateType .. => return some .directory
    | e => throw e

/-- Copy what is on the way along names from the file system to a disk. -/
def copyAlong (d : Disk) (place : List String) (path : String) : List String → IO Disk
  | [] => return d
  | name :: rest => do
    let place := Disk.next place name
    let path := path ++ name
    match d.lookup? place with
    | some .directory => copyAlong d place (path ++ "/") rest
    | some (.file _) => return d
    | none =>
      match (← lookAt path) with
      | some .directory => copyAlong (d.put place .directory) place (path ++ "/") rest
      | some e => return d.put place e
      | none => return d

/-- Copy what is on the way of a path from the file system to a disk. -/
def copy (d : Disk) (p : Path) : IO Disk :=
  copyAlong d (Disk.root p) (if p.isAbsolute then "/" else "") p.names

/-- Copy what an invocation is about from the file system to a disk. -/
def lookAtDisk (env : Environment) (i : Invocation) : IO Disk := do
  let d ← (i.settingsPath env).toList.foldlM copy {}
  (i.paths env d).foldlM copy d

/-- What must be unforeseeable, and the time. -/
def lookAtTime : IO (Stamp × Words) := do
  let id := Uuid.ofRandom (← IO.getRandomBytes 16).toList
  let seed := (← IO.getRandomBytes 8).toList.foldl (fun n b => n * 0x100 + b.toUInt64) 0
  let now ← Std.Time.Timestamp.now
  let time := ClockTime.ofUnixTime now.toSecondsSinceUnixEpoch.val.toNat now.val.nano.val.toNat
  return (⟨id, time⟩, .ofSeed seed)

/-! ## Acting -/

/-- Repeat an operation on the file system.  If directories cannot be made, the disk has refused
that too, or the file system will refuse what is to be put into them. -/
def act : Operation → IO Unit
  | .makeParents p => do
    let parents := "/".intercalate p.names.dropLast
    if !parents.isEmpty then
      try
        IO.FS.createDirAll ((if p.isAbsolute then "/" else "") ++ parents)
      catch _ => return
  | .write p contents => IO.FS.writeBinFile p.text contents
  | .rename source target => IO.FS.rename source.text target.text

/-- The longest time that the program waits, in milliseconds. -/
def longestWait : Nat := UInt32.size - 1

/-- Run the program with the arguments of its command line. -/
def perform (args : List String) : IO UInt32 := do
  let env ← lookAtEnvironment
  let disk ← match CommandLine.parse env args with
    | .ok i => lookAtDisk env i
    | .error _ => pure {}
  let (stamp, entropy) ← lookAtTime
  let e := run args ⟨env, disk, stamp, entropy⟩
  IO.sleep (UInt32.ofNat (min e.elapsed longestWait))
  e.disk.performed.forM act
  IO.print e.output
  IO.eprint e.complaint
  return e.code.toUInt32

end Program
end TokenLaunch

/-- Run the program; what the file system refuses is reported like any other failure. -/
def main (args : List String) : IO UInt32 := do
  try
    TokenLaunch.Program.perform args
  catch e =>
    IO.eprintln ("✗ io error: " ++ toString e)
    return 1
