/-
# Disks

A disk holds files and directories under one root.  A place on it is the list of the names that
lead there from the root.  Every operation either does the whole of what it says or is refused, and
changes nothing then; only of directories on a way those are made that come before what is in the
way.
-/
import TokenLaunch.Storage.Path

namespace TokenLaunch

/-- Why a disk refuses an operation. -/
inductive Refusal
  | notFound
  | fileExists
  | notADirectory
  | isADirectory
  /-- The contents of the file are no text. -/
  | notText
deriving DecidableEq

namespace Refusal

/-- The sentence that reports a refusal. -/
def message : Refusal → String
  | notFound => "No such file or directory (os error 2)"
  | fileExists => "File exists (os error 17)"
  | notADirectory => "Not a directory (os error 20)"
  | isADirectory => "Is a directory (os error 21)"
  | notText => "stream did not contain valid UTF-8"

end Refusal

/-- What a place holds. -/
inductive Entry
  | file (contents : ByteArray)
  | directory

/-- An operation that changes a disk. -/
inductive Operation
  /-- Make the directories that lead to what a path leads to. -/
  | makeParents (p : Path)
  | write (p : Path) (contents : ByteArray)
  | rename (source target : Path)

/-- A disk: what is at which place.  It also remembers the operations that were performed on it, so
that they can be repeated on another disk. -/
structure Disk where
  entries : List (List String × Entry) := []
  /-- The operations that were performed, in order, and those that were refused but may have made
  directories. -/
  performed : List Operation := []

namespace Disk

/-! ## Places -/

/-- Whether a place is a root: that of relative paths or that of the machine. -/
def isRoot (place : List String) : Bool :=
  place == [] || place == [""]

/-- What is at a place.  A root is always a directory. -/
def lookup? (d : Disk) (place : List String) : Option Entry :=
  if isRoot place then some .directory
  else (d.entries.find? fun e => e.1 == place).map Prod.snd

/-- Put something at a place. -/
def put (d : Disk) (place : List String) (e : Entry) : Disk :=
  { d with entries := (place, e) :: d.entries }

/-- Leave nothing at a place. -/
def clear (d : Disk) (place : List String) : Disk :=
  { d with entries := d.entries.filter fun e => e.1 != place }

theorem lookup?_put (d : Disk) (place other : List String) (e : Entry)
    (h : isRoot place = false) :
    (d.put place e).lookup? other = if other = place then some e else d.lookup? other := by
  unfold lookup? put
  by_cases h1 : other = place
  · subst h1
    simp [h]
  · have : (place == other) = false := by simpa using fun hp => h1 hp.symm
    simp [h1, this]

theorem lookup?_clear (d : Disk) (place other : List String) (h : isRoot place = false) :
    (d.clear place).lookup? other = if other = place then none else d.lookup? other := by
  unfold lookup? clear
  by_cases h1 : other = place
  · subst h1
    simp [h]
  · have : (fun e : List String × Entry => decide ((e.1 != place) = true ∧ (e.1 == other) = true)) =
        fun e => e.1 == other := by
      funext e
      by_cases he : e.1 = other <;> simp [he, h1]
    simp only [h1, if_false, List.find?_filter, this]

/-- The place one name further on. -/
def next (place : List String) (name : String) : List String :=
  if name = ".." then (if isRoot place then place else place.dropLast) else place ++ [name]

/-- The place that names lead to from a place.  All but the last must be directories. -/
def walk (d : Disk) (place : List String) : List String → Except Refusal (List String)
  | [] => .ok place
  | name :: rest =>
    match d.lookup? place with
    | some .directory => walk d (next place name) rest
    | some (.file _) => .error .notADirectory
    | none => .error .notFound

/-- The root that a path starts from. -/
def root (p : Path) : List String :=
  if p.isAbsolute then [""] else []

/-- The place that a path leads to. -/
def locate (d : Disk) (p : Path) : Except Refusal (List String) :=
  if p.text = "" then .error .notFound else d.walk (root p) p.names

/-! ## Operations -/

/-- The contents of a file. -/
def read (d : Disk) (p : Path) : Except Refusal ByteArray := do
  match d.lookup? (← d.locate p) with
  | some (.file contents) => if p.mustBeDirectory then .error .notADirectory else .ok contents
  | some .directory => .error .isADirectory
  | none => .error .notFound

/-- The contents of a file as text. -/
def readText (d : Disk) (p : Path) : Except Refusal String := do
  match String.fromUTF8? (← d.read p) with
  | some s => .ok s
  | none => .error .notText

/-- Give a file the contents, whether it was there or not.  Its directory must be there. -/
def write (d : Disk) (p : Path) (contents : ByteArray) : Except Refusal Disk := do
  let place ← d.locate p
  match d.lookup? place with
  | some .directory => .error .isADirectory
  | _ => if p.mustBeDirectory then .error .isADirectory else .ok (d.put place (.file contents))

/-- Make the directories that are missing on the way along names, one after another. -/
def make (d : Disk) (place : List String) : List String → Except Refusal Disk
  | [] => .ok d
  | name :: rest =>
    let place := next place name
    match d.lookup? place with
    | some .directory => make d place rest
    | some (.file _) => .error .fileExists
    | none => make (d.put place .directory) place rest

/-- Make the directories that are missing on the way along as many of the first `n` names as can
be gone along. -/
def makeSome (d : Disk) (place names : List String) : Nat → Disk
  | 0 => d
  | n + 1 =>
    match d.make place (names.take (n + 1)) with
    | .ok after => after
    | .error _ => makeSome d place names n

/-- Make the last directory along names, and the others before it if something on the way is missing.
A file in the way is met on the walk to the last directory, or else where a directory is to be
made. -/
def makeAll (d : Disk) (place names : List String) : Except Refusal Disk :=
  match d.walk place names with
  | .error .notADirectory => .error .notADirectory
  | _ => d.make place names

/-- Make a directory and all directories that lead to it. -/
def makeDirectories (d : Disk) (p : Path) : Except Refusal Disk :=
  d.makeAll (root p) p.names

/-- Make all directories that lead to what a path leads to. -/
def makeParents (d : Disk) (p : Path) : Except Refusal Disk :=
  d.makeAll (root p) p.names.dropLast

/-- Move a file to another place, over any file that was there. -/
def rename (d : Disk) (source target : Path) : Except Refusal Disk := do
  let fromPlace ← d.locate source
  let toPlace ← d.locate target
  match d.lookup? fromPlace, d.lookup? toPlace with
  | some (.file contents), some (.file _) | some (.file contents), none =>
    if target.mustBeDirectory then .error .notADirectory
    else .ok ((d.clear fromPlace).put toPlace (.file contents))
  | some (.file _), some .directory => .error .isADirectory
  | _, _ => .error .notFound

/-- Remove a file. -/
def delete (d : Disk) (p : Path) : Except Refusal Disk := do
  let place ← d.locate p
  match d.lookup? place with
  | some (.file _) => .ok (d.clear place)
  | some .directory => .error .isADirectory
  | none => .error .notFound

/-- Whether a path leads to something. -/
def holds (d : Disk) (p : Path) : Bool :=
  match (d.locate p).toOption.bind d.lookup? with
  | some .directory => true
  | some (.file _) => !p.mustBeDirectory
  | none => false

/-! ## Operations that are remembered -/

/-- Perform an operation. -/
def perform (d : Disk) (op : Operation) : Except Refusal Disk := do
  let after ← match op with
    | .makeParents p => d.makeParents p
    | .write p contents => d.write p contents
    | .rename source target => d.rename source target
  return { after with performed := d.performed ++ [op] }

/-- What the disk holds after an operation that it refuses. -/
def afterRefusal (d : Disk) (op : Operation) : Disk :=
  match op with
  | .makeParents p =>
    { d.makeSome (root p) p.names.dropLast p.names.length with performed := d.performed ++ [op] }
  | .write _ _ | .rename _ _ => d

/-- Perform operations in order, up to the first that is refused.  The answer says why it was, and
what the disk holds then. -/
def performAll (d : Disk) : List Operation → Except Refusal Unit × Disk
  | [] => (.ok (), d)
  | op :: rest =>
    match d.perform op with
    | .ok after => performAll after rest
    | .error e => (.error e, d.afterRefusal op)

end Disk
end TokenLaunch
