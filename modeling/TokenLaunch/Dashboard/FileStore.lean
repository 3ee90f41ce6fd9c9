/-
# A store on disk

The dashboard is kept as text in a file.  To save it, the directories that lead to the file are
made, the text is written to a temporary file beside it, and that file is moved over the old one;
so at any moment the file holds one whole dashboard, the old one or the new one.  A missing file
reads as the dashboard that nothing has happened to.
-/
import TokenLaunch.Dashboard.Store
import TokenLaunch.Storage.Disk

namespace TokenLaunch

/-- The file beside a file that is written first. -/
def Path.temporary (p : Path) : Path :=
  p.withFileName (p.fileName?.getD "" ++ ".tmp")

namespace FileStore

/-! ## Loading -/

/-- The dashboard in a file. -/
def load (p : Path) (d : Disk) : Except StoreError Dashboard :=
  match d.readText p with
  | .ok s =>
    match Dashboard.parse? s with
    | some b => .ok b
    | none => .error (.serialization "not a dashboard")
  | .error .notFound => .ok {}
  | .error e => .error (.io e.message)

/-! ## Saving, in steps -/

/-- The operations that save a dashboard in a file. -/
def saving (p : Path) (b : Dashboard) : List Operation :=
  [.makeParents p, .write p.temporary b.text.toByteArray, .rename p.temporary p]

/-- Save a dashboard in a file. -/
def save (p : Path) (b : Dashboard) (d : Disk) : Except StoreError Unit × Disk :=
  match d.performAll (saving p b) with
  | (.ok (), d) => (.ok (), d)
  | (.error e, d) => (.error (.io e.message), d)

end FileStore

/-- The store that keeps the dashboard in a file of a disk. -/
def Store.onDisk (p : Path) : Store Disk where
  name := "json-file"
  load d := (FileStore.load p d, d)
  save := FileStore.save p

end TokenLaunch
