/-
# Errors of a store

A store fails because the file system refuses, because the stored text is no dashboard, or for
reasons of its own.
-/

namespace TokenLaunch

/-- Why a store failed. -/
inductive StoreError
  /-- The file system refused. -/
  | io (reason : String)
  /-- The stored text is no dashboard. -/
  | serialization (reason : String)
  /-- The store itself refused. -/
  | backend (reason : String)
deriving DecidableEq

namespace StoreError

/-- The sentence that reports an error. -/
def message : StoreError → String
  | io reason => "io error: " ++ reason
  | serialization reason => "serialization error: " ++ reason
  | backend reason => "backend error: " ++ reason

end StoreError
end TokenLaunch
