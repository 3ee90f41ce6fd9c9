/-
# Access models

Who may call the privileged methods of a contract.  A spec says it with two flags, and roles win
where both are set.
-/

namespace TokenLaunch

/-- Who may call privileged methods. -/
inductive Access
  /-- Anyone. -/
  | unguarded
  /-- The single owner, at first the deploying account. -/
  | owner
  /-- The holders of named roles, at first the deploying account. -/
  | roles
deriving DecidableEq

namespace Access

/-- The model that the two flags of a spec ask for. -/
def resolve (ownable roleBased : Bool) : Access :=
  if roleBased then roles else if ownable then owner else unguarded

@[simp] theorem resolve_roleBased (ownable : Bool) : resolve ownable true = roles := rfl

end Access
end TokenLaunch
