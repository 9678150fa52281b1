import PolicyTree.Map.Sorted
/-
  Who asks: an id with the roles and authorisations that come with it.
-/
namespace PolicyTree

/-- A requester, as established elsewhere. -/
structure User where
  id : String
  roles : NameSet
  auths : NameSet
  deriving DecidableEq

namespace User

/-- A user who holds nothing. -/
def named (id : String) : User := ⟨id, .empty, .empty⟩

instance : Inhabited User := ⟨named ""⟩

/-- The user with further roles. -/
def withRoles (u : User) (roles : List String) : User := { u with roles := u.roles.insertAll roles }

/-- The user with further authorisations. -/
def withAuths (u : User) (auths : List String) : User := { u with auths := u.auths.insertAll auths }

def hasRole (u : User) (role : String) : Bool := u.roles.contains role

def hasAuth (u : User) (auth : String) : Bool := u.auths.contains auth

end User

end PolicyTree
