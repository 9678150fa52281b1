import PolicyTree.Json.Reading
import PolicyTree.User
/-
  Users in documents: an id, and roles and authorisations that may be left out.
-/
namespace PolicyTree.User

/-- Read a user. -/
def read {ν : Type} (reading : Reading ν) (value : ν) : Option User := do
  let fields ← reading.record ["id", "roles", "auths"] value
  return {
    id := ← Reading.required reading.text fields "id"
    roles := ← Reading.withDefault reading.nameSet .empty fields "roles"
    auths := ← Reading.withDefault reading.nameSet .empty fields "auths" }

/-- A member for a set of names, if there is one in it. -/
def setMember (name : String) (names : NameSet) : List (String × Json) :=
  if names.isEmpty then [] else [(name, .texts names.names)]

/-- A user as JSON; empty sets are left out. -/
def toJson (user : User) : Json :=
  .ofMembers (("id", .text user.id) :: setMember "roles" user.roles ++ setMember "auths" user.auths)

end PolicyTree.User
