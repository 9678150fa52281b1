import PolicyTree.Json.Basic
import PolicyTree.Resource.Basic
import PolicyTree.Rule.Basic
/-
  The rules that come with the library. Gates look at the user and the context only.
  Beside the gates there is one rule about resources, which asks for a format, and there
  are two about records, which take fields out or cover them.
-/
namespace PolicyTree

/-! ## Gates -/

/-- A condition on the user and the context. -/
inductive Gate where
  | pass
  | purpose (wanted : String)
  | role (wanted : String)
  | auth (wanted : String)
  deriving DecidableEq, Repr

namespace Gate

/-- Whether the condition holds. -/
def accepts (user : User) (context : Context) : Gate → Bool
  | .pass => true
  | .purpose wanted => context.purpose == wanted
  | .role wanted => user.hasRole wanted
  | .auth wanted => user.hasAuth wanted

/-- Let a value through when the condition holds. -/
def judge {α : Type} (gate : Gate) : Judgement α :=
  .ofTest fun _ user context => gate.accepts user context

end Gate

/-! ## Resources -/

/-- A rule about whole resources. -/
inductive ResourceRule where
  | gate (condition : Gate)
  | format (wanted : String)
  deriving DecidableEq, Repr

namespace ResourceRule

/-- Whether two texts differ in the case of ASCII letters at most. -/
def equalIgnoringCase (a b : String) : Bool :=
  a.toList.map Char.toLower == b.toList.map Char.toLower

/-- A rule on the format lets through the leaves stored in it, and no other node. -/
def judge : ResourceRule → Judgement Resource
  | .gate condition => condition.judge
  | .format wanted => .ofTest fun resource _ _ =>
    resource.format?.any fun own => equalIgnoringCase own wanted

end ResourceRule

/-! ## Records -/

/-- A rule about single records. -/
inductive RecordRule where
  | gate (condition : Gate)
  | redact (fields : List String) (exempt : Option String)
  | mask (fields : List String) (cover : String)
  deriving DecidableEq, Repr

namespace RecordRule

/-- The members whose names are not among the fields. -/
def withoutFields (fields : List String) (members : List (String × Json)) : List (String × Json) :=
  members.filter fun member => !fields.contains member.1

/-- The members, with the cover as value of those whose names are among the fields. -/
def maskFields (fields : List String) (cover : String) (members : List (String × Json)) :
    List (String × Json) :=
  members.map fun member =>
    if fields.contains member.1 then (member.1, .text cover) else member

/-- Fields are taken out of objects, or covered in them; other records stay as they are. A
user who holds the exempt role sees the fields. -/
def judge : RecordRule → Judgement Json
  | .gate condition => condition.judge
  | .redact fields exempt => fun record user _ =>
    if exempt.any user.hasRole then .allow record
    else
      match record with
      | .object members => .allow (.object (withoutFields fields members))
      | other => .allow other
  | .mask fields cover => fun record _ _ =>
    match record with
    | .object members => .allow (.object (maskFields fields cover members))
    | other => .allow other

end RecordRule

end PolicyTree
