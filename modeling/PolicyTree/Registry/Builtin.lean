import PolicyTree.Registry.Basic
import PolicyTree.Rule.Builtin
/-
  The identifiers of the rules that come with the library, and the parameters they take.
-/
namespace PolicyTree

open Parameters (required fieldList)

/-- The gate of an identifier, from the parameter of the same name. -/
def Gate.make (wrap : String → Gate) (id : String) (params : Parameters) :
    Except PolicyError Gate :=
  (required id params id).map wrap

/-- What covers a field when no mask is given. -/
def RecordRule.defaultMask : String := "***"

/-- A rule that takes the listed fields out, for all but those who hold `exempt_role`. -/
def RecordRule.makeRedact (params : Parameters) : Except PolicyError RecordRule :=
  (fieldList "redact-fields" params).map fun fields => .redact fields (params.get? "exempt_role")

/-- A rule that covers the listed fields with `mask`. -/
def RecordRule.makeMask (params : Parameters) : Except PolicyError RecordRule :=
  (fieldList "mask-fields" params).map fun fields =>
    .mask fields ((params.get? "mask").getD RecordRule.defaultMask)

/-- A rule that asks for the serialised format `format`. -/
def ResourceRule.makeFormat (params : Parameters) : Except PolicyError ResourceRule :=
  (required "serialised-format" params "format").map .format

/-- The rule about resources that an identifier of the library stands for. -/
def ResourceRule.builtin : List (String × (Parameters → Except PolicyError ResourceRule)) :=
  [("pass-through", fun _ => .ok (.gate .pass)),
   ("serialised-format", makeFormat),
   ("purpose", fun params => (Gate.make .purpose "purpose" params).map .gate),
   ("role", fun params => (Gate.make .role "role" params).map .gate),
   ("auth", fun params => (Gate.make .auth "auth" params).map .gate)]

/-- The rule about records that an identifier of the library stands for. -/
def RecordRule.builtin : List (String × (Parameters → Except PolicyError RecordRule)) :=
  [("pass-through", fun _ => .ok (.gate .pass)),
   ("purpose", fun params => (Gate.make .purpose "purpose" params).map .gate),
   ("role", fun params => (Gate.make .role "role" params).map .gate),
   ("auth", fun params => (Gate.make .auth "auth" params).map .gate),
   ("redact-fields", makeRedact),
   ("mask-fields", makeMask)]

/-- The registry with the rules of the library. -/
def Registry.builtin : Registry where
  resourceRules := .ofList
    (ResourceRule.builtin.map fun (id, make) => (id, fun params => (make params).map (·.judge)))
  recordRules := .ofList
    (RecordRule.builtin.map fun (id, make) => (id, fun params => (make params).map (·.judge)))

end PolicyTree
