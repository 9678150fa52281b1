import PolicyTree.Context
import PolicyTree.Json.Reading
/-
  Contexts in documents: texts under names, the purpose among them.
-/
namespace PolicyTree.Context

/-- Read a context. -/
def read {ν : Type} (reading : Reading ν) (value : ν) : Option Context := do
  let entries ← reading.textMap value
  (ofEntries entries).toOption

/-- A context as JSON. -/
def toJson (context : Context) : Json :=
  .object (context.entries.entries.map fun (key, value) => (key, .text value))

end PolicyTree.Context
