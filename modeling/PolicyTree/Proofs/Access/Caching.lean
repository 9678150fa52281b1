import PolicyTree.Proofs.Access.Reading
import PolicyTree.Proofs.Store.Coherence
/-
  The questions about access over a cache. `Request` lists what an evaluator does for its
  callers; whatever run of it is made over a cache in front of a memory, it ends as over the
  memory itself (`cached_runs_agree`).
-/
namespace PolicyTree.Access

/-- What an evaluator can be asked. -/
inductive Request where
  | check (user : User) (context : Context) (resource : Resource)
  | visible (user : User) (context : Context) (resources : List Resource)
  | recordRules (resources : List Resource)
  | setResourcePolicy (resource : Resource) (policy : Policy)
  | setTypePolicy (typeName : String) (policy : Policy)
  | directPolicy (resource : Resource)
  | typePolicy (typeName : String)

/-- What an evaluator answers. -/
inductive Response where
  | decision (decision : Decision)
  | visible (resources : List Resource)
  | recordRules (rules : RecordRuleMap)
  | stored (policy : Policy)
  | policy (policy : Option Policy)

variable {σ τ : Type}

/-- A request to an evaluator over a store. -/
def Request.perform (store : Store σ) : Request → Action σ Response
  | check user context resource => return .decision (← Access.check store user context resource)
  | visible user context resources =>
    return .visible (← Access.visible store user context resources)
  | recordRules resources => return .recordRules (← Access.recordRules store resources)
  | setResourcePolicy resource policy =>
    return .stored (← store.save (.resource resource.id) policy)
  | setTypePolicy typeName policy => return .stored (← store.save (.type typeName) policy)
  | directPolicy resource => return .policy (← store.find (.resource resource.id))
  | typePolicy typeName => return .policy (← store.find (.type typeName))

/-- The request writes nothing. -/
def Request.Reads : Request → Prop
  | setResourcePolicy _ _ => False
  | setTypePolicy _ _ => False
  | _ => True

section simulates

variable {R : σ → τ → Prop} {left : Store σ} {right : Store τ}

theorem Request.perform_simulates_of_reads (finds : Store.FindsAlike R left right)
    {request : Request} (reads : request.Reads) :
    Action.Simulates R (request.perform left) (request.perform right) := by
  cases request with
  | check user context resource =>
    exact (check_simulates finds user context resource).bind fun _ => .pure _
  | visible user context resources =>
    exact (visible_simulates finds user context resources).bind fun _ => .pure _
  | recordRules resources => exact (recordRules_simulates finds resources).bind fun _ => .pure _
  | setResourcePolicy resource policy => exact reads.elim
  | setTypePolicy typeName policy => exact reads.elim
  | directPolicy resource => exact (finds _).bind fun _ => .pure _
  | typePolicy typeName => exact (finds _).bind fun _ => .pure _

/-- Over two stores that cannot be told apart each request ends alike. -/
theorem Request.perform_simulates (finds : Store.FindsAlike R left right)
    (saves : Store.SavesAlike R left right) (request : Request) :
    Action.Simulates R (request.perform left) (request.perform right) := by
  cases request with
  | setResourcePolicy resource policy => exact (saves _ policy).bind fun _ => .pure _
  | setTypePolicy typeName policy => exact (saves _ policy).bind fun _ => .pure _
  | _ => exact perform_simulates_of_reads finds trivial

end simulates

/-- A cache in front of a memory cannot be told from what it stands for: requests to the cache
are answered as by two maps, and an evaluator over the cache answers as one over the memory. -/
theorem cached_runs_agree (lifetime : Duration) (clock : Clock)
    (datable : lifetime.isPositive = true → ∀ n, ((clock n).later? lifetime).isSome = true)
    (memory : Memory) :
    (∀ requests : List CacheRequest,
      (Action.replies (CacheRequest.onCache Memory.store lifetime clock) requests
          (.around memory)).1 =
        (Action.replies CacheRequest.onMaps requests (.of memory)).1) ∧
    ∀ requests : List Request,
      (Action.replies (Request.perform (Cache.store Memory.store lifetime clock)) requests
          (.around memory)).1 =
        (Action.replies (Request.perform Memory.store) requests memory).1 := by
  refine ⟨CacheRequest.replies_onCache datable memory, fun requests => ?_⟩
  have alike := Request.perform_simulates (Cache.findsAlike datable) Cache.savesAlike
  exact (Action.replies_of_simulates alike requests ⟨rfl, Cache.coherent_around memory⟩).1

namespace Sample

/-- A clock that goes back and forth, past the date at which a look-up expires. -/
def clock : Clock := fun n => if n % 2 = 0 then ⟨0⟩ else ⟨1000000000000⟩

theorem clock_datable (n : Nat) : ((clock n).later? (.ofSeconds 300)).isSome = true := by
  unfold clock
  split <;> decide

/-- A resource and a data type of one name, looked up before and after a write of the one. -/
def requests : List CacheRequest :=
  [.find (.resource "a"), .find (.type "a"), .save (.resource "a") default,
    .find (.resource "a"), .find (.type "a")]

end Sample

open Sample in
/-- The write is seen under its own key, and not under the other. -/
theorem cached_runs_agree_requests :
    ((Duration.ofSeconds 300).isPositive = true →
        ∀ n, ((clock n).later? (.ofSeconds 300)).isSome = true) ∧
      (Action.replies (CacheRequest.onCache Memory.store (.ofSeconds 300) clock) requests
          (.around .empty)).1 =
        [.ok (.found none), .ok (.found none), .ok (.saved default), .ok (.found (some default)),
          .ok (.found none)] := by
  have agree := cached_runs_agree (.ofSeconds 300) clock (fun _ => clock_datable) .empty
  refine ⟨fun _ => clock_datable, ?_⟩
  rw [agree.1 requests]
  rfl

end PolicyTree.Access
