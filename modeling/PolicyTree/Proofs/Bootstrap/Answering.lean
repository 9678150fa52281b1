import PolicyTree.Proofs.Access.Caching
import PolicyTree.Proofs.Access.Visibility
import PolicyTree.Proofs.Bootstrap.Population
import PolicyTree.Proofs.Catalog.Reproduction
import PolicyTree.Proofs.Settings.Violations
/-
  When a service that was started answers. Its resources are constructible, the rules of the
  library neither break down nor change a resource, and its memory never fails, so a question
  can only fail on the date until which its cache is to remember an answer: there is none
  beyond the end of the year 9999. `Service.answers_iff` says that this does happen, whenever
  the clock shows such a date.
-/
namespace PolicyTree

namespace Access

variable {σ : Type}

/-! ## Questions -/

/-- A question about resources of a catalog; writes are none. -/
def Request.Asks (catalog : Catalog) : Request → Prop
  | check _ _ resource => resource ∈ catalog.toList
  | visible _ _ resources => ∀ resource ∈ resources, resource ∈ catalog.toList
  | recordRules resources => ∀ resource ∈ resources, resource ∈ catalog.toList
  | directPolicy resource => resource ∈ catalog.toList
  | typePolicy _ => True
  | setResourcePolicy _ _ => False
  | setTypePolicy _ _ => False

/-- No request failed. -/
def Answered (replies : List (Except Failure Response)) : Prop :=
  ∀ reply ∈ replies, ∃ response, reply = .ok response

theorem answered_cons {reply : Except Failure Response} {replies : List (Except Failure Response)} :
    Answered (reply :: replies) ↔ (∃ response, reply = .ok response) ∧ Answered replies :=
  List.forall_mem_cons

/-! ## Over what a store holds -/

section holds

variable {store : Store σ} {state : σ} {held : PolicyKey → Option Policy}

theorem find_of_holds (holds : store.Holds state held) (key : PolicyKey) :
    ∃ next, (store.find key).on state = (.ok (held key), next) ∧ store.Holds next held := by
  obtain ⟨settled, start, step⟩ := holds
  obtain ⟨same, after⟩ := step state start key
  exact ⟨_, Prod.ext same rfl, settled, after, step⟩

theorem visible_of_holds (holds : store.Holds state held) (filtering : Filtering held)
    {resources : List Resource} (constructible : ∀ r ∈ resources, r.Constructible) (user : User)
    (context : Context) :
    ∃ allowed next, (visible store user context resources).on state = (.ok allowed, next) ∧
      store.Holds next held := by
  obtain ⟨decisions, decides⟩ := exists_decides filtering.answering user context resources
  obtain ⟨next, after, seen⟩ := visible_of_decides holds constructible
  exact ⟨_, next, seen user context decisions decides, after⟩

/-- One question is answered, and leaves the store as ready for the next. -/
theorem Request.perform_of_holds (holds : store.Holds state held) (filtering : Filtering held)
    {catalog : Catalog} (constructible : ∀ r ∈ catalog.toList, r.Constructible)
    {request : Request} (asks : request.Asks catalog) :
    ∃ response next, (request.perform store).on state = (.ok response, next) ∧
      store.Holds next held := by
  cases request with
  | check user context resource =>
    obtain ⟨decision, next, run, after, -⟩ :=
      check_of_holds holds filtering (constructible resource asks) user context
    rw [perform, Action.on_bind_of_ok run]
    exact ⟨_, next, rfl, after⟩
  | visible user context resources =>
    obtain ⟨allowed, next, run, after⟩ := visible_of_holds holds filtering
      (fun r mem => constructible r (asks r mem)) user context
    rw [perform, Action.on_bind_of_ok run]
    exact ⟨_, next, rfl, after⟩
  | recordRules resources =>
    obtain ⟨next, run, after⟩ :=
      recordRules_of_holds holds fun r mem => constructible r (asks r mem)
    rw [perform, Action.on_bind_of_ok run]
    exact ⟨_, next, rfl, after⟩
  | directPolicy resource =>
    obtain ⟨next, run, after⟩ := find_of_holds holds (.resource resource.id)
    rw [perform, Action.on_bind_of_ok run]
    exact ⟨_, next, rfl, after⟩
  | typePolicy typeName =>
    obtain ⟨next, run, after⟩ := find_of_holds holds (.type typeName)
    rw [perform, Action.on_bind_of_ok run]
    exact ⟨_, next, rfl, after⟩
  | setResourcePolicy resource policy => exact asks.elim
  | setTypePolicy typeName policy => exact asks.elim

theorem answered_of_holds (holds : store.Holds state held) (filtering : Filtering held)
    {catalog : Catalog} (constructible : ∀ r ∈ catalog.toList, r.Constructible)
    {requests : List Request} (asks : ∀ request ∈ requests, request.Asks catalog) :
    Answered (Action.replies (Request.perform store) requests state).1 := by
  induction requests generalizing state with
  | nil => nofun
  | cons request rest ih =>
    rw [List.forall_mem_cons] at asks
    obtain ⟨response, next, run, after⟩ :=
      Request.perform_of_holds holds filtering constructible asks.1
    rw [Action.replies_cons, run, answered_cons]
    exact ⟨⟨response, rfl⟩, ih after asks.2⟩

end holds

end Access

/-! ## Dates -/

namespace Cache

variable {lifetime : Duration} {clock : Clock} {cache : Cache Memory}

/-- A look-up of what is not remembered needs a date to remember its answer until. -/
theorem find_of_absent (positive : lifetime.isPositive = true) {key : PolicyKey}
    (absent : cache.entries.get? key = none) :
    ((Cache.store Memory.store lifetime clock).find key).on cache =
      match (clock cache.lookups).later? lifetime with
      | some expires =>
        (.ok (cache.inner.get? key),
          { cache with
            misses := cache.misses + 1
            entries := cache.entries.insert key ⟨cache.inner.get? key, expires⟩ })
      | none => (.error .expiryOutOfRange, { cache with misses := cache.misses + 1 }) := by
  have forgotten : cache.remembered? key (clock cache.lookups) = none := by
    rw [remembered?, absent]
  have behind : (Memory.store.find key).on cache.inner =
      (.ok (cache.inner.get? key), cache.inner) := rfl
  show (find Memory.store lifetime clock id key).on cache = _
  simp only [find, Action.on_of, forgotten, behind, remember, positive, id, beq_self_eq_true,
    Bool.and_self, if_true]
  cases (clock cache.lookups).later? lifetime <;> rfl

theorem dated_of_find (positive : lifetime.isPositive = true) {key : PolicyKey}
    (absent : cache.entries.get? key = none) {answer : Option Policy} {next : Cache Memory}
    (found : ((Cache.store Memory.store lifetime clock).find key).on cache = (.ok answer, next)) :
    ((clock cache.lookups).later? lifetime).isSome = true ∧ next.lookups = cache.lookups + 1 ∧
      ∀ other ≠ key, next.entries.get? other = cache.entries.get? other := by
  rw [find_of_absent positive absent] at found
  cases date : (clock cache.lookups).later? lifetime with
  | none =>
    rw [date] at found
    cases found
  | some expires =>
    rw [date] at found
    cases found
    exact ⟨rfl, rfl, fun other ne => OrderedMap.get?_insert_of_ne _ ne _⟩

end Cache

namespace Access

/-- Each of some questions about different data types reads the clock anew, so if all of them
are answered each reading leaves a date. -/
theorem dated_of_answered {lifetime : Duration} {clock : Clock}
    (positive : lifetime.isPositive = true) {names : List String} (nodup : names.Nodup)
    {cache : Cache Memory} (absent : ∀ name ∈ names, cache.entries.get? (.type name) = none)
    (answered : Answered (Action.replies
      (Request.perform (Cache.store Memory.store lifetime clock)) (names.map .typePolicy) cache).1)
    (i : Nat) (lt : i < names.length) :
    ((clock (cache.lookups + i)).later? lifetime).isSome = true := by
  -- Each miss uses up one reading of the clock and remembers its own name only, so the names
  -- that are left stay absent.
  induction names generalizing cache i with
  | nil => cases lt
  | cons name rest ih =>
    rw [List.nodup_cons] at nodup
    rw [List.map_cons, Action.replies_cons, answered_cons] at answered
    obtain ⟨⟨response, first⟩, others⟩ := answered
    rcases found : ((Cache.store Memory.store lifetime clock).find (.type name)).on cache with
      ⟨failure | policy, next⟩
    · rw [Request.perform, Action.on_bind_of_error found] at first
      cases first
    · rw [Request.perform, Action.on_bind_of_ok found, Action.on_pure] at others
      obtain ⟨date, lookups, kept⟩ :=
        Cache.dated_of_find positive (absent name List.mem_cons_self) found
      cases i with
      | zero => exact date
      | succ i =>
        have still : ∀ other ∈ rest, next.entries.get? (.type other) = none := by
          intro other mem
          have ne : PolicyKey.type other ≠ .type name := by
            rintro ⟨⟩
            exact nodup.1 mem
          rw [kept _ ne]
          exact absent other (List.mem_cons_of_mem _ mem)
        have later := ih nodup.2 still others i (Nat.lt_of_succ_lt_succ lt)
        rw [lookups] at later
        rw [Nat.add_succ, ← Nat.succ_add]
        exact later

/-- There are as many names as one likes. -/
theorem exists_names (n : Nat) : ∃ names : List String, names.Nodup ∧ names.length = n := by
  refine ⟨(List.range n).map fun k => String.ofList (List.replicate k 'a'), ?_, by simp⟩
  refine List.nodup_range.map fun i j same => ?_
  simpa using congrArg String.length same

end Access

/-! ## Settings -/

/-- A valid configuration has a lifetime exactly if its cache is on. -/
theorem Settings.lifetime_isPositive {settings : Settings}
    (valid : settings.validate = .ok ()) :
    settings.caching.lifetime.isPositive = settings.caching.enabled := by
  have lasting := (validate_eq_ok_iff_isSane.1 valid).lifetime
  cases enabled : settings.caching.enabled with
  | false => simp [Caching.lifetime, enabled, Duration.isPositive, Duration.zero]
  | true =>
    have lasts : settings.caching.ttlSecs.toNat ≠ 0 := by
      intro zero
      have same : settings.caching.ttlSecs = 0 := UInt64.toNat_inj.1 zero
      simp [enabled, same] at lasting
    simp only [Caching.lifetime, enabled, if_true, Caching.ttl, Duration.isPositive,
      Duration.ofSeconds, Word.maxSigned, decide_eq_true_eq]
    omega

namespace Service

open Access (Request Answered)

/-- Where the clock always shows a date until which its cache may remember, a service that was
started holds what was written. -/
theorem Starts.holds {registry : Registry} {settings : Settings} {service : Service}
    (starts : service.Starts registry settings) {clock : Clock}
    (dates : settings.caching.enabled = true →
      ∀ n, ((clock n).later? settings.caching.ttl).isSome = true) :
    (service.store clock).Holds service.state service.state.inner.get? := by
  refine starts.unread.coherent.holds fun remembers => ?_
  rw [starts.lifetime, Caching.lifetime] at remembers ⊢
  by_cases enabled : settings.caching.enabled = true
  · rw [if_pos enabled]
    exact dates enabled
  · rw [if_neg enabled] at remembers
    cases remembers

/-- A service started from a valid configuration answers every question about its resources if
and only if it has no cache, or at each reading of the clock there is a date until which the
cache may remember. -/
theorem answers_iff (settings : Settings) (valid : settings.validate = .ok ())
    (service : Service) (started : start .builtin settings = .ok service) (clock : Clock) :
    (∀ requests : List Request, (∀ request ∈ requests, request.Asks service.catalog) →
      Answered (Action.replies (Request.perform (service.store clock)) requests service.state).1) ↔
    (settings.caching.enabled = true →
      ∀ n, ((clock n).later? settings.caching.ttl).isSome = true) := by
  have starts := starts_of_start started
  have positive : service.lifetime.isPositive = settings.caching.enabled := by
    rw [starts.lifetime, Settings.lifetime_isPositive valid]
  have lasting : settings.caching.enabled = true → service.lifetime = settings.caching.ttl := by
    intro enabled
    rw [starts.lifetime, Caching.lifetime, if_pos enabled]
  constructor
  · intro answers enabled n
    obtain ⟨names, nodup, length⟩ := Access.exists_names (n + 1)
    have answered := answers (names.map .typePolicy) (by simp [Request.Asks])
    have absent : ∀ name ∈ names, service.state.entries.get? (.type name) = none := by
      intro name _
      rw [starts.unread.entries, OrderedMap.get?_empty]
    have date := Access.dated_of_answered (positive.trans enabled) nodup absent answered n
      (by omega)
    rw [starts.unread.lookups, Nat.zero_add, lasting enabled] at date
    exact date
  · intro dates requests asks
    exact Access.answered_of_holds (starts.holds dates) (Access.ByLibrary.filtering starts.made)
      (fun _ => Catalog.constructible_of_ofRows starts.catalog) asks

namespace Sample

/-- One system with a policy, and a cache that remembers for so many seconds. -/
def settings (seconds : UInt64) : Settings where
  logging := .default
  caching := ⟨true, seconds⟩
  inventory :=
    ⟨[⟨"s", .system, none, none, none, none⟩],
      [⟨"s", default, [⟨"staff", "role", .ofList [("role", "staff")]⟩], []⟩], []⟩

def asker : User := .named "u"

end Sample

open Sample in
/-- Five minutes after the start of the year 1970 there is a date, and the service answers. -/
theorem answers_iff_minutes :
    (settings 300).validate = .ok () ∧ ∃ service,
      start .builtin (settings 300) = .ok service ∧
      .system "s" ∈ service.catalog.toList ∧
      Answered (Action.replies (Request.perform (service.store fun _ => ⟨0⟩))
        [.check asker (.ofPurpose "audit") (.system "s"), .recordRules [.system "s"]]
        service.state).1 := by
  have valid : (settings 300).validate = .ok () := rfl
  have dates : ((⟨0⟩ : Instant).later? (settings 300).caching.ttl).isSome = true := rfl
  refine ⟨valid, _, rfl, List.mem_singleton.2 rfl, ?_⟩
  refine (answers_iff (settings 300) valid _ rfl _).2 (fun _ _ => dates) _ ?_
  refine List.forall_mem_cons.2 ⟨List.mem_singleton.2 rfl, List.forall_mem_singleton.2 ?_⟩
  exact List.forall_mem_singleton.2 (List.mem_singleton.2 rfl)

open Sample in
/-- After the longest lifetime there is none, and the first question already fails. -/
theorem expiry_out_of_range :
    (settings 18446744073709551615).validate = .ok () ∧ ∃ service,
      start .builtin (settings 18446744073709551615) = .ok service ∧
      .system "s" ∈ service.catalog.toList ∧
      ((Access.check (service.store fun _ => ⟨0⟩) asker (.ofPurpose "audit") (.system "s")).on
        service.state).1 = .error .expiryOutOfRange :=
  ⟨rfl, _, rfl, List.mem_singleton.2 rfl, rfl⟩

end Service

end PolicyTree
