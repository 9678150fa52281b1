import Mathlib.Logic.Function.Basic
import PolicyTree.Store.Memory
/-
  Steps on two places compared. `Action.Simulates` says that two steps, begun in related
  states, give the same answer or the same failure and leave related states; steps put
  together from such steps are such steps again (`Simulates.bind`), and so are runs of
  requests (`replies_of_simulates`).

  `Store.Replies` says of one state of a store what each look-up will answer from there on,
  however many look-ups come before it. Whoever only reads then gets the answer that a
  store without any state would give (`Replies.of_simulates`). `Store.Keeps` says the same of
  writes as well, for a store that never fails.
-/
namespace PolicyTree

variable {σ τ α β : Type}

/-- A result whose error is reported as another one. -/
theorem mapError_eq_ok_iff {ε ε' : Type} {f : ε → ε'} {step : Except ε α} {value : α} :
    step.mapError f = .ok value ↔ step = .ok value := by
  cases step with
  | error error => exact iff_of_false nofun nofun
  | ok found =>
    show Except.ok found = .ok value ↔ _
    rw [Except.ok.injEq, Except.ok.injEq]

section steps

variable {ε : Type} {step : ExceptT ε (StateM σ) α} {state after : σ}

/-- A step that succeeds is followed by the next one, in the state that it leaves. -/
theorem run_bind_of_ok {value : α} (h : step.run.run state = (.ok value, after))
    (next : α → ExceptT ε (StateM σ) β) :
    (step >>= next).run.run state = (next value).run.run after := by
  show ExceptT.bindCont next (step.run.run state).1 (step.run.run state).2 = _
  rw [h]
  rfl

/-- A step that fails is the last one. -/
theorem run_bind_of_error {error : ε} (h : step.run.run state = (.error error, after))
    (next : α → ExceptT ε (StateM σ) β) :
    (step >>= next).run.run state = (.error error, after) := by
  show ExceptT.bindCont next (step.run.run state).1 (step.run.run state).2 = _
  rw [h]
  rfl

end steps

namespace Action

/-! ## One step -/

@[simp] theorem on_pure (value : α) (state : σ) :
    (pure value : Action σ α).on state = (.ok value, state) := rfl

theorem on_bind_of_ok {action : Action σ α} {state after : σ} {value : α}
    (h : action.on state = (.ok value, after)) (next : α → Action σ β) :
    (action >>= next).on state = (next value).on after :=
  run_bind_of_ok h next

theorem on_bind_of_error {action : Action σ α} {state after : σ} {failure : Failure}
    (h : action.on state = (.error failure, after)) (next : α → Action σ β) :
    (action >>= next).on state = (.error failure, after) :=
  run_bind_of_error h next

/-! ## Two steps -/

/-- Begun in related states, both steps end alike and leave related states. -/
def Simulates (R : σ → τ → Prop) (left : Action σ α) (right : Action τ α) : Prop :=
  ∀ s t, R s t → (left.on s).1 = (right.on t).1 ∧ R (left.on s).2 (right.on t).2

variable {R : σ → τ → Prop}

theorem Simulates.pure (value : α) :
    Simulates R (Pure.pure value : Action σ α) (Pure.pure value : Action τ α) :=
  fun _ _ h => ⟨rfl, h⟩

theorem Simulates.ofExcept (result : Except Failure α) :
    Simulates R (.ofExcept result : Action σ α) (.ofExcept result : Action τ α) :=
  fun _ _ h => ⟨rfl, h⟩

theorem Simulates.bind {left : Action σ α} {right : Action τ α} {next : α → Action σ β}
    {next' : α → Action τ β} (first : Simulates R left right)
    (rest : ∀ value, Simulates R (next value) (next' value)) :
    Simulates R (left >>= next) (right >>= next') := by
  intro s t h
  obtain ⟨same, after⟩ := first s t h
  rcases hl : left.on s with ⟨answer, s'⟩
  rcases hr : right.on t with ⟨answer', t'⟩
  rw [hl, hr] at same after
  replace same : answer = answer' := same
  subst same
  cases answer with
  | error failure =>
    rw [on_bind_of_error hl, on_bind_of_error hr]
    exact ⟨rfl, after⟩
  | ok value =>
    rw [on_bind_of_ok hl, on_bind_of_ok hr]
    exact rest value s' t' after

/-! ## Many steps -/

variable {ι : Type}

/-- What requests end with, one after the other, and the state that they leave. A request that
fails does not keep the next one from being performed. -/
def replies (perform : ι → Action σ α) : List ι → σ → List (Except Failure α) × σ
  | [], state => ([], state)
  | request :: rest, state =>
    let (reply, after) := (perform request).on state
    let (others, final) := replies perform rest after
    (reply :: others, final)

theorem replies_cons (perform : ι → Action σ α) (request : ι) (rest : List ι) (state : σ) :
    replies perform (request :: rest) state =
      (((perform request).on state).1 ::
        (replies perform rest ((perform request).on state).2).1,
        (replies perform rest ((perform request).on state).2).2) := rfl

theorem replies_concat (perform : ι → Action σ α) (requests : List ι) (request : ι) (state : σ) :
    replies perform (requests ++ [request]) state =
      ((replies perform requests state).1 ++
          [((perform request).on (replies perform requests state).2).1],
        ((perform request).on (replies perform requests state).2).2) := by
  induction requests generalizing state with
  | nil => rfl
  | cons first rest ih =>
    rw [List.cons_append, replies_cons, replies_cons, ih]
    rfl

theorem length_replies (perform : ι → Action σ α) (requests : List ι) (state : σ) :
    (replies perform requests state).1.length = requests.length := by
  induction requests generalizing state with
  | nil => rfl
  | cons first rest ih => rw [replies_cons, List.length_cons, List.length_cons, ih]

/-- What a request in the middle of a run ends with. -/
theorem getElem?_replies (perform : ι → Action σ α) (before : List ι) (request : ι)
    (behind : List ι) (state : σ) :
    (replies perform (before ++ request :: behind) state).1[before.length]? =
      some ((perform request).on (replies perform before state).2).1 := by
  induction before generalizing state with
  | nil => rfl
  | cons first rest ih =>
    rw [List.cons_append, replies_cons, replies_cons, List.length_cons, List.getElem?_cons_succ, ih]

/-- If each request ends alike in two places, so does every run of requests. -/
theorem replies_of_simulates {left : ι → Action σ α} {right : ι → Action τ α}
    (alike : ∀ request, Simulates R (left request) (right request)) (requests : List ι) {s : σ}
    {t : τ} (h : R s t) :
    (replies left requests s).1 = (replies right requests t).1 ∧
      R (replies left requests s).2 (replies right requests t).2 := by
  induction requests generalizing s t with
  | nil => exact ⟨rfl, h⟩
  | cons request rest ih =>
    obtain ⟨same, after⟩ := alike request s t h
    obtain ⟨others, final⟩ := ih after
    rw [replies_cons, replies_cons, same, others]
    exact ⟨rfl, final⟩

end Action

namespace Store

open PolicyTree.Action (Simulates)

/-! ## Two stores -/

/-- Every look-up ends alike in two stores. -/
def FindsAlike (R : σ → τ → Prop) (left : Store σ) (right : Store τ) : Prop :=
  ∀ key, Simulates R (left.find key) (right.find key)

/-- Every write ends alike in two stores. -/
def SavesAlike (R : σ → τ → Prop) (left : Store σ) (right : Store τ) : Prop :=
  ∀ key policy, Simulates R (left.save key policy) (right.save key policy)

theorem findAll_simulates {R : σ → τ → Prop} {left : Store σ} {right : Store τ}
    (h : FindsAlike R left right) (keys : List PolicyKey) :
    Simulates R (left.findAll keys) (right.findAll keys) := by
  induction keys with
  | nil => exact .pure []
  | cons key keys ih => exact (h key).bind fun _ => ih.bind fun _ => .pure _

/-! ## What a state of a store answers -/

/-- From a state on, each look-up ends as `reply` says, whatever has been looked up before. -/
def Replies (store : Store σ) (state : σ) (reply : PolicyKey → Except Failure (Option Policy)) :
    Prop :=
  ∃ settled : σ → Prop, settled state ∧ ∀ s, settled s → ∀ key,
    ((store.find key).on s).1 = reply key ∧ settled ((store.find key).on s).2

/-- From a state on, each look-up succeeds and answers what `held` holds under the key. -/
def Holds (store : Store σ) (state : σ) (held : PolicyKey → Option Policy) : Prop :=
  store.Replies state fun key => .ok (held key)

/-- The store without a state: look-ups end as `reply` says and writes leave no trace. -/
def answering (reply : PolicyKey → Except Failure (Option Policy)) : Store Unit where
  find key := .ofExcept (reply key)
  save _ policy := pure policy

/-- A step that only reads ends as over the store without a state, and what the store
replies stays as it is. -/
theorem Replies.of_simulates {store : Store σ} {state : σ}
    {reply : PolicyKey → Except Failure (Option Policy)} {left : Action σ α}
    {right : Action Unit α} (replies : store.Replies state reply)
    (alike : ∀ R : σ → Unit → Prop, FindsAlike R store (answering reply) →
      Simulates R left right) :
    (left.on state).1 = (right.on ()).1 ∧ store.Replies (left.on state).2 reply := by
  obtain ⟨settled, start, step⟩ := replies
  have finds : FindsAlike (fun s _ => settled s) store (answering reply) :=
    fun key s _ h => step s h key
  obtain ⟨same, after⟩ := alike _ finds state () start
  exact ⟨same, settled, after, step⟩

/-- `Replies.of_simulates` for a step that succeeds over the store without a state. -/
theorem Holds.of_simulates {store : Store σ} {state : σ} {held : PolicyKey → Option Policy}
    {left : Action σ α} {right : Action Unit α} {answer : α} (holds : store.Holds state held)
    (alike : ∀ R : σ → Unit → Prop, FindsAlike R store (answering fun key => .ok (held key)) →
      Simulates R left right)
    (h : right.on () = (.ok answer, ())) :
    ∃ next, left.on state = (.ok answer, next) ∧ store.Holds next held := by
  obtain ⟨same, after⟩ := Replies.of_simulates holds alike
  rw [h] at same
  exact ⟨_, Prod.ext same rfl, after⟩

/-- From a state on, nothing fails: each look-up answers what `held` holds under the key, and each
write succeeds and changes what is held under its key, and nothing else. -/
def Keeps (store : Store σ) (state : σ) (held : PolicyKey → Option Policy) : Prop :=
  ∃ settled : σ → (PolicyKey → Option Policy) → Prop, settled state held ∧
    ∀ s now, settled s now → ∀ key,
      (((store.find key).on s).1 = .ok (now key) ∧ settled ((store.find key).on s).2 now) ∧
        ∀ policy, ((store.save key policy).on s).1 = .ok policy ∧
          settled ((store.save key policy).on s).2 (Function.update now key (some policy))

section keeps

variable {store : Store σ} {state : σ} {held : PolicyKey → Option Policy}

theorem Keeps.save (keeps : store.Keeps state held) (key : PolicyKey) (policy : Policy) :
    ∃ next, (store.save key policy).on state = (.ok policy, next) ∧
      store.Keeps next (Function.update held key (some policy)) := by
  obtain ⟨settled, start, step⟩ := keeps
  obtain ⟨saved, after⟩ := (step state held start key).2 policy
  exact ⟨_, Prod.ext saved rfl, settled, after, step⟩

/-- A store that ends every look-up and every write like one that does not fail does not fail. -/
theorem Keeps.of_alike {R : σ → τ → Prop} {right : Store τ} {state' : τ}
    (keeps : right.Keeps state' held) (finds : FindsAlike R store right)
    (saves : SavesAlike R store right) (related : R state state') : store.Keeps state held := by
  obtain ⟨settled, start, step⟩ := keeps
  refine ⟨fun s now => ∃ t, R s t ∧ settled t now, ⟨state', related, start⟩, ?_⟩
  rintro s now ⟨t, related, start⟩ key
  obtain ⟨⟨found, after⟩, saves'⟩ := step t now start key
  obtain ⟨same, related'⟩ := finds key s t related
  refine ⟨⟨same.trans found, _, related', after⟩, fun policy => ?_⟩
  obtain ⟨saved, after⟩ := saves' policy
  obtain ⟨same, related'⟩ := saves key policy s t related
  exact ⟨same.trans saved, _, related', after⟩

end keeps

end Store

/-! ## Memories -/

theorem Memory.get?_put (memory : Memory) (key other : PolicyKey) (policy : Policy) :
    (memory.put key policy).get? other =
      if other = key then some policy else memory.get? other := by
  split
  · next eq => rw [eq, find_save_self]
  · next ne => rw [find_save_of_ne memory ne]

/-- What is true of every policy kept and of the one written is true of every one kept then. -/
theorem Memory.forall_put {P : Policy → Prop} {memory : Memory}
    (h : ∀ key policy, memory.get? key = some policy → P policy) {policy : Policy}
    (written : P policy) (key : PolicyKey) :
    ∀ other found, (memory.put key policy).get? other = some found → P found := by
  intro other found held
  rw [get?_put] at held
  split at held
  · cases held
    exact written
  · exact h other found held

/-- A memory holds what it answers. -/
theorem Memory.holds (memory : Memory) : store.Holds memory memory.get? :=
  ⟨(· = memory), rfl, fun s h key => by subst h; exact ⟨rfl, rfl⟩⟩

/-- A memory never fails. -/
theorem Memory.keeps (memory : Memory) : store.Keeps memory memory.get? := by
  refine ⟨fun s now => s.get? = now, rfl, ?_⟩
  rintro s now rfl key
  refine ⟨⟨rfl, rfl⟩, fun policy => ⟨rfl, ?_⟩⟩
  funext other
  rw [Function.update_apply]
  exact get?_put s key other policy

end PolicyTree
