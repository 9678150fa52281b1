import PolicyTree.Proofs.Rules.Merge
/-
  How a collection of rules comes about, and that only its history counts. A history lists
  every name with the rule inserted under it, in order; that of a merge is the one history
  behind the other.

  A merge does not go through the history of what it takes in: it inserts the rules that are
  left of it, and appends the contributions. That both halves come out as if the history had
  been gone through is `merge_insert`, and for whole histories `replay_append`. What is left of
  a history is stated by `IsReplayOf`.
-/
namespace PolicyTree.Rules

variable {α : Type}

/-! ## Merges of merges -/

/-- A collection is determined by its names in order, its rules and its contributions. -/
theorem eq_of_names_get? {a b : Rules α} (names : a.names = b.names)
    (rules : ∀ name, a.get? name = b.get? name) (contributions : a.contributions = b.contributions) :
    a = b := by
  have held : a.rules = b.rules := OrderedMap.eq_of_get?_eq names rules
  cases a
  cases b
  cases held
  cases contributions
  rfl

theorem merge_assoc (a b c : Rules α) : (a.merge b).merge c = a.merge (b.merge c) := by
  refine eq_of_names_get? ?_ (fun name => ?_) ?_
  · rw [names_merge, names_merge, names_merge, names_merge, OrderedMap.eraseDups_eraseDups_append,
      OrderedMap.eraseDups_append_eraseDups, List.append_assoc]
  · rw [get?_merge, get?_merge, get?_merge, get?_merge, Option.or_assoc]
  · rw [contributions_merge, contributions_merge, contributions_merge, contributions_merge,
      List.append_assoc]

theorem empty_merge (rules : Rules α) : (empty : Rules α).merge rules = rules := by
  refine eq_of_names_get? ?_ (fun name => ?_) rfl
  · have nodup : rules.names.Nodup := rules.rules.nodup
    rw [names_merge]
    exact OrderedMap.eraseDups_of_nodup nodup
  · rw [get?_merge]
    exact Option.or_none

/-- An insertion is a merge with the collection of one rule. -/
theorem insert_eq_merge (rules : Rules α) (name : String) (rule : Rule α) :
    rules.insert name rule = rules.merge (empty.insert name rule) := rfl

/-- What is inserted into the collection to be taken in may be inserted after the merge. -/
theorem merge_insert (rules other : Rules α) (name : String) (rule : Rule α) :
    rules.merge (other.insert name rule) = (rules.merge other).insert name rule := by
  rw [insert_eq_merge other, ← merge_assoc, ← insert_eq_merge]

/-! ## Histories -/

/-- Insert the rules of a history one by one into the collection without rules. -/
def replay (history : List (String × Rule α)) : Rules α :=
  history.foldl (fun rules entry => rules.insert entry.1 entry.2) empty

theorem replay_concat (history : List (String × Rule α)) (name : String) (rule : Rule α) :
    replay (history ++ [(name, rule)]) = (replay history).insert name rule := by
  rw [replay, List.foldl_append]
  rfl

/-- One history behind another comes to the merge of what they come to. -/
theorem replay_append (history later : List (String × Rule α)) :
    replay (history ++ later) = (replay history).merge (replay later) := by
  induction later using List.reverseRecOn with
  | nil =>
    rw [List.append_nil]
    exact (merge_empty _).symm
  | append_singleton later entry ih =>
    obtain ⟨name, rule⟩ := entry
    rw [← List.append_assoc, replay_concat, replay_concat, ih, merge_insert]

theorem rules_replay (history : List (String × Rule α)) :
    (replay history).rules = OrderedMap.empty.insertAll history := by
  induction history using List.reverseRecOn with
  | nil => rfl
  | append_singleton history entry ih =>
    rw [replay_concat, OrderedMap.insertAll_concat, ← ih]
    rfl

theorem contributions_replay (history : List (String × Rule α)) :
    (replay history).contributions = history.map Prod.fst := by
  induction history using List.reverseRecOn with
  | nil => rfl
  | append_singleton history entry ih =>
    rw [replay_concat, List.map_append, ← ih]
    rfl

theorem names_replay (history : List (String × Rule α)) :
    (replay history).names = (history.map Prod.fst).eraseDups := by
  rw [names, rules_replay, OrderedMap.keys_insertAll]
  rfl

/-- The rule of a name is the last one that its history inserts under it. -/
theorem get?_replay (history : List (String × Rule α)) (name : String) :
    (replay history).get? name = history.reverse.lookup name := by
  rw [get?, rules_replay, OrderedMap.get?_insertAll]
  exact Option.or_none

theorem same_self (rules : Rules α) : rules.same rules = true := by
  rw [same, List.zip_eq_zipWith, List.zipWith_self, List.all_map]
  simp [Rule.same]

/-- That a collection is what a history comes to. -/
structure IsReplayOf (history : List (String × Rule α)) (rules : Rules α) : Prop where
  eq : rules = replay history
  same : rules.same (replay history) = true
  names : rules.names = (history.map Prod.fst).eraseDups
  get? : ∀ name, rules.get? name = history.reverse.lookup name
  contains : ∀ name, rules.contains name = true ↔ name ∈ history.map Prod.fst
  size : rules.size = (history.map Prod.fst).eraseDups.length
  message : rules.message =
    if history = [] then "no rules set" else ", ".intercalate (history.map Prod.fst)

theorem replay_isReplayOf (history : List (String × Rule α)) :
    IsReplayOf history (replay history) where
  eq := rfl
  same := same_self _
  names := names_replay history
  get? := get?_replay history
  contains name := by
    show (replay history).rules.contains name = true ↔ _
    rw [OrderedMap.contains_eq_true_iff]
    show name ∈ (replay history).names ↔ _
    rw [names_replay, List.mem_eraseDups]
  size := by
    rw [← names_replay, Rules.names, OrderedMap.keys, List.length_map]
    rfl
  message := by
    rw [message_eq, contributions_replay]
    simp only [List.map_eq_nil_iff]

/-! ## How collections are made -/

/-- The steps by which a collection is made. -/
inductive Recipe (α : Type) where
  | new
  | insert (made : Recipe α) (name : String) (rule : Rule α)
  | withRule (made : Recipe α) (name : String) (serial : Nat) (judge : Judgement α)
  | merge (made other : Recipe α)
  | clone (made : Recipe α)

namespace Recipe

/-- The collection that is made. A rule that is given as a judgement becomes an instance of its
own, and a copy holds the instances of what it was copied from. -/
def rules : Recipe α → Rules α
  | new => .empty
  | insert made name rule => made.rules.insert name rule
  | withRule made name serial judge => made.rules.insert name ⟨serial, judge⟩
  | merge made other => made.rules.merge other.rules
  | clone made => made.rules

/-- What has been inserted on the way. -/
def history : Recipe α → List (String × Rule α)
  | new => []
  | insert made name rule => made.history ++ [(name, rule)]
  | withRule made name serial judge => made.history ++ [(name, ⟨serial, judge⟩)]
  | merge made other => made.history ++ other.history
  | clone made => made.history

theorem rules_eq_replay (recipe : Recipe α) : recipe.rules = replay recipe.history := by
  induction recipe with
  | new => rfl
  | insert made name rule ih => rw [rules, history, replay_concat, ih]
  | withRule made name serial judge ih => rw [rules, history, replay_concat, ih]
  | merge made other ih ih' => rw [rules, history, replay_append, ih, ih']
  | clone made ih => rw [rules, history, ih]

end Recipe

/-- However a collection is made, it is what its history comes to. Hence it does not matter how
merges are put together, and merging with the collection without rules changes nothing. -/
theorem determined_by_history :
    (∀ recipe : Recipe α, IsReplayOf recipe.history recipe.rules) ∧
      (∀ a b c : Rules α, (a.merge b).merge c = a.merge (b.merge c)) ∧
      ∀ rules : Rules α, rules.merge empty = rules ∧ (empty : Rules α).merge rules = rules := by
  refine ⟨fun recipe => ?_, merge_assoc, fun rules => ⟨merge_empty rules, empty_merge rules⟩⟩
  rw [recipe.rules_eq_replay]
  exact replay_isReplayOf recipe.history

end PolicyTree.Rules
