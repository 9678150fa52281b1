import PolicyTree.Proofs.Rules.History
import PolicyTree.Rules.Evaluation
/-
  When two collections of rules are the same. They are compared by the numbers of their rules, and
  `serials` keeps of a collection these numbers alone: two collections are the same exactly if they
  have the same contributions and equal numbers under equal names in the same order
  (`same_iff_serials`). What is done to a collection is done to its numbers (`serials_insert`,
  `serials_merge`), so that it may be done on both sides.

  The order of the names need not be looked at, since in a collection that has been made the names
  are the contributions, each where it comes first (`Recipe.names_rules`). And an instance is one
  rule wherever it is found, so that of two collections made of the same instances (`DrawsFrom`)
  that are the same each does what the other does (`Recipe.rules_eq_of_same`).
-/
namespace PolicyTree.Rules

variable {α : Type} {a b c d : Rules α} {name : String} {rule rule' : Rule α}

/-! ## Numbers under names -/

/-- The numbers of the rules under their names. -/
def serials (rules : Rules α) : OrderedMap String Nat where
  entries := rules.rules.entries.map fun entry => (entry.1, entry.2.serial)
  nodup := by
    rw [List.map_map]
    exact rules.rules.nodup

theorem keys_serials (rules : Rules α) : rules.serials.keys = rules.names :=
  List.map_map

theorem get?_serials (rules : Rules α) (name : String) :
    rules.serials.get? name = (rules.get? name).map Rule.serial := by
  show List.lookup name (rules.rules.entries.map _) = (rules.rules.entries.lookup name).map _
  induction rules.rules.entries with
  | nil => rfl
  | cons entry rest ih =>
    obtain ⟨own, rule⟩ := entry
    rw [List.map_cons, List.lookup_cons, List.lookup_cons, ih]
    cases name == own <;> rfl

/-- Lists of the same length agree in names and instances place by place if their names and numbers
are the same lists. -/
theorem all_zip_iff {entries other : List (String × Rule α)} :
    entries.length = other.length ∧
        ((entries.zip other).all fun (x, y) => x.1 == y.1 && x.2.same y.2) = true ↔
      (entries.map fun entry => (entry.1, entry.2.serial)) =
        other.map fun entry => (entry.1, entry.2.serial) := by
  induction entries generalizing other with
  | nil => cases other <;> simp
  | cons entry rest ih =>
    cases other with
    | nil => simp
    | cons first more =>
      rw [List.map_cons, List.map_cons, List.cons.injEq, ← ih, List.zip_cons_cons, List.all_cons]
      simp only [List.length_cons, Nat.add_right_cancel_iff, Bool.and_eq_true, beq_iff_eq,
        Rule.same, Prod.mk.injEq]
      exact and_left_comm

theorem same_iff_serials :
    a.same b = true ↔ a.contributions = b.contributions ∧ a.serials = b.serials := by
  have maps : a.serials = b.serials ↔ a.serials.entries = b.serials.entries := by
    rw [OrderedMap.mk.injEq]
  rw [same, Bool.and_eq_true, Bool.and_eq_true, beq_iff_eq, beq_iff_eq, and_assoc, maps]
  exact and_congr_right' all_zip_iff

theorem serials_insert (rules : Rules α) (name : String) (rule : Rule α) :
    (rules.insert name rule).serials = rules.serials.insert name rule.serial := by
  refine OrderedMap.eq_of_get?_eq ?_ fun other => ?_
  · rw [keys_serials, names_insert, OrderedMap.keys_insert, keys_serials]
  · rw [get?_serials, get?_insert, OrderedMap.get?_insert, get?_serials]
    split <;> rfl

theorem serials_merge (rules other : Rules α) :
    (rules.merge other).serials = rules.serials.insertAll other.serials.entries := by
  refine OrderedMap.eq_of_get?_eq ?_ fun name => ?_
  · rw [keys_serials, names_merge, OrderedMap.keys_insertAll, keys_serials, ← keys_serials other]
    rfl
  · rw [get?_serials, get?_merge, OrderedMap.get?_insertAll_entries, get?_serials, get?_serials,
      Option.map_or]

/-! ## What is kept -/

theorem same_insert (same : a.same b = true) (instances : rule.same rule' = true) (name : String) :
    (a.insert name rule).same (b.insert name rule') = true := by
  obtain ⟨contributions, serials⟩ := same_iff_serials.1 same
  have number : rule.serial = rule'.serial := by simpa [Rule.same] using instances
  refine same_iff_serials.2 ⟨?_, ?_⟩
  · show a.contributions ++ [name] = b.contributions ++ [name]
    rw [contributions]
  · rw [serials_insert, serials_insert, serials, number]

theorem same_merge (same : a.same b = true) (same' : c.same d = true) :
    (a.merge c).same (b.merge d) = true := by
  obtain ⟨contributions, serials⟩ := same_iff_serials.1 same
  obtain ⟨contributions', serials'⟩ := same_iff_serials.1 same'
  refine same_iff_serials.2 ⟨?_, ?_⟩
  · rw [contributions_merge, contributions_merge, contributions, contributions']
  · rw [serials_merge, serials_merge, serials, serials']

theorem names_eq_of_same (same : a.same b = true) : a.names = b.names := by
  rw [← keys_serials, ← keys_serials, (same_iff_serials.1 same).2]

theorem message_eq_of_same (same : a.same b = true) : a.message = b.message := by
  rw [message_eq, message_eq, (same_iff_serials.1 same).1]

variable (α) in
theorem same_equivalence : Equivalence fun a b : Rules α => a.same b = true where
  refl := same_self
  symm same := by
    obtain ⟨contributions, serials⟩ := same_iff_serials.1 same
    exact same_iff_serials.2 ⟨contributions.symm, serials.symm⟩
  trans same same' := by
    obtain ⟨contributions, serials⟩ := same_iff_serials.1 same
    obtain ⟨contributions', serials'⟩ := same_iff_serials.1 same'
    exact same_iff_serials.2 ⟨contributions.trans contributions', serials.trans serials'⟩

/-! ## Collections that were made -/

namespace Recipe

variable {judges : Nat → Judgement α} {made other : Recipe α}

theorem names_rules (recipe : Recipe α) :
    recipe.rules.names = recipe.rules.contributions.eraseDups := by
  rw [recipe.rules_eq_replay, names_replay, contributions_replay]

theorem same_iff : made.rules.same other.rules = true ↔
    made.rules.contributions = other.rules.contributions ∧
      ∀ name, (made.rules.get? name).map Rule.serial = (other.rules.get? name).map Rule.serial := by
  rw [same_iff_serials]
  refine and_congr_right fun contributions => ⟨fun serials name => ?_, fun instances => ?_⟩
  · rw [← get?_serials, ← get?_serials, serials]
  · refine OrderedMap.eq_of_get?_eq ?_ fun name => ?_
    · rw [keys_serials, keys_serials, names_rules, names_rules, contributions]
    · rw [get?_serials, get?_serials, instances]

variable (judges) in
/-- Every rule that was inserted is the instance of its number, and judges as that one does. -/
def DrawsFrom (recipe : Recipe α) : Prop :=
  ∀ entry ∈ recipe.history, entry.2.judge = judges entry.2.serial

theorem DrawsFrom.judge_eq (draws : made.DrawsFrom judges)
    (found : made.rules.get? name = some rule) : rule.judge = judges rule.serial := by
  rw [made.rules_eq_replay, get?_replay, List.lookup_eq_some_iff] at found
  obtain ⟨later, before, split, -⟩ := found
  have mem : (name, rule) ∈ made.history.reverse := by simp [split]
  exact draws (name, rule) (List.mem_reverse.1 mem)

/-- Collections made of the same instances are equal if they are the same. -/
theorem rules_eq_of_same (draws : made.DrawsFrom judges) (draws' : other.DrawsFrom judges)
    (same : made.rules.same other.rules = true) : made.rules = other.rules := by
  obtain ⟨contributions, instances⟩ := same_iff.1 same
  refine eq_of_names_get? (names_eq_of_same same) (fun name => ?_) contributions
  have number := instances name
  cases found : made.rules.get? name with
  | none =>
    rw [found, Option.map_none, eq_comm, Option.map_eq_none_iff] at number
    exact number.symm
  | some rule =>
    rw [found, Option.map_some, eq_comm, Option.map_eq_some_iff] at number
    obtain ⟨rule', found', number⟩ := number
    have judge : rule'.judge = rule.judge := by
      rw [draws.judge_eq found, draws'.judge_eq found', number]
    obtain ⟨serial, own⟩ := rule
    obtain ⟨serial', own'⟩ := rule'
    cases number
    cases judge
    exact found'.symm

end Recipe

/-- Two collections are the same exactly if they have the same contributions and the same instance,
or none, under every name. This is an equivalence; what is the same has the same names in order and
the same message, and comes to the same outcome for every value; and it remains the same when the
same is inserted into it or merged with it. -/
theorem same_congruent :
    (∀ made other : Recipe α, made.rules.same other.rules = true ↔
      made.rules.contributions = other.rules.contributions ∧
        ∀ name, (made.rules.get? name).map Rule.serial =
          (other.rules.get? name).map Rule.serial) ∧
    Equivalence (fun made other : Recipe α => made.rules.same other.rules = true) ∧
    (∀ made other : Recipe α, made.rules.same other.rules = true →
      made.rules.names = other.rules.names ∧ made.rules.message = other.rules.message ∧
        ∀ judges, made.DrawsFrom judges → other.DrawsFrom judges → ∀ value user context,
          made.rules.evaluate value user context = other.rules.evaluate value user context) ∧
    (∀ a b c d : Recipe α, a.rules.same b.rules = true → c.rules.same d.rules = true →
      (a.rules.merge c.rules).same (b.rules.merge d.rules) = true) ∧
    ∀ (a b : Recipe α) (name : String) (rule rule' : Rule α), a.rules.same b.rules = true →
      rule.same rule' = true →
        (a.rules.insert name rule).same (b.rules.insert name rule') = true := by
  have equivalence := same_equivalence α
  refine ⟨fun _ _ => Recipe.same_iff, ⟨fun _ => same_self _, equivalence.symm, equivalence.trans⟩,
    fun made other same => ⟨names_eq_of_same same, message_eq_of_same same, ?_⟩,
    fun _ _ _ _ => same_merge, fun _ _ name _ _ same instances => same_insert same instances name⟩
  intro judges draws draws' value user context
  rw [Recipe.rules_eq_of_same draws draws' same]

/-! ## An example -/

namespace Sample

/-- Of the instances the first denies all values, and each other one adds its number. -/
def judges : Nat → Judgement Nat
  | 0 => .denyAll
  | n => fun value _ _ => .allow (value + n)

def numbered (n : Nat) : Rule Nat := ⟨n, judges n⟩

/-- A denial that is replaced before another rule is merged in. -/
def replaced : Recipe Nat :=
  .merge (.insert (.insert .new "x" (numbered 0)) "x" (numbered 2))
    (.insert .new "y" (numbered 1))

/-- The same rules, with an addition replaced in place of the denial. -/
def grown : Recipe Nat :=
  .insert (.clone (.insert (.insert .new "x" (numbered 1)) "x" (numbered 2))) "y" (numbered 1)

theorem replaced_drawsFrom : replaced.DrawsFrom judges := by
  simp [Recipe.DrawsFrom, Recipe.history, replaced, numbered]

theorem grown_drawsFrom : grown.DrawsFrom judges := by
  simp [Recipe.DrawsFrom, Recipe.history, grown, numbered]

end Sample

open Sample in
/-- Two collections are the same though one of them has had a rule that the other never had. -/
theorem same_congruent_replaced :
    replaced.rules.same grown.rules = true ∧ replaced.history.map (·.2.serial) ≠
      grown.history.map (·.2.serial) ∧
    replaced.DrawsFrom judges ∧ grown.DrawsFrom judges ∧
    (∀ value user context, replaced.rules.evaluate value user context =
      grown.rules.evaluate value user context) ∧
    (replaced.rules.merge grown.rules).same (grown.rules.merge replaced.rules) = true ∧
    (replaced.rules.insert "y" (numbered 0)).same (grown.rules.insert "y" (numbered 0)) = true := by
  have same : replaced.rules.same grown.rules = true := by decide
  obtain ⟨-, equivalence, alike, merge, insert⟩ := same_congruent (α := Nat)
  exact ⟨same, by decide, replaced_drawsFrom, grown_drawsFrom,
    (alike _ _ same).2.2 judges replaced_drawsFrom grown_drawsFrom,
    merge _ _ _ _ same (equivalence.symm same), insert _ _ "y" _ _ same rfl⟩

end PolicyTree.Rules
