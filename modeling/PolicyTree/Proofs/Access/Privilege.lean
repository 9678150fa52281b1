import PolicyTree.Proofs.Access.Redaction
import PolicyTree.Proofs.Access.Visibility
import PolicyTree.Proofs.Rules.Privilege
/-
  Privileges only add. Over policies made of rules of the library, a user who holds what another
  one holds is shown every resource that the other one is shown, and of every record what the
  other one sees of it (`privileges_only_add`). Users who hold the same are answered alike, so
  neither the id of a user nor an entry of the context other than the purpose matters.
-/
namespace PolicyTree.Access

variable {σ : Type} {held : PolicyKey → Option Policy} {user other : User}
  {context context' : Context} {resource : Resource}

/-! ## Resources -/

theorem exists_resourceRule_of_answer (library : ByLibrary held) {rules : Rules Resource}
    (answer : accessAnswer held resource = some rules) :
    ∀ entry ∈ rules.rules.entries, ∃ known : ResourceRule, entry.2.judge = known.judge := by
  rintro ⟨name, rule⟩ mem
  obtain ⟨key, policy, found, defined⟩ :=
    Resolution.exists_policy_of_merged answer (Rules.get?_eq_some_iff.2 mem)
  obtain ⟨id, params, made⟩ := (library key policy found).resource name rule defined
  exact Registry.exists_resourceRule made

/-- What the one is allowed, the other is allowed. -/
theorem decided_mono (library : ByLibrary held) (h : HoldsNoMore user context other context')
    {value : Resource} (allowed : decided held user context resource = .ok (.allow value)) :
    decided held other context' resource = .ok (.allow value) := by
  cases answer : accessAnswer held resource with
  | none =>
    rw [decided_of_none answer] at allowed
    cases allowed
  | some rules =>
    have carries : ∀ entry ∈ rules.rules.entries,
        entry.2.judge.Carries Eq user context other context' := by
      intro entry mem
      obtain ⟨known, judged⟩ := exists_resourceRule_of_answer library answer entry mem
      rw [judged]
      exact known.judge_carries h
    rw [decided_of_some answer, Decision.ofOutcome_eq_allow_iff] at allowed ⊢
    obtain ⟨_, shown, rfl⟩ := Rules.run_carries carries rfl allowed
    exact shown

theorem decided_congr (library : ByLibrary held) (h : HoldsNoMore user context other context')
    (h' : HoldsNoMore other context' user context) (resource : Resource) :
    decided held user context resource = decided held other context' resource := by
  cases answer : accessAnswer held resource with
  | none => rw [decided_of_none answer, decided_of_none answer]
  | some rules =>
    have alike : ∀ entry ∈ rules.rules.entries, ∀ value,
        entry.2.judge value user context = entry.2.judge value other context' := by
      intro entry mem value
      obtain ⟨known, judged⟩ := exists_resourceRule_of_answer library answer entry mem
      rw [judged]
      exact known.judge_congr h h' value
    rw [decided_of_some answer, decided_of_some answer, Rules.evaluate, Rules.evaluate,
      Rules.run_congr alike]

theorem Decides.sublist_of_holdsNoMore (library : ByLibrary held)
    (h : HoldsNoMore user context other context') {resources : List Resource}
    {decisions decisions' : List Decision} (decides : Decides held user context resources decisions)
    (decides' : Decides held other context' resources decisions') :
    (decisions.filterMap Decision.resource?).Sublist
      (decisions'.filterMap Decision.resource?) := by
  induction decides generalizing decisions' with
  | nil =>
    cases decides'
    exact .slnil
  | @cons resource decision _ _ own _ ih =>
    cases decides' with
    | @cons _ decision' _ _ own' others =>
      have rest := ih others
      cases decision with
      | deny reason => exact rest.trans ((List.sublist_cons_self ..).filterMap _)
      | allow value =>
        have allowed := decided_mono library h own
        rw [own'] at allowed
        cases allowed
        exact rest.cons_cons value

theorem visible_sublist {store : Store σ} {state : σ} (holds : store.Holds state held)
    (library : ByLibrary held) {resources : List Resource}
    (constructible : ∀ r ∈ resources, r.Constructible)
    (h : HoldsNoMore user context other context') :
    ∃ fewer more next, (visible store user context resources).on state = (.ok fewer, next) ∧
      (visible store other context' resources).on state = (.ok more, next) ∧
      fewer.Sublist more := by
  have answering := library.filtering.answering
  obtain ⟨decisions, decides⟩ := exists_decides answering user context resources
  obtain ⟨decisions', decides'⟩ := exists_decides answering other context' resources
  obtain ⟨next, -, seen⟩ := visible_of_decides holds constructible
  exact ⟨_, _, next, seen _ _ _ decides, seen _ _ _ decides',
    decides.sublist_of_holdsNoMore library h decides'⟩

/-! ## Records -/

theorem ByLibrary.records (library : ByLibrary held) : RecordsByLibrary held :=
  fun key policy found => (library key policy found).record

theorem ofLibrary_of_answer (library : RecordsByLibrary held) {rules : Rules Json}
    (answer : recordAnswer held resource = some rules) :
    ∀ entry ∈ rules.rules.entries, entry.2.OfLibrary := by
  rintro ⟨name, rule⟩ mem
  have merge : rules.IsMergeOf (recordRulesInForce held resource) :=
    Resolution.isMergeOf_of_merged answer
  exact ofLibrary_of_inForce library (merge.mem_entries_iff.1 mem)

/-! ## Both questions -/

/-- A user who holds all that another one holds, and asks for the same purpose, is shown all that
the other one is shown. -/
theorem privileges_only_add (store : Store σ) (state : σ) (held : PolicyKey → Option Policy)
    (holds : store.Holds state held) (library : ByLibrary held) (resources : List Resource)
    (constructible : ∀ r ∈ resources, r.Constructible) :
    ∃ found next, (recordRules store resources).on state = (.ok found, next) ∧
      ∀ user context other context', HoldsNoMore user context other context' →
        (∃ fewer more next, (visible store user context resources).on state = (.ok fewer, next) ∧
          (visible store other context' resources).on state = (.ok more, next) ∧
          fewer.Sublist more) ∧
        (∀ id resource rules, (id, resource, rules) ∈ found.entries →
          rules.ShowsMore user context other context') ∧
        (HoldsNoMore other context' user context → ∀ resource, resource.Constructible →
          (check store user context resource).on state =
            (check store other context' resource).on state) := by
  obtain ⟨next, run, -⟩ := recordRules_of_holds holds constructible
  refine ⟨_, next, run, fun user context other context' h => ⟨?_, ?_, ?_⟩⟩
  · exact visible_sublist holds library constructible h
  · intro id resource rules mem
    obtain ⟨-, last, -, answer⟩ :=
      (tabulates_foldl (recordAnswer held) resources).entry id resource rules
        (OrderedMap.get?_eq_some_iff.2 mem)
    exact Rules.showsMore (ofLibrary_of_answer library.records answer) h
  · intro h' resource built
    obtain ⟨next, -, checked⟩ := check_eq_decided holds built
    rw [checked, checked, decided_congr library h h']

/-! ## Staff and a chief -/

namespace Sample

open Resolution.Sample

/-- The file is for chiefs, and the redaction of the root exempts them. -/
def guardedMemory : Memory :=
  (Memory.empty.put (.resource "/file")
    ⟨default, Rules.empty.insert "members" ⟨3, (ResourceRule.gate (.role "staff")).judge⟩,
      (Rules.empty.insert "early" (cover 0)).insert "hide" redaction⟩).put
    (.resource "/file/a.txt")
    ⟨default, Rules.empty.insert "chiefs" ⟨4, (ResourceRule.gate (.role "admin")).judge⟩,
      Rules.empty.insert "late" (cover 2)⟩

/-- The rules for the records of the file. -/
def guardedRules : Rules Json :=
  ((Rules.empty.insert "early" (cover 0)).insert "hide" redaction).insert "late" (cover 2)

theorem guardedMemory_byLibrary : ByLibrary guardedMemory.get? := by
  have empty : ByLibrary Memory.empty.get? := by
    intro key policy h
    cases h
  have members : Registry.builtin.makeResourceRule "role" (.ofList [("role", "staff")]) =
      .ok (ResourceRule.gate (.role "staff")).judge := rfl
  have chiefs : Registry.builtin.makeResourceRule "role" (.ofList [("role", "admin")]) =
      .ok (ResourceRule.gate (.role "admin")).judge := rfl
  have covers : Registry.builtin.makeRecordRule "mask-fields" coverParameters =
      .ok (RecordRule.mask ["name", "ssn"] "***").judge := rfl
  have redacts : Registry.builtin.makeRecordRule "redact-fields" redactionParameters =
      .ok redaction.judge := rfl
  refine Memory.forall_put (Memory.forall_put empty ⟨?_, ?_⟩ _) ⟨?_, ?_⟩ _
  · exact Rules.madeBy_empty.insert members _
  · exact (Rules.madeBy_empty.insert covers _).insert redacts _
  · exact Rules.madeBy_empty.insert chiefs _
  · exact Rules.madeBy_empty.insert covers _

def chief : User := (User.named "c").withRoles ["staff", "admin"]

/-- A context of the same purpose with another entry. -/
def ticket : Context := (Context.ofPurpose "audit").set "ticket" "7"

theorem staff_holdsNoMore : HoldsNoMore staff (.ofPurpose "audit") chief ticket where
  roles := by decide
  auths := by decide
  purpose := by decide

end Sample

open Resolution.Sample Sample in
/-- The chief is shown the file as well, and of its records the pay that staff do not see. -/
theorem privileges_only_add_chief :
    Memory.store.Holds guardedMemory guardedMemory.get? ∧ ByLibrary guardedMemory.get? ∧
      (∀ r ∈ [root, file], r.Constructible) ∧
      HoldsNoMore staff (.ofPurpose "audit") chief ticket ∧
      ((visible Memory.store staff (.ofPurpose "audit") [root, file]).on guardedMemory).1 =
        .ok [root] ∧
      ((visible Memory.store chief ticket [root, file]).on guardedMemory).1 = .ok [root, file] ∧
      ∃ found next, (recordRules Memory.store [root, file]).on guardedMemory =
          (.ok found, next) ∧
        ("/file/a.txt", file, guardedRules) ∈ found.entries ∧
        guardedRules.apply (person "n" "1" "2") staff (.ofPurpose "audit") =
          .allow (.object [("name", .text "***")]) ∧
        ∃ shown, guardedRules.apply (person "n" "1" "2") chief ticket = .allow shown ∧
          (Json.object [("name", .text "***")]).SeenIn shown := by
  have constructible : ∀ r ∈ [root, file], r.Constructible := by
    simp [file_constructible, root, Resource.Constructible.system]
  obtain ⟨found, next, run, adds⟩ := privileges_only_add Memory.store guardedMemory
    guardedMemory.get? guardedMemory.holds guardedMemory_byLibrary [root, file] constructible
  obtain ⟨-, shows, -⟩ := adds staff (.ofPurpose "audit") chief ticket staff_holdsNoMore
  have entered : ("/file/a.txt", file, guardedRules) ∈ found.entries := by
    refine OrderedMap.get?_eq_some_iff.1 ?_
    cases run
    rfl
  have kept : guardedRules.apply (person "n" "1" "2") staff (.ofPurpose "audit") =
      .allow (.object [("name", .text "***")]) := rfl
  obtain ⟨record, given, seenIn⟩ := (shows "/file/a.txt" file guardedRules entered).apply _ _ kept
  exact ⟨guardedMemory.holds, guardedMemory_byLibrary, constructible, staff_holdsNoMore, rfl, rfl,
    found, next, run, entered, kept, record, given, seenIn⟩

end PolicyTree.Access
