import Mathlib.Data.Set.Card
import PolicyTree.CommandLine.Check
import PolicyTree.Proofs.Map.Sorted
import PolicyTree.Proofs.Resource.Construction
import PolicyTree.Proofs.Text.Fields
/-
  The context that the entries of a command make. Which key an entry gives, and which text, is said
  of its first equals sign (`Gives`). Either one of the entries is refused (`IsRefused`), or the
  context has of each key the text that is given last, and beside these keys the purpose alone,
  which no entry can give (`IsContextOf`).

  Entries are set one after the other, and that comes to the map of all the pairs that they give,
  behind the purpose (`entries_of_addEntries`).
-/
namespace PolicyTree.CommandLine

variable {entry key text : String} {entries : List String}

/-! ## Single entries -/

/-- The key stands in front of the first equals sign and the text behind it, both with white space
around them that is taken off. -/
def Gives (entry key text : String) : Prop :=
  ∃ front behind, '=' ∉ front.toList ∧ entry = front ++ "=" ++ behind ∧
    key = Text.trim front ∧ text = Text.trim behind

/-- The entry has no equals sign, or the key that it gives is blank or that of the purpose. -/
def IsRefused (entry : String) : Prop :=
  '=' ∉ entry.toList ∨ ∃ key text, Gives entry key text ∧ (key = "" ∨ key = "purpose")

/-- A key and a value around an equals sign, and the key neither blank nor that of the purpose. -/
def IsContextEntry (entry : String) : Prop :=
  ∃ key value, Text.splitOnce? '=' entry = some (key, value) ∧ Text.trim key ≠ "" ∧
    Text.trim key ≠ purposeKey

/-- The key and the text that an entry gives, if it gives any. -/
def given? (entry : String) : Option (String × String) :=
  (Text.splitOnce? '=' entry).map fun (front, behind) => (Text.trim front, Text.trim behind)

theorem given?_eq_some_iff : given? entry = some (key, text) ↔ Gives entry key text := by
  rw [given?, Option.map_eq_some_iff]
  constructor
  · rintro ⟨⟨front, behind⟩, split, same⟩
    obtain ⟨absent, whole⟩ := Text.splitOnce?_eq_some_iff.1 split
    cases same
    exact ⟨front, behind, absent, whole, rfl, rfl⟩
  · rintro ⟨front, behind, absent, whole, rfl, rfl⟩
    exact ⟨(front, behind), Text.splitOnce?_eq_some_iff.2 ⟨absent, whole⟩, rfl⟩

theorem given?_eq_none_iff : given? entry = none ↔ '=' ∉ entry.toList := by
  rw [given?, Option.map_eq_none_iff, Text.splitOnce?_eq_none_iff]

theorem isContextEntry_iff : IsContextEntry entry ↔
    ∃ key text, given? entry = some (key, text) ∧ key ≠ "" ∧ key ≠ purposeKey := by
  constructor
  · rintro ⟨front, behind, split, filled, other⟩
    exact ⟨_, _, by rw [given?, split]; rfl, filled, other⟩
  · rintro ⟨key, text, given, filled, other⟩
    obtain ⟨⟨front, behind⟩, split, same⟩ := Option.map_eq_some_iff.1 given
    cases same
    exact ⟨front, behind, split, filled, other⟩

theorem isRefused_iff : IsRefused entry ↔ ¬ IsContextEntry entry := by
  rw [isContextEntry_iff]
  cases given : given? entry with
  | none => exact iff_of_true (.inl (given?_eq_none_iff.1 given)) (by simp)
  | some pair =>
    obtain ⟨key, text⟩ := pair
    have present : ¬ '=' ∉ entry.toList := by
      rw [← given?_eq_none_iff, given]
      exact Option.some_ne_none _
    rw [IsRefused, or_iff_right present]
    constructor
    · rintro ⟨own, _, gives, bad⟩ ⟨key', text', same, filled, other⟩
      rw [given?_eq_some_iff.2 gives] at given
      cases given
      cases same
      exact bad.elim filled other
    · intro unfit
      refine ⟨key, text, given?_eq_some_iff.1 given, ?_⟩
      by_contra good
      rw [not_or] at good
      exact unfit ⟨key, text, rfl, good⟩

theorem addEntry_of_given {context : Context} (given : given? entry = some (key, text))
    (filled : key ≠ "") (other : key ≠ purposeKey) :
    addEntry context entry = .ok (context.set key text) := by
  obtain ⟨⟨front, behind⟩, split, same⟩ := Option.map_eq_some_iff.1 given
  cases same
  rw [addEntry, split]
  exact if_neg (by simp [filled, other])

theorem addEntry_of_not (h : ¬ IsContextEntry entry) (context : Context) :
    ∃ error, addEntry context entry = .error error ∧ error.exitStatus = 1 := by
  unfold addEntry
  cases split : Text.splitOnce? '=' entry with
  | none => exact ⟨_, rfl, rfl⟩
  | some parts =>
    obtain ⟨key, value⟩ := parts
    have bad : Text.trim key = "" ∨ Text.trim key = purposeKey := by
      by_contra good
      rw [not_or] at good
      exact h ⟨key, value, split, good⟩
    exact ⟨.contextKey entry, if_pos bad, rfl⟩

/-! ## One entry after the other -/

/-- Entries set one after the other set all that they give. -/
theorem entries_of_addEntries (all : ∀ entry ∈ entries, IsContextEntry entry) (context : Context) :
    ∃ next, addEntries entries context = .ok next ∧ next.entries =
      (entries.filterMap given?).foldl (fun m pair => m.insert pair.1 pair.2) context.entries := by
  induction entries generalizing context with
  | nil => exact ⟨context, rfl, rfl⟩
  | cons entry rest ih =>
    rw [List.forall_mem_cons] at all
    obtain ⟨key, text, given, filled, other⟩ := isContextEntry_iff.1 all.1
    obtain ⟨next, added, same⟩ := ih all.2 (context.set key text)
    refine ⟨next, bind_eq_ok_iff.2 ⟨_, addEntry_of_given given filled other, added⟩, ?_⟩
    rw [same, List.filterMap_cons_some given]
    rfl

theorem addEntries_of_exists (bad : ∃ entry ∈ entries, ¬ IsContextEntry entry) (context : Context) :
    ∃ error, addEntries entries context = .error error ∧ error.exitStatus = 1 := by
  induction entries generalizing context with
  | nil =>
    obtain ⟨_, mem, -⟩ := bad
    cases mem
  | cons entry rest ih =>
    by_cases own : IsContextEntry entry
    · obtain ⟨key, text, given, filled, other⟩ := isContextEntry_iff.1 own
      have later : ∃ entry ∈ rest, ¬ IsContextEntry entry := by
        obtain ⟨other, mem, bad⟩ := bad
        rcases List.mem_cons.1 mem with rfl | mem
        · exact absurd own bad
        · exact ⟨other, mem, bad⟩
      rw [addEntries, addEntry_of_given given filled other]
      exact ih later (context.set key text)
    · obtain ⟨error, first, status⟩ := addEntry_of_not own context
      rw [addEntries, first]
      exact ⟨error, rfl, status⟩

/-! ## What the context holds -/

/-- The last entry that gives the key gives it the text. -/
def LastGives (entries : List String) (key text : String) : Prop :=
  ∃ before entry later, entries = before ++ entry :: later ∧ Gives entry key text ∧
    ∀ other ∈ later, ∀ text', ¬ Gives other key text'

theorem lastGives_concat_iff {last : String} : LastGives (entries ++ [last]) key text ↔
    Gives last key text ∨ LastGives entries key text ∧ ∀ text', ¬ Gives last key text' := by
  constructor
  · rintro ⟨before, entry, later, split, gives, others⟩
    rcases concat_eq_append_cons_iff.1 split with ⟨rfl, rfl, rfl⟩ | ⟨front, rfl, rfl⟩
    · exact .inl gives
    · rw [List.forall_mem_append, List.forall_mem_singleton] at others
      exact .inr ⟨⟨before, entry, front, rfl, gives, others.1⟩, others.2⟩
  · rintro (gives | ⟨⟨before, entry, later, rfl, gives, others⟩, other⟩)
    · exact ⟨entries, last, [], rfl, gives, nofun⟩
    · refine ⟨before, entry, later ++ [last], by simp, gives, ?_⟩
      rw [List.forall_mem_append, List.forall_mem_singleton]
      exact ⟨others, other⟩

theorem lookup_given : (entries.filterMap given?).reverse.lookup key = some text ↔
    LastGives entries key text := by
  induction entries using List.reverseRecOn with
  | nil => simp [LastGives]
  | append_singleton entries last ih =>
    rw [lastGives_concat_iff, ← ih, List.filterMap_append, List.reverse_append]
    simp only [← given?_eq_some_iff]
    cases given : given? last with
    | none => simp [given]
    | some pair =>
      obtain ⟨own, value⟩ := pair
      rw [List.filterMap_cons_some given]
      by_cases same : key = own
      · simp [same]
      · have ne : own ≠ key := Ne.symm same
        simp [List.lookup_cons, beq_false_of_ne same, ne]

/-- The keys that entries give. -/
def givenKeys (entries : List String) : Set String :=
  {key | ∃ entry ∈ entries, ∃ text, Gives entry key text}

theorem givenKeys_eq (entries : List String) :
    givenKeys entries = ↑((entries.filterMap given?).map Prod.fst).toFinset := by
  ext key
  rw [Finset.mem_coe, List.mem_toFinset, List.mem_map]
  constructor
  · rintro ⟨entry, mem, text, gives⟩
    exact ⟨(key, text), List.mem_filterMap.2 ⟨entry, mem, given?_eq_some_iff.2 gives⟩, rfl⟩
  · rintro ⟨⟨_, text⟩, listed, rfl⟩
    obtain ⟨entry, mem, given⟩ := List.mem_filterMap.1 listed
    exact ⟨entry, mem, text, given?_eq_some_iff.1 given⟩

theorem LastGives.mem_givenKeys (last : LastGives entries key text) : key ∈ givenKeys entries := by
  obtain ⟨before, entry, later, rfl, gives, -⟩ := last
  exact ⟨entry, by simp, text, gives⟩

/-- The context has the purpose as it was given, of every other key the text given last, and no
other key. -/
structure IsContextOf (purpose : String) (entries : List String) (context : Context) : Prop where
  purpose_eq : context.purpose = purpose
  get?_purpose : context.get? "purpose" = some purpose
  get?_iff : ∀ key text, key ≠ "purpose" →
    (context.get? key = some text ↔ LastGives entries key text)
  contains_iff : ∀ key, context.contains key = true ↔ key = "purpose" ∨ key ∈ givenKeys entries
  size_eq : context.size = 1 + (givenKeys entries).ncard

theorem purposeKey_not_mem_givenKeys (all : ∀ entry ∈ entries, IsContextEntry entry) :
    purposeKey ∉ givenKeys entries := by
  rintro ⟨entry, mem, text, gives⟩
  obtain ⟨key, text', given, -, other⟩ := isContextEntry_iff.1 (all entry mem)
  rw [given?_eq_some_iff.2 gives] at given
  cases given
  exact other rfl

theorem exists_isContextOf (all : ∀ entry ∈ entries, IsContextEntry entry) (purpose : String) :
    ∃ context, addEntries entries (.ofPurpose purpose) = .ok context ∧
      IsContextOf purpose entries context := by
  obtain ⟨context, added, same⟩ := entries_of_addEntries all (.ofPurpose purpose)
  have other := purposeKey_not_mem_givenKeys all
  have held : context.entries = .ofList ((purposeKey, purpose) :: entries.filterMap given?) := same
  have found : ∀ key, context.get? key =
      ((entries.filterMap given?).reverse.lookup key).or ([(purposeKey, purpose)].lookup key) := by
    intro key
    rw [Context.get?, held, NameMap.get?_ofList, List.reverse_cons, List.lookup_append]
  have own : context.get? purposeKey = some purpose := by
    rw [found]
    cases last : (entries.filterMap given?).reverse.lookup purposeKey with
    | none => simp
    | some text => exact absurd (lookup_given.1 last).mem_givenKeys other
  refine ⟨context, added, by rw [Context.purpose, own]; rfl, own, fun key text ne => ?_,
    fun key => ?_, ?_⟩
  · have ne' : key ≠ purposeKey := ne
    rw [found, ← lookup_given, List.lookup_cons, beq_false_of_ne ne', List.lookup_nil,
      Option.or_none]
  · rw [Context.contains, held, NameMap.contains_ofList_iff, List.map_cons, List.mem_cons,
      givenKeys_eq, Finset.mem_coe, List.mem_toFinset]
    rfl
  · rw [givenKeys_eq, Finset.mem_coe, List.mem_toFinset] at other
    rw [Context.size, held, NameMap.size_ofList, List.map_cons, List.toFinset_cons,
      Finset.card_insert_of_notMem (by rwa [List.mem_toFinset]), givenKeys_eq,
      Set.ncard_coe_finset, Nat.add_comm]

/-- A command fails over its entries exactly if one of them is refused. Otherwise its context is
that of the entries, and no entry has changed the purpose. -/
theorem requestContext_exact (arguments : CheckArguments) :
    ((∃ error, arguments.requestContext = .error error) ↔
      ∃ entry ∈ arguments.context, IsRefused entry) ∧
    ((∀ entry ∈ arguments.context, ¬ IsRefused entry) →
      ∃ context, arguments.requestContext = .ok context ∧
        IsContextOf arguments.purpose arguments.context context) := by
  simp only [isRefused_iff, not_not]
  have made := fun all : ∀ entry ∈ arguments.context, IsContextEntry entry =>
    exists_isContextOf all arguments.purpose
  refine ⟨⟨?_, fun bad => ?_⟩, made⟩
  · rintro ⟨error, failed⟩
    by_contra good
    push Not at good
    obtain ⟨context, added, -⟩ := made good
    cases failed.symm.trans added
  · obtain ⟨error, failed, -⟩ := addEntries_of_exists bad (.ofPurpose arguments.purpose)
    exact ⟨error, failed⟩

/-- Three entries of which two give the same key. -/
def repeatedEntries : List String := [" region = eu", "note=a=b", "region =\u00A0us "]

/-- The later region counts, only the first equals sign of the note does, and the purpose keeps its
white space. A key that is that of the purpose only without white space is refused, too. -/
theorem requestContext_exact_repeated :
    (∀ entry ∈ repeatedEntries, ¬ IsRefused entry) ∧
    (∃ context, (CheckArguments.mk "u" [] [] " audit " repeatedEntries []).requestContext =
        .ok context ∧ context.purpose = " audit " ∧ context.get? "region" = some "us" ∧
        context.get? "note" = some "a=b") ∧
    ∃ error, (CheckArguments.mk "u" [] [] "audit" ["\u2003purpose =x"] []).requestContext =
      .error error := by
  have early : given? " region = eu" = some ("region", "eu") := by decide
  have note : given? "note=a=b" = some ("note", "a=b") := by decide
  have late : given? "region =\u00A0us " = some ("region", "us") := by decide
  have accepted : ∀ entry ∈ repeatedEntries, ¬ IsRefused entry := by
    simp only [isRefused_iff, not_not, isContextEntry_iff]
    simp [repeatedEntries, early, note, late, purposeKey]
  have refused : IsRefused "\u2003purpose =x" :=
    .inr ⟨"purpose", "x", given?_eq_some_iff.1 (by decide), .inr rfl⟩
  refine ⟨accepted, ?_, (requestContext_exact _).1.2 ⟨_, List.mem_singleton_self _, refused⟩⟩
  obtain ⟨context, made, holds⟩ :=
    (requestContext_exact (.mk "u" [] [] " audit " repeatedEntries [])).2 accepted
  refine ⟨context, made, holds.purpose_eq, (holds.get?_iff _ _ (by decide)).2 ?_,
    (holds.get?_iff _ _ (by decide)).2 ?_⟩
  · exact ⟨[" region = eu", "note=a=b"], _, [], rfl, given?_eq_some_iff.1 late, nofun⟩
  · refine ⟨[" region = eu"], _, ["region =\u00A0us "], rfl, given?_eq_some_iff.1 note, ?_⟩
    simp [← given?_eq_some_iff, late]

end PolicyTree.CommandLine
