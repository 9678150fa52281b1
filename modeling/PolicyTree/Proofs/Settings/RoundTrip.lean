import PolicyTree.Context.Codec
import PolicyTree.Proofs.Json.Reading
/-
  Configurations, users and contexts survive being written. Each kind of record is read back by
  the ways of its parts (`ReadsBack`), the whole configuration last; what may be left out of a
  record is left out only where it is the default (`User.readsBack`, `Connection.readsBack`) or
  where there is nothing (`ResourceRow.readsBack`).
-/
namespace PolicyTree

open Json (ReadsBack reading)
open Reading (required withDefault)

/-! ## Users and contexts -/

theorem NameSet.eq_empty {s : NameSet} (h : s.isEmpty = true) : .empty = s := by
  obtain ⟨names, increase⟩ := s
  cases List.isEmpty_iff.1 h
  rfl

theorem NameMap.eq_empty {β : Type} {m : NameMap β} (h : m.isEmpty = true) : .empty = m := by
  obtain ⟨entries, increase⟩ := m
  cases List.isEmpty_iff.1 h
  rfl

theorem User.readsBack : ReadsBack (User.read reading) User.toJson := by
  intro user
  let members := ("id", Json.text user.id) :: setMember "roles" user.roles ++
    setMember "auths" user.auths
  have among : (members.map Prod.fst).Sublist ["id", "roles", "auths"] := by
    rw [List.map_append, List.map_cons]
    exact .append (.cons_cons _ (Json.names_setMember_sublist _ _))
      (Json.names_setMember_sublist _ _)
  obtain ⟨fields, record, found⟩ := Json.exists_fields members (by decide) among
  have roles : fields.lookup "roles" =
      if user.roles.isEmpty then none else some (.texts user.roles.names) := by
    simp [found, members, List.lookup_append, List.lookup_cons, Json.lookup_setMember]
  have auths : fields.lookup "auths" =
      if user.auths.isEmpty then none else some (.texts user.auths.names) := by
    simp [found, members, List.lookup_append, List.lookup_cons, Json.lookup_setMember]
  have id : required reading.text fields "id" = some user.id :=
    Json.required_of_lookup Json.text_readsBack (found "id")
  have roles := Json.withDefault_of_skipped Json.nameSet_readsBack roles NameSet.eq_empty
  have auths := Json.withDefault_of_skipped Json.nameSet_readsBack auths NameSet.eq_empty
  have run : reading.record ["id", "roles", "auths"] user.toJson = some fields := record
  simp [User.read, run, id, roles, auths]

/-- A context is read from texts under names, the purpose among them, and from nothing else. -/
theorem Context.read_eq_some_iff {value : Json} {context : Context} :
    Context.read reading value = some context ↔ ∃ entries : List (String × String),
      value = .object (entries.map fun entry => (entry.1, .text entry.2)) ∧
        purposeKey ∈ entries.map Prod.fst ∧ context.entries = .ofList entries := by
  constructor
  · intro h
    obtain ⟨map, texts, made⟩ := Option.bind_eq_some_iff.1 h
    obtain ⟨entries, rfl, rfl⟩ := Json.textMap_eq_some_iff.1 texts
    unfold ofEntries at made
    split at made
    · next purposed =>
      cases made
      exact ⟨entries, rfl, NameMap.contains_ofList_iff.1 purposed, rfl⟩
    · cases made
  · rintro ⟨entries, rfl, purposed, same⟩
    have texts : reading.textMap (.object (entries.map fun entry => (entry.1, .text entry.2))) =
        some (.ofList entries) := Json.textMap_eq_some_iff.2 ⟨entries, rfl, rfl⟩
    obtain ⟨map, hasPurpose⟩ := context
    cases same
    rw [Context.read, texts, Option.bind_eq_bind, Option.bind_some, ofEntries,
      dif_pos (NameMap.contains_ofList_iff.2 purposed)]
    rfl

theorem Context.readsBack : ReadsBack (Context.read reading) Context.toJson := by
  intro context
  have purposed : purposeKey ∈ context.entries.entries.map Prod.fst := by
    rw [← NameMap.contains_ofList_iff, NameMap.ofList_entries]
    exact context.hasPurpose
  exact read_eq_some_iff.2
    ⟨context.entries.entries, rfl, purposed, (NameMap.ofList_entries _).symm⟩

/-! ## Rows -/

theorem Connection.readsBack : ReadsBack (Connection.read reading) Connection.toJson := by
  intro connection
  let members := ("service", Json.text connection.service) ::
    if connection.properties.isEmpty then []
    else [("properties", textMapJson connection.properties)]
  have among : (members.map Prod.fst).Sublist ["service", "properties"] := by
    refine .cons_cons _ ?_
    split
    · exact List.nil_sublist _
    · exact List.Sublist.refl _
  obtain ⟨fields, record, found⟩ := Json.exists_fields members (by decide) among
  have properties : fields.lookup "properties" =
      if connection.properties.isEmpty then none
      else some (textMapJson connection.properties) := by
    rw [found]
    cases empty : connection.properties.isEmpty <;> simp [members, empty, List.lookup_cons]
  have service : required reading.text fields "service" = some connection.service :=
    Json.required_of_lookup Json.text_readsBack (found "service")
  have properties := Json.withDefault_of_skipped Json.textMap_readsBack properties NameMap.eq_empty
  have run : reading.record ["service", "properties"] connection.toJson = some fields := record
  simp [Connection.read, run, service, properties]

theorem ResourceKind.readsBack :
    ReadsBack (ResourceKind.read reading) fun kind => .text kind.name :=
  ofName?_name

theorem ResourceRow.readsBack : ReadsBack (ResourceRow.read reading) ResourceRow.toJson := by
  intro row
  let members := [("id", Json.text row.id), ("kind", .text row.kind.name)] ++
    optionalMember "parent" .text row.parent ++ optionalMember "type" .text row.type ++
    optionalMember "format" .text row.format ++
    optionalMember "connection" Connection.toJson row.connection
  have among : (members.map Prod.fst).Sublist
      ["id", "kind", "parent", "type", "format", "connection"] := by
    have given : [("id", Json.text row.id), ("kind", .text row.kind.name)].map Prod.fst =
        ["id", "kind"] := rfl
    have parent := Json.names_optionalMember_sublist "parent" Json.text row.parent
    have type := Json.names_optionalMember_sublist "type" Json.text row.type
    have format := Json.names_optionalMember_sublist "format" Json.text row.format
    have connection :=
      Json.names_optionalMember_sublist "connection" Connection.toJson row.connection
    simp only [members, List.map_append, given]
    exact ((((List.Sublist.refl _).append parent).append type).append format).append connection
  obtain ⟨fields, record, found⟩ := Json.exists_fields members (by decide) among
  have left : fields.lookup "parent" = row.parent.map .text ∧
      fields.lookup "type" = row.type.map .text ∧
      fields.lookup "format" = row.format.map .text ∧
      fields.lookup "connection" = row.connection.map Connection.toJson := by
    simp [found, members, List.lookup_append, List.lookup_cons, Json.lookup_optionalMember]
  obtain ⟨parent, type, format, connection⟩ := left
  have id : required reading.text fields "id" = some row.id :=
    Json.required_of_lookup Json.text_readsBack (found "id")
  have kind : required (ResourceKind.read reading) fields "kind" = some row.kind :=
    Json.required_of_lookup ResourceKind.readsBack (found "kind")
  have parent := Json.optional_of_lookup Json.text_readsBack (fun _ => rfl) parent
  have type := Json.optional_of_lookup Json.text_readsBack (fun _ => rfl) type
  have format := Json.optional_of_lookup Json.text_readsBack (fun _ => rfl) format
  have connection := Json.optional_of_lookup Connection.readsBack (fun _ => rfl) connection
  have run : reading.record ["id", "kind", "parent", "type", "format", "connection"] row.toJson =
      some fields := record
  simp [ResourceRow.read, run, id, kind, parent, type, format, connection]

theorem RuleRow.readsBack : ReadsBack (RuleRow.read reading) RuleRow.toJson := by
  intro row
  obtain ⟨fields, record, found⟩ := Json.exists_fields
    [("name", .text row.name), ("rule", .text row.rule), ("params", textMapJson row.params)]
    (by decide) (List.Sublist.refl ["name", "rule", "params"])
  have name : required reading.text fields "name" = some row.name :=
    Json.required_of_lookup Json.text_readsBack (found "name")
  have rule : required reading.text fields "rule" = some row.rule :=
    Json.required_of_lookup Json.text_readsBack (found "rule")
  have params : withDefault reading.textMap .empty fields "params" = some row.params :=
    Json.withDefault_of_lookup Json.textMap_readsBack (found "params")
  have run : reading.record ["name", "rule", "params"] row.toJson = some fields := record
  simp [RuleRow.read, run, name, rule, params]

/-- The name of the subject must not be that of another member. -/
theorem PolicyRow.readsBack {subject : String}
    (distinct : [subject, "owner", "resource_rules", "record_rules"].Nodup) :
    ReadsBack (PolicyRow.read reading subject) (PolicyRow.toJson subject) := by
  intro row
  obtain ⟨fields, record, found⟩ := Json.exists_fields
    [(subject, .text row.subject), ("owner", row.owner.toJson),
      ("resource_rules", .array (row.resourceRules.map RuleRow.toJson)),
      ("record_rules", .array (row.recordRules.map RuleRow.toJson))]
    distinct (List.Sublist.refl [subject, "owner", "resource_rules", "record_rules"])
  have others : ∀ name ∈ ["owner", "resource_rules", "record_rules"], (name == subject) = false := by
    intro name mem
    rw [List.nodup_cons] at distinct
    refine beq_false_of_ne ?_
    rintro rfl
    exact distinct.1 mem
  have named : required reading.text fields subject = some row.subject := by
    refine Json.required_of_lookup Json.text_readsBack ((found subject).trans ?_)
    rw [List.lookup_cons_self]
  have owner : withDefault (User.read reading) (.named "") fields "owner" = some row.owner := by
    refine Json.withDefault_of_lookup User.readsBack ((found "owner").trans ?_)
    rw [List.lookup_cons, others _ (by simp)]
    rfl
  have resourceRules : withDefault (reading.list (RuleRow.read reading)) [] fields
      "resource_rules" = some row.resourceRules := by
    refine Json.withDefault_of_lookup (Json.list_readsBack RuleRow.readsBack)
      ((found "resource_rules").trans ?_)
    rw [List.lookup_cons, others _ (by simp)]
    rfl
  have recordRules : withDefault (reading.list (RuleRow.read reading)) [] fields
      "record_rules" = some row.recordRules := by
    refine Json.withDefault_of_lookup (Json.list_readsBack RuleRow.readsBack)
      ((found "record_rules").trans ?_)
    rw [List.lookup_cons, others _ (by simp)]
    rfl
  have run : reading.record [subject, "owner", "resource_rules", "record_rules"]
      (row.toJson subject) = some fields := record
  simp [PolicyRow.read, run, named, owner, resourceRules, recordRules]

/-! ## Sections -/

theorem Logging.readsBack : ReadsBack (Logging.read reading) Logging.toJson := fun _ => rfl

theorem Caching.readsBack : ReadsBack (Caching.read reading) Caching.toJson := by
  intro caching
  obtain ⟨fields, record, found⟩ := Json.exists_fields
    [("enabled", .bool caching.enabled), ("ttl_secs", .int caching.ttlSecs.toNat)]
    (by decide) (List.Sublist.refl ["enabled", "ttl_secs"])
  have enabled : withDefault reading.flag Caching.default.enabled fields "enabled" =
      some caching.enabled :=
    Json.withDefault_of_lookup Json.flag_readsBack (found "enabled")
  have ttlSecs : withDefault reading.count Caching.default.ttlSecs fields "ttl_secs" =
      some caching.ttlSecs :=
    Json.withDefault_of_lookup Json.count_readsBack (found "ttl_secs")
  have run : reading.record ["enabled", "ttl_secs"] caching.toJson = some fields := record
  simp [Caching.read, run, enabled, ttlSecs]

theorem Inventory.readsBack : ReadsBack (Inventory.read reading) Inventory.toJson := by
  intro inventory
  obtain ⟨fields, record, found⟩ := Json.exists_fields
    [("resources", .array (inventory.resources.map ResourceRow.toJson)),
      ("resource_policies", .array (inventory.resourcePolicies.map (PolicyRow.toJson "resource"))),
      ("type_policies", .array (inventory.typePolicies.map (PolicyRow.toJson "type")))]
    (by decide) (List.Sublist.refl ["resources", "resource_policies", "type_policies"])
  have resources : withDefault (reading.list (ResourceRow.read reading)) [] fields "resources" =
      some inventory.resources :=
    Json.withDefault_of_lookup (Json.list_readsBack ResourceRow.readsBack) (found "resources")
  have resourcePolicies : withDefault (reading.list (PolicyRow.read reading "resource")) [] fields
      "resource_policies" = some inventory.resourcePolicies :=
    Json.withDefault_of_lookup (Json.list_readsBack (PolicyRow.readsBack (by decide)))
      (found "resource_policies")
  have typePolicies : withDefault (reading.list (PolicyRow.read reading "type")) [] fields
      "type_policies" = some inventory.typePolicies :=
    Json.withDefault_of_lookup (Json.list_readsBack (PolicyRow.readsBack (by decide)))
      (found "type_policies")
  have run : reading.record ["resources", "resource_policies", "type_policies"]
      inventory.toJson = some fields := record
  simp [Inventory.read, run, resources, resourcePolicies, typePolicies]

theorem Settings.readsBack : ReadsBack Settings.ofJson? Settings.toJson := by
  intro settings
  obtain ⟨fields, record, found⟩ := Json.exists_fields
    [("logging", settings.logging.toJson), ("cache", settings.caching.toJson),
      ("bootstrap", settings.inventory.toJson)]
    (by decide) (List.Sublist.refl ["logging", "cache", "bootstrap"])
  have logging : withDefault (Logging.read reading) .default fields "logging" =
      some settings.logging :=
    Json.withDefault_of_lookup Logging.readsBack (found "logging")
  have caching : withDefault (Caching.read reading) .default fields "cache" =
      some settings.caching :=
    Json.withDefault_of_lookup Caching.readsBack (found "cache")
  have inventory : withDefault (Inventory.read reading) .default fields "bootstrap" =
      some settings.inventory :=
    Json.withDefault_of_lookup Inventory.readsBack (found "bootstrap")
  have run : reading.record ["logging", "cache", "bootstrap"] settings.toJson = some fields :=
    record
  simp [Settings.ofJson?, Settings.read, run, logging, caching, inventory]

/-! ## The whole -/

/-- Whatever is written is read back as it was, configurations, users and contexts alike. So what
a document leaves out is filled in once, and stays. A context is read exactly from the texts
under names that have a purpose among them. -/
theorem written_is_read_back :
    (∀ settings : Settings, Settings.ofJson? settings.toJson = some settings) ∧
    (∀ value settings, Settings.ofJson? value = some settings →
      Settings.ofJson? settings.toJson = some settings) ∧
    (∀ user : User, User.read reading user.toJson = some user) ∧
    (∀ context : Context, Context.read reading context.toJson = some context) ∧
    ∀ value context, Context.read reading value = some context ↔
      ∃ entries : List (String × String),
        value = .object (entries.map fun entry => (entry.1, .text entry.2)) ∧
          purposeKey ∈ entries.map Prod.fst ∧ context.entries = .ofList entries :=
  ⟨Settings.readsBack, fun _ settings _ => Settings.readsBack settings, User.readsBack,
    Context.readsBack, fun _ _ => Context.read_eq_some_iff⟩

namespace Settings.Sample

/-- A document that leaves out most of what it may. -/
def sparse : Json :=
  .object [("cache", .object [("ttl_secs", .int 5)]),
    ("bootstrap", .object [("type_policies", .array [.object [("type", .text "")]])])]

/-- What is read of it, the rest filled in. -/
def filled : Settings where
  logging := .default
  caching := ⟨true, 5⟩
  inventory := ⟨[], [], [⟨"", .named "", [], []⟩]⟩

end Settings.Sample

open Settings.Sample in
/-- What was filled in is written, and read again. -/
theorem written_is_read_back_sparse :
    Settings.ofJson? sparse = some filled ∧ Settings.ofJson? filled.toJson = some filled := by
  have first : Settings.ofJson? sparse = some filled := rfl
  obtain ⟨-, again, -⟩ := written_is_read_back
  exact ⟨first, again sparse filled first⟩

end PolicyTree
