import SemanticLayer.Proofs.Registry.Loading

/-!
Catalogs as functions of the registry. A catalog lists what is registered for its workspace,
whatever its data model held before and whatever has happened to the registry; and a table has the
columns that it was registered with. Only a schema with a whole number that is too long keeps a
catalog from being loaded, though every other text that is no schema stands for no columns.
-/

namespace SemanticLayer

open RegistryRows Transaction

/-! ### Columns of registered tables -/

/-- The column that an entry of texts gives, if it has a name. -/
def namedColumn? (fields : List (String × String)) : Option Column := do
  let name ← presentText (valueOf? fields "name")
  return ⟨name, (valueOf? fields "type").getD ""⟩

/-- Entries of texts, as a value. -/
def textEntries (entries : List (List (String × String))) : Json :=
  .list (entries.map fun fields => .object (fields.map fun field => (field.1, .text field.2)))

theorem isWordy_textEntries {entries : List (List (String × String))}
    (h : ∀ fields ∈ entries, (fields.map Prod.fst).Nodup) : (textEntries entries).IsWordy := by
  have hfields : ∀ fields : List (String × String),
      Json.FieldsWordy (fields.map fun field => (field.1, .text field.2)) := by
    intro fields
    induction fields with
    | nil => trivial
    | cons field rest ih => exact ⟨trivial, ih⟩
  change Json.AreWordy _
  induction entries with
  | nil => trivial
  | cons fields rest ih =>
    refine ⟨⟨?_, hfields fields⟩, ih fun other hother => h other (by simp [hother])⟩
    rw [List.map_map]
    exact h fields (by simp)

theorem field_texts (fields : List (String × String)) (key : String) :
    (Json.object (fields.map fun field => (field.1, .text field.2))).field key =
      .ofText? (valueOf? fields key) := by
  have hfield : (Json.object (fields.map fun field => (field.1, .text field.2))).field? key =
      (valueOf? fields key).map .text := by
    unfold Json.field? valueOf?
    dsimp only
    rw [List.find?_map, Option.map_map, Option.map_map]
    rfl
  rw [Json.field, hfield]
  cases valueOf? fields key <;> rfl

theorem columnOfEntry_texts (fields : List (String × String)) :
    columnOfEntry? (.object (fields.map fun field => (field.1, .text field.2))) =
      namedColumn? fields := by
  have htype : (if (presentText (valueOf? fields "type")).isSome then
      (Json.ofText? (valueOf? fields "type")).plain else "") = (valueOf? fields "type").getD "" := by
    cases valueOf? fields "type" with
    | none => rfl
    | some type => by_cases htype : type = "" <;> simp [presentText, Json.ofText?, Json.plain, htype]
  unfold columnOfEntry? namedColumn?
  simp only [field_texts, Json.isTruthy_ofText, htype]
  cases hname : presentText (valueOf? fields "name") with
  | none => rfl
  | some name => rw [Json.plain_ofText hname]; rfl

/-- A schema that was written is read as it was given. -/
theorem columnsOfSchema_written {entries : List (List (String × String))}
    (h : ∀ fields ∈ entries, (fields.map Prod.fst).Nodup) :
    columnsOfSchema (.text (textEntries entries).write) = entries.filterMap namedColumn? := by
  have htruthy : (Json.text (textEntries entries).write).isTruthy = true := by
    obtain ⟨c, chars, hchars, -⟩ := Json.exists_head_write (isWordy_textEntries h)
    simp [Json.isTruthy, ← String.toList_inj, hchars]
  unfold columnsOfSchema
  rw [htruthy]
  simp only [Json.read_write (isWordy_textEntries h), Except.toOption, Option.getD_some]
  simp only [textEntries, List.filterMap_map]
  exact List.filterMap_congr fun fields _ => columnOfEntry_texts fields

theorem schemaDigits_of_read {text : String} {digits : Nat}
    (h : Json.read text = .error (.tooManyDigits digits)) :
    schemaDigits? (.text text) = some digits := by
  simp only [schemaDigits?, h]

theorem schemaDigits_written {entries : List (List (String × String))}
    (h : ∀ fields ∈ entries, (fields.map Prod.fst).Nodup) :
    schemaDigits? (.text (textEntries entries).write) = none := by
  simp only [schemaDigits?, Json.read_write (isWordy_textEntries h)]

section

variable {registry registered : Registry}

theorem Registry.registerSyncedTable_hasSchema {entry : NewSyncedTable} {id : String}
    (h : registry.registerSyncedTable entry = (.ok id, registered)) :
    registered.rows.HasSchema id (.text entry.schema.write) := by
  obtain ⟨given, issued, hid⟩ : ∃ id issued, registry.syncedTableId entry.id =
      (id, { registry with issued }) := registry.exists_issued entry.id _ _
  unfold Registry.registerSyncedTable at h
  rw [hid] at h
  have hregistered := Ensures.of_commit (p := fun _ => True)
    (q := fun id rows => rows.HasSchema id (.text entry.schema.write)) h ?_ trivial
  · obtain ⟨rows, rfl, hschema⟩ := hregistered
    exact hschema
  · refine .bind (.change (q := fun rows => rows.HasSchema given (.text entry.schema.write))
      fun rows changed _ hchange => ?_) fun _ => .pure fun _ hrows => hrows
    obtain ⟨connectionId, -, hchange⟩ := bind_eq_ok.1 hchange
    obtain ⟨name, -, hchange⟩ := bind_eq_ok.1 hchange
    obtain ⟨-, rfl⟩ := addSyncedTable_eq_ok hchange
    exact ⟨_, List.mem_append_right _ (List.mem_singleton_self _), rfl, rfl⟩

/-- Later loads show the columns that a table was registered with, unless its schema has been set.
-/
theorem Registry.columns_of_registered {entry : NewSyncedTable}
    {entries : List (List (String × String))} {id : String} (hkeyed : registry.rows.Keyed)
    (hentries : ∀ fields ∈ entries, (fields.map Prod.fst).Nodup)
    (hschema : entry.schema = textEntries entries)
    (hregister : registry.registerSyncedTable entry = (.ok id, registered))
    {operations : List RegistryOperation}
    (hkept : ∀ schema, RegistryOperation.setSchema id schema ∉ operations)
    {workspaceId now : String} {modelId : Option String} {catalog : Catalog} {after : Registry}
    (hload : (registered.run operations).loadCatalog workspaceId modelId now = (.ok catalog, after))
    {table : Table} (htable : table ∈ catalog.tables) (hid : table.syncedTableId = id) :
    table.columns = entries.filterMap namedColumn? := by
  have hregistered : registered = registry.run [.registerSyncedTable entry] :=
    (congrArg Prod.snd hregister).symm
  have hlater : (registered.run operations).rows.Keyed :=
    run_keyed operations (hregistered ▸ run_keyed _ hkeyed)
  obtain ⟨record, hrecord, hown, hwritten⟩ :=
    run_hasSchema hkept (registerSyncedTable_hasSchema hregister)
  obtain ⟨rows, -, hloaded⟩ := loadedFrom hlater hload
  obtain ⟨found, hlive, hlisted⟩ := hloaded.isListing.only table htable
  have hsame : found.synced = record := by
    refine List.inj_on_of_nodup_map hlater.syncedTables hlive.synced hrecord ?_
    rw [hown, ← hid, hlisted]
    rfl
  rw [hlisted]
  change columnsOfSchema found.synced.schema = _
  rw [hsame, hwritten, hschema, columnsOfSchema_written hentries]

end

/-! ### Catalogs -/

/-- A catalog is loaded exactly where the schemas of all live tables can be read. It is that of
the model that was asked for, it lists the live tables by what is registered about them, and
loading again gives the same. A table keeps the identifier that its data model has given to it,
and the columns that it was registered with. -/
theorem Registry.loadCatalog_exact (registry : Registry) (workspaceId : String)
    (modelId : Option String) (now : String) (hkeyed : registry.rows.Keyed) :
    (registry.CanLoad workspaceId modelId →
      ((∃ catalog after, registry.loadCatalog workspaceId modelId now = (.ok catalog, after)) ↔
        ∀ found, registry.rows.IsLive workspaceId found →
          schemaDigits? found.synced.schema = none)) ∧
    (∀ catalog after, registry.loadCatalog workspaceId modelId now = (.ok catalog, after) →
      after.rows.Resolves workspaceId modelId catalog.model ∧
      (∀ model, registry.rows.Resolves workspaceId modelId model → catalog.model = model) ∧
      registry.rows.IsListing workspaceId catalog.tables ∧
      (∀ table ∈ catalog.tables,
        after.rows.Assigns catalog.model.id table.syncedTableId table.id) ∧
      (registry.Intact → ∀ later, (after.loadCatalog workspaceId modelId later).1 = .ok catalog)) ∧
    (∀ operations catalog after,
      (registry.run operations).loadCatalog workspaceId modelId now = (.ok catalog, after) →
      ∀ table ∈ catalog.tables, ∀ id,
        registry.rows.Assigns catalog.model.id table.syncedTableId id → table.id = id) ∧
    (∀ entry entries id registered, entry.schema = textEntries entries →
      (∀ fields ∈ entries, (fields.map Prod.fst).Nodup) →
      registry.registerSyncedTable entry = (.ok id, registered) →
      ∀ operations, (∀ schema, RegistryOperation.setSchema id schema ∉ operations) →
      ∀ catalog after,
        (registered.run operations).loadCatalog workspaceId modelId now = (.ok catalog, after) →
        ∀ table ∈ catalog.tables, table.syncedTableId = id →
          table.columns = entries.filterMap namedColumn?) := by
  refine ⟨fun hcan => ⟨?_, hcan.exists_catalog hkeyed⟩, ?_, ?_, ?_⟩
  · rintro ⟨catalog, after, hload⟩ found hlive
    obtain ⟨rows, -, hloaded⟩ := loadedFrom hkeyed hload
    exact hloaded.schemas hlive
  · intro catalog after hload
    obtain ⟨rows, rfl, hloaded⟩ := loadedFrom hkeyed hload
    exact ⟨hloaded.resolves, hloaded.known, hloaded.isListing,
      fun table htable => hloaded.assigns htable,
      fun hintact => loadCatalog_again hkeyed hintact hload⟩
  · intro operations catalog after hload table htable id hid
    have hgiven : ((registry.run operations).loadCatalog workspaceId modelId now).2.rows.Assigns
        catalog.model.id table.syncedTableId id :=
      run_assigns [.loadCatalog workspaceId modelId now] (run_assigns operations hid)
    obtain ⟨rows, hafter, hloaded⟩ := loadedFrom (run_keyed operations hkeyed) hload
    rw [hload, hafter] at hgiven
    exact hloaded.keyed.eq_of_assigns (hloaded.assigns htable) hgiven
  · intro entry entries id registered hschema hentries hregister operations hkept catalog after hload
      table htable hid
    exact columns_of_registered hkeyed hentries hschema hregister hkept hload htable hid

/-- The entries of a schema, one of them without a name. -/
def orderEntries : List (List (String × String)) :=
  [[("name", "sku"), ("type", "TEXT")], [("type", "DATE")], [("name", "price")]]

/-- A workspace whose data model has an old row for a table that is yet to be registered, and a
table that is deleted. -/
def beforeOrders : Registry :=
  { Registry.empty with
    rows := { RegistryRows.empty with
      connections := [⟨"c1", "ws-1", none, "PostgreSQL", none, false⟩]
      syncedTables := [⟨"people", "c1", "people", some "public", .null, true⟩]
      runtimeTables := [⟨"orders", some "Postgres", some "public.orders", none, none, true, none⟩]
      models := [⟨⟨defaultModelId "ws-1", "ws-1", defaultModelName, true, none, none⟩, some "ws-1"⟩]
      modelTables := [⟨"mt-7", defaultModelId "ws-1", "orders", "old_orders", none, "c0", "BigQuery",
        "bigquery", some "old.orders", "2020-01-01", "2020-01-01"⟩] } }

def newOrders : NewSyncedTable :=
  ⟨some "orders", some "c1", some "orders", some "public", textEntries orderEntries⟩

def withOrders : Registry := (beforeOrders.registerSyncedTable newOrders).2

theorem beforeOrders_registers :
    beforeOrders.registerSyncedTable newOrders = (.ok "orders", withOrders) := by
  rfl

/-- What is registered about the table, where it is the only one that is not deleted. -/
def registeredOrders : RegisteredTable :=
  ⟨⟨"orders", "c1", "orders", some "public", .text (textEntries orderEntries).write, false⟩,
    ⟨"c1", "ws-1", none, "PostgreSQL", none, false⟩,
    some ⟨"orders", some "Postgres", some "public.orders", none, none, true, none⟩⟩

theorem withOrders_isLive_iff (found : RegisteredTable) :
    withOrders.rows.IsLive "ws-1" found ↔ found = registeredOrders := by
  have hkeyed : withOrders.rows.Keyed := ⟨by decide, by decide, by decide, by decide⟩
  have hregistered : withOrders.rows.registered "ws-1" = [registeredOrders] := by rfl
  rw [← mem_registered_iff hkeyed, hregistered, List.mem_singleton]

theorem withOrders_newIds : withOrders.GivesNewIds where
  apart one hone two htwo modelId other h := by
    refine Registry.spelledTableId_inj ?_ h
    change one ∈ [_, registeredOrders.synced] at hone
    change two ∈ [_, registeredOrders.synced] at htwo
    simp only [List.mem_cons, List.not_mem_nil, or_false] at hone htwo
    rcases hone with rfl | rfl <;> rcases htwo with rfl | rfl <;> rfl
  unused record hrecord synced hsynced modelId hid := by
    obtain rfl := List.mem_singleton.1 hrecord
    change "mt-7" = Registry.spelledTableId modelId synced.id at hid
    have hchars := congrArg String.toList hid
    simp [Registry.spelledTableId, String.toList_append] at hchars

theorem loadCatalog_exact_orders :
    beforeOrders.rows.Keyed ∧ withOrders.rows.Keyed ∧ withOrders.CanLoad "ws-1" none ∧
      ∃ catalog after, withOrders.loadCatalog "ws-1" none "2026-01-01" = (.ok catalog, after) ∧
        (after.loadCatalog "ws-1" none "2026-01-02").1 = .ok catalog ∧
        ∃ table, catalog.tables.filter (·.syncedTableId == "orders") = [table] ∧
          table.id = "mt-7" ∧ table.name = "orders" ∧ table.runtimeRef = some "public.orders" ∧
          table.columns = [⟨"sku", "TEXT"⟩, ⟨"price", ""⟩] := by
  have hbefore : beforeOrders.rows.Keyed := ⟨by decide, by decide, by decide, by decide⟩
  have hkeyed : withOrders.rows.Keyed := ⟨by decide, by decide, by decide, by decide⟩
  have hcan : withOrders.CanLoad "ws-1" none := ⟨⟨rfl, fun _ => rfl⟩, .inl rfl, withOrders_newIds⟩
  have hentries : ∀ fields ∈ orderEntries, (fields.map Prod.fst).Nodup := by decide
  obtain ⟨hloads, hshows, -, -⟩ :=
    Registry.loadCatalog_exact withOrders "ws-1" none "2026-01-01" hkeyed
  obtain ⟨-, -, hids, hcolumns⟩ :=
    Registry.loadCatalog_exact beforeOrders "ws-1" none "2026-01-01" hbefore
  obtain ⟨catalog, after, hload⟩ := (hloads hcan).2 fun found hlive => by
    obtain rfl := (withOrders_isLive_iff found).1 hlive
    exact schemaDigits_written hentries
  obtain ⟨-, hmodel, hlisting, -, hagain⟩ := hshows catalog after hload
  obtain ⟨id, hlisted⟩ := hlisting.each registeredOrders ((withOrders_isLive_iff _).2 rfl)
  have htable : registeredOrders.listed id ∈ catalog.tables :=
    List.mem_of_mem_filter (hlisted ▸ List.mem_singleton_self _)
  have hassigned : beforeOrders.rows.Assigns catalog.model.id "orders" "mt-7" := by
    rw [hmodel _ rfl]
    exact ⟨_, List.mem_singleton_self _, rfl, rfl, rfl⟩
  refine ⟨hbefore, hkeyed, hcan, catalog, after, hload, hagain hcan.intact _, _, hlisted,
    ?_, rfl, ?_, ?_⟩
  · exact hids [.registerSyncedTable newOrders] catalog after hload _ htable _ hassigned
  · change registeredOrders.reference = some "public.orders"
    rfl
  · exact (hcolumns newOrders orderEntries "orders" withOrders rfl hentries beforeOrders_registers
      [] (by simp) catalog after hload _ htable rfl).trans (by decide)

/-- The orders with another schema. -/
def ordersWith (schema : Json) : Registry :=
  withOrders.run [.setSchema "orders" schema]

theorem ordersWith_isLive (schema : Json) :
    (ordersWith schema).rows.IsLive "ws-1"
      { registeredOrders with synced := { registeredOrders.synced with schema } } :=
  ⟨List.mem_cons_of_mem _ (List.mem_singleton_self _), rfl, List.mem_singleton_self _, rfl, rfl, rfl,
    rfl⟩

theorem ordersWith_canLoad (schema : Json) : (ordersWith schema).CanLoad "ws-1" none :=
  ⟨⟨rfl, fun _ => rfl⟩, .inl rfl, withOrders_newIds.of_sameIds rfl rfl rfl⟩

theorem ordersWith_keyed (schema : Json) : (ordersWith schema).rows.Keyed :=
  Registry.run_keyed _ ⟨by decide, by decide, by decide, by decide⟩

/-- No catalog is loaded with a schema that is too long a number. -/
theorem ordersWith_not_loaded {schema : Json} (h : schemaDigits? schema ≠ none) (now : String) :
    ¬∃ catalog after, (ordersWith schema).loadCatalog "ws-1" none now = (.ok catalog, after) := by
  rintro ⟨catalog, after, hload⟩
  obtain ⟨rows, -, hloaded⟩ := Registry.loadedFrom (ordersWith_keyed schema) hload
  exact h (hloaded.schemas (ordersWith_isLive schema))

/-- The orders are registered and the store can be used, and yet no catalog is loaded. -/
theorem loadCatalog_longNumber :
    ∃ schema : Json, schema = .text (Json.longNumberText 4301) ∧
      (ordersWith schema).rows.Keyed ∧ (ordersWith schema).CanLoad "ws-1" none ∧
      (∃ found, (ordersWith schema).rows.IsLive "ws-1" found) ∧
      ∀ now, ¬∃ catalog after,
        (ordersWith schema).loadCatalog "ws-1" none now = (.ok catalog, after) := by
  have hread : Json.read (Json.longNumberText 4301) = .error (.tooManyDigits 4301) :=
    Json.read_longNumberText (by decide)
  have hdigits : schemaDigits? (.text (Json.longNumberText 4301)) ≠ none := by
    rw [schemaDigits_of_read hread]
    exact Option.some_ne_none _
  exact ⟨_, rfl, ordersWith_keyed _, ordersWith_canLoad _, ⟨_, ordersWith_isLive _⟩,
    ordersWith_not_loaded hdigits⟩

end SemanticLayer
