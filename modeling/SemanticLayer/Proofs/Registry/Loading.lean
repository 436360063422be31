import SemanticLayer.Proofs.Json.RoundTrip
import SemanticLayer.Proofs.Registry.Listing

/-!
What loading a catalog does. Whatever was stored for a data model before, its tables are brought
in line with what is registered, and then they are listed. Loading again changes nothing that is
listed; and the identifiers of tables stay through all that happens to the registry. A catalog is
refused only for a number that is too long to be read.
-/

namespace SemanticLayer

open Transaction RegistryRows

section

variable {p : RegistryRows → Prop} {registry : Registry} {start rows changed : RegistryRows}
  {workspaceId now : String} {modelId : Option String}

/-! ### Bringing tables in line -/

/-- When the tables of a data model have been written, they are in line with what is registered. -/
theorem syncModelTables_inLine {modelId : String} (hkeyed : start.Keyed)
    (hsources : ∀ rows, p rows → start.SameSources rows)
    (hput : ∀ rows changed found, p rows → found ∈ start.registered workspaceId →
      rows.putModelTable (found.record (registry.tableId modelId found.synced.id) modelId now) =
        .ok changed → p changed) :
    Ensures registry p (fun _ rows => p rows ∧ rows.InLine workspaceId modelId)
      (syncModelTables workspaceId modelId now) := by
  have hregistered : ∀ found ∈ start.registered workspaceId, ∀ rows, p rows →
      rows.registered? workspaceId found.synced.id = some found := by
    intro found hfound rows hrows
    rw [(hsources rows hrows).registered?]
    exact ((mem_registered_iff hkeyed).1 hfound).registered_eq hkeyed
  refine Ensures.read.bind fun other => ?_
  refine .bind (.select (q := fun found rows => (other = registry ∧ p rows) ∧
    found = start.registered workspaceId) fun rows hrows =>
      ⟨hrows, (hsources rows hrows.2).registered⟩) fun found => ?_
  intro state result later hbefore hrun
  obtain ⟨⟨rfl, hrows⟩, rfl⟩ := hbefore
  have heach : Ensures other p
      (fun _ rows => p rows ∧ ∀ found ∈ start.registered workspaceId,
        ∃ row ∈ rows.modelTables, found.IsRecordedBy modelId row)
      ((start.registered workspaceId).forM fun table => change [.modelTables] fun rows =>
        rows.putModelTable (table.record (other.tableId modelId table.synced.id) modelId now)) := by
    refine .forM_each (fun found hfound => ?_) fun found hfound listed hlisted => ?_
    · exact .change fun rows changed hrows hchange =>
        ⟨hput rows changed found hrows hfound hchange, exists_isRecordedBy_of_put hchange⟩
    · exact .change fun rows changed hrows hchange =>
        exists_isRecordedBy_of_other (hregistered found hfound rows hrows.1)
          (hregistered listed hlisted rows hrows.1) hrows.2 hchange
  obtain ⟨hafter, hline⟩ := heach state result later hrows hrun
  refine ⟨hafter, fun found hfound => hline found ?_⟩
  rwa [(hsources later.rows hafter).registered] at hfound

theorem syncModelTables_succeeds {modelId : String} (hintact : registry.Intact)
    (hsources : ∀ rows, p rows → start.SameSources rows)
    (hput : ∀ rows found, p rows → found ∈ start.registered workspaceId →
      ∃ changed, rows.putModelTable
        (found.record (registry.tableId modelId found.synced.id) modelId now) = .ok changed ∧
          p changed) :
    Succeeds registry p (syncModelTables workspaceId modelId now) := by
  refine Succeeds.read.bind Ensures.read fun other => ?_
  have hselect : Ensures registry (fun rows => other = registry ∧ p rows)
      (fun found rows => (other = registry ∧ p rows) ∧ found = start.registered workspaceId)
      (select [.syncedTables, .connections, .runtimeTables] fun rows =>
        rows.registered workspaceId) :=
    .select fun rows hrows => ⟨hrows, (hsources rows hrows.2).registered⟩
  refine (Succeeds.select hintact).bind hselect fun found => ?_
  rintro state ⟨⟨rfl, hrows⟩, rfl⟩
  refine Succeeds.forM (fun found hfound => ?_) (fun found hfound => ?_) state hrows
  · refine .change hintact fun rows hrows => ?_
    obtain ⟨changed, hchange, -⟩ := hput rows found hrows hfound
    exact ⟨changed, hchange⟩
  · refine .change fun rows changed hrows hchange => ?_
    obtain ⟨other, hother, hp⟩ := hput rows found hrows hfound
    exact Except.ok.inj (hother.symm.trans hchange) ▸ hp

/-! ### Finding the model -/

/-- The workspace has the model that is asked for; without an identifier, it has a default model
or can be given one. -/
def RegistryRows.Offers (rows : RegistryRows) (workspaceId : String) (id : Option String) : Prop :=
  match presentText id with
  | none => (rows.defaultModel? workspaceId).isSome ∨
      ∀ record ∈ rows.models,
        record.defaultKey ≠ some workspaceId ∧ record.id ≠ defaultModelId workspaceId
  | some id => (rows.model? workspaceId id).isSome

theorem oldest_isSome {records : List ModelRecord} (h : records ≠ []) :
    (oldest? records).isSome := by
  cases records with
  | nil => exact absurd rfl h
  | cons record rest =>
    unfold oldest?
    split
    · rfl
    · split <;> rfl

/-- A default model is made where there is room for it. -/
theorem addDefaultModel_eq_ok {name : String}
    (h : ∀ record ∈ rows.models,
      record.defaultKey ≠ some workspaceId ∧ record.id ≠ defaultModelId workspaceId) :
    ∃ changed, rows.addDefaultModel (defaultModelId workspaceId) workspaceId name now = .ok changed ∧
      (changed.defaultModel? workspaceId).isSome := by
  have hkey : rows.models.any (·.defaultKey == some workspaceId) = false := by
    rw [List.any_eq_false]
    exact fun record hrecord => by simpa using (h record hrecord).1
  have hid : rows.hasModel (defaultModelId workspaceId) = false := by
    rw [hasModel, List.any_eq_false]
    exact fun record hrecord => by simpa using (h record hrecord).2
  unfold addDefaultModel addModel
  simp only [Option.isSome_some, hkey, hid, Bool.and_false, Bool.false_eq_true, if_false]
  refine ⟨_, rfl, ?_⟩
  rw [defaultModel?, Option.isSome_map]
  refine oldest_isSome ?_
  simp [List.filter_append]

theorem resolveModel_succeeds {id : Option String} (hintact : registry.Intact)
    (h : ∀ rows, p rows → rows.Offers workspaceId id) :
    Succeeds registry p (resolveModel workspaceId id now) := by
  unfold resolveModel
  unfold Offers at h
  cases hid : presentText id with
  | some id =>
    simp only [hid] at h
    have hselect : Ensures registry p (fun found _ => found.isSome = true)
        (select [.models] fun rows => rows.model? workspaceId id) := .select h
    refine (Succeeds.select hintact).bind hselect fun found => ?_
    cases found with
    | some model => exact .pure
    | none => exact fun state hstate => absurd hstate (by simp)
  | none =>
    simp only [hid] at h
    refine (Succeeds.select hintact).bind ensures_defaultModel? fun found => ?_
    cases found with
    | some model => exact .pure
    | none =>
      have hadd : ∀ rows, p rows ∧ rows.defaultModel? workspaceId = none → ∃ changed,
          rows.addDefaultModel (defaultModelId workspaceId) workspaceId defaultModelName now =
            .ok changed ∧ (changed.defaultModel? workspaceId).isSome := fun rows hrows =>
        addDefaultModel_eq_ok ((h rows hrows.1).resolve_left (by simp [hrows.2]))
      refine (Succeeds.change hintact fun rows hrows => ?_).bind (q := fun _ rows =>
        (rows.defaultModel? workspaceId).isSome = true) (.change fun rows changed hrows hchange => ?_)
        fun _ => ?_
      · obtain ⟨changed, hchange, -⟩ := hadd rows hrows
        exact ⟨changed, hchange⟩
      · obtain ⟨other, hother, hsome⟩ := hadd rows hrows
        exact Except.ok.inj (hother.symm.trans hchange) ▸ hsome
      · have hagain : Ensures registry (fun rows => (rows.defaultModel? workspaceId).isSome = true)
            (fun found _ => found.isSome = true)
            (select [.models] fun rows => rows.defaultModel? workspaceId) :=
          .select fun _ hrows => hrows
        refine (Succeeds.select hintact).bind hagain fun found => ?_
        cases found with
        | some model => exact .pure
        | none => exact fun state hstate => absurd hstate (by simp)

/-! ### One load -/

/-- A catalog is read where its model is found, its tables can be written, and their schemas can be
read. -/
theorem readCatalog_succeeds {found synced : DataModel → RegistryRows → Prop}
    (hintact : registry.Intact)
    (hresolve : Succeeds registry p (resolveModel workspaceId modelId now))
    (hfound : Ensures registry p found (resolveModel workspaceId modelId now))
    (hsync : ∀ model, Succeeds registry (found model) (syncModelTables workspaceId model.id now))
    (hsynced : ∀ model, Ensures registry (found model) (fun _ => synced model)
      (syncModelTables workspaceId model.id now))
    (hread : ∀ model rows, synced model rows → rows.longNumber? workspaceId model.id = none) :
    Succeeds registry p (readCatalog workspaceId modelId now) := by
  refine hresolve.bind hfound fun model => (hsync model).bind (hsynced model) fun _ => ?_
  have htables : ∀ rows, synced model rows → (rows.readTables workspaceId model.id).map (·, rows) =
      .ok (rows.tables workspaceId model.id, rows) := by
    intro rows hrows
    rw [readTables, hread model rows hrows]
    rfl
  refine (Succeeds.statement hintact fun rows hrows => ⟨_, htables rows hrows⟩).bind
    (q := fun _ _ => True) (.statement fun _ _ _ _ _ => trivial) fun tables => ?_
  exact (Succeeds.select hintact).bind (q := fun _ _ => True) (.select fun _ _ => trivial)
    fun relationships => .pure

/-- What is known of the rows from which a catalog has been loaded. -/
structure Catalog.LoadedFrom (catalog : Catalog) (start rows : RegistryRows) (workspaceId : String)
    (modelId : Option String) : Prop where
  sources : start.SameSources rows
  keyed : rows.Keyed
  resolves : rows.Resolves workspaceId modelId catalog.model
  known : ∀ model, start.Resolves workspaceId modelId model → catalog.model = model
  inLine : rows.InLine workspaceId catalog.model.id
  tables : rows.readTables workspaceId catalog.model.id = .ok catalog.tables
  relationships : catalog.relationships = rows.relationshipsOf catalog.model.id

/-- The model is found among the models alone. -/
theorem RegistryRows.Resolves.of_models {model : DataModel}
    (h : rows.Resolves workspaceId modelId model) (hmodels : changed.models = rows.models) :
    changed.Resolves workspaceId modelId model := by
  unfold Resolves defaultModel? model? at h ⊢
  rwa [hmodels]

theorem RegistryRows.Resolves.unique {model other : DataModel}
    (h : rows.Resolves workspaceId modelId model) (hother : rows.Resolves workspaceId modelId other) :
    model = other := by
  unfold Resolves at h hother
  cases hid : presentText modelId with
  | none =>
    simp only [hid] at h hother
    exact Option.some.inj (h.symm.trans hother)
  | some id =>
    simp only [hid] at h hother
    exact Option.some.inj (h.symm.trans hother)

theorem RegistryRows.Resolves.offers {model : DataModel}
    (h : rows.Resolves workspaceId modelId model) : rows.Offers workspaceId modelId := by
  unfold Resolves at h
  unfold Offers
  cases hid : presentText modelId with
  | none =>
    simp only [hid] at h
    exact .inl (Option.isSome_of_mem h)
  | some id =>
    simp only [hid] at h
    exact Option.isSome_of_mem h

theorem RegistryRows.putModelTable_models {record : ModelTableRecord}
    (h : rows.putModelTable record = .ok changed) :
    changed.models = rows.models ∧ changed.relationships = rows.relationships := by
  rcases putModelTable_eq_ok h with rfl | rfl <;> exact ⟨rfl, rfl⟩

/-- Before its tables are written, the rows hold what they held at the start, and the model. -/
structure RegistryRows.FoundModel (start rows : RegistryRows) (workspaceId : String)
    (modelId : Option String) (model : DataModel) : Prop where
  sources : start.SameSources rows
  keyed : rows.Keyed
  resolves : rows.Resolves workspaceId modelId model
  known : ∀ other, start.Resolves workspaceId modelId other → model = other

theorem RegistryRows.FoundModel.putModelTable {model : DataModel} {record : ModelTableRecord}
    (h : start.FoundModel rows workspaceId modelId model)
    (hput : rows.putModelTable record = .ok changed) :
    start.FoundModel changed workspaceId modelId model where
  sources := h.sources.of_putModelTable hput
  keyed := Write.keyed h.keyed (.modelTable hput)
  resolves := h.resolves.of_models (putModelTable_models hput).1
  known := h.known

theorem readCatalog_loadedFrom (hkeyed : start.Keyed) :
    Ensures registry (· = start)
      (fun catalog rows => catalog.LoadedFrom start rows workspaceId modelId)
      (readCatalog workspaceId modelId now) := by
  have hresolve : Ensures registry
      (fun rows => (start.SameSources rows ∧ rows.Keyed) ∧ ∀ model,
        start.Resolves workspaceId modelId model → rows.Resolves workspaceId modelId model)
      (fun model rows => start.FoundModel rows workspaceId modelId model)
      (resolveModel workspaceId modelId now) := by
    refine (resolveModel_resolves fun rows changed hrows hid hnone hadd => ⟨⟨?_, ?_⟩, ?_⟩).mono
      fun model rows h => ⟨h.1.1.1, h.1.1.2, h.2, fun other hother => h.2.unique (h.1.2 other hother)⟩
    · exact hrows.1.1.of_addModel hadd
    · exact Write.keyed hrows.1.2 (.model hadd)
    · intro model hmodel
      have hfound := hrows.2 model hmodel
      simp only [Resolves, hid, hnone] at hfound
      cases hfound
  have hsync : ∀ model : DataModel,
      Ensures registry (fun rows => start.FoundModel rows workspaceId modelId model)
        (fun _ rows => start.FoundModel rows workspaceId modelId model ∧
          rows.InLine workspaceId model.id)
        (syncModelTables workspaceId model.id now) :=
    fun model => syncModelTables_inLine hkeyed (fun _ hrows => hrows.sources)
      fun _ _ _ hrows _ hput => hrows.putModelTable hput
  refine ((readCatalog_leaves hresolve hsync).weaken ?_).mono fun catalog rows h => ?_
  · rintro rows rfl
    exact ⟨⟨.refl rows, hkeyed⟩, fun _ hmodel => hmodel⟩
  · exact ⟨h.1.1.sources, h.1.1.keyed, h.1.1.resolves, h.1.1.known, h.1.2, h.2.1, h.2.2⟩

theorem Registry.loadCatalog_leaves {q : Catalog → RegistryRows → Prop} {catalog : Catalog}
    {after : Registry} (h : Ensures registry p q (readCatalog workspaceId modelId now))
    (hrows : p registry.rows)
    (hload : registry.loadCatalog workspaceId modelId now = (.ok catalog, after)) :
    ∃ rows, after = { registry with rows } ∧ q catalog rows := by
  unfold Registry.loadCatalog at hload
  rcases h.commit hrows with ⟨found, rows, hcommit, hq⟩ | ⟨fault, hcommit⟩
  · rw [hcommit] at hload
    obtain ⟨hfound, hafter⟩ := Prod.mk.inj hload
    obtain rfl := Except.ok.inj hfound
    exact ⟨rows, hafter.symm, hq⟩
  · rw [hcommit] at hload
    cases hload

theorem Registry.loadCatalog_succeeds (h : Succeeds registry p (readCatalog workspaceId modelId now))
    (hrows : p registry.rows) :
    ∃ catalog after, registry.loadCatalog workspaceId modelId now = (.ok catalog, after) := by
  obtain ⟨catalog, after, hcommit⟩ := h.commit hrows
  unfold Registry.loadCatalog
  rw [hcommit]
  exact ⟨catalog, after, rfl⟩

theorem Registry.loadedFrom {catalog : Catalog} {after : Registry} (hkeyed : registry.rows.Keyed)
    (hload : registry.loadCatalog workspaceId modelId now = (.ok catalog, after)) :
    ∃ rows, after = { registry with rows } ∧
      catalog.LoadedFrom registry.rows rows workspaceId modelId :=
  loadCatalog_leaves (readCatalog_loadedFrom hkeyed) rfl hload

namespace Catalog.LoadedFrom

variable {catalog : Catalog}

theorem isListing (h : catalog.LoadedFrom start rows workspaceId modelId) :
    start.IsListing workspaceId catalog.tables := by
  rw [(readTables_eq_ok h.tables).2]
  exact h.sources.isListing (h.inLine.isListing h.keyed)

theorem schemas (h : catalog.LoadedFrom start rows workspaceId modelId) {found : RegisteredTable}
    (hlive : start.IsLive workspaceId found) : schemaDigits? found.synced.schema = none :=
  (h.inLine.longNumber_eq_none_iff h.keyed).1 (readTables_eq_ok h.tables).1 found
    (h.sources.isLive_iff.2 hlive)

theorem assigns (h : catalog.LoadedFrom start rows workspaceId modelId) {table : Table}
    (htable : table ∈ catalog.tables) :
    rows.Assigns catalog.model.id table.syncedTableId table.id :=
  assigns_of_mem_tables ((readTables_eq_ok h.tables).2 ▸ htable)

end Catalog.LoadedFrom

/-! ### Another load -/

/-- The later rows differ from the earlier ones at most in the times of tables that are in line. -/
structure RegistryRows.Settled (rows later : RegistryRows) (workspaceId modelId : String) : Prop where
  sources : rows.SameSources later
  keyed : later.Keyed
  models : later.models = rows.models
  relationships : later.relationships = rows.relationships
  inLine : later.InLine workspaceId modelId
  identities : later.identities = rows.identities

theorem RegistryRows.identities_updateTable (record : ModelTableRecord) :
    identities { rows with modelTables := rows.modelTables.map (updateTable record) } =
      rows.identities := by
  unfold identities
  rw [List.map_map]
  refine List.map_congr_left fun row _ => ?_
  rw [Function.comp_apply, modelId_updateTable, syncedTableId_updateTable, id_updateTable]

/-- A live table that is in line is written once more. -/
theorem RegistryRows.Settled.putModelTable {later : RegistryRows} {modelId : String}
    (h : rows.Settled later workspaceId modelId) (hkeyed : rows.Keyed) {found : RegisteredTable}
    (hfound : found ∈ rows.registered workspaceId) (id now : String) :
    ∃ changed, later.putModelTable (found.record id modelId now) = .ok changed ∧
      rows.Settled changed workspaceId modelId := by
  have hregistered : ∀ other ∈ rows.registered workspaceId,
      later.registered? workspaceId other.synced.id = some other := by
    intro other hother
    rw [h.sources.registered?]
    exact ((mem_registered_iff hkeyed).1 hother).registered_eq hkeyed
  obtain ⟨row, hrow, hrecorded⟩ := h.inLine found (h.sources.registered.symm ▸ hfound)
  have hsame : later.modelTables.any (isSameTable (found.record id modelId now)) = true := by
    refine List.any_eq_true.2 ⟨row, hrow, ?_⟩
    simp [isSameTable, RegisteredTable.record, hrecorded.key.1, hrecorded.key.2]
  have hput : later.putModelTable (found.record id modelId now) =
      .ok { later with
        modelTables := later.modelTables.map (updateTable (found.record id modelId now)) } := by
    rw [putModelTable_eq, if_pos hsame]
  refine ⟨_, hput, ?_⟩
  have hafter := h.sources.of_putModelTable hput
  exact {
    sources := hafter
    keyed := Write.keyed h.keyed (.modelTable hput)
    models := h.models
    relationships := h.relationships
    inLine := by
      intro other hother
      rw [hafter.registered] at hother
      exact exists_isRecordedBy_of_other (hregistered found hfound) (hregistered other hother)
        (h.inLine other (h.sources.registered.symm ▸ hother)) hput
    identities := (identities_updateTable _).trans h.identities }

namespace Catalog.LoadedFrom

variable {catalog : Catalog}

theorem settled (h : catalog.LoadedFrom start rows workspaceId modelId) :
    rows.Settled rows workspaceId catalog.model.id :=
  ⟨.refl rows, h.keyed, rfl, rfl, h.inLine, rfl⟩

/-- The model is found again. -/
theorem resolves_again (h : catalog.LoadedFrom start rows workspaceId modelId) :
    Ensures registry (fun later => rows.Settled later workspaceId catalog.model.id)
      (fun model later => rows.Settled later workspaceId catalog.model.id ∧ model = catalog.model)
      (resolveModel workspaceId modelId now) := by
  refine (resolveModel_resolves fun later changed hlater hid hnone _ => ?_).mono
    fun model later hlater => ⟨hlater.1, ?_⟩
  · have hmodel := h.resolves.of_models hlater.models
    unfold Resolves at hmodel
    rw [hid] at hmodel
    cases hnone.symm.trans hmodel
  · exact hlater.2.unique (h.resolves.of_models hlater.1.models)

theorem settled_again (h : catalog.LoadedFrom start rows workspaceId modelId) (model : DataModel) :
    Ensures registry
      (fun later => rows.Settled later workspaceId catalog.model.id ∧ model = catalog.model)
      (fun _ later => rows.Settled later workspaceId catalog.model.id ∧ model = catalog.model)
      (syncModelTables workspaceId model.id now) := by
  have hsync : Ensures registry (fun later => rows.Settled later workspaceId catalog.model.id)
      (fun _ later => rows.Settled later workspaceId catalog.model.id ∧
        later.InLine workspaceId catalog.model.id)
      (syncModelTables workspaceId catalog.model.id now) := by
    refine syncModelTables_inLine h.keyed (fun _ hlater => hlater.sources) ?_
    intro earlier changed found hlater hfound hput
    obtain ⟨other, hother, hafter⟩ := hlater.putModelTable h.keyed hfound _ now
    exact Except.ok.inj (hother.symm.trans hput) ▸ hafter
  rintro state result later ⟨hsettled, rfl⟩ hrun
  exact ⟨(hsync state result later hsettled hrun).1, rfl⟩

/-- Loading again lists the same. -/
theorem readCatalog_again (h : catalog.LoadedFrom start rows workspaceId modelId) :
    Ensures registry (· = rows) (fun again _ => again = catalog)
      (readCatalog workspaceId modelId now) := by
  refine ((readCatalog_leaves h.resolves_again h.settled_again).weaken ?_).mono
    fun again later hlater => ?_
  · rintro _ rfl
    exact h.settled
  · obtain ⟨⟨hsettled, hmodel⟩, htables, hrelationships⟩ := hlater
    obtain ⟨-, hlisted⟩ := readTables_eq_ok htables
    rw [hmodel] at hlisted hrelationships
    have hsame : again.tables = catalog.tables := by
      rw [hlisted, (readTables_eq_ok h.tables).2]
      exact hsettled.sources.tables_eq h.keyed hsettled.keyed h.inLine hsettled.inLine
        hsettled.identities
    have hrelated : again.relationships = catalog.relationships := by
      rw [hrelationships, h.relationships, relationshipsOf, relationshipsOf,
        hsettled.relationships]
    cases again
    cases catalog
    simp_all

theorem readCatalog_again_succeeds (h : catalog.LoadedFrom start rows workspaceId modelId)
    (hintact : registry.Intact) :
    Succeeds registry (fun later => rows.Settled later workspaceId catalog.model.id)
      (readCatalog workspaceId modelId now) := by
  refine readCatalog_succeeds hintact ?_ h.resolves_again (fun model => ?_) h.settled_again ?_
  · exact resolveModel_succeeds hintact fun later hlater =>
      (h.resolves.of_models hlater.models).offers
  · refine syncModelTables_succeeds hintact (fun later hlater => hlater.1.sources) ?_
    rintro later found ⟨hlater, rfl⟩ hfound
    obtain ⟨changed, hput, hafter⟩ := hlater.putModelTable h.keyed hfound _ now
    exact ⟨changed, hput, hafter, rfl⟩
  · rintro model later ⟨hlater, rfl⟩
    rw [hlater.inLine.longNumber_eq_none_iff hlater.keyed]
    exact fun found hlive => h.schemas (h.sources.isLive_iff.1 (hlater.sources.isLive_iff.1 hlive))

end Catalog.LoadedFrom

theorem Registry.loadCatalog_again {catalog : Catalog} {after : Registry}
    (hkeyed : registry.rows.Keyed) (hintact : registry.Intact)
    (hload : registry.loadCatalog workspaceId modelId now = (.ok catalog, after)) (later : String) :
    (after.loadCatalog workspaceId modelId later).1 = .ok catalog := by
  obtain ⟨rows, rfl, hloaded⟩ := loadedFrom hkeyed hload
  have hstill : Registry.Intact { registry with rows } := ⟨hintact.dropped, hintact.fails⟩
  obtain ⟨again, last, hagain⟩ := loadCatalog_succeeds
    (hloaded.readCatalog_again_succeeds hstill) hloaded.settled
  obtain ⟨_, -, rfl⟩ := loadCatalog_leaves hloaded.readCatalog_again rfl hagain
  rw [hagain]

/-! ### What a load needs -/

/-- An identifier that a data model would give to a synced table is that of no other table. -/
def RegistryRows.LeavesFree (rows : RegistryRows) (tableId : String → String → String) : Prop :=
  ∀ record ∈ rows.modelTables, ∀ synced ∈ rows.syncedTables, ∀ modelId,
    record.id = tableId modelId synced.id →
      record.modelId = modelId ∧ record.syncedTableId = synced.id

/-- The identifiers that are given to tables are new. -/
structure Registry.GivesNewIds (registry : Registry) : Prop where
  apart : ∀ one ∈ registry.rows.syncedTables, ∀ two ∈ registry.rows.syncedTables, ∀ modelId other,
    registry.tableId modelId one.id = registry.tableId other two.id →
      modelId = other ∧ one.id = two.id
  unused : registry.rows.LeavesFree registry.tableId

/-- Identifiers are new whatever else is known about the synced tables. -/
theorem Registry.GivesNewIds.of_sameIds {other : Registry} (h : registry.GivesNewIds)
    (htableId : other.tableId = registry.tableId)
    (hids : other.rows.syncedTables.map SyncedTableRecord.id =
      registry.rows.syncedTables.map SyncedTableRecord.id)
    (hmodelTables : other.rows.modelTables = registry.rows.modelTables) : other.GivesNewIds := by
  have hsynced : ∀ synced ∈ other.rows.syncedTables,
      ∃ same ∈ registry.rows.syncedTables, same.id = synced.id := by
    intro synced hsynced
    exact List.mem_map.1 (hids ▸ List.mem_map.2 ⟨synced, hsynced, rfl⟩)
  constructor
  · intro one hone two htwo modelId model heq
    obtain ⟨first, hfirst, hone⟩ := hsynced one hone
    obtain ⟨second, hsecond, htwo⟩ := hsynced two htwo
    rw [htableId, ← hone, ← htwo] at heq
    rw [← hone, ← htwo]
    exact h.apart first hfirst second hsecond modelId model heq
  · intro record hrecord synced hmem modelId hid
    obtain ⟨same, hsame, heq⟩ := hsynced synced hmem
    rw [htableId, ← heq] at hid
    rw [← heq]
    exact h.unused record (hmodelTables ▸ hrecord) same hsame modelId hid

/-- The store can be used, the model is there or can be made, and identifiers that are given are
new. -/
structure Registry.CanLoad (registry : Registry) (workspaceId : String) (modelId : Option String) :
    Prop where
  intact : registry.Intact
  offers : registry.rows.Offers workspaceId modelId
  newIds : registry.GivesNewIds

/-- The rows hold what they held at the start about what is registered, and leave identifiers
free. -/
structure RegistryRows.HasRoom (start rows : RegistryRows) (tableId : String → String → String) :
    Prop where
  sources : start.SameSources rows
  keyed : rows.Keyed
  free : rows.LeavesFree tableId

/-- A live table is written where identifiers are free, and they stay so. -/
theorem RegistryRows.HasRoom.putModelTable {modelId : String} {found : RegisteredTable}
    (h : registry.rows.HasRoom rows registry.tableId) (hnew : registry.GivesNewIds)
    (hfound : found ∈ registry.rows.registered workspaceId) :
    ∃ changed, rows.putModelTable
        (found.record (registry.tableId modelId found.synced.id) modelId now) = .ok changed ∧
      registry.rows.HasRoom changed registry.tableId := by
  have hsynced : found.synced ∈ registry.rows.syncedTables := mem_registered hfound
  have hput : ∃ changed, rows.putModelTable
      (found.record (registry.tableId modelId found.synced.id) modelId now) = .ok changed := by
    rw [putModelTable_eq]
    split_ifs with hsame hid
    · exact ⟨_, rfl⟩
    · obtain ⟨record, hrecord, heq⟩ := List.any_eq_true.1 hid
      obtain ⟨hmodel, htable⟩ := h.free record hrecord found.synced
        (h.sources.syncedTables ▸ hsynced) modelId (beq_iff_eq.1 heq)
      refine absurd (List.any_eq_true.2 ⟨record, hrecord, ?_⟩) hsame
      simp [isSameTable, RegisteredTable.record, hmodel, htable]
    · exact ⟨_, rfl⟩
  obtain ⟨changed, hput⟩ := hput
  have hafter := h.sources.of_putModelTable hput
  refine ⟨changed, hput, hafter, Write.keyed h.keyed (.modelTable hput), ?_⟩
  intro record hrecord synced hmem other hid
  rw [hafter.syncedTables] at hmem
  rcases putModelTable_eq_ok hput with rfl | rfl
  · obtain ⟨row, hrow, rfl⟩ := List.mem_map.1 hrecord
    rw [id_updateTable] at hid
    rw [modelId_updateTable, syncedTableId_updateTable]
    exact h.free row hrow synced (h.sources.syncedTables ▸ hmem) other hid
  · rcases List.mem_append.1 hrecord with hold | hsame
    · exact h.free record hold synced (h.sources.syncedTables ▸ hmem) other hid
    · obtain rfl := List.mem_singleton.1 hsame
      exact hnew.apart found.synced hsynced synced hmem modelId other hid

theorem RegistryRows.LeavesFree.addModel {tableId : String → String → String} {record : ModelRecord}
    (h : rows.LeavesFree tableId) (hadd : rows.addModel record = .ok changed) :
    changed.LeavesFree tableId := by
  rcases addModel_eq_ok hadd with rfl | ⟨-, rfl⟩ <;> exact h

/-- Where all schemas can be read, the catalog is loaded. -/
theorem Registry.CanLoad.exists_catalog (h : registry.CanLoad workspaceId modelId)
    (hkeyed : registry.rows.Keyed)
    (hschemas : ∀ found, registry.rows.IsLive workspaceId found →
      schemaDigits? found.synced.schema = none) :
    ∃ catalog after, registry.loadCatalog workspaceId modelId now = (.ok catalog, after) := by
  have hfound : Ensures registry (· = registry.rows)
      (fun _ rows => registry.rows.HasRoom rows registry.tableId)
      (resolveModel workspaceId modelId now) := by
    refine ((resolveModel_resolves fun rows changed hrows _ _ hadd =>
      ⟨hrows.sources.of_addModel hadd, Write.keyed hrows.keyed (.model hadd),
        hrows.free.addModel hadd⟩).mono fun _ _ h => h.1).weaken ?_
    rintro rows rfl
    exact ⟨.refl _, hkeyed, h.newIds.unused⟩
  have hsynced : ∀ model : DataModel, Ensures registry
      (fun rows => registry.rows.HasRoom rows registry.tableId)
      (fun _ rows => registry.rows.HasRoom rows registry.tableId ∧
        rows.InLine workspaceId model.id)
      (syncModelTables workspaceId model.id now) := by
    refine fun model => syncModelTables_inLine hkeyed (fun _ hrows => hrows.sources) ?_
    intro rows changed found hrows hfound hput
    obtain ⟨other, hother, hafter⟩ := hrows.putModelTable h.newIds hfound
    exact Except.ok.inj (hother.symm.trans hput) ▸ hafter
  refine loadCatalog_succeeds (readCatalog_succeeds h.intact ?_ hfound (fun model => ?_) hsynced ?_)
    rfl
  · refine resolveModel_succeeds h.intact ?_
    rintro rows rfl
    exact h.offers
  · exact syncModelTables_succeeds h.intact (fun _ hrows => hrows.sources)
      fun rows found hrows hfound => hrows.putModelTable h.newIds hfound
  · rintro model rows ⟨hrows, hline⟩
    rw [hline.longNumber_eq_none_iff hrows.keyed]
    exact fun found hlive => hschemas found (hrows.sources.isLive_iff.1 hlive)

end

end SemanticLayer
