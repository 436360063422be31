import SemanticLayer.Proofs.Inference.Revalidation
import SemanticLayer.Proofs.Registry.Continuity
import SemanticLayer.Proofs.Service.Isolation
import SemanticLayer.Proofs.Service.Relationship

/-!
What is listed of a relationship that has been created. Creating one looks at names and at values,
while a list looks at names alone; the two agree, since strong names decide in both and nothing else
changes what is stored.
-/

namespace SemanticLayer

open Text

namespace Registry

variable {registry : Registry}

end Registry

namespace Service

variable {δ σ : Type} [Duration δ] (service : Service δ σ) {state : ServiceState σ}

/-- What is known of a relationship that has been created: it is what was proposed on a catalog, and
it is stored beside what the catalog was loaded from. -/
structure Created (wanted : RelationshipRequest) (start after : RegistryRows) (workspace : String)
    (catalog : Catalog) (created : Relationship) : Prop where
  loaded : ∃ rows relationships,
    catalog.LoadedFrom start rows workspace wanted.dataModelId ∧ after = { rows with relationships }
  constrained : after.Constrained
  stored : ∃ record ∈ after.relationships, created = record.shown
  model : created.dataModelId = catalog.model.id
  ends : ∃ one ∈ catalog.tables, ∃ two ∈ catalog.tables, created.fromTableId = one.id ∧
    created.toTableId = two.id ∧ (created.cardinality = .manyToMany ∨ ∀ cardinality reasons,
      NamingEvidence.ofNames ⟨one.name, created.fromColumn⟩ ⟨two.name, created.toColumn⟩ =
          some ⟨some cardinality, .strong, reasons⟩ →
        created.cardinality = cardinality)

namespace Created

variable {wanted : RelationshipRequest} {workspace : String}
  {start after later : RegistryRows} {catalog : Catalog} {created : Relationship}
  {modelId : Option String}

/-- The data model of the relationship is found under what it was asked for and under its own
identifier. -/
theorem resolves (h : Created wanted start after workspace catalog created)
    (hlater : after.Continues later)
    (hid : presentText modelId = presentText wanted.dataModelId ∨
      presentText modelId = some created.dataModelId) :
    later.Resolves workspace modelId catalog.model := by
  obtain ⟨rows, relationships, hloaded, rfl⟩ := h.loaded
  have hmodel : later.Resolves workspace wanted.dataModelId catalog.model :=
    hlater.resolves _ _ _ (hloaded.resolves.of_models rfl)
  have hown := hlater.constrained.model_eq hmodel
  unfold RegistryRows.Resolves at hmodel ⊢
  rcases hid with hid | hid <;> rw [hid]
  · exact hmodel
  · rw [h.model]
    exact hown

theorem inLine (h : Created wanted start after workspace catalog created)
    (hlater : after.Continues later) : later.InLine workspace catalog.model.id := by
  obtain ⟨rows, relationships, hloaded, rfl⟩ := h.loaded
  exact hlater.inLine _ _ (hloaded.resolves.of_models rfl).ownsModel hloaded.inLine

/-- The sources are those from which the relationship was created. -/
theorem isLive (h : Created wanted start after workspace catalog created)
    (hlater : after.Continues later) {found : RegisteredTable} :
    later.IsLive workspace found ↔ start.IsLive workspace found := by
  obtain ⟨rows, relationships, hloaded, rfl⟩ := h.loaded
  have hsources : start.SameSources { rows with relationships } := { hloaded.sources with }
  exact hlater.sources.isLive_iff.trans hsources.isLive_iff

theorem loadedFrom (h : Created wanted start after workspace catalog created)
    (hlater : after.Continues later)
    (hid : presentText modelId = presentText wanted.dataModelId ∨
      presentText modelId = some created.dataModelId) :
    (later.stored workspace catalog.model).LoadedFrom later later workspace modelId := by
  obtain ⟨rows, relationships, hloaded, -⟩ := h.loaded
  exact RegistryRows.stored_loadedFrom hlater.constrained.toKeyed (h.resolves hlater hid)
    (h.inLine hlater) fun found hlive => hloaded.schemas ((h.isLive hlater).1 hlive)

/-- A table is listed with all that was known of it. -/
theorem mem_tables (h : Created wanted start after workspace catalog created)
    (hlater : after.Continues later) {table : Table} (htable : table ∈ catalog.tables) :
    table ∈ later.tables workspace catalog.model.id := by
  obtain ⟨rows, relationships, hloaded, rfl⟩ := h.loaded
  obtain ⟨found, hlive, heq⟩ := hloaded.isListing.only table htable
  have hassigns := hlater.assigns _ _ _ (hloaded.assigns htable)
  rw [heq] at hassigns ⊢
  exact (h.inLine hlater).mem_tables hlater.constrained.toKeyed ((h.isLive hlater).2 hlive) hassigns

end Created

/-- A list shows the relationships of the catalog that is loaded, read again. -/
theorem relationships_of_load {workspace now : String} {modelId : Option String} {catalog : Catalog}
    {loaded : Registry}
    (hload : state.registry.loadCatalog workspace modelId now = (.ok catalog, loaded)) :
    ∃ shown, (service.perform (.relationships workspace modelId) now state).1 = .ok shown ∧
      shown.data = .list
        ((catalog.relationships.map fun r => r.revalidate catalog).map Relationship.toJson) := by
  rw [perform]
  unfold withCatalog
  rw [hload]
  exact ⟨_, rfl, by rw [List.map_map]; rfl⟩

end Service

/-! ### A stored relationship that is created the other way round -/

/-- A workspace with a table of customers whose two columns have been joined from the key on. -/
def customersRegistry : Registry :=
  { Registry.empty with
    rows := { RegistryRows.empty with
      connections := [⟨"c1", "north", none, "postgres", none, false⟩]
      syncedTables := [⟨"customers", "c1", "customers", none,
        .list [.object [("name", .text "id"), ("type", .text "INTEGER")],
          .object [("name", .text "customer_id"), ("type", .text "INTEGER")]], false⟩]
      models := [⟨⟨defaultModelId "north", "north", defaultModelName, true, none, none⟩,
        some "north"⟩]
      modelTables := [⟨"t1", defaultModelId "north", "customers", "customers", none, "c1",
        "postgres", "postgres", none, "2026-01-01", "2026-01-01"⟩]
      relationships := [⟨⟨"r1", defaultModelId "north", "t1", "id", "t1", "customer_id", .oneToOne,
        "single", validStatus, none, none, none, some "2026-01-01", some "2026-01-01"⟩,
        "t1:customer_id|t1:id"⟩] } }

end SemanticLayer
