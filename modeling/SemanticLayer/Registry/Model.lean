import SemanticLayer.Registry.Transaction

/-!
The data models of workspaces. Every workspace has a default model, which is made when it is first
asked for; a key that only one model can have keeps it the only one.
-/

namespace SemanticLayer

/-- The name of a default model unless another one is given. -/
def defaultModelName : String := "Workspace Default Model"

def defaultModelId (workspaceId : String) : String :=
  "dm:" ++ workspaceId

/-- Whether a time comes before another one; a missing time comes first. -/
def earlier : Option String → Option String → Bool
  | none, some _ => true
  | some one, some two => one < two
  | _, none => false

/-- The first of the records that were made first. -/
def oldest? : List ModelRecord → Option ModelRecord
  | [] => none
  | record :: rest =>
    match oldest? rest with
    | none => some record
    | some other => if earlier other.createdAt record.createdAt then some other else some record

namespace RegistryRows

def hasModel (rows : RegistryRows) (id : String) : Bool :=
  rows.models.any (·.id == id)

def defaultModel? (rows : RegistryRows) (workspaceId : String) : Option DataModel :=
  (oldest? (rows.models.filter fun record =>
    record.workspaceId == workspaceId && record.isDefault)).map (·.toDataModel)

def model? (rows : RegistryRows) (workspaceId id : String) : Option DataModel :=
  (rows.models.find? fun record => record.id == id && record.workspaceId == workspaceId).map
    (·.toDataModel)

/-- Adds a model; the rows stay as they are if another model has its default key. -/
def addModel (rows : RegistryRows) (record : ModelRecord) : Except RegistryFault RegistryRows :=
  if record.defaultKey.isSome && rows.models.any (·.defaultKey == record.defaultKey) then .ok rows
  else if rows.hasModel record.id then .error .constraint
  else .ok { rows with models := rows.models ++ [record] }

/-- Adds the default model of a workspace under an identifier. -/
def addDefaultModel (rows : RegistryRows) (id workspaceId name now : String) :
    Except RegistryFault RegistryRows :=
  rows.addModel
    { id, workspaceId, name, isDefault := true, createdAt := some now, updatedAt := some now,
      defaultKey := some workspaceId }

end RegistryRows

open Transaction

/-- The default model of a workspace, which is made if there is none: a look, an addition that
leaves what others added, and another look. -/
def ensureDefault (workspaceId name now : String) : Transaction DataModel := do
  match ← select [.models] fun rows => rows.defaultModel? workspaceId with
  | some model => return model
  | none =>
    change [.models] fun rows =>
      rows.addDefaultModel (defaultModelId workspaceId) workspaceId name now
    match ← select [.models] fun rows => rows.defaultModel? workspaceId with
    | some model => return model
    | none => throw .lostModel

/-- The model of a workspace with an identifier; without one, the default model. -/
def resolveModel (workspaceId : String) (id : Option String) (now : String) :
    Transaction DataModel := do
  match presentText id with
  | none => ensureDefault workspaceId defaultModelName now
  | some id =>
    match ← select [.models] fun rows => rows.model? workspaceId id with
    | some model => return model
    | none => throw .unknownModel

namespace Registry

def ensureDefaultModel (registry : Registry) (workspaceId name now : String) :
    Except Fault DataModel × Registry :=
  let (result, registry) := registry.commit (ensureDefault workspaceId name now)
  (result.mapError (·.modelFault "Failed to load default model"), registry)

/-- Adds a model that has neither a default key nor times. -/
def insertModel (registry : Registry) (id workspaceId name : Option String) (isDefault : Bool) :
    Except RegistryFault Unit × Registry :=
  registry.commit (change [.models] fun rows => do
    let id ← needed id
    let workspaceId ← needed workspaceId
    let name ← needed name
    rows.addModel
      { id, workspaceId, name, isDefault, createdAt := none, updatedAt := none,
        defaultKey := none })

end Registry

end SemanticLayer
