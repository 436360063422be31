import SemanticLayer.Catalog.Basic
import SemanticLayer.Inference.Pair

/-!
Suggested relationships: for each pair of tables the best pair of columns, unless it is known
already.
-/

namespace SemanticLayer

structure Suggestion where
  id : String
  dataModelId : String
  fromTableId : String
  fromTable : String
  fromColumn : String
  toTableId : String
  toTable : String
  toColumn : String
  cardinality : Option Cardinality
  confidence : Int
  status : String
  invalidReason : Option String
  reasons : List Reason
  strength : Strength
  deriving Repr, DecidableEq

/-- Why tables cannot be joined when a query runs. -/
def runtimeObstacle (one two : Table) : Option String :=
  if one.engine != two.engine then some "Cross-source relationship cannot be executed at runtime"
  else if (presentText one.runtimeRef).isNone || (presentText two.runtimeRef).isNone then
    some "One or more tables do not have runtime references"
  else none

/-- Why a relationship between many rows and many rows is not valid. -/
def manyToManyObstacle : String := "n-n relationship is not executable by semantic planner"

/-- The place of a cardinality among those that are preferred. -/
def preference : Option Cardinality → Nat
  | some .manyToOne => 0
  | some .oneToMany => 0
  | some .oneToOne => 1
  | some .manyToMany => 2
  | _ => 3

namespace Suggestion

/-- The order of suggestions: by confidence, the greatest first, then valid ones, then by strength,
then by the preferred cardinality, and last by identifier. -/
def compare (one two : Suggestion) : Ordering :=
  ((((Ord.compare two.confidence one.confidence).then
    (Ord.compare (one.status != validStatus) (two.status != validStatus))).then
    (Ord.compare two.strength.rank one.strength.rank)).then
    (Ord.compare (preference one.cardinality) (preference two.cardinality))).then
    (Ord.compare one.id two.id)

def precedes (one two : Suggestion) : Bool :=
  one.compare two == .lt

/-- The suggestion that an inference on two columns makes. The side of many rows comes first. -/
def ofInference (modelId : String) (one : Table) (oneColumn : Column) (two : Table)
    (twoColumn : Column) (inference : PairInference) : Suggestion :=
  let flipped := inference.cardinality == some .oneToMany
  let (source, sourceColumn, target, targetColumn) :=
    if flipped then (two, twoColumn, one, oneColumn) else (one, oneColumn, two, twoColumn)
  let cardinality := if flipped then some .manyToOne else inference.cardinality
  let invalidReason :=
    if cardinality == some .manyToMany then some manyToManyObstacle
    else runtimeObstacle source target
  { id := relationshipKey source.id sourceColumn.name target.id targetColumn.name
    dataModelId := modelId, fromTableId := source.id, fromTable := source.name
    fromColumn := sourceColumn.name, toTableId := target.id, toTable := target.name
    toColumn := targetColumn.name, cardinality, confidence := inference.confidence
    status := if invalidReason.isSome then invalidStatus else validStatus, invalidReason
    reasons := inference.reasons, strength := inference.strength }

def toJson (suggestion : Suggestion) : Json :=
  .object
    [("id", .text suggestion.id), ("dataModelId", .text suggestion.dataModelId),
      ("fromTableId", .text suggestion.fromTableId), ("fromTable", .text suggestion.fromTable),
      ("fromColumn", .text suggestion.fromColumn), ("toTableId", .text suggestion.toTableId),
      ("toTable", .text suggestion.toTable), ("toColumn", .text suggestion.toColumn),
      ("relationshipType", .ofText? (suggestion.cardinality.map Cardinality.code)),
      ("crossFilterDirection", .text "single"), ("confidence", .int suggestion.confidence),
      ("validationStatus", .text suggestion.status),
      ("invalidReason", .ofText? suggestion.invalidReason),
      ("reasons", .ofTexts (suggestion.reasons.map Reason.code))]

/-- The better one of two suggestions, the first one if neither is. -/
def better (best : Option Suggestion) (candidate : Suggestion) : Suggestion :=
  match best with
  | none => candidate
  | some other => if candidate.precedes other then candidate else other

/-- Enters a suggestion, if there is one, under its identity, unless the one that stands there is no
worse. -/
def enter (entries : List (String × Suggestion)) : Option Suggestion → List (String × Suggestion)
  | none => entries
  | some candidate =>
    setEntry entries candidate.id (better (valueOf? entries candidate.id) candidate)

/-- The best of some suggestions, the first one of several. -/
def best? (suggestions : List Suggestion) : Option Suggestion :=
  suggestions.foldl (fun best candidate => some (better best candidate)) none

end Suggestion

/-- What suggestions are made from. -/
structure Detection where
  profiler : Option Profiler
  modelId : String
  /-- The identities of relationships that are known already. -/
  known : List String

namespace Detection

def joinColumns (table : Table) : List Column :=
  table.columns.filter fun column => !isGenericColumn column.name column.type

def suggest? (detection : Detection) (one : Table) (oneColumn : Column) (two : Table)
    (twoColumn : Column) : StateM ProfileCache (Option Suggestion) := do
  match ← inferPair detection.profiler one oneColumn two twoColumn true with
  | none => return none
  | some inference =>
    let suggestion := Suggestion.ofInference detection.modelId one oneColumn two twoColumn inference
    let eligible := inference.rejection.isNone &&
      requiredConfidence inference.cardinality inference.strength ≤ inference.confidence &&
      !detection.known.contains suggestion.id
    return if eligible then some suggestion else none

/-- The suggestions on two tables under their identities. -/
def bestByKey (detection : Detection) (one two : Table) :
    StateM ProfileCache (List (String × Suggestion)) :=
  (joinColumns one).foldlM
    (fun entries oneColumn =>
      (joinColumns two).foldlM
        (fun entries twoColumn => do
          return Suggestion.enter entries (← detection.suggest? one oneColumn two twoColumn))
        entries)
    []

def best? (detection : Detection) (one two : Table) : StateM ProfileCache (Option Suggestion) := do
  let entries ← detection.bestByKey one two
  return Suggestion.best? (entries.map Prod.snd)

def bestWith (detection : Detection) (one : Table) :
    List Table → StateM ProfileCache (List ((String × String) × Suggestion))
  | [] => return []
  | two :: rest => do
    let best ← detection.best? one two
    let others ← detection.bestWith one rest
    let key := if two.id < one.id then (two.id, one.id) else (one.id, two.id)
    return (best.map fun suggestion => (key, suggestion)).toList ++ others

def bestOfAll (detection : Detection) :
    List Table → StateM ProfileCache (List ((String × String) × Suggestion))
  | [] => return []
  | one :: rest => do
    let first ← detection.bestWith one rest
    let others ← detection.bestOfAll rest
    return first ++ others

end Detection

/-- Whether a list of identifiers names a table; an empty list names all. -/
def Table.isAmong (table : Table) (ids : List String) : Bool :=
  ids.isEmpty || ids.contains table.id || ids.contains table.syncedTableId

def Suggestion.shownBefore (one two : Suggestion) : Bool :=
  (Ord.compare two.confidence one.confidence).then (Ord.compare one.id two.id) != .gt

/-- The relationships that the catalog lacks, at most one for each pair of tables. -/
def suggestRelationships (profiler : Option Profiler) (catalog : Catalog) (ids : List String) :
    List Suggestion :=
  let detection : Detection := ⟨profiler, catalog.model.id, catalog.relationshipKeys⟩
  let tables := catalog.tables.filter fun table => table.isAmong ids
  let (found, _) := (detection.bestOfAll tables).run ProfileCache.empty
  let byPair := found.foldl (fun entries (key, suggestion) => setEntry entries key suggestion) []
  (byPair.map Prod.snd).mergeSort Suggestion.shownBefore

end SemanticLayer
