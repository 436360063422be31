import SemanticLayer.Plan.Condition
import SemanticLayer.Plan.JoinGraph

/-!
Joining tables one by one. Each step takes the first relationship that leads from the tables already
joined to a new one.
-/

namespace SemanticLayer

/-- A table that is joined to one that was there before. -/
structure Join where
  relationship : Relationship
  table : Table
  aliasName : String
  /-- The column of the new table. -/
  column : String
  knownAlias : String
  knownColumn : String
  deriving Repr, DecidableEq

def Join.write (dialect : Dialect) (join : Join) : String :=
  "INNER JOIN " ++ join.table.runtimeRef.getD "None" ++ " " ++ join.aliasName ++ " ON " ++
    dialect.column join.knownAlias join.knownColumn ++ " = " ++
    dialect.column join.aliasName join.column

/-- The alias of the table that comes in at a place, counted from one. -/
def tableAlias (place : Nat) : String :=
  "t" ++ toString place

/-- The aliases of the joined tables, in the order in which they came in, and the joins. -/
structure JoinPlan where
  aliases : Aliases
  joins : List Join
  deriving Repr, DecidableEq

namespace JoinPlan

/-- Only the first table. -/
def start (rootId : String) : JoinPlan :=
  ⟨[(rootId, tableAlias 1)], []⟩

def knows (plan : JoinPlan) (id : String) : Bool :=
  plan.aliases.any (·.1 == id)

/-- Whether a relationship leads to a new table. -/
def reaches (plan : JoinPlan) (r : Relationship) : Bool :=
  plan.knows r.fromTableId != plan.knows r.toTableId

def aliasOf (plan : JoinPlan) (id : String) : Except Fault String :=
  match plan.aliases.find? id with
  | some aliasName => .ok aliasName
  | none => .error (.absentTable id)

def extend (tables : List Table) (plan : JoinPlan) (r : Relationship) : Except Fault JoinPlan := do
  let forward := plan.knows r.fromTableId
  let (knownId, knownColumn) :=
    if forward then (r.fromTableId, r.fromColumn) else (r.toTableId, r.toColumn)
  let (newId, column) :=
    if forward then (r.toTableId, r.toColumn) else (r.fromTableId, r.fromColumn)
  let aliasName := tableAlias (plan.aliases.length + 1)
  match tables.find? (·.id == newId) with
  | none => .error (.absentTable newId)
  | some table =>
    let knownAlias ← plan.aliasOf knownId
    return ⟨plan.aliases ++ [(newId, aliasName)],
      plan.joins ++ [⟨r, table, aliasName, column, knownAlias, knownColumn⟩]⟩

end JoinPlan

/-- The first item with a property, and the list without it. -/
def takeFirst (p : α → Bool) : List α → Option (α × List α)
  | [] => none
  | item :: rest =>
    if p item then some (item, rest)
    else (takeFirst p rest).map fun (found, others) => (found, item :: others)

theorem length_of_takeFirst (p : α → Bool) (items : List α) (found : α) (others : List α)
    (h : takeFirst p items = some (found, others)) : others.length + 1 = items.length := by
  induction items generalizing found others with
  | nil => simp [takeFirst] at h
  | cons item rest ih =>
    unfold takeFirst at h
    split at h
    · cases h
      rfl
    · obtain ⟨pair, hpair, heq⟩ := Option.map_eq_some_iff.1 h
      cases heq
      exact congrArg (· + 1) (ih pair.1 pair.2 hpair)

/-- Joins all tables of the relationships. Relationships that lead to no new table, when all that
are left are such, have no place in a tree of joins. -/
def JoinPlan.grow (tables : List Table) (plan : JoinPlan) (pending : List Relationship) :
    Except Fault JoinPlan :=
  match _taken : takeFirst plan.reaches pending with
  | some (r, others) => (plan.extend tables r).bind fun plan => plan.grow tables others
  | none =>
    if pending.isEmpty then .ok plan
    else .error (.ofKind .joinGraph "Cannot resolve join graph for selected tables")
termination_by pending.length
decreasing_by
  have := length_of_takeFirst _ _ _ _ _taken
  omega

def JoinPlan.ofRelationships (tables : List Table) (rootId : String)
    (relationships : List Relationship) : Except Fault JoinPlan :=
  (JoinPlan.start rootId).grow tables relationships

end SemanticLayer
