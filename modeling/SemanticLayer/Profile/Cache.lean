import SemanticLayer.Profile.Basic
import SemanticLayer.Text.Case

/-!
Profiles that have been asked for before. Columns are told apart by the identifier of their table
and by their name in lower case; the overlap of two columns serves for both orders.
-/

namespace SemanticLayer

/-- A column of a table, as it is looked up. -/
structure ColumnKey where
  tableId : String
  column : String
  deriving Repr, DecidableEq

def ColumnKey.make (tableId column : String) : ColumnKey := ⟨tableId, Text.lower column⟩

def setEntry [BEq κ] (entries : List (κ × α)) (key : κ) (value : α) : List (κ × α) :=
  match entries with
  | [] => [(key, value)]
  | entry :: rest =>
    if entry.1 == key then (key, value) :: rest else entry :: setEntry rest key value

def valueOf? [BEq κ] (entries : List (κ × α)) (key : κ) : Option α :=
  (entries.find? (·.1 == key)).map Prod.snd

structure ProfileCache where
  columns : List (ColumnKey × ColumnProfile)
  overlaps : List ((ColumnKey × ColumnKey) × OverlapProfile)
  hits : Nat
  misses : Nat
  deriving Repr, DecidableEq

namespace ProfileCache

def empty : ProfileCache := ⟨[], [], 0, 0⟩

/-- The cache after a look-up that found something or not. -/
def counted (cache : ProfileCache) (found : Option α) : ProfileCache :=
  if found.isSome then { cache with hits := cache.hits + 1 } else cache

def column? (cache : ProfileCache) (key : ColumnKey) : Option ColumnProfile :=
  valueOf? cache.columns key

def putColumn (cache : ProfileCache) (key : ColumnKey) (profile : ColumnProfile) : ProfileCache :=
  { cache with columns := setEntry cache.columns key profile, misses := cache.misses + 1 }

/-- The overlap of two columns, also if it was put in for the other order. -/
def overlap? (cache : ProfileCache) (left right : ColumnKey) : Option OverlapProfile :=
  (valueOf? cache.overlaps (left, right)).or
    ((valueOf? cache.overlaps (right, left)).map OverlapProfile.reverse)

def putOverlap (cache : ProfileCache) (left right : ColumnKey) (profile : OverlapProfile) :
    ProfileCache :=
  { cache with
    overlaps := setEntry cache.overlaps (left, right) profile, misses := cache.misses + 1 }

/-- Forgets the profiles, but not how often they were asked for. -/
def clear (cache : ProfileCache) : ProfileCache :=
  { cache with columns := [], overlaps := [] }

end ProfileCache

/-- A computation that asks for profiles; what it has learnt stays when it fails. -/
abbrev Profiling (α : Type) := ExceptT ProfileFault (StateM ProfileCache) α

namespace Profiler

/-- The profile of a column, asked for only once. -/
def columnCached (profiler : Profiler) (table : Table) (column : String) :
    Profiling ColumnProfile := do
  let key := ColumnKey.make table.id column
  let found := (← get).column? key
  modify fun cache => cache.counted found
  match found with
  | some profile => return profile
  | none =>
    let profile ← ExceptT.mk (pure (profiler.column table column))
    modify fun cache => cache.putColumn key profile
    return profile

/-- The overlap of two columns, asked for only once. -/
def overlapCached (profiler : Profiler) (left : Table) (leftColumn : String) (right : Table)
    (rightColumn : String) : Profiling OverlapProfile := do
  let leftKey := ColumnKey.make left.id leftColumn
  let rightKey := ColumnKey.make right.id rightColumn
  let found := (← get).overlap? leftKey rightKey
  modify fun cache => cache.counted found
  match found with
  | some profile => return profile
  | none =>
    let profile ← ExceptT.mk (pure (profiler.overlap left leftColumn right rightColumn))
    modify fun cache => cache.putOverlap leftKey rightKey profile
    return profile

end Profiler

end SemanticLayer
