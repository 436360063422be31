import SemanticLayer.Inference.Score
import SemanticLayer.Profile.Cache

/-!
Inference on a pair of columns. Names come first; profiles then replace weak evidence and confirm or
contradict strong evidence, and columns without a common value are rejected.
-/

namespace SemanticLayer

/-- Why a pair is rejected. -/
inductive Rejection where
  | typeMismatch
  | noOverlap
  deriving Repr, DecidableEq

def Rejection.message : Rejection → String
  | .typeMismatch => "Column datatype mismatch"
  | .noOverlap => "No overlapping values between columns"

/-- What is inferred on two columns in their order. -/
structure PairInference where
  cardinality : Option Cardinality
  strength : Strength
  confidence : Int
  reasons : List Reason
  rejection : Option Rejection
  overlap : Option OverlapProfile
  deriving Repr, DecidableEq

/-- Whether the values of two tables can be looked at. -/
def canProfile (one two : Table) : Bool :=
  one.engine == postgresEngine && two.engine == postgresEngine &&
    (presentText one.runtimeRef).isSome && (presentText two.runtimeRef).isSome

/-- The profiles of two columns and of their overlap. -/
structure PairProfile where
  one : ColumnProfile
  two : ColumnProfile
  overlap : OverlapProfile
  deriving Repr, DecidableEq

namespace PairProfile

def cardinality (profile : PairProfile) : Cardinality :=
  .ofUnique profile.one.isUnique profile.two.isUnique

/-- Asks for the profiles in turn. -/
def ask (profiler : Profiler) (one : Table) (oneColumn : Column) (two : Table)
    (twoColumn : Column) : Profiling PairProfile := do
  let first ← profiler.columnCached one oneColumn.name
  let second ← profiler.columnCached two twoColumn.name
  let overlap ← profiler.overlapCached one oneColumn.name two twoColumn.name
  return ⟨first, second, overlap⟩

/-- The profiles of two columns, none if they cannot be had. -/
def ask? (profiler : Option Profiler) (one : Table) (oneColumn : Column) (two : Table)
    (twoColumn : Column) : StateM ProfileCache (Option PairProfile) :=
  match profiler with
  | none => return none
  | some profiler =>
    if canProfile one two then
      (·.toOption) <$> (ask profiler one oneColumn two twoColumn).run
    else return none

end PairProfile

def percentOf (share : Float) : Int :=
  Decimal.roundToInt (share * 100)

namespace PairInference

/-- The inference from names alone. -/
def ofNaming (naming : NamingEvidence) (shared : Bool) : PairInference :=
  let reasons := naming.reasons ++ [.sameType] ++ (if shared then [.sharedKeyName] else [])
  { cardinality := naming.cardinality, strength := naming.strength,
    confidence := SemanticLayer.confidence true naming.reasons naming.cardinality none none shared,
    reasons, rejection := none, overlap := none }

def ofProfile (naming : NamingEvidence) (shared : Bool) (profile : PairProfile) : PairInference :=
  if profile.overlap.shared = 0 then
    { cardinality := naming.cardinality, strength := naming.strength, confidence := 0,
      reasons := naming.reasons ++ [.sameType], rejection := some .noOverlap,
      overlap := some profile.overlap }
  else
    let shown := profile.cardinality
    let strong := naming.strength == .strong
    let cardinality := if strong then naming.cardinality else some shown
    let agrees :=
      if strong then some shown == naming.cardinality || shown == .oneToOne
      else shown != .manyToMany
    let coverage := profile.overlap.coverage cardinality
    { cardinality, strength := naming.strength,
      confidence :=
        SemanticLayer.confidence true naming.reasons cardinality (some agrees) (some coverage)
          shared
      reasons := naming.reasons ++ [.sameType] ++
        (if strong && !agrees then [.profileConflict] else []) ++
        [.profiled shown, .overlap (percentOf coverage)] ++
        (if shared then [.sharedKeyName] else [])
      rejection := none, overlap := some profile.overlap }

end PairInference

/-- What is inferred on two columns; nothing if the names give no reason to consider them and
`namingRequired` says that they have to. -/
def inferPair (profiler : Option Profiler) (one : Table) (oneColumn : Column) (two : Table)
    (twoColumn : Column) (namingRequired : Bool) :
    StateM ProfileCache (Option PairInference) := do
  match NamingEvidence.ofNames ⟨one.name, oneColumn.name⟩ ⟨two.name, twoColumn.name⟩,
      namingRequired with
  | none, true => return none
  | found, _ =>
    let naming := found.getD .nothing
    if DataKind.ofType oneColumn.type != DataKind.ofType twoColumn.type then
      return some
        { cardinality := naming.cardinality, strength := naming.strength, confidence := 0,
          reasons := naming.reasons, rejection := some .typeMismatch, overlap := none }
    else
      let shared := naming.strength != .strong &&
        (isSharedKey oneColumn.name || isSharedKey twoColumn.name)
      match ← PairProfile.ask? profiler one oneColumn two twoColumn with
      | none => return some (.ofNaming naming shared)
      | some profile => return some (.ofProfile naming shared profile)

end SemanticLayer
