import SemanticLayer.Fault
import SemanticLayer.Registry.Basic

/-!
Transactions on the registry. A transaction is a run of statements that change the rows as they go;
what it did counts only if all of them succeed.
-/

namespace SemanticLayer

/-- Why a transaction does not go through. -/
inductive RegistryFault where
  /-- A row lacks a value that it needs, or another row has its identifier. -/
  | constraint
  /-- The store cannot run a statement. -/
  | unavailable
  /-- A data model that the workspace does not have. -/
  | unknownModel
  /-- A default model that was made but is not found. -/
  | lostModel
  /-- A schema whose text holds a whole number with too many digits. -/
  | longNumber (digits : Nat)
  deriving Repr, DecidableEq

/-- A transaction under way: the rows as the statements left them, and how many were run. -/
structure TransactionState where
  rows : RegistryRows
  statements : Nat

abbrev Transaction := ReaderT Registry (ExceptT RegistryFault (StateM TransactionState))

namespace Transaction

/-- Runs a statement that mentions tables. -/
def statement (tables : List RegistryTable)
    (body : RegistryRows → Except RegistryFault (α × RegistryRows)) : Transaction α :=
  fun registry state =>
    let started := { state with statements := state.statements + 1 }
    if registry.fails state.statements || tables.any registry.dropped.contains then
      (.error .unavailable, started)
    else
      match body state.rows with
      | .error fault => (.error fault, started)
      | .ok (result, rows) => (.ok result, { started with rows })

/-- A statement that reads rows. -/
def select (tables : List RegistryTable) (body : RegistryRows → α) : Transaction α :=
  statement tables fun rows => .ok (body rows, rows)

def change (tables : List RegistryTable)
    (body : RegistryRows → Except RegistryFault RegistryRows) : Transaction Unit :=
  statement tables fun rows => (body rows).map fun changed => ((), changed)

def needed (value : Option α) : Except RegistryFault α :=
  match value with
  | some value => .ok value
  | none => .error .constraint

end Transaction

/-- Runs a transaction and keeps what it did if it succeeds. -/
def Registry.commit (registry : Registry) (work : Transaction α) :
    Except RegistryFault α × Registry :=
  match work registry ⟨registry.rows, 0⟩ with
  | (.ok result, state) => (.ok result, { registry with rows := state.rows })
  | (.error fault, _) => (.error fault, registry)

def Registry.drop (registry : Registry) (table : RegistryTable) :
    Except RegistryFault Unit × Registry :=
  if registry.dropped.contains table then (.error .unavailable, registry)
  else (.ok (), { registry with dropped := table :: registry.dropped })

namespace RegistryFault

/-- The report of a fault: a model that is not there is named, and for all else a message says what
was tried. -/
def report (message : String) : RegistryFault → Report
  | .unknownModel => .make .modelNotFound "Data model not found"
  | .constraint | .unavailable | .lostModel | .longNumber _ => .make .catalogLoad message

/-- The fault of an operation that finds a model. A model that is lost and a number that is too long
are none of the store's faults and are not reported as such. -/
def modelFault (message : String) : RegistryFault → Fault
  | .lostModel => .lostModel
  | .longNumber digits => .unreadableInteger (.tooLong digits) ""
  | fault => .reported (fault.report message)

end RegistryFault

end SemanticLayer
