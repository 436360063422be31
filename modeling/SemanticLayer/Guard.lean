import SemanticLayer.Catalog.Table
import SemanticLayer.Error
import SemanticLayer.Sql.Lexer
import SemanticLayer.Sql.Reference

/-!
Confining hand-written SQL to a set of tables. Each table answers to several spellings; a name that
exactly one table answers to is replaced by that table's canonical name, and if any name is left
over the whole text is refused. Nothing but the names is changed.
-/

namespace SemanticLayer

open Text Sql

/-- A table that a text may name, with the parts from which its spellings are made. -/
structure ScopedTable where
  canonical : String
  project : Option String
  dataset : Option String
  table : Option String
  aliases : List String
  deriving Repr, DecidableEq

def isNameQuote (c : Char) : Bool :=
  c == '"' || c == '\x60'

/-- The parts of a dotted name. A dot counts only where an even number of marks follows it; `part`
holds the characters of the current part, the last first. -/
def splitName (part : List Char) : List Char → List (List Char)
  | [] => [part.reverse]
  | c :: rest =>
    if c == '.' && (rest.countP isNameQuote) % 2 == 0 then part.reverse :: splitName [] rest
    else splitName (c :: part) rest

/-- The dotted name in lower case, without quotation marks and without empty parts. -/
def normalizeReference (name : String) : String :=
  let parts := (splitName [] (trimChars name.toList)).map trimChars
  let present := parts.filter fun part => !part.isEmpty
  lower (".".intercalate (present.map fun part => unquote (String.ofList part)))

/-- The letters and digits of a name, in lower case. -/
def relaxReference (name : String) : String :=
  String.ofList ((lower name).toList.filter fun c => c.isDigit || ('a' ≤ c && c ≤ 'z'))

/-- The list without later repetitions. -/
def distinct [BEq α] (values : List α) : List α :=
  values.foldl (fun seen value => if seen.contains value then seen else seen ++ [value]) []

namespace ScopedTable

/-- The names that the table answers to. -/
def spellings (entry : ScopedTable) : List String :=
  let project := lower (entry.project.getD "")
  let dataset := lower (entry.dataset.getD "")
  let name := lower (entry.table.getD "")
  let plain :=
    if name.isEmpty then []
    else if dataset.isEmpty then [name]
    else if project.isEmpty then [name, s!"{dataset}.{name}", s!"{dataset}_{name}"]
    else
      [name, s!"{dataset}.{name}", s!"{dataset}_{name}", s!"{project}.{dataset}.{name}",
        s!"{project}_{dataset}_{name}"]
  let others := (entry.aliases.filter fun other => !other.isEmpty).map normalizeReference
  distinct ((normalizeReference entry.canonical :: plain ++ others).filter fun s => !s.isEmpty)

/-- The scoped form of a table of the catalog. -/
def ofTable (table : Table) : ScopedTable :=
  let canonical := table.runtimeRef.getD ""
  let parts := ((normalizeReference canonical).splitOn ".")
  if table.engine == bigQueryEngine then
    { canonical,
      project := (presentText table.projectId).or (if parts.length == 3 then parts[0]? else none),
      dataset := table.dataset, table := some table.name, aliases := [] }
  else
    let parts := parts.filter fun part => !part.isEmpty
    let aliases :=
      if table.name.isEmpty then []
      else
        match presentText table.dataset with
        | none => [table.name]
        | some dataset => [table.name, s!"{dataset}.{table.name}", s!"{dataset}_{table.name}"]
    { canonical, project := none,
      dataset := (presentText table.runtimeSchema).or
        (if 2 ≤ parts.length then parts[parts.length - 2]? else none),
      table := (presentText table.runtimeTable).or parts.getLast?,
      aliases }

/-- The scoped forms of the tables that have a name in their engine. -/
def ofTables (tables : List Table) : List ScopedTable :=
  (tables.filter fun table => (presentText table.runtimeRef).isSome).map ofTable

end ScopedTable

/-- The tables that a text may name. -/
structure Guard where
  tables : List ScopedTable
  deriving Repr, DecidableEq

namespace Guard

/-- The canonical names of the tables with a fitting spelling. -/
def named (guard : Guard) (fits : String → Bool) : List String :=
  distinct ((guard.tables.filter fun table => table.spellings.any fits).map (·.canonical))

/-- The canonical names that a name may stand for: those with that very spelling or, where there are
none, those with the same letters and digits. -/
def candidates (guard : Guard) (identifier : String) : List String :=
  match guard.named (· == normalizeReference identifier) with
  | [] =>
    let relaxed := relaxReference identifier
    if relaxed.isEmpty then [] else guard.named (relaxReference · == relaxed)
  | exact => exact

/-- What becomes of a reference. -/
inductive Verdict where
  | resolved (canonical : String)
  | ambiguous
  | blocked
  deriving Repr, DecidableEq

def judge (guard : Guard) (reference : TableReference) : Verdict :=
  match if reference.resolvable then guard.candidates reference.identifier else [] with
  | [] => .blocked
  | [canonical] => .resolved canonical
  | _ => .ambiguous

def identifiersWith (guard : Guard) (verdict : Verdict) (references : List TableReference) :
    List String :=
  distinct ((references.filter fun r => guard.judge r == verdict).map (·.identifier))

/-- The texts of the tokens from a place on, the tokens of a reference being replaced by its
canonical name; `skip` tokens belong to a reference already replaced. -/
def replaceFrom (replacements : List (TableReference × String)) :
    Nat → Nat → List Token → List String
  | _, _, [] => []
  | place, skip + 1, _ :: rest => replaceFrom replacements (place + 1) skip rest
  | place, 0, token :: rest =>
    match replacements.find? (·.1.start == place) with
    | some (reference, canonical) =>
      canonical :: replaceFrom replacements (place + 1) (reference.stop - place - 1) rest
    | none => token.text :: replaceFrom replacements (place + 1) 0 rest

/-- The references that have exactly one table, with its canonical name. -/
def replacements (guard : Guard) (references : List TableReference) :
    List (TableReference × String) :=
  references.filterMap fun reference =>
    match guard.judge reference with
    | .resolved canonical => some (reference, canonical)
    | _ => none

/-- The tokens with every reference replaced, or the report of those that cannot be. -/
def confineTokens (guard : Guard) (tokens : List Token) : Except Report String :=
  let references := tableReferences tokens
  match guard.identifiersWith .ambiguous references, guard.identifiersWith .blocked references with
  | [], [] => .ok (String.join (replaceFrom (guard.replacements references) 0 0 tokens))
  | [], blocked => .error (.blocked blocked)
  | ambiguous, _ => .error (.ambiguous ambiguous)

/-- The text with every table replaced by its canonical name. -/
def confine (guard : Guard) (sql : String) : Except Report String :=
  guard.confineTokens (tokenize sql)

end Guard

end SemanticLayer
