import SemanticLayer.Text.Blank
import SemanticLayer.Text.Case
import SemanticLayer.Text.Part

/-!
What the names of columns and tables say. A column may be an identifier, it may refer to a table,
and it may be so common that it says nothing. Names are compared without quotation marks and in
lower case; a table may be spelt in the singular or in the plural.
-/

namespace SemanticLayer

open Text

/-- The inside of a text that stands between two marks; other texts as they are. -/
def insideMarks (opening closing : Char) (cs : List Char) : List Char :=
  if 2 ≤ cs.length && cs.head? == some opening && cs.getLast? == some closing then
    cs.tail.dropLast
  else cs

/-- The name in lower case, without blanks and quotation marks around it. -/
def normalizeName (name : String) : String :=
  let bare := insideMarks '[' ']' (insideMarks '"' '"' (insideMarks '\x60' '\x60'
    (trimChars name.toList)))
  lower (trim (String.ofList bare))

/-- The sorts of values that declared types are compared by. -/
inductive DataKind where
  | text
  | boolean
  | date
  | number
  deriving Repr, DecidableEq

namespace DataKind

def code : DataKind → String
  | .text => "string"
  | .boolean => "boolean"
  | .date => "date"
  | .number => "number"

/-- Words in the declared types of numbers. -/
def numberWords : List String :=
  ["INT", "NUMERIC", "DECIMAL", "FLOAT", "DOUBLE", "REAL", "NUMBER", "SERIAL"]

/-- The sort of values of a declared type. A type that says nothing is one of texts. -/
def ofType (type : String) : DataKind :=
  let word := upper (trim type)
  if holds word "BOOL" then .boolean
  else if holds word "DATE" || holds word "TIME" then .date
  else if numberWords.any (holds word) then .number
  else .text

end DataKind

/-- Whether the text ends with a consonant and `y`. -/
def endsWithConsonantY (text : String) : Bool :=
  match text.toList.reverse with
  | 'y' :: before :: _ => !(['a', 'e', 'i', 'o', 'u'].contains before)
  | _ => false

/-- Other spellings of a table's name, as singular or plural. -/
def numberForms (base : String) : List String :=
  (if endsWith base "ies" && 3 < base.length then [dropLast base 3 ++ "y"] else []) ++
  (if ["ses", "xes", "zes", "ches", "shes"].any (endsWith base) then [dropLast base 2] else []) ++
  (if endsWith base "ss" || endsWith base "us" then [base ++ "es"]
   else if endsWith base "s" then [dropLast base 1]
   else if endsWithConsonantY base then [dropLast base 1 ++ "ies"]
   else if ["x", "z", "ch", "sh"].any (endsWith base) then [base ++ "es"]
   else [base ++ "s"])

/-- The spellings of a table's name; qualifiers before it are left out. -/
def tableSpellings (table : String) : List String :=
  let base := afterLast '.' (normalizeName table)
  if base.isEmpty then [base] else base :: numberForms base

/-- The names of identifiers that every table may have. -/
def surrogateNames : List String := ["id", "uuid"]

/-- Whether a column is named like an identifier. -/
def isIdShaped (column : String) : Bool :=
  let name := normalizeName column
  surrogateNames.contains name || endsWith name "_id" || endsWith name "_uuid"

/-- Whether a column is named after the identifier of a table. -/
def refersTo (column table : String) : Bool :=
  let name := normalizeName column
  (tableSpellings table).any fun spelling =>
    name == spelling ++ "_id" || name == spelling ++ "_uuid"

/-- Whether a column is named like the identifier of its own table. -/
def isPrimaryKeyLike (column table : String) : Bool :=
  let name := normalizeName column
  surrogateNames.contains name || refersTo name table

/-- Whether a column is named like the identifier of another table. -/
def isForeignKeyLike (column table : String) : Bool :=
  isIdShaped column && !isPrimaryKeyLike column table

/-- The ends of names of moments. -/
def momentEndings : List String := ["_ts", "_at", "_date", "_time", "_on"]

/-- Whether a column holds moments. -/
def isTimestamp (column type : String) : Bool :=
  let name := normalizeName column
  !isIdShaped name &&
    (DataKind.ofType type == .date || holds name "timestamp" || momentEndings.any (endsWith name))

/-- Names of attributes that never identify a row of another table. -/
def attributeNames : List String :=
  ["name", "full_name", "first_name", "last_name", "display_name", "email", "phone", "address",
    "city", "country", "url", "status", "state", "type", "kind", "category", "title", "label",
    "description", "notes", "comment", "value", "amount", "total", "price", "quantity", "count",
    "active", "is_active", "enabled", "created", "updated", "timestamp", "date", "time"]

/-- Whether a column is an attribute that is not to be joined on. -/
def isGenericColumn (column type : String) : Bool :=
  let name := normalizeName column
  !isIdShaped name &&
    (attributeNames.contains name || DataKind.ofType type == .boolean || isTimestamp name type)

/-- Names of identifiers that many tables share. -/
def sharedKeyNames : List String :=
  ["tenant_id", "workspace_id", "org_id", "organization_id", "account_id", "company_id",
    "owner_id", "parent_id", "created_by", "updated_by", "external_id", "source_id", "code", "key"]

/-- Whether a column is an identifier that many tables share. -/
def isSharedKey (column : String) : Bool :=
  sharedKeyNames.contains (normalizeName column)

end SemanticLayer
