import SemanticLayer.Request.Checked
import SemanticLayer.Text.Blank
import SemanticLayer.Text.Case

/-!
Requests for queries. Everything that is written into SQL as it stands (aggregations, date parts,
connectives, directions) is one of a fixed set of words after a request has been read, whatever
spelling the request used.
-/

namespace SemanticLayer

open Text

inductive Aggregation where
  | sum
  | avg
  | count
  | countDistinct
  | min
  | max
  | none
  | raw
  deriving Repr, DecidableEq

namespace Aggregation

def code : Aggregation → String
  | .sum => "sum"
  | .avg => "avg"
  | .count => "count"
  | .countDistinct => "countDistinct"
  | .min => "min"
  | .max => "max"
  | .none => "none"
  | .raw => "raw"

def all : List Aggregation :=
  [.sum, .avg, .count, .countDistinct, .min, .max, .none, .raw]

/-- Whether the aggregation makes one value of many. -/
def isAggregate : Aggregation → Bool
  | .none | .raw => false
  | _ => true

end Aggregation

inductive DatePart where
  | year
  | quarter
  | half
  | month
  | week
  | day
  | hour
  | minute
  | second
  deriving Repr, DecidableEq

namespace DatePart

def code : DatePart → String
  | .year => "year"
  | .quarter => "quarter"
  | .half => "half"
  | .month => "month"
  | .week => "week"
  | .day => "day"
  | .hour => "hour"
  | .minute => "minute"
  | .second => "second"

def all : List DatePart :=
  [.year, .quarter, .half, .month, .week, .day, .hour, .minute, .second]

end DatePart

/-- What a filter asks of a column. A request that has been read never has an operator that is not
supported. -/
inductive FilterOperator where
  | equals
  | notEquals
  | contains
  | notContains
  | startsWith
  | endsWith
  | greaterThan
  | greaterOrEqual
  | lessThan
  | lessOrEqual
  | between
  | isIn
  | notIn
  | isNull
  | isNotNull
  | unsupported (code : String)
  deriving Repr, DecidableEq

namespace FilterOperator

def code : FilterOperator → String
  | .equals => "equals"
  | .notEquals => "notEquals"
  | .contains => "contains"
  | .notContains => "notContains"
  | .startsWith => "startsWith"
  | .endsWith => "endsWith"
  | .greaterThan => "greaterThan"
  | .greaterOrEqual => "greaterOrEqual"
  | .lessThan => "lessThan"
  | .lessOrEqual => "lessOrEqual"
  | .between => "between"
  | .isIn => "in"
  | .notIn => "notIn"
  | .isNull => "isNull"
  | .isNotNull => "isNotNull"
  | .unsupported code => code

/-- The supported operators. -/
def all : List FilterOperator :=
  [.equals, .notEquals, .contains, .notContains, .startsWith, .endsWith, .greaterThan,
    .greaterOrEqual, .lessThan, .lessOrEqual, .between, .isIn, .notIn, .isNull, .isNotNull]

def ofCode (code : String) : FilterOperator :=
  (all.find? (·.code == code)).getD (.unsupported code)

end FilterOperator

/-- How a filter is combined with those before it. -/
inductive Connective where
  | and
  | or
  deriving Repr, DecidableEq

def Connective.code : Connective → String
  | .and => "AND"
  | .or => "OR"

inductive Direction where
  | ascending
  | descending
  deriving Repr, DecidableEq

def Direction.code : Direction → String
  | .ascending => "ASC"
  | .descending => "DESC"

/-- A column of a table, or a part of the dates in it. -/
structure ColumnRef where
  tableId : String
  column : String
  part : Option DatePart
  deriving Repr, DecidableEq

structure SelectItem extends ColumnRef where
  aggregation : Aggregation
  aliasName : Option String
  deriving Repr, DecidableEq

/-- Whether the item stands for all columns. -/
def SelectItem.isStar (item : SelectItem) : Bool :=
  item.column == "*"

structure FilterItem extends ColumnRef where
  operator : FilterOperator
  value : Json
  value2 : Json
  connective : Connective

structure OrderItem extends ColumnRef where
  direction : Direction
  deriving Repr, DecidableEq

structure QuerySpec where
  dataModelId : Option String
  tableIds : List String
  select : List SelectItem
  filters : List FilterItem
  groupBy : List ColumnRef
  orderBy : List OrderItem
  limit : Option Int

/-- A query, or SQL confined to tables. -/
structure ExecuteRequest extends QuerySpec where
  rawSql : Option String

/-! ### Reading -/

/-- The word that a value is, without blanks around it and in lower case. -/
def wordOf (value : Json) : String :=
  lower (trim value.plain)

/-- The choice whose code is the word, letter case aside; a value that is blank stands for
`blank`. -/
def readChoice (code : α → String) (choices : List α) (blank : α) (rejection : String)
    (value : Json) : Checked α :=
  if value.isNull || (trim value.plain).isEmpty then .ok blank
  else
    match choices.find? fun choice => lower (code choice) == wordOf value with
    | some choice => .ok choice
    | none => Checked.fail (.rejected rejection)

def DatePart.read (value : Json) : Checked (Option DatePart) :=
  readChoice (fun part => (part.map DatePart.code).getD "") (DatePart.all.map some) none
    ("hierarchyPart must be one of " ++ ", ".intercalate (DatePart.all.map DatePart.code)) value

def Aggregation.read (value : Json) : Checked Aggregation :=
  readChoice Aggregation.code Aggregation.all .none
    ("aggregation must be one of " ++ ", ".intercalate (Aggregation.all.map Aggregation.code)) value

def FilterOperator.read (value : Json) : Checked FilterOperator :=
  readChoice FilterOperator.code FilterOperator.all .equals
    ("operator must be one of " ++ ", ".intercalate (FilterOperator.all.map FilterOperator.code))
    value

def isUpperWord (word : String) (value : Json) : Bool :=
  value.isTruthy && upper (trim value.plain) == word

def Connective.read (value : Json) : Connective :=
  if isUpperWord "OR" value then .or else .and

def Direction.read (value : Json) : Direction :=
  if isUpperWord "DESC" value then .descending else .ascending

/-- Reads a text that is more than blanks, and drops those around it. -/
def readTrimmed (rejection : String) (value : Json) : Checked String :=
  (Checked.someText value).bind fun s =>
    if (trim s).isEmpty then Checked.fail (.rejected rejection) else .ok (trim s)

namespace ColumnRef

def readTableId : Json → Checked String :=
  FieldName.required ⟨"tableId", "table_id"⟩ Checked.someText

def readColumn : Json → Checked String :=
  FieldName.required (.plain "column") (readTrimmed "column must not be blank")

def readPart : Json → Checked (Option DatePart) :=
  FieldName.withDefault ⟨"hierarchyPart", "hierarchy_part"⟩ none DatePart.read

def readFields (value : Json) : Checked ColumnRef :=
  ColumnRef.mk <$> readTableId value <*> readColumn value <*> readPart value

def read : Json → Checked ColumnRef :=
  Checked.object "GroupByItem" readFields

end ColumnRef

def SelectItem.read : Json → Checked SelectItem :=
  Checked.object "SelectItem" fun value =>
    SelectItem.mk <$> ColumnRef.readFields value <*>
      FieldName.withDefault (.plain "aggregation") .none Aggregation.read value <*>
      FieldName.withDefault (.plain "alias") none (Checked.nullable Checked.text) value

def FilterItem.read : Json → Checked FilterItem :=
  Checked.object "FilterItem" fun value =>
    FilterItem.mk <$> ColumnRef.readFields value <*>
      FieldName.withDefault (.plain "operator") .equals FilterOperator.read value <*>
      .ok (value.field "value") <*> .ok (value.field "value2") <*>
      .ok (Connective.read (value.field "logical"))

def OrderItem.read : Json → Checked OrderItem :=
  Checked.object "OrderByItem" fun value =>
    OrderItem.mk <$> ColumnRef.readFields value <*> .ok (Direction.read (value.field "dir"))

def readDataModelId : Json → Checked (Option String) :=
  FieldName.withDefault ⟨"dataModelId", "data_model_id"⟩ none (Checked.nullable Checked.text)

def readTableIds : Json → Checked (List String) :=
  FieldName.withDefault ⟨"tableIds", "table_ids"⟩ [] (Checked.list Checked.text)

namespace QuerySpec

def readFields (value : Json) : Checked QuerySpec :=
  QuerySpec.mk <$> readDataModelId value <*> readTableIds value <*>
    FieldName.withDefault (.plain "select") [] (Checked.list SelectItem.read) value <*>
    FieldName.withDefault (.plain "filters") [] (Checked.list FilterItem.read) value <*>
    FieldName.withDefault ⟨"groupBy", "group_by"⟩ [] (Checked.list ColumnRef.read) value <*>
    FieldName.withDefault ⟨"orderBy", "order_by"⟩ [] (Checked.list OrderItem.read) value <*>
    FieldName.withDefault (.plain "limit") none (Checked.nullable Checked.integer) value

def read : Json → Checked QuerySpec :=
  Checked.object "SemanticQuerySpec" readFields

end QuerySpec

def ExecuteRequest.read : Json → Checked ExecuteRequest :=
  Checked.object "ExecuteQueryRequest" fun value =>
    ExecuteRequest.mk <$> QuerySpec.readFields value <*>
      ((·.bind fun s => if (trim s).isEmpty then none else some (trim s)) <$>
        FieldName.withDefault ⟨"rawSql", "raw_sql"⟩ none (Checked.nullable Checked.text) value)

/-! ### Writing -/

namespace ColumnRef

def fields (item : ColumnRef) : List (String × Json) :=
  [("tableId", .text item.tableId), ("column", .text item.column),
    ("hierarchyPart", .ofText? (item.part.map DatePart.code))]

def toJson (item : ColumnRef) : Json :=
  .object item.fields

end ColumnRef

def SelectItem.toJson (item : SelectItem) : Json :=
  .object (item.fields ++
    [("aggregation", .text item.aggregation.code), ("alias", .ofText? item.aliasName)])

def FilterItem.toJson (item : FilterItem) : Json :=
  .object (item.fields ++
    [("operator", .text item.operator.code), ("value", item.value), ("value2", item.value2),
      ("logical", .text item.connective.code)])

def OrderItem.toJson (item : OrderItem) : Json :=
  .object (item.fields ++ [("dir", .text item.direction.code)])

namespace QuerySpec

def fields (spec : QuerySpec) : List (String × Json) :=
  [("dataModelId", .ofText? spec.dataModelId), ("tableIds", .ofTexts spec.tableIds),
    ("select", .list (spec.select.map SelectItem.toJson)),
    ("filters", .list (spec.filters.map FilterItem.toJson)),
    ("groupBy", .list (spec.groupBy.map ColumnRef.toJson)),
    ("orderBy", .list (spec.orderBy.map OrderItem.toJson)),
    ("limit", match spec.limit with
      | some n => .int n
      | none => .null)]

def toJson (spec : QuerySpec) : Json :=
  .object spec.fields

end QuerySpec

def ExecuteRequest.toJson (request : ExecuteRequest) : Json :=
  .object (request.toQuerySpec.fields ++ [("rawSql", .ofText? request.rawSql)])

end SemanticLayer
