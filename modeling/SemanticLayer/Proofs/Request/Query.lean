import SemanticLayer.Plan.Condition
import SemanticLayer.Proofs.Request.Relationship

/-!
Requests for queries in their normal form. Whatever a request spelled, what is read of it says only
listed words wherever a statement takes words as they stand, and names its columns without blanks
around them. Such a request is written in one way, and what is written is read as it is.
-/

namespace SemanticLayer

open Text

variable {α : Type}

/-! ### Choices -/

theorem readChoice_eq_ok {code : α → String} {choices : List α} {blank choice : α}
    {rejection : String} {value : Json}
    (h : readChoice code choices blank rejection value = .ok choice) :
    choice = blank ∨ choice ∈ choices := by
  unfold readChoice at h
  split at h
  · exact .inl (Except.ok.inj h).symm
  · split at h
    · rename_i found hfound
      exact .inr (Except.ok.inj h ▸ List.mem_of_find?_eq_some hfound)
    · cases h

theorem Aggregation.mem_all (aggregation : Aggregation) : aggregation ∈ all := by
  cases aggregation <;> decide

theorem Aggregation.read_code (aggregation : Aggregation) :
    read (.text aggregation.code) = .ok aggregation := by
  cases aggregation <;> rfl

theorem DatePart.mem_all (part : DatePart) : part ∈ all := by
  cases part <;> decide

theorem DatePart.read_code (part : Option DatePart) :
    read (.ofText? (part.map code)) = .ok part := by
  rcases part with _ | part
  · rfl
  · cases part <;> rfl

theorem FilterOperator.mem_of_read {value : Json} {operator : FilterOperator}
    (h : read value = .ok operator) : operator ∈ all := by
  rcases readChoice_eq_ok h with rfl | hmem
  · decide
  · exact hmem

theorem FilterOperator.read_code {operator : FilterOperator} (h : operator ∈ all) :
    read (.text operator.code) = .ok operator := by
  cases operator with
  | unsupported code => simp [all] at h
  | _ => rfl

theorem Connective.code_mem (connective : Connective) : connective.code ∈ ["AND", "OR"] := by
  cases connective <;> decide

theorem Connective.read_code (connective : Connective) :
    read (.text connective.code) = connective := by
  cases connective <;> rfl

theorem Direction.code_mem (direction : Direction) : direction.code ∈ ["ASC", "DESC"] := by
  cases direction <;> decide

theorem Direction.read_code (direction : Direction) :
    read (.text direction.code) = direction := by
  cases direction <;> rfl

/-! ### Columns -/

/-- A column as it is named after a request has been read. -/
structure ColumnRef.IsNormal (item : ColumnRef) : Prop where
  tableId : item.tableId ≠ ""
  column : item.column ≠ ""
  trimmed : trim item.column = item.column
  part : ∀ part ∈ item.part, part.code ∈ DatePart.all.map DatePart.code

theorem Checked.ne_empty_of_someText {value : Json} {s : String} (h : someText value = .ok s) :
    s ≠ "" := by
  cases value with
  | text given =>
    rw [someText] at h
    split at h
    · cases h
    · rename_i hgiven
      obtain rfl := Except.ok.inj h
      exact fun hempty => hgiven (String.isEmpty_iff.2 hempty)
  | _ => cases h

theorem Checked.someText_text {s : String} (h : s ≠ "") : someText (.text s) = .ok s := by
  rw [someText, if_neg (mt String.isEmpty_iff.1 h)]

theorem ne_empty_of_readTrimmed {rejection : String} {value : Json} {s : String}
    (h : readTrimmed rejection value = .ok s) : s ≠ "" := by
  obtain ⟨given, -, h⟩ := bind_eq_ok.1 h
  split at h
  · cases h
  · rename_i hgiven
    obtain rfl := Except.ok.inj h
    exact fun hempty => hgiven (String.isEmpty_iff.2 hempty)

theorem readTrimmed_text {rejection s : String} (hs : s ≠ "") (htrimmed : trim s = s) :
    readTrimmed rejection (.text s) = .ok s := by
  rw [readTrimmed, Checked.someText_text hs, Except.bind, htrimmed,
    if_neg (mt String.isEmpty_iff.1 hs)]

namespace ColumnRef

variable {item : ColumnRef}

theorem isNormal_of_readFields {value : Json} (h : readFields value = .ok item) :
    item.IsNormal := by
  simp only [readFields, Checked.seq_eq_ok, map_eq_ok] at h
  obtain ⟨_, part, ⟨_, column, ⟨tableId, htable, rfl⟩, hcolumn, rfl⟩, -, rfl⟩ := h
  obtain ⟨_, htable⟩ := FieldName.required_eq_ok htable
  obtain ⟨_, hcolumn⟩ := FieldName.required_eq_ok hcolumn
  exact ⟨Checked.ne_empty_of_someText htable, ne_empty_of_readTrimmed hcolumn,
    trim_of_readTrimmed hcolumn, fun part _ => List.mem_map_of_mem part.mem_all⟩

/-- The fields of a column are read as that column, whatever fields follow them. -/
theorem readFields_fields (h : item.IsNormal) (more : List (String × Json)) :
    readFields (.object (item.fields ++ more)) = .ok item := by
  have htable : readTableId (.object (item.fields ++ more)) = .ok item.tableId :=
    Checked.within_eq_ok.2 (Checked.someText_text h.tableId)
  have hcolumn : readColumn (.object (item.fields ++ more)) = .ok item.column :=
    Checked.within_eq_ok.2 (readTrimmed_text h.column h.trimmed)
  have hpart : readPart (.object (item.fields ++ more)) = .ok item.part :=
    Checked.within_eq_ok.2 (DatePart.read_code item.part)
  rw [readFields, htable, hcolumn, hpart]
  rfl

theorem read_toJson (h : item.IsNormal) : read item.toJson = .ok item := by
  have hfields := readFields_fields h []
  rwa [List.append_nil] at hfields

end ColumnRef

/-! ### Items -/

/-- An item of the result as it is after a request has been read. -/
structure SelectItem.IsNormal (item : SelectItem) : Prop where
  column : item.toColumnRef.IsNormal
  aggregation : item.aggregation.code ∈ Aggregation.all.map Aggregation.code

structure FilterItem.IsNormal (item : FilterItem) : Prop where
  column : item.toColumnRef.IsNormal
  operator : item.operator ∈ FilterOperator.all
  connective : item.connective.code ∈ ["AND", "OR"]

structure OrderItem.IsNormal (item : OrderItem) : Prop where
  column : item.toColumnRef.IsNormal
  direction : item.direction.code ∈ ["ASC", "DESC"]

/-- What an object is read as was read from its fields. -/
theorem Checked.object_eq_ok {model : String} {read : Json → Checked α} {value : Json} {a : α}
    (h : object model read value = .ok a) : read value = .ok a := by
  unfold object at h
  split at h
  · exact h
  · cases h

theorem SelectItem.isNormal_of_read {value : Json} {item : SelectItem}
    (h : read value = .ok item) : item.IsNormal := by
  have hfields := Checked.object_eq_ok h
  simp only [Checked.seq_eq_ok, map_eq_ok] at hfields
  obtain ⟨_, name, ⟨_, aggregation, ⟨column, hcolumn, rfl⟩, -, rfl⟩, -, rfl⟩ := hfields
  exact ⟨ColumnRef.isNormal_of_readFields hcolumn, List.mem_map_of_mem aggregation.mem_all⟩

theorem SelectItem.read_toJson {item : SelectItem} (h : item.IsNormal) :
    read item.toJson = .ok item := by
  have hcolumn := ColumnRef.readFields_fields h.column
    [("aggregation", .text item.aggregation.code), ("alias", .ofText? item.aliasName)]
  have haggregation : FieldName.withDefault (.plain "aggregation") .none Aggregation.read
      item.toJson = .ok item.aggregation :=
    Checked.within_eq_ok.2 (Aggregation.read_code item.aggregation)
  have hname : FieldName.withDefault (.plain "alias") none (Checked.nullable Checked.text)
      item.toJson = .ok item.aliasName := by
    refine Checked.within_eq_ok.2 ?_
    cases item.aliasName <;> rfl
  unfold toJson at haggregation hname ⊢
  rw [read, Checked.object, hcolumn, haggregation, hname]
  rfl

theorem FilterItem.isNormal_of_read {value : Json} {item : FilterItem}
    (h : read value = .ok item) : item.IsNormal := by
  have hfields := Checked.object_eq_ok h
  simp only [Checked.seq_eq_ok, map_eq_ok] at hfields
  obtain ⟨_, connective, ⟨_, value2, ⟨_, value, ⟨_, operator, ⟨column, hcolumn, rfl⟩, hoperator,
    rfl⟩, -, rfl⟩, -, rfl⟩, -, rfl⟩ := hfields
  refine ⟨ColumnRef.isNormal_of_readFields hcolumn, ?_, connective.code_mem⟩
  rcases FieldName.withDefault_eq_ok hoperator with rfl | ⟨found, hfound⟩
  · exact List.mem_cons_self
  · exact FilterOperator.mem_of_read hfound

theorem FilterItem.read_toJson {item : FilterItem} (h : item.IsNormal) :
    read item.toJson = .ok item := by
  have hcolumn := ColumnRef.readFields_fields h.column
    [("operator", .text item.operator.code), ("value", item.value), ("value2", item.value2),
      ("logical", .text item.connective.code)]
  have hoperator : FieldName.withDefault (.plain "operator") .equals FilterOperator.read
      item.toJson = .ok item.operator :=
    Checked.within_eq_ok.2 (FilterOperator.read_code h.operator)
  have hconnective : Connective.read (item.toJson.field "logical") = item.connective :=
    Connective.read_code item.connective
  unfold toJson at hoperator hconnective ⊢
  rw [read, Checked.object, hcolumn, hoperator, hconnective]
  rfl

theorem OrderItem.isNormal_of_read {value : Json} {item : OrderItem}
    (h : read value = .ok item) : item.IsNormal := by
  have hfields := Checked.object_eq_ok h
  simp only [Checked.seq_eq_ok, map_eq_ok] at hfields
  obtain ⟨_, direction, ⟨column, hcolumn, rfl⟩, -, rfl⟩ := hfields
  exact ⟨ColumnRef.isNormal_of_readFields hcolumn, direction.code_mem⟩

theorem OrderItem.read_toJson {item : OrderItem} (h : item.IsNormal) :
    read item.toJson = .ok item := by
  have hcolumn := ColumnRef.readFields_fields h.column [("dir", .text item.direction.code)]
  have hdirection : Direction.read (item.toJson.field "dir") = item.direction :=
    Direction.read_code item.direction
  unfold toJson at hdirection ⊢
  rw [read, Checked.object, hcolumn, hdirection]
  rfl

/-! ### Lists -/

/-- Whatever each item of a list is read as has the property that what is read of one item has. -/
theorem Checked.forall_of_list {P : α → Prop} {read : Json → Checked α} {value : Json}
    {items : List α} (hread : ∀ {value a}, read value = .ok a → P a)
    (h : list read value = .ok items) : ∀ item ∈ items, P item := by
  have heach : ∀ values index items, each read index values = .ok items → ∀ item ∈ items, P item := by
    intro values
    induction values with
    | nil =>
      intro index items h
      obtain rfl := Except.ok.inj h
      simp
    | cons value rest ih =>
      intro index items h
      simp only [each, Checked.seq_eq_ok, map_eq_ok, Checked.within_eq_ok] at h
      obtain ⟨_, others, ⟨first, hfirst, rfl⟩, hothers, rfl⟩ := h
      exact List.forall_mem_cons.2 ⟨hread hfirst, ih _ _ hothers⟩
  cases value with
  | list values => exact heach values 0 items h
  | _ => cases h

theorem FieldName.forall_of_list {P : α → Prop} {field : FieldName} {read : Json → Checked α}
    {value : Json} {items : List α} (hread : ∀ {value a}, read value = .ok a → P a)
    (h : field.withDefault [] (Checked.list read) value = .ok items) : ∀ item ∈ items, P item := by
  rcases withDefault_eq_ok h with rfl | ⟨found, hfound⟩
  · simp
  · exact Checked.forall_of_list hread hfound

/-- A list is read as the items of which it was written. -/
theorem Checked.list_map {read : Json → Checked α} {write : α → Json} {items : List α}
    (h : ∀ item ∈ items, read (write item) = .ok item) :
    list read (.list (items.map write)) = .ok items := by
  have heach : ∀ index, each read index (items.map write) = .ok items := by
    induction items with
    | nil => exact fun _ => rfl
    | cons item rest ih =>
      obtain ⟨hitem, hrest⟩ := List.forall_mem_cons.1 h
      intro index
      rw [List.map_cons, each, hitem, ih hrest]
      rfl
  exact heach 0

/-! ### Queries -/

/-- A query as it is after a request has been read. -/
structure QuerySpec.IsNormal (spec : QuerySpec) : Prop where
  select : ∀ item ∈ spec.select, item.IsNormal
  filters : ∀ item ∈ spec.filters, item.IsNormal
  groupBy : ∀ item ∈ spec.groupBy, item.IsNormal
  orderBy : ∀ item ∈ spec.orderBy, item.IsNormal

namespace QuerySpec

variable {spec : QuerySpec}

theorem isNormal_of_read {value : Json} (h : read value = .ok spec) : spec.IsNormal := by
  have hfields := Checked.object_eq_ok h
  simp only [readFields, Checked.seq_eq_ok, map_eq_ok] at hfields
  obtain ⟨_, limit, ⟨_, orderBy, ⟨_, groupBy, ⟨_, filters, ⟨_, select, ⟨_, tableIds,
    ⟨model, -, rfl⟩, -, rfl⟩, hselect, rfl⟩, hfilters, rfl⟩, hgroupBy, rfl⟩, horderBy, rfl⟩,
    -, rfl⟩ := hfields
  exact
    { select := FieldName.forall_of_list SelectItem.isNormal_of_read hselect
      filters := FieldName.forall_of_list FilterItem.isNormal_of_read hfilters
      groupBy := FieldName.forall_of_list
        (fun h => ColumnRef.isNormal_of_readFields (Checked.object_eq_ok h)) hgroupBy
      orderBy := FieldName.forall_of_list OrderItem.isNormal_of_read horderBy }

/-- A query in its normal form is read as it is written. -/
theorem read_toJson (h : spec.IsNormal) : read spec.toJson = .ok spec := by
  have hmodel : readDataModelId spec.toJson = .ok spec.dataModelId := by
    refine Checked.within_eq_ok.2 ?_
    cases spec.dataModelId <;> rfl
  have htables : readTableIds spec.toJson = .ok spec.tableIds :=
    Checked.within_eq_ok.2 (Checked.list_map fun _ _ => rfl)
  have hselect : FieldName.withDefault (.plain "select") [] (Checked.list SelectItem.read)
      spec.toJson = .ok spec.select :=
    Checked.within_eq_ok.2 (Checked.list_map fun item hitem =>
      SelectItem.read_toJson (h.select item hitem))
  have hfilters : FieldName.withDefault (.plain "filters") [] (Checked.list FilterItem.read)
      spec.toJson = .ok spec.filters :=
    Checked.within_eq_ok.2 (Checked.list_map fun item hitem =>
      FilterItem.read_toJson (h.filters item hitem))
  have hgroupBy : FieldName.withDefault ⟨"groupBy", "group_by"⟩ [] (Checked.list ColumnRef.read)
      spec.toJson = .ok spec.groupBy :=
    Checked.within_eq_ok.2 (Checked.list_map fun item hitem =>
      ColumnRef.read_toJson (h.groupBy item hitem))
  have horderBy : FieldName.withDefault ⟨"orderBy", "order_by"⟩ [] (Checked.list OrderItem.read)
      spec.toJson = .ok spec.orderBy :=
    Checked.within_eq_ok.2 (Checked.list_map fun item hitem =>
      OrderItem.read_toJson (h.orderBy item hitem))
  have hlimit : FieldName.withDefault (.plain "limit") none (Checked.nullable Checked.integer)
      spec.toJson = .ok spec.limit := by
    refine Checked.within_eq_ok.2 ?_
    cases spec.limit <;> rfl
  unfold toJson at *
  rw [read, Checked.object, readFields, hmodel, htables, hselect, hfilters, hgroupBy, horderBy,
    hlimit]
  rfl

end QuerySpec

/-- A filter with a supported operator states a condition, unless it asks for a range and a bound is
missing. -/
theorem FilterItem.condition_eq_error {item : FilterItem} {report : Report}
    (hoperator : item.operator ∈ FilterOperator.all) (h : item.condition = .error report) :
    item.operator = .between ∧ (item.value.isNull = true ∨ item.value2.isNull = true) ∧
      report = .make .invalidRequest
        ("between filter on " ++ item.column ++ " requires value and value2") := by
  unfold condition at h
  split at h
  case h_11 hbetween =>
    split at h
    · rename_i hmissing
      exact ⟨hbetween, by simpa using hmissing, (Except.error.inj h).symm⟩
    · cases h
  case h_16 code hunsupported => simp [hunsupported, FilterOperator.all] at hoperator
  all_goals cases h

/-- What is read of a request is in the normal form, is read again as it is, and has no filter whose
operator is not supported. -/
theorem QuerySpec.read_normalizes {body : Json} {spec : QuerySpec} (h : read body = .ok spec) :
    spec.IsNormal ∧ read spec.toJson = .ok spec ∧
      ∀ item ∈ spec.filters, (∀ code, item.operator ≠ .unsupported code) ∧
        ∀ report, item.condition = .error report →
          item.operator = .between ∧ (item.value.isNull = true ∨ item.value2.isNull = true) ∧
            report = .make .invalidRequest
              ("between filter on " ++ item.column ++ " requires value and value2") := by
  have hnormal := isNormal_of_read h
  refine ⟨hnormal, read_toJson hnormal, fun item hitem => ⟨?_, ?_⟩⟩
  · intro code hcode
    have hoperator := (hnormal.filters item hitem).operator
    simp [hcode, FilterOperator.all] at hoperator
  · exact fun report => FilterItem.condition_eq_error (hnormal.filters item hitem).operator

/-- A request with other spellings, blanks and names of fields, and a range without its end. -/
def looseRequest : Json :=
  .object
    [("table_ids", .list [.text "orders"]),
      ("select", .list
        [.object [("table_id", .text "orders"), ("column", .text " amount\n"),
          ("aggregation", .text " SUM"), ("hierarchyPart", .text "  ")]]),
      ("filters", .list
        [.object [("tableId", .text "orders"), ("column", .text "amount"),
          ("operator", .text "Between "), ("value", .int 3), ("logical", .text " or")]]),
      ("order_by", .list
        [.object [("tableId", .text "orders"), ("column", .text "day"),
          ("hierarchy_part", .text "WEEK"), ("dir", .list [])]])]

def strictSpec : QuerySpec where
  dataModelId := none
  tableIds := ["orders"]
  select := [⟨⟨"orders", "amount", none⟩, .sum, none⟩]
  filters := [⟨⟨"orders", "amount", none⟩, .between, .int 3, .null, .or⟩]
  groupBy := []
  orderBy := [⟨⟨"orders", "day", some .week⟩, .ascending⟩]
  limit := none

theorem QuerySpec.read_normalizes_loose :
    read looseRequest = .ok strictSpec ∧ strictSpec.IsNormal ∧
      read strictSpec.toJson = .ok strictSpec := by
  have h : read looseRequest = .ok strictSpec := rfl
  obtain ⟨hnormal, hagain, -⟩ := read_normalizes h
  exact ⟨h, hnormal, hagain⟩

end SemanticLayer
