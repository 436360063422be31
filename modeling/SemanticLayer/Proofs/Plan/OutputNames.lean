import SemanticLayer.Proofs.Plan.Joins
import SemanticLayer.Proofs.Plan.Columns

/-!
The names of the output columns. A search for a free name ends within as many steps as names are
taken, since no two numbered forms of a name have the same lower case. So the columns of a plan have
names of letters, digits and underscores, each made from what its item asks for, and no two of them
differ in letter case alone.
-/

namespace SemanticLayer

open Text

/-! ### Lower case of numbered names -/

theorem isDigit_iff {c : Char} : c.isDigit = true ↔ 48 ≤ c.toNat ∧ c.toNat ≤ 57 := by
  simp only [Char.isDigit, Bool.and_eq_true, decide_eq_true_eq, ge_iff_le,
    UInt32.le_iff_toNat_le]
  exact Iff.rfl

theorem isDigit_of_mem_repr {n : Nat} : ∀ c ∈ n.repr.toList, c.isDigit = true := by
  intro c hc
  rw [Nat.toList_repr] at hc
  exact Nat.isDigit_of_mem_toDigits (by decide) (by decide) hc

namespace Text

/-- No letter is met after an underscore. -/
theorem meetsLetter_append_underscore (chars more : List Char) :
    meetsLetter (chars ++ '_' :: more) = meetsLetter chars := by
  have hskipped : caseIgnorable.contains '_'.toNat = false := by decide +kernel
  have hletter : casedLetters.contains '_'.toNat = false := by decide +kernel
  induction chars with
  | nil =>
    simp only [List.nil_append, meetsLetter, hskipped, hletter, Bool.false_eq_true, if_false]
  | cons c rest ih => rw [List.cons_append, meetsLetter, meetsLetter, ih]

/-- What follows an underscore does not change the lower case of what is before it. -/
theorem lowerFrom_append_underscore (before chars more : List Char) :
    lowerFrom before (chars ++ '_' :: more) =
      lowerFrom before chars ++ '_' :: lowerFrom ('_' :: (chars.reverse ++ before)) more := by
  induction chars generalizing before with
  | nil => rfl
  | cons c rest ih =>
    rw [List.cons_append, lowerFrom, lowerFrom, ih, meetsLetter_append_underscore]
    simp

theorem lowerChar_of_isDigit {c : Char} (h : c.isDigit = true) : lowerChar c = [c] := by
  have hbounds := isDigit_iff.1 h
  have hcapital : ¬ (c.val ≥ 'A'.val ∧ c.val ≤ 'Z'.val) := by
    rintro ⟨hfirst, -⟩
    have hletter : 65 ≤ c.toNat := UInt32.le_iff_toNat_le.1 hfirst
    omega
  have hkept : c.toLower = c := dif_neg hcapital
  rw [lowerChar, if_pos (by omega), hkept]

theorem lowerFrom_of_isDigit (before : List Char) {chars : List Char}
    (h : ∀ c ∈ chars, c.isDigit = true) : lowerFrom before chars = chars := by
  induction chars generalizing before with
  | nil => rfl
  | cons c rest ih =>
    obtain ⟨hc, hrest⟩ := List.forall_mem_cons.1 h
    have hbounds := isDigit_iff.1 hc
    have hsigma : (c.toNat == 931) = false := by
      rw [beq_eq_false_iff_ne]
      omega
    rw [lowerFrom, hsigma, ih _ hrest, lowerChar_of_isDigit hc]
    rfl

end Text

theorem lower_numberedName (name : String) (number : Nat) :
    lower (numberedName name (number + 1)) = lower name ++ "_" ++ (number + 2).repr := by
  have hchars : (numberedName name (number + 1)).toList =
      name.toList ++ '_' :: (number + 2).repr.toList := by
    simp [numberedName]
  apply String.toList_injective
  rw [lower, hchars, lowerFrom_append_underscore, lowerFrom_of_isDigit _ isDigit_of_mem_repr]
  simp [lower]

/-- Numbered forms of a name differ in more than letter case. -/
theorem lower_numberedName_injective (name : String) :
    Function.Injective fun number => lower (numberedName name number) := by
  -- A numbered form is longer than the name by an underscore and a number.
  have hname (number : Nat) : lower (numberedName name (number + 1)) ≠ lower name := by
    intro h
    have hlength := congrArg String.length h
    rw [lower_numberedName, String.length_append, String.length_append] at hlength
    have hmark : "_".length = 1 := rfl
    omega
  intro left right h
  dsimp only at h
  cases left with
  | zero =>
    cases right with
    | zero => rfl
    | succ right => exact absurd h.symm (hname right)
  | succ left =>
    cases right with
    | zero => exact absurd h (hname left)
    | succ right =>
      rw [lower_numberedName, lower_numberedName, String.append_right_inj] at h
      have hnumber := repr_injective h
      omega

/-! ### The search for a free name -/

/-- The search for a free form of a name ends with the form of this number: this one is free, and
all before it are taken. -/
structure SearchEnds (taken : List String) (name : String) (number : Nat) : Prop where
  free : lower (numberedName name number) ∉ taken
  earlier : ∀ other < number, lower (numberedName name other) ∈ taken

/-- Of one more form than there are names taken, some form is free. -/
theorem exists_free (taken : List String) (name : String) :
    ∃ number < taken.length + 1, lower (numberedName name number) ∉ taken := by
  by_contra hnone
  push Not at hnone
  have hforms : ((List.range (taken.length + 1)).map fun number =>
      lower (numberedName name number)) ⊆ taken := by
    intro form hform
    obtain ⟨number, hnumber, rfl⟩ := List.mem_map.1 hform
    exact hnone number (List.mem_range.1 hnumber)
  have hlength := ((List.nodup_range).map
    (lower_numberedName_injective name)).length_le_of_subset hforms
  rw [List.length_map, List.length_range] at hlength
  omega

/-- The search ends, after no more forms than there are names taken. -/
theorem freeName_spec (taken : List String) (name : String) :
    ∃ number ≤ taken.length, SearchEnds taken name number ∧
      freeName taken name = numberedName name number := by
  let isFree (number : Nat) : Bool := !taken.contains (lower (numberedName name number))
  have hfound : ((List.range (taken.length + 1)).find? isFree).isSome = true := by
    obtain ⟨number, hnumber, hfree⟩ := exists_free taken name
    exact List.find?_isSome.2 ⟨number, List.mem_range.2 hnumber, by simpa [isFree] using hfree⟩
  obtain ⟨number, hnumber⟩ := Option.isSome_iff_exists.1 hfound
  obtain ⟨hfree, hrange, hearlier⟩ := List.find?_range_eq_some.1 hnumber
  refine ⟨number, Nat.lt_succ_iff.1 (List.mem_range.1 hrange), ⟨?_, ?_⟩, ?_⟩
  · simpa [isFree] using hfree
  · intro other hother
    simpa [isFree] using hearlier other hother
  · have hforms : (((List.range (taken.length + 1)).map (numberedName name)).find?
        fun candidate => !taken.contains (lower candidate)) = some (numberedName name number) := by
      rw [List.find?_map]
      exact congrArg (Option.map (numberedName name)) hnumber
    rw [freeName, hforms, Option.getD_some]

theorem lower_freeName_not_mem (taken : List String) (name : String) :
    lower (freeName taken name) ∉ taken := by
  obtain ⟨number, -, hends, heq⟩ := freeName_spec taken name
  exact heq ▸ hends.free

/-- A name that is free is kept. -/
theorem freeName_of_free {taken : List String} {name : String} (h : lower name ∉ taken) :
    freeName taken name = name := by
  obtain ⟨number, -, hends, heq⟩ := freeName_spec taken name
  rw [heq]
  cases number with
  | zero => rfl
  | succ number => exact absurd (hends.earlier 0 (Nat.succ_pos number)) h

/-! ### Well-formed names -/

/-- The text is a name of letters, digits and underscores of the first 128 characters. -/
structure IsOutputName (name : String) : Prop where
  ne_empty : name ≠ ""
  chars : ∀ c ∈ name.toList, c.isAlphanum = true ∨ c = '_'

theorem isNameChar_iff {c : Char} : isNameChar c = true ↔ c.isAlphanum = true ∨ c = '_' := by
  simp [isNameChar]

theorem mem_of_mem_dropRight {p : Char → Bool} {chars : List Char} {c : Char}
    (h : c ∈ dropRight p chars) : c ∈ chars := by
  rw [dropRight, List.mem_reverse] at h
  exact List.mem_reverse.1 ((List.dropWhile_sublist p).subset h)

theorem isOutputName_outputName (wanted : String) : IsOutputName (outputName wanted) := by
  unfold outputName
  dsimp only
  split
  · have hchars : "col".toList.all isNameChar = true := by decide
    exact ⟨by decide, fun c hc => isNameChar_iff.1 (List.all_eq_true.1 hchars c hc)⟩
  · rename_i name hname
    refine ⟨fun hempty => hname (by simpa using hempty), fun c hc => ?_⟩
    rw [String.toList_ofList] at hc
    have hmapped := (List.dropWhile_sublist _).subset
      (mem_of_mem_dropRight (List.mem_of_mem_take hc))
    obtain ⟨d, -, rfl⟩ := List.mem_map.1 hmapped
    rw [← isNameChar_iff]
    split
    · assumption
    · rfl

theorem IsOutputName.numbered {name : String} (h : IsOutputName name) (number : Nat) :
    IsOutputName (numberedName name number) := by
  cases number with
  | zero => exact h
  | succ number =>
    refine ⟨fun hempty => h.ne_empty ?_, fun c hc => ?_⟩
    · simpa [numberedName] using congrArg String.toList hempty
    · have hmem : c ∈ name.toList ∨ c = '_' ∨ c ∈ (number + 2).repr.toList := by
        simpa [numberedName, or_assoc] using hc
      rcases hmem with hc | rfl | hc
      · exact h.chars c hc
      · exact .inr rfl
      · exact .inl (by simp [Char.isAlphanum, isDigit_of_mem_repr c hc])

theorem isOutputName_freeName (taken : List String) (wanted : String) :
    IsOutputName (freeName taken (outputName wanted)) := by
  obtain ⟨number, -, -, heq⟩ := freeName_spec taken (outputName wanted)
  rw [heq]
  exact (isOutputName_outputName wanted).numbered number

theorem IsOutputName.ne_star {name : String} (h : IsOutputName name) : name ≠ "*" := by
  rintro rfl
  exact absurd (h.chars '*' (by decide)) (by decide)

/-! ### Columns of a plan -/

/-- Whether the item stands for all columns of its table. -/
def SelectItem.isPlainStar (item : SelectItem) : Bool :=
  item.isStar && !item.aggregation.isAggregate

/-- The lower case of the names among columns; a star is no name. -/
def takenNames (columns : List String) : List String :=
  (columns.filter (· != "*")).map lower

/-- The name of the column that an item is compiled to, after columns of other items. -/
def SelectItem.columnAfter (item : SelectItem) (table : Table) (place : Nat)
    (taken : List String) : String :=
  if item.isPlainStar then "*"
  else freeName taken (outputName (PlanContext.wantedName table item place))

theorem SelectItem.columnAfter_cases (item : SelectItem) (table : Table) (place : Nat)
    (taken : List String) :
    item.columnAfter table place taken = "*" ∨
      IsOutputName (item.columnAfter table place taken) ∧
        lower (item.columnAfter table place taken) ∉ taken := by
  unfold columnAfter
  split
  · exact .inl rfl
  · exact .inr ⟨isOutputName_freeName taken _, lower_freeName_not_mem taken _⟩

theorem takenNames_cons (column : String) (rest : List String) :
    takenNames (column :: rest) =
      (if column = "*" then [] else [lower column]) ++ takenNames rest := by
  unfold takenNames
  by_cases hstar : column = "*" <;> simp [hstar]

theorem takenNames_nil : takenNames [] = [] := rfl

/-- The first item of a select list has its column, and the others come after it. -/
theorem PlanContext.selectFrom_cons {context : PlanContext} {place : Nat} {taken : List String}
    {item : SelectItem} {rest : List SelectItem} {terms : List SelectTerm}
    (h : context.selectFrom place taken (item :: rest) = .ok terms) :
    ∃ table term others, context.catalog.resolve? item.tableId = some table ∧
      term.name = item.columnAfter table place taken ∧
      context.selectFrom (place + 1) (taken ++ takenNames [term.name]) rest = .ok others ∧
      terms = term :: others := by
  unfold selectFrom at h
  simp only [bind_eq_ok, lift_eq_ok] at h
  obtain ⟨table, htable, aliasName, -, h⟩ := h
  have hresolve := Catalog.require_eq_ok.1 htable
  split at h <;> obtain ⟨others, hothers, heq⟩ := bind_eq_ok.1 h <;>
    obtain rfl := pure_eq_ok.1 heq
  · rename_i hstar
    refine ⟨table, _, others, hresolve, ?_, ?_, rfl⟩
    · rw [SelectItem.columnAfter, SelectItem.isPlainStar, if_pos hstar]
      rfl
    · simpa [SelectTerm.name, takenNames_cons, takenNames_nil] using hothers
  · rename_i hstar
    -- Columns and aggregates are named in the same way.
    have hnamed (term : SelectTerm)
        (hname : term.name = freeName taken (outputName (wantedName table item place))) :
        term.name = item.columnAfter table place taken ∧
          context.selectFrom (place + 1) (taken ++ takenNames [term.name]) rest = .ok others := by
      have hplain := (isOutputName_freeName taken (wantedName table item place)).ne_star
      refine ⟨by rw [hname, SelectItem.columnAfter, SelectItem.isPlainStar, if_neg hstar], ?_⟩
      rw [hname, takenNames_cons, if_neg hplain, takenNames_nil, List.append_nil]
      exact hothers
    refine ⟨table, _, others, hresolve, (hnamed _ ?name).1, (hnamed _ ?name).2, rfl⟩
    split <;> rfl

/-- The columns of items from a place on, where names are taken: each item has its own, made from
what it asks for and from the names before it. -/
theorem PlanContext.selectFrom_columns {context : PlanContext} {place : Nat}
    {taken : List String} {items : List SelectItem} {terms : List SelectTerm}
    (h : context.selectFrom place taken items = .ok terms) :
    terms.length = items.length ∧
      ∀ (index : Nat) (item : SelectItem), items[index]? = some item →
        ∃ table, context.catalog.resolve? item.tableId = some table ∧
          (terms.map SelectTerm.name)[index]? =
            some (item.columnAfter table (place + index)
              (taken ++ takenNames ((terms.map SelectTerm.name).take index))) := by
  induction items generalizing place taken terms with
  | nil =>
    obtain rfl := Except.ok.inj h
    exact ⟨rfl, by simp⟩
  | cons first rest ih =>
    obtain ⟨table, term, others, htable, hname, hothers, rfl⟩ := selectFrom_cons h
    obtain ⟨hlength, hcolumns⟩ := ih hothers
    refine ⟨by simp [hlength], fun index item hitem => ?_⟩
    cases index with
    | zero =>
      obtain rfl := Option.some.inj hitem
      exact ⟨table, htable, by simp [hname, takenNames_nil]⟩
    | succ index =>
      obtain ⟨other, hother, hcolumn⟩ := hcolumns index item hitem
      refine ⟨other, hother, ?_⟩
      rw [List.map_cons, List.getElem?_cons_succ, hcolumn, List.take_succ_cons, takenNames_cons,
        takenNames_cons, takenNames_nil, List.append_nil, List.append_assoc, Nat.add_right_comm,
        Nat.add_assoc]

/-- What the columns of a request are that selects something. -/
structure OutputColumns (catalog : Catalog) (items : List SelectItem) (columns : List String) :
    Prop where
  length : columns.length = items.length
  /-- Each item has its column, in order: a star, or the name that the item asks for, as long as no
  column before it has the name. -/
  columnOf : ∀ (place : Nat) (item : SelectItem), items[place]? = some item →
    ∃ table, catalog.resolve? item.tableId = some table ∧
      columns[place]? = some (item.columnAfter table place (takenNames (columns.take place)))
  named : ∀ column ∈ columns, column ≠ "*" → IsOutputName column
  distinct : (columns.filter (· ≠ "*")).Pairwise fun column other => lower column ≠ lower other

theorem OutputColumns.of_columnOf {catalog : Catalog} {items : List SelectItem}
    {columns : List String} (length : columns.length = items.length)
    (columnOf : ∀ (place : Nat) (item : SelectItem), items[place]? = some item →
      ∃ table, catalog.resolve? item.tableId = some table ∧
        columns[place]? = some (item.columnAfter table place (takenNames (columns.take place)))) :
    OutputColumns catalog items columns := by
  -- A column that is no star has a name that is not taken by the columns before it.
  have hfresh (place : Nat) (hplace : place < columns.length) (hstar : columns[place] ≠ "*") :
      IsOutputName columns[place] ∧ lower columns[place] ∉ takenNames (columns.take place) := by
    obtain ⟨table, -, hcolumn⟩ := columnOf place items[place] (List.getElem?_eq_getElem _)
    rw [List.getElem?_eq_getElem hplace] at hcolumn
    rw [Option.some.inj hcolumn] at hstar ⊢
    exact (items[place].columnAfter_cases table place _).resolve_left hstar
  refine ⟨length, columnOf, fun column hmem hstar => ?_, ?_⟩
  · obtain ⟨place, hplace, rfl⟩ := List.mem_iff_getElem.1 hmem
    exact (hfresh place hplace hstar).1
  · rw [List.pairwise_filter, List.pairwise_iff_getElem]
    intro place later hplace hlater hlt hstar hlaterStar heq
    apply (hfresh later hlater (by simpa using hlaterStar)).2
    rw [← heq]
    refine List.mem_map_of_mem (List.mem_filter.2 ⟨?_, by simpa using hstar⟩)
    exact List.mem_take_iff_getElem.2 ⟨place, by omega, rfl⟩

theorem PlanStages.Compiles.outputColumns {stages : PlanStages} {catalog : Catalog}
    {spec : QuerySpec} (h : stages.Compiles catalog spec) (hselect : spec.select ≠ []) :
    OutputColumns catalog spec.select (stages.terms.map SelectTerm.name) := by
  have hterms := h.terms
  unfold PlanContext.select at hterms
  rw [if_neg (by simpa using hselect)] at hterms
  obtain ⟨hlength, hcolumns⟩ := PlanContext.selectFrom_columns hterms
  refine .of_columnOf (by simpa using hlength) fun place item hitem => ?_
  simpa using hcolumns place item hitem

/-- The search for a free name always ends, and keeps the name that was asked for if it can. So the
columns of every plan have names that are well formed and that differ in more than letter case. -/
theorem outputColumns_distinct :
    (∀ (taken : List String) (name : String),
        (∃ number ≤ taken.length, SearchEnds taken name number ∧
          freeName taken name = numberedName name number) ∧
        (lower name ∉ taken → freeName taken name = name)) ∧
      ∀ (limits : RowLimits) (catalog : Catalog) (spec : QuerySpec) (plan : QueryPlan),
        QueryPlan.build limits catalog spec = .ok plan →
        (spec.select = [] → plan.columns = ["*"]) ∧
          (spec.select ≠ [] → OutputColumns catalog spec.select plan.columns) := by
  refine ⟨fun taken name => ⟨freeName_spec taken name, freeName_of_free⟩, ?_⟩
  intro limits catalog spec plan hplan
  obtain ⟨stages, hcompiles, rfl⟩ := build_eq_ok hplan
  refine ⟨fun hselect => ?_, hcompiles.outputColumns⟩
  have hterms := hcompiles.terms
  rw [hselect] at hterms
  obtain hstar := Except.ok.inj hterms
  rw [PlanStages.plan, ← hstar]
  rfl

/-- A request whose columns ask for names that meet each other once they are numbered. -/
def labelsSpec : QuerySpec :=
  let labelled (label : String) : SelectItem := ⟨⟨"customers", "id", none⟩, .none, some label⟩
  { customersSpec "id" with
    select := [labelled "label", labelled "Label", ⟨⟨"customers", "*", none⟩, .none, none⟩,
      labelled "label_2", labelled "label"] }

theorem outputColumns_distinct_labels :
    ∃ plan star : QueryPlan,
      QueryPlan.build ⟨10, 100⟩ customersCatalog labelsSpec = .ok plan ∧
      plan.columns = ["label", "Label_2", "*", "label_2_2", "label_3"] ∧
      OutputColumns customersCatalog labelsSpec.select plan.columns ∧
      QueryPlan.build ⟨10, 100⟩ customersCatalog
        { customersSpec "id" with tableIds := ["customers"], select := [] } = .ok star ∧
      star.columns = ["*"] ∧
      lower "Total" ∉ ["label"] ∧ freeName ["label"] "Total" = "Total" := by
  have hcolumns : (QueryPlan.build ⟨10, 100⟩ customersCatalog labelsSpec).toOption.map
      QueryPlan.columns = some ["label", "Label_2", "*", "label_2_2", "label_3"] := by
    decide +kernel
  have hstar : (QueryPlan.build ⟨10, 100⟩ customersCatalog
      { customersSpec "id" with tableIds := ["customers"], select := [] }).toOption.isSome =
        true := by
    decide +kernel
  have hfree : lower "Total" ∉ ["label"] := by decide +kernel
  cases hplan : QueryPlan.build ⟨10, 100⟩ customersCatalog labelsSpec with
  | error fault => simp [hplan, Except.toOption] at hcolumns
  | ok plan =>
    rw [hplan] at hcolumns
    cases hstarPlan : QueryPlan.build ⟨10, 100⟩ customersCatalog
        { customersSpec "id" with tableIds := ["customers"], select := [] } with
    | error fault => simp [hstarPlan, Except.toOption] at hstar
    | ok star =>
      exact ⟨plan, star, rfl, Option.some.inj hcolumns,
        (outputColumns_distinct.2 _ _ _ _ hplan).2 (List.cons_ne_nil _ _), rfl,
        (outputColumns_distinct.2 _ _ _ _ hstarPlan).1 rfl, hfree,
        (outputColumns_distinct.1 ["label"] "Total").2 hfree⟩

end SemanticLayer
