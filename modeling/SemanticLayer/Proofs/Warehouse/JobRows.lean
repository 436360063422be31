import SemanticLayer.Json.Document
import SemanticLayer.Proofs.Outcome
import SemanticLayer.Warehouse.Query

/-!
The rows of a job and the pages in which they are sent. How many rows there are on a page is up to
the warehouse; pages that begin where the ones before them end make up the rows without a gap.
-/

namespace SemanticLayer

/-! ### What is asked for -/

/-- What a request asks of a job: how far it has come, the page after those that were sent, or a page
that begins with a given row. -/
inductive Sought where
  | job
  | page
  | rows (start : Int)

namespace Call

def sought (call : Call) : Sought :=
  match call.method with
  | .post => .job
  | .get =>
    let parameters := Json.object (call.parameters.getD [])
    match parameters.intAt? "startIndex" with
    | some start => .rows start
    | none => if (parameters.field? "pageToken").isSome then .page else .job

/-- The greatest number of rows that a request asks for. -/
def most? (call : Call) : Option Int :=
  match call.method with
  | .post => (call.body.getD .null).intAt? "maxResults"
  | .get => (Json.object (call.parameters.getD [])).intAt? "maxResults"

end Call

/-! ### What is answered -/

/-- The fields and the rows that a job has in the warehouse. -/
structure JobRows where
  fields : List Json
  rows : List Json

namespace JobRows

/-- The body carries some of the rows from `start` on, but not more than `most`. -/
def Carries (set : JobRows) (body : Json) (start : Nat) (most : Int) : Prop :=
  ∃ count : Nat, (count : Int) ≤ most ∧
    (Fault.field body "rows" >>= Fault.items) = .ok ((set.rows.drop start).take count)

/-- The body of a completed job: the fields, the number of rows, and some of the first rows. -/
structure Completes (set : JobRows) (body : Json) (most : Int) : Prop where
  fields : WarehouseClient.listedFields body = .ok (.list set.fields)
  totalRows : (Fault.field body "totalRows" >>= wholeNumber) = .ok (set.rows.length : Int)
  rows : set.Carries body 0 most

/-- The body says how far the job has come. Before it is complete there may be no fields yet. -/
structure Describes (set : JobRows) (body : Json) (most : Int) : Prop where
  fields : ∀ listed, WarehouseClient.listedFields body = .ok listed → listed.isTruthy = true →
    listed = .list set.fields
  completed : ∀ complete, Fault.field body "jobComplete" = .ok complete →
    complete.isTruthy = true → set.Completes body most

/-- Whether a reply may be expected of a warehouse that has the rows. A request may also fail, and a
page may be as short as the warehouse likes. -/
def Answers (set : JobRows) (call : Call) (reply : Reply) : Prop :=
  ∀ status body most, reply = .answered status body → status < 400 → call.most? = some most →
    1 ≤ most →
      match call.sought with
      | .job => set.Describes body most
      | .page => set.Carries body 0 most
      | .rows start => 0 ≤ start → start < set.rows.length → set.Carries body start.toNat most

/-- The number of rows that a query wants. -/
def wanted (set : JobRows) : Option Int → Nat
  | some limit => min set.rows.length limit.toNat
  | none => set.rows.length

theorem wanted_le (set : JobRows) (limit : Option Int) : set.wanted limit ≤ set.rows.length := by
  cases limit with
  | none => exact Nat.le_refl _
  | some n => exact Nat.min_le_left _ _

/-! ### What is read -/

/-- The rows are what is read of the job's rows from `start` on. -/
def ReadsAs (set : JobRows) (start : Nat) (rows : List Row) : Prop :=
  Row.readAll set.fields ((set.rows.drop start).take rows.length) = .ok rows

end JobRows

theorem Row.length_of_readAll {fields raw : List Json} {rows : List Row}
    (h : readAll fields raw = .ok rows) : rows.length = raw.length := by
  obtain ⟨found, -, hrows⟩ := bind_eq_ok.1 h
  exact (forall₂_of_mapM hrows).length_eq.symm

theorem Row.readAll_nil {fields raw : List Json} {rows : List Row}
    (h : readAll fields raw = .ok rows) : readAll fields [] = .ok [] := by
  obtain ⟨found, hfound, -⟩ := bind_eq_ok.1 h
  exact bind_eq_ok.2 ⟨found, hfound, rfl⟩

/-- Rows that are read one part after the other are read together. -/
theorem Row.readAll_append {fields first rest : List Json} {rows others : List Row}
    (hfirst : readAll fields first = .ok rows) (hrest : readAll fields rest = .ok others) :
    readAll fields (first ++ rest) = .ok (rows ++ others) := by
  obtain ⟨found, hfound, hrows⟩ := bind_eq_ok.1 hfirst
  obtain ⟨again, hagain, hothers⟩ := bind_eq_ok.1 hrest
  obtain rfl : found = again := Except.ok.inj (hfound.symm.trans hagain)
  refine bind_eq_ok.2 ⟨found, hfound, ?_⟩
  rw [List.mapM_append, hrows, hothers]
  rfl

namespace JobRows.ReadsAs

variable {set : JobRows} {start : Nat} {rows : List Row}

/-- A page is read as rows that are on it from its beginning to its end. -/
theorem of_page {count : Nat}
    (h : Row.readAll set.fields ((set.rows.drop start).take count) = .ok rows) :
    set.ReadsAs start rows ∧ rows.length = min count (set.rows.length - start) := by
  have hlength := Row.length_of_readAll h
  rw [List.length_take, List.length_drop] at hlength
  refine ⟨?_, hlength⟩
  rw [ReadsAs, hlength, ← List.length_drop, ← List.take_take, List.take_length]
  exact h

theorem append {others : List Row} (h : set.ReadsAs start rows)
    (hothers : set.ReadsAs (start + rows.length) others) : set.ReadsAs start (rows ++ others) := by
  rw [ReadsAs, List.length_append, List.take_add]
  refine Row.readAll_append h ?_
  rw [List.drop_drop]
  exact hothers

/-- Chunks that begin at equal distances, and are as long as the distance unless the end is nearer,
make up the rows up to the end. -/
theorem append_chunks {size stop : Nat} {chunks : List (List Row)} (h : set.ReadsAs 0 rows)
    (hlength : rows.length ≤ stop) (hstop : stop ≤ rows.length + chunks.length * size)
    (hstarts : ∀ number < chunks.length, rows.length + number * size < stop)
    (hchunks : ∀ number chunk, chunks[number]? = some chunk →
      set.ReadsAs (rows.length + number * size) chunk ∧
        chunk.length = min size (stop - (rows.length + number * size))) :
    set.ReadsAs 0 (rows ++ chunks.flatten) ∧ (rows ++ chunks.flatten).length = stop := by
  induction chunks generalizing rows with
  | nil =>
    simp only [List.flatten_nil, List.append_nil, List.length_nil, Nat.zero_mul] at hstop ⊢
    exact ⟨h, by omega⟩
  | cons chunk rest ih =>
    obtain ⟨hchunk, hsize⟩ := hchunks 0 chunk rfl
    rw [Nat.zero_mul, Nat.add_zero] at hchunk hsize
    have hboth : set.ReadsAs 0 (rows ++ chunk) := h.append (Nat.zero_add _ ▸ hchunk)
    rw [List.flatten_cons, ← List.append_assoc]
    cases rest with
    | nil =>
      simp only [List.length_singleton, Nat.one_mul] at hstop
      refine ⟨by simpa using hboth, ?_⟩
      simp only [List.flatten_nil, List.append_nil, List.length_append]
      omega
    | cons next rest =>
      -- Another chunk begins before the end, so this one has its full length.
      have hnext := hstarts 1 (by simp)
      have hfull : (rows ++ chunk).length = rows.length + size := by
        rw [List.length_append]
        omega
      have hshift : ∀ number, (rows ++ chunk).length + number * size =
          rows.length + (number + 1) * size := by
        intro number
        rw [hfull, Nat.succ_mul]
        omega
      refine ih hboth (by omega) ?_ (fun number hnumber => ?_) fun number found hfound => ?_
      · rw [hshift]
        exact hstop
      · rw [hshift]
        exact hstarts (number + 1) (Nat.succ_lt_succ hnumber)
      · rw [hshift]
        exact hchunks (number + 1) found hfound

end JobRows.ReadsAs

end SemanticLayer
