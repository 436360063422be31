import Mathlib
import SemanticLayer.Proofs.Warehouse.JobRows
import SemanticLayer.Proofs.Warehouse.Sequential

/-!
Pages of a query. However the rows of a job are split into pages, and however the chunks take turns,
a query that comes to its end has every row that was wanted, once and in order.
-/

namespace SemanticLayer

variable {δ σ : Type}

/-! ### Requests -/

/-- Nothing but a location is sent along with all requests for rows. -/
def IsPlace (parameters : List (String × Json)) : Prop :=
  ∀ entry ∈ parameters, entry.1 = "location"

theorem isPlace_of_location (location : Json) :
    IsPlace (if location.isTruthy then [("location", location)] else []) := by
  intro entry hentry
  split at hentry
  · exact List.mem_singleton.1 hentry ▸ rfl
  · cases hentry

section

variable {place rest : List (String × Json)}

theorem IsPlace.field?_append (h : IsPlace place) {key : String} (hkey : key ≠ "location") :
    (Json.object (place ++ rest)).field? key = (Json.object rest).field? key := by
  have hnone : place.find? (·.1 == key) = none := by
    rw [List.find?_eq_none]
    intro entry hentry heq
    exact hkey ((beq_iff_eq.1 heq).symm.trans (h entry hentry))
  rw [Json.field?, Json.field?, List.find?_append, hnone, Option.none_or]

theorem IsPlace.intAt?_append (h : IsPlace place) {key : String} (hkey : key ≠ "location") :
    (Json.object (place ++ rest)).intAt? key = (Json.object rest).intAt? key := by
  rw [Json.intAt?, Json.intAt?, Json.field, Json.field, h.field?_append hkey]

theorem IsPlace.most?_get (h : IsPlace place) (url : String) :
    Call.most? ⟨.get, url, none, some (place ++ rest)⟩ =
      (Json.object rest).intAt? "maxResults" :=
  h.intAt?_append (by simp)

theorem IsPlace.sought_get (h : IsPlace place) (url : String) :
    Call.sought ⟨.get, url, none, some (place ++ rest)⟩ =
      Call.sought ⟨.get, url, none, some rest⟩ := by
  have hstart : (Json.object (place ++ rest)).intAt? "startIndex" =
      (Json.object rest).intAt? "startIndex" := h.intAt?_append (by simp)
  have hpage : (Json.object (place ++ rest)).field? "pageToken" =
      (Json.object rest).field? "pageToken" := h.field?_append (by simp)
  simp only [Call.sought, Option.getD_some, hstart, hpage]

end

/-! ### The job -/

section

variable {limit : Option Int} (hlimit : ∀ n, limit = some n → 1 ≤ n)

include hlimit

theorem someLimit_of_pos : someLimit limit = limit := by
  cases limit with
  | none => rfl
  | some n =>
    have hn := hlimit n rfl
    simp [someLimit, Option.filter]
    omega

theorem WarehouseClient.batch_pos : 1 ≤ batch limit := by
  rw [batch, someLimit_of_pos hlimit]
  cases limit with
  | none => decide
  | some n =>
    have hn := hlimit n rfl
    simp only [firstBatch]
    omega

/-- The rows of a query end with the last one that it wants. -/
theorem WarehouseClient.stop_eq_wanted (set : JobRows) {job : JobResult}
    (htotal : job.totalRows = set.rows.length) : stop limit job = (set.wanted limit : Int) := by
  rw [stop, someLimit_of_pos hlimit]
  cases limit with
  | none => exact htotal
  | some n =>
    have hn := hlimit n rfl
    simp only [JobRows.wanted, htotal]
    omega

/-- What comes with a job are the first of its rows, and not more of them than are wanted. -/
theorem JobRows.first_page (set : JobRows) {count : Nat} {first : List Row}
    (hcount : (count : Int) ≤ WarehouseClient.batch limit)
    (hfirst : Row.readAll set.fields (set.rows.take count) = .ok first) :
    set.ReadsAs 0 first ∧ first.length ≤ set.wanted limit := by
  obtain ⟨hreads, hlength⟩ : set.ReadsAs 0 first ∧ first.length = min count set.rows.length :=
    ReadsAs.of_page hfirst
  refine ⟨hreads, ?_⟩
  rw [WarehouseClient.batch, someLimit_of_pos hlimit] at hcount
  cases limit with
  | none =>
    rw [wanted]
    omega
  | some n =>
    simp only [wanted] at hcount ⊢
    omega

end

/-- The fields of a job are the list that they are unless they are empty. -/
theorem Fault.items_of_listed {value : Json} {items : List Json}
    (hlisted : value.isTruthy = true → value = .list items)
    (hempty : value.isTruthy = true ∨ items = []) : Fault.items value = .ok items := by
  by_cases htruthy : value.isTruthy = true
  · rw [hlisted htruthy]
    rfl
  · obtain rfl := hempty.resolve_left htruthy
    cases value with
    | list found =>
      cases found with
      | nil => rfl
      | cons item rest => exact absurd rfl htruthy
    | _ => simp [Fault.items, htruthy]

namespace JobRows

variable {set : JobRows} {most : Int}

/-- The job is known as far as the answers describe it. -/
structure Tracks (set : JobRows) (most : Int) (job : JobProgress δ) : Prop where
  described : set.Describes job.body most
  listed : job.fields.isTruthy = true → job.fields = .list set.fields
  empty : ∀ complete, Fault.field job.body "jobComplete" = .ok complete →
    complete.isTruthy = true → job.fields.isTruthy = true ∨ set.fields = []

/-- The fields of an answer replace those that are known, unless it has none. -/
theorem Tracks.of_answer {body fields known : Json} {wait waited : δ}
    (hbody : set.Describes body most) (hfields : WarehouseClient.listedFields body = .ok fields)
    (hknown : known.isTruthy = true → known = .list set.fields) :
    set.Tracks most ⟨body, if fields.isTruthy then fields else known, wait, waited⟩ where
  described := hbody
  listed := by
    dsimp only
    split
    · exact hbody.fields fields hfields
    · exact hknown
  empty complete hcomplete htruthy := by
    have hlist := Except.ok.inj
      (hfields.symm.trans (hbody.completed complete hcomplete htruthy).fields)
    dsimp only
    split
    · rename_i hfound
      exact .inl hfound
    · rename_i hfound
      rw [hlist] at hfound
      exact .inr (by simpa [Json.isTruthy] using hfound)

theorem Tracks.completes {job : JobProgress δ} (h : set.Tracks most job) {complete : Json}
    (hcomplete : Fault.field job.body "jobComplete" = .ok complete)
    (htruthy : complete.isTruthy = true) :
    set.Completes job.body most ∧ Fault.items job.fields = .ok set.fields :=
  ⟨h.described.completed complete hcomplete htruthy,
    Fault.items_of_listed h.listed (h.empty complete hcomplete htruthy)⟩

/-- What a query knows when its chunks begin. -/
structure Begins (set : JobRows) (limit : Option Int) (job : JobResult) (handed : List Row) :
    Prop where
  place : IsPlace job.place
  fields : job.fields = set.fields
  totalRows : job.totalRows = set.rows.length
  first : set.ReadsAs 0 job.first
  first_le : job.first.length ≤ set.wanted limit
  handed_eq : handed = job.first

end JobRows

namespace WarehouseClient

open Dialogue

variable [Duration δ] {set : JobRows} (client : WarehouseClient δ) {limit : Option Int}
  {handed : List Row}

theorem poll_returns {most : Int} (hmost : 1 ≤ most) {place : List (String × Json)}
    (hplace : IsPlace place) (jobId : Json) (rounds : Nat) {job : JobProgress δ}
    (hjob : set.Tracks most job) :
    (client.poll jobId (place ++ [("maxResults", .int most)]) rounds job).Returns set.Answers
      (fun last later => later = handed ∧ set.Completes last.body most ∧
        Fault.items last.fields = .ok set.fields) handed := by
  induction rounds generalizing job with
  | zero =>
    refine .lift_bind fun complete hcomplete => ?_
    split
    · rename_i htruthy
      exact ⟨rfl, hjob.completes hcomplete htruthy⟩
    · trivial
  | succ rounds ih =>
    refine .lift_bind fun complete hcomplete => ?_
    split
    · rename_i htruthy
      exact ⟨rfl, hjob.completes hcomplete htruthy⟩
    · dsimp only
      split
      · trivial
      · refine .checkCancel_bind ?_
        refine .wait_bind ?_
        refine .send_bind fun status body hbody hstatus => ?_
        have hdescribes : set.Describes body most := by
          have hanswer := hbody status body most rfl hstatus (hplace.most?_get _) hmost
          rw [hplace.sought_get] at hanswer
          exact hanswer
        refine .lift_bind fun fields hfields => ?_
        exact ih (.of_answer hdescribes hfields hjob.listed)

theorem firstPage_returns (hlimit : ∀ n, limit = some n → 1 ≤ n) {place : List (String × Json)}
    (hplace : IsPlace place) (jobId : Json) {body : Json}
    (hbody : set.Completes body (batch limit)) (totalRows : Int) :
    (client.firstPage jobId place limit body totalRows).Returns set.Answers
      (fun raw later => later = handed ∧ ∃ count : Nat, (count : Int) ≤ batch limit ∧
        Fault.items raw = .ok (set.rows.take count)) handed := by
  refine .lift_bind fun rows hrows => ?_
  refine .lift_bind fun page _ => ?_
  split
  · obtain ⟨count, hcount, hcarried⟩ := hbody.rows
    rw [hrows] at hcarried
    exact ⟨rfl, count, hcount, hcarried⟩
  · refine .checkCancel_bind ?_
    refine .send_bind fun status answer hanswer hstatus => ?_
    have hcarries : set.Carries answer 0 (batch limit) := by
      have hpage := hanswer status answer (batch limit) rfl hstatus
        ((hplace.most?_get _).trans rfl) (batch_pos hlimit)
      rw [hplace.sought_get] at hpage
      exact hpage
    obtain ⟨count, hcount, hcarried⟩ := hcarries
    refine Promises.lift (fun rows hrows => ?_) fun _ _ => trivial
    rw [hrows] at hcarried
    exact ⟨rfl, count, hcount, hcarried⟩

omit [Duration δ] in
theorem columns_returns :
    (set.fields.mapM fun field => (do
      return ResultColumn.mk (← Fault.field field "name") (← Fault.field field "type") :
        Dialogue δ ResultColumn)).Returns set.Answers (fun _ later => later = []) [] := by
  refine Promises.mapM (fun field later hlater => ?_) rfl
  refine Returns.lift_bind fun name _ => ?_
  exact Returns.lift_bind fun type _ => hlater

theorem start_returns (hlimit : ∀ n, limit = some n → 1 ≤ n) (sql : String) :
    (client.start sql limit).Returns set.Answers (set.Begins limit) [] := by
  refine .checkCancel_bind ?_
  refine .send_bind fun status body hbody hstatus => ?_
  have hdescribes : set.Describes body (batch limit) :=
    hbody status body (batch limit) rfl hstatus rfl (batch_pos hlimit)
  refine .lift_bind fun reference _ => ?_
  refine .lift_bind fun jobId _ => ?_
  refine .lift_bind fun location _ => ?_
  have hplace := isPlace_of_location location
  dsimp only
  generalize (if location.isTruthy then [("location", location)] else []) = place at hplace ⊢
  refine .lift_bind fun listed hlisted => ?_
  have htracks : set.Tracks (batch limit)
      ⟨body, if listed.isTruthy then listed else listed, client.pollInitial, Duration.zero⟩ :=
    .of_answer hdescribes hlisted (hdescribes.fields listed hlisted)
  -- Before the first answer no fields are known, and it counts as it is.
  rw [ite_self] at htracks
  refine .bind (client.poll_returns (batch_pos hlimit) hplace jobId _ htracks) ?_
  rintro job _ ⟨rfl, hcompletes, hfields⟩
  refine .lift_bind fun fields hitems => ?_
  obtain rfl : fields = set.fields := Except.ok.inj (hitems.symm.trans hfields)
  refine .bind columns_returns ?_
  rintro columns _ rfl
  refine .lift_bind fun total htotal => ?_
  refine .lift_bind fun totalRows htotalRows => ?_
  have hrows : totalRows = (set.rows.length : Int) := by
    have htold := hcompletes.totalRows
    rw [htotal] at htold
    exact Except.ok.inj (htotalRows.symm.trans htold)
  refine .bind (client.firstPage_returns hlimit hplace jobId hcompletes totalRows) ?_
  rintro raw _ ⟨rfl, count, hcount, hraw⟩
  refine .lift_bind fun page hpage => ?_
  obtain rfl : page = set.rows.take count := Except.ok.inj (hpage.symm.trans hraw)
  refine .lift_bind fun first hfirst => ?_
  refine .handOver_bind ?_
  obtain ⟨hreads, hwanted⟩ := set.first_page hlimit hcount hfirst
  exact {
    place := hplace
    fields := rfl
    totalRows := hrows
    first := hreads
    first_le := hwanted
    handed_eq := rfl }

/-- A chunk has the rows that it is for, and it has handed over exactly these. -/
theorem fetchRows_returns {job : JobResult} (hplace : IsPlace job.place)
    (hfields : job.fields = set.fields) {first wanted : Nat} (stop : Int)
    (hwanted : first + wanted ≤ set.rows.length) {rows : List Row} (hrows : set.ReadsAs first rows)
    (hlength : rows.length ≤ wanted) :
    (client.fetchRows job first stop wanted rows).Returns set.Answers
      (fun all later => later = all ∧ set.ReadsAs first all ∧ all.length = wanted) rows := by
  generalize hstart : (first : Int) = start
  fun_induction client.fetchRows job start stop wanted rows with
  | case1 rows hmore ih =>
    refine .checkCancel_bind ?_
    refine .send_bind fun status body hbody hstatus => ?_
    -- The next page begins where the rows end that are there so far.
    have hcarries : set.Carries body (first + rows.length) (wanted - rows.length) := by
      have hpage := hbody status body (wanted - rows.length) rfl hstatus
        ((hplace.most?_get _).trans rfl) (by omega)
      rw [hplace.sought_get, ← hstart] at hpage
      exact hpage (by omega) (by omega)
    obtain ⟨count, hmost, hcarried⟩ := hcarries
    simp only [bind_eq, bind_assoc]
    refine .lift_bind fun found hfound => ?_
    refine .lift_bind fun raw hraw => ?_
    rw [hfound] at hcarried
    obtain rfl := Except.ok.inj (hraw.symm.trans hcarried)
    refine .lift_bind fun page hpage => ?_
    rw [hfields] at hpage
    obtain ⟨hreads, hsize⟩ := JobRows.ReadsAs.of_page hpage
    split
    · trivial
    · rename_i hnonempty
      refine .handOver_bind ?_
      refine ih page hnonempty (hrows.append hreads) ?_
      rw [List.length_append]
      omega
  | case2 rows hmore => exact ⟨rfl, hrows, by omega⟩

omit [Duration δ] in
/-- The chunks begin at equal distances, before the end, and reach up to it. -/
theorem chunkStarts_spec {client : WarehouseClient δ} {job : JobResult} {starts : List Int}
    {size last : Nat} (h : client.chunkStarts limit job = .ok starts)
    (hsize : client.chunkSize = size) (hpos : 0 < size) (hlast : stop limit job = last) :
    last ≤ job.first.length + starts.length * size ∧
      ∀ number < starts.length,
        starts[number]? = some ((job.first.length + number * size : Nat) : Int) ∧
          job.first.length + number * size < last := by
  unfold chunkStarts at h
  dsimp only at h
  rw [hsize, hlast] at h
  split_ifs at h with hnone hzero hnegative
  · obtain rfl := Except.ok.inj h
    exact ⟨by simp; omega, by simp⟩
  · omega
  · obtain rfl := Except.ok.inj h
    -- The number of chunks is a quotient that is rounded up.
    generalize hcount : ((last : Int) - job.first.length + size - 1) / size = count
    have hcover : (last : Int) - job.first.length + size - 1 < (count + 1) * size :=
      hcount ▸ Int.lt_ediv_add_one_mul_self _ (by omega)
    have hbefore : ∀ number : Nat, (number : Int) < count →
        ((number : Int) + 1) * size ≤ last - job.first.length + size - 1 := by
      intro number hnumber
      exact (Int.le_ediv_iff_mul_le (by omega)).1 (hcount ▸ hnumber)
    have hnonneg : 0 ≤ count := hcount ▸ Int.ediv_nonneg (by omega) (by omega)
    rw [List.length_map, List.length_range]
    refine ⟨?_, fun number hnumber => ?_⟩
    · have hreach : (last : Int) ≤ job.first.length + count.toNat * size := by
        rw [Int.toNat_of_nonneg hnonneg]
        rw [Int.add_mul] at hcover
        omega
      exact_mod_cast hreach
    · have hreach := hbefore number (by omega)
      rw [Int.add_mul] at hreach
      have hinside : (job.first.length : Int) + number * size < last := by omega
      refine ⟨?_, by exact_mod_cast hinside⟩
      rw [List.getElem?_map, List.getElem?_range hnumber]
      push_cast
      rfl

omit [Duration δ] in
theorem result_rows (hlimit : ∀ n, limit = some n → 1 ≤ n) {job : JobResult}
    {chunks : List (List Row)}
    (hlength : (job.first ++ chunks.flatten).length = set.wanted limit) :
    (result limit job chunks).rows = job.first ++ chunks.flatten := by
  simp only [result, someLimit_of_pos hlimit]
  cases limit with
  | none => rfl
  | some n =>
    have hn := hlimit n rfl
    dsimp only
    rw [cut, if_neg (by omega)]
    refine List.take_of_length_le ?_
    rw [hlength, JobRows.wanted]
    exact Nat.min_le_right _ _

end WarehouseClient

/-! ### Runs -/

section

variable [Duration δ] {client : WarehouseClient δ} {around : Surroundings δ σ} {concurrency : Nat}
  {limit : Option Int} {run : QueryRun δ σ} {set : JobRows}

/-- What is promised by a chunk that begins with a row. -/
def JobRows.ChunkReturns (set : JobRows) (limit : Option Int) (size : Nat) (start : Int)
    (dialogue : Dialogue δ (List Row)) (handed : List Row) : Prop :=
  ∀ first : Nat, start = first → dialogue.Returns set.Answers
    (fun rows later => later = rows ∧ set.ReadsAs first rows ∧
      rows.length = min size (set.wanted limit - first)) handed

theorem WarehouseClient.dialoguesKeep_returns {sql : String} {size : Nat}
    (haround : ∀ token call world, set.Answers call (around.send token call world).1)
    (hsize : client.chunkSize = size) (hpos : 0 < size)
    (hlimit : ∀ n, limit = some n → 1 ≤ n) :
    client.DialoguesKeep around sql limit
      (fun dialogue handed => dialogue.Returns set.Answers (set.Begins limit) handed)
      (fun _ start => set.ChunkReturns limit size start) := by
  have hexpected : Dialogue.Expected set.Answers around := by
    refine ⟨haround, ?_⟩
    rintro call status body most ⟨⟩
  refine {
    begin := client.start_returns hlimit sql
    query := fun _ _ _ h => h.step hexpected
    opened := fun job handed starts hbegins hstarts start hstart first hfirst => ?_
    chunk := fun _ _ _ _ _ h first hfirst => (h first hfirst).step hexpected }
  have hstop := stop_eq_wanted hlimit set hbegins.totalRows
  obtain ⟨number, hnumber⟩ := List.getElem?_of_mem hstart
  obtain ⟨hfound, hbefore⟩ := (chunkStarts_spec hstarts hsize hpos hstop).2 number
    (List.getElem?_eq_some_iff.1 hnumber).1
  have hplace := Option.some.inj (hnumber.symm.trans hfound)
  have hwanted := set.wanted_le limit
  subst hfirst
  have hcount : (min client.chunkSize (stop limit job - first)).toNat =
      min size (set.wanted limit - first) := by
    rw [hsize, hstop]
    omega
  rw [fetchChunk, hcount]
  exact client.fetchRows_returns hbegins.place hbegins.fields _ (by omega)
    (Row.readAll_nil hbegins.first) (Nat.zero_le _)

omit [Duration δ] in
/-- What is known of a chunk that is finished. -/
theorem QueryRun.Fetches.chunk_returned {main : Dialogue δ JobResult → List Row → Prop}
    {handedBy : Speaker → List Row} {job : JobResult} {chunks : List (List Row)}
    {failure : Option Halt} {starts : List Int} {size number first : Nat} {rows : List Row}
    (h : Fetches client limit main (fun _ start => set.ChunkReturns limit size start) handedBy job
      (chunks.map .finished) failure starts)
    (hstart : starts[number]? = some (first : Int)) (hrows : chunks[number]? = some rows) :
    handedBy (some number) = rows ∧ set.ReadsAs first rows ∧
      rows.length = min size (set.wanted limit - first) := by
  have hworker : (chunks.map .finished)[number]? = some (.finished rows : Worker δ) := by
    rw [List.getElem?_map, hrows]
    rfl
  have hfits := h.workers_fit number first _ hstart hworker
  exact hfits first rfl

/-- However the rows of a job are split into pages, and however the chunks take turns: a query that
has a result has exactly the rows that were wanted, read in order, and these are the rows that were
handed over. -/
theorem WarehouseClient.paging_exact {sql : String} {now : Conversation σ} {turns : List (Turn σ)}
    {result : QueryResult}
    (haround : ∀ token call world, set.Answers call (around.send token call world).1)
    (hsize : 1 ≤ client.chunkSize) (hlimit : ∀ n, limit = some n → 1 ≤ n)
    (h : client.follow around concurrency limit turns (client.begin sql limit now) = some run)
    (hstage : run.stage = .over (.ok result)) :
    Row.readAll set.fields (set.rows.take (set.wanted limit)) = .ok result.rows ∧
      run.handed.Perm result.rows := by
  obtain ⟨size, hchunk⟩ := Int.eq_ofNat_of_zero_le (by omega : 0 ≤ client.chunkSize)
  have hpos : 0 < size := by omega
  have hfits := follow_fits (dialoguesKeep_returns haround hchunk hpos hlimit) h
  obtain ⟨job, chunks, starts, rfl, hfetches⟩ := hfits.of_result hstage
  have hbegins : set.Begins limit job (run.handedBy none) := hfetches.job_fits
  obtain ⟨hcover, hstarts⟩ := chunkStarts_spec hfetches.starts_eq hchunk hpos
    (stop_eq_wanted hlimit set hbegins.totalRows)
  have hlength : chunks.length = starts.length := by
    rw [← hfetches.length_eq, List.length_map]
  rw [← hlength] at hcover hstarts
  have hreturned : ∀ (number : Nat) rows, chunks[number]? = some rows →
      run.handedBy (some number) = rows ∧
        set.ReadsAs (job.first.length + number * size) rows ∧
          rows.length = min size (set.wanted limit - (job.first.length + number * size)) :=
    fun number rows hrows => hfetches.chunk_returned
      (hstarts number (List.getElem?_eq_some_iff.1 hrows).1).1 hrows
  -- Whichever of them was finished first, the chunks go on from the rows that came with the job.
  obtain ⟨hreads, htotal⟩ := hbegins.first.append_chunks hbegins.first_le hcover
    (fun number hnumber => (hstarts number hnumber).2)
    fun number rows hrows => (hreturned number rows hrows).2
  have hperm := hfetches.handed_perm_chunks hlength
    fun number rows hrows => (hreturned number rows hrows).1
  rw [result_rows hlimit htotal]
  refine ⟨?_, hbegins.handed_eq ▸ hperm⟩
  rw [JobRows.ReadsAs, htotal] at hreads
  exact hreads

end

/-- The job whose rows are served. -/
def fourRowsJob : JobRows :=
  { fields := [.object [("name", .text "id"), ("type", .text "STRING")]]
    rows := fourRows.rows.map fun values =>
      .object [("f", .list (values.map fun value => .object [("v", value)]))] }

theorem fourRowsJob_carries (start count : Nat) {most : Int} {body : Json}
    (hcount : (count : Int) ≤ most) (hbody : Fault.field body "rows" =
      .ok (ServedTable.page ((fourRows.rows.drop start).take count))) :
    fourRowsJob.Carries body start most := by
  refine ⟨count, hcount, ?_⟩
  rw [hbody, fourRowsJob, ← List.map_drop, ← List.map_take]
  rfl

theorem fourRowsJob_answers (call : Call) : fourRowsJob.Answers call (fourRows.reply call) := by
  intro status body most hreply _ hmost hpos
  unfold ServedTable.reply at hreply
  cases hmethod : call.method with
  | post =>
    have hsought : call.sought = .job := by simp only [Call.sought, hmethod]
    rw [hmethod] at hreply
    obtain ⟨rfl, rfl⟩ := Reply.answered.inj hreply
    rw [hsought]
    refine ⟨fun listed hlisted _ => (Except.ok.inj hlisted).symm, fun _ _ _ => ⟨rfl, by cbv, ?_⟩⟩
    exact fourRowsJob_carries 0 1 hpos rfl
  | get =>
    simp only [Call.most?, hmethod] at hmost
    rw [hmethod] at hreply
    obtain ⟨rfl, rfl⟩ := Reply.answered.inj hreply
    have hpage : ∀ start, fourRowsJob.Carries (.object [("rows",
        ServedTable.page (cut (min fourRows.pageSize most) (fourRows.rows.drop start)))])
          start most := by
      intro start
      refine fourRowsJob_carries start (min 1 most).toNat (by omega) ?_
      rw [cut, if_neg (by simp only [fourRows]; omega)]
      rfl
    rw [hmost, Option.getD_some, Call.sought, hmethod]
    dsimp only
    cases (Json.object (call.parameters.getD [])).intAt? "startIndex" with
    | some start => exact fun _ _ => hpage start.toNat
    | none =>
      by_cases hnext : ((Json.object (call.parameters.getD [])).field? "pageToken").isSome = true
      · rw [if_pos hnext]
        exact hpage 0
      · rw [if_neg hnext]
        refine ⟨?_, ?_⟩
        · rintro _ ⟨⟩ ⟨⟩
        · rintro _ ⟨⟩ ⟨⟩

/-- The second chunk is fetched while the first one waits for its first page. -/
def overtakingTurns : List (Turn Nat) :=
  [.query, .query, .query, .query, .chunk 0, .chunk 0, .chunk 1, .chunk 1, .chunk 1, .chunk 1,
    .chunk 0, .chunk 0, .chunk 0, .chunk 0, .chunk 0, .close]

theorem paging_exact_fourRows :
    (∀ token call taken,
      fourRowsJob.Answers call ((servingFourRows 9).send token call taken).1) ∧
    ∃ run result,
      pairwise.follow (servingFourRows 9) 2 (some 9) overtakingTurns
        (pairwise.begin "" (some 9) silence) = some run ∧
      run.stage = .over (.ok result) ∧
      run.handed = [[("id", .text "a")], [("id", .text "d")], [("id", .text "b")],
        [("id", .text "c")]] ∧
      Row.readAll fourRowsJob.fields (fourRowsJob.rows.take 4) = .ok result.rows ∧
      run.handed.Perm result.rows := by
  have hanswers : ∀ token call taken,
      fourRowsJob.Answers call ((servingFourRows 9).send token call taken).1 :=
    fun _ call _ => fourRowsJob_answers call
  have hresult : ((pairwise.follow (servingFourRows 9) 2 (some 9) overtakingTurns
      (pairwise.begin "" (some 9) silence)).bind fun run =>
        run.result?.map fun result => (result.isOk, run.handed)) =
        some (true, [[("id", .text "a")], [("id", .text "d")], [("id", .text "b")],
          [("id", .text "c")]]) := by
    cbv
  obtain ⟨run, hrun, hover⟩ := Option.bind_eq_some_iff.1 hresult
  obtain ⟨outcome, houtcome, hfound⟩ := Option.map_eq_some_iff.1 hover
  obtain ⟨hok, hhanded⟩ := Prod.mk.inj hfound
  obtain ⟨result, rfl⟩ : ∃ result, outcome = .ok result := by
    cases outcome with
    | ok result => exact ⟨result, rfl⟩
    | error fault => cases hok
  have hstage := QueryRun.stage_of_result houtcome
  obtain ⟨hrows, hperm⟩ := WarehouseClient.paging_exact hanswers (by decide)
    (by rintro _ ⟨⟩; decide) hrun hstage
  exact ⟨hanswers, run, result, hrun, hstage, hhanded, hrows, hperm⟩

end SemanticLayer
