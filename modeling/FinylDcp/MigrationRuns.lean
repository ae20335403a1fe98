import FinylDcp.Migrations
import FinylDcp.Traces

/-!
# Migrations over many runs

Over any runs, whatever the directory holds at each and wherever one fails or is killed, no file
is executed twice, the records are the executed and the baselined files, the schema is what the
executed files make of the first one, and each was executed after everything that sorts before
it. Runs that were cut short leave no trace in what a later complete run comes to. Runs follow
upon each other: two at a time, and a commit whose outcome stays in doubt, are left out.
-/
namespace FinylDcp
open Listings Runs Worklists

variable {σ : Type*} {exec : String → σ → Except String σ}

theorem MigrationsDir.mem_sorted {dir : MigrationsDir} {file : MigrationFile} :
    file ∈ dir.sorted ↔ file ∈ dir.files :=
  List.mem_insertionSort _

theorem MigrationsDir.length_sorted (dir : MigrationsDir) :
    dir.sorted.length = dir.files.length :=
  List.length_insertionSort _ _

theorem MigrationsDir.nodup_sorted (dir : MigrationsDir) :
    (dir.sorted.map MigrationFile.name).Nodup :=
  ((List.perm_insertionSort _ _).map _).nodup_iff.mpr dir.nodup

/-- Of two files in the sorted listing the one that stands later does not sort before. -/
theorem MigrationsDir.sorted_pairwise (dir : MigrationsDir) :
    dir.sorted.Pairwise (fun a b => ¬ b.numericKey < a.numericKey) := by
  have htrue : dir.files.Pairwise (fun _ _ => True) := List.pairwise_of_forall fun _ _ => trivial
  refine (pairwise_insertionSort_precedes htrue).imp fun {a b} h => not_lt.mpr ?_
  exact h.elim le_of_lt fun heq => heq.1.le

/-- A line that records its file. -/
def FileResult.records : FileResult → Bool
  | .baseline => true
  | .applied => true
  | _ => false

theorem recordName_of_not_mem {recorded : List String} {name : String} (h : name ∉ recorded) :
    recordName recorded name = recorded ++ [name] :=
  if_neg h

/-- What the transaction of a file comes to: what it prints, and what it commits. -/
inductive FileStep (exec : String → σ → Except String σ) (r : MigrationRun)
    (db : σ × List String) (file : MigrationFile) : FileResult × (σ × List String) → Prop
  | skip (hdone : file.name ∈ db.2) : FileStep exec r db file (.skip, db)
  | listed (result : FileResult) (hresult : result = .baselineDry ∨ result = .pending)
      (hdry : r.dryRun = true) : FileStep exec r db file (result, db)
  | error (hnew : file.name ∉ db.2) (hdry : r.dryRun = false) :
      FileStep exec r db file (.error, db)
  | baseline (hnew : file.name ∉ db.2) (hdry : r.dryRun = false) :
      FileStep exec r db file (.baseline, (db.1, db.2 ++ [file.name]))
  | applied (hnew : file.name ∉ db.2) (hdry : r.dryRun = false) (sql : String) (schema : σ)
      (hsql : file.sql = some sql) (hexec : exec sql db.1 = .ok schema) :
      FileStep exec r db file (.applied, (schema, db.2 ++ [file.name]))

theorem runFile_step (r : MigrationRun) (baseline : Option ℤ) {already : List String}
    {db : σ × List String} {file : MigrationFile}
    (halready : file.name ∈ already ↔ file.name ∈ db.2) :
    FileStep exec r db file (runFile exec r baseline already db file) := by
  unfold runFile
  by_cases hdone : file.name ∈ already
  · rw [if_pos hdone]
    exact .skip (halready.mp hdone)
  have hnew : file.name ∉ db.2 := fun h => hdone (halready.mpr h)
  rw [if_neg hdone, recordName_of_not_mem hnew]
  by_cases hdry : r.dryRun = true
  · simp only [hdry, if_true]
    split
    · exact .listed _ (.inl rfl) hdry
    · exact .listed _ (.inr rfl) hdry
  simp only [hdry, Bool.false_eq_true, if_false]
  rw [Bool.not_eq_true] at hdry
  split
  · split
    · exact .error hnew hdry
    · exact .baseline hnew hdry
  split
  · exact .error hnew hdry
  rename_i sql hsql
  split
  · exact .error hnew hdry
  split
  · exact .error hnew hdry
  · rename_i schema hschema
    exact .applied hnew hdry sql schema hsql hschema

/-- A file that the transaction leaves recorded was recorded before, or is recorded by it. -/
theorem FileStep.mem_recorded {r : MigrationRun} {db : σ × List String} {file : MigrationFile}
    {out : FileResult × (σ × List String)} (h : FileStep exec r db file out) {name : String} :
    name ∈ out.2.2 ↔ name ∈ db.2 ∨ (out.1.records = true ∧ name = file.name) := by
  cases h with
  | skip hdone => simp [FileResult.records]
  | listed result hresult hdry => obtain rfl | rfl := hresult <;> simp [FileResult.records]
  | error hnew hdry => simp [FileResult.records]
  | baseline hnew hdry => simp [FileResult.records]
  | applied hnew hdry sql schema hsql hexec => simp [FileResult.records]

/-- The lines of the executed files, in order. -/
def executedFiles (lines : List (FileResult × MigrationFile)) : List MigrationFile :=
  (lines.filter (fun line => line.1 = .applied)).map Prod.snd

/-- The lines that record their file, in order. -/
def recordedFiles (lines : List (FileResult × MigrationFile)) : List MigrationFile :=
  (lines.filter (fun line => line.1.records)).map Prod.snd

/-- The executed files make the one schema of the other. -/
def Makes (exec : String → σ → Except String σ) (files : List MigrationFile) (s s' : σ) : Prop :=
  (files.filterMap MigrationFile.sql).foldlM (fun schema sql => exec sql schema) s = .ok s'

theorem Makes.append {files files' : List MigrationFile} {s s' s'' : σ}
    (h : Makes exec files s s') (h' : Makes exec files' s' s'') :
    Makes exec (files ++ files') s s'' := by
  unfold Makes at *
  rw [List.filterMap_append, List.foldlM_append, h]
  exact h'

/-- What the loop over the files comes to. -/
structure LoopDone (exec : String → σ → Except String σ) (r : MigrationRun)
    (db : σ × List String) (files : List MigrationFile)
    (out : List (FileResult × MigrationFile) × (σ × List String)) : Prop where
  lines : out.1.map Prod.snd <+: files
  recorded : out.2.2 = db.2 ++ (recordedFiles out.1).map MigrationFile.name
  makes : Makes exec (executedFiles out.1) db.1 out.2.1
  fresh : ∀ line ∈ out.1, line.1.records = true → r.dryRun = false ∧ line.2.name ∉ db.2
  passed : ∀ early line late, out.1 = early ++ line :: late → ∀ x ∈ early,
    x.2.name ∈ db.2 ++ (recordedFiles early).map MigrationFile.name ∨ r.dryRun = true

/-- A first file, and then the loop over the others. -/
theorem LoopDone.cons {r : MigrationRun} {db : σ × List String} {file : MigrationFile}
    {rest : List MigrationFile} {out : FileResult × (σ × List String)}
    {more : List (FileResult × MigrationFile) × (σ × List String)}
    (h : LoopDone exec r out.2 rest more) (hfirst : FileStep exec r db file out)
    (herror : out.1 ≠ .error) :
    LoopDone exec r db (file :: rest) ((out.1, file) :: more.1, more.2) where
  lines := List.cons_prefix_cons.mpr ⟨rfl, h.lines⟩
  recorded := by
    rw [h.recorded]
    cases hfirst with
    | skip hdone => simp [recordedFiles, FileResult.records]
    | listed result hresult hdry =>
      obtain rfl | rfl := hresult <;> simp [recordedFiles, FileResult.records]
    | error hnew hdry => simp at herror
    | baseline hnew hdry => simp [recordedFiles, FileResult.records]
    | applied hnew hdry sql schema hsql hexec => simp [recordedFiles, FileResult.records]
  makes := by
    have hmakes := h.makes
    cases hfirst with
    | skip hdone => simpa [executedFiles] using hmakes
    | listed result hresult hdry =>
      obtain rfl | rfl := hresult <;> simpa [executedFiles] using hmakes
    | error hnew hdry => simp at herror
    | baseline hnew hdry => simpa [executedFiles] using hmakes
    | applied hnew hdry sql schema hsql hexec =>
      have hone : Makes exec [file] db.1 schema := by simp [Makes, hsql, hexec]
      exact hone.append hmakes
  fresh line hline hrecords := by
    obtain rfl | hline := List.mem_cons.mp hline
    · cases hfirst with
      | skip hdone => cases hrecords
      | listed result hresult hdry => obtain rfl | rfl := hresult <;> cases hrecords
      | error hnew hdry => cases hrecords
      | baseline hnew hdry => exact ⟨hdry, hnew⟩
      | applied hnew hdry sql schema hsql hexec => exact ⟨hdry, hnew⟩
    · obtain ⟨hdry, hnew⟩ := h.fresh line hline hrecords
      exact ⟨hdry, fun hold => hnew (hfirst.mem_recorded.mpr (.inl hold))⟩
  passed early line late hsplit x hx := by
    obtain ⟨rfl, -⟩ | ⟨early', rfl, htail⟩ := List.cons_eq_append_iff.mp hsplit
    · cases hx
    have hlater : x.2.name ∈ out.2.2 ++ (recordedFiles early').map MigrationFile.name ∨
        r.dryRun = true := by
      obtain rfl | hx := List.mem_cons.mp hx
      · cases hfirst with
        | skip hdone => exact .inl (List.mem_append_left _ hdone)
        | listed result hresult hdry => exact .inr hdry
        | error hnew hdry => simp at herror
        | baseline hnew hdry => exact .inl (by simp)
        | applied hnew hdry sql schema hsql hexec => exact .inl (by simp)
      · exact h.passed early' line late htail x hx
    refine hlater.imp_left fun hmem => ?_
    rw [List.mem_append, hfirst.mem_recorded] at hmem
    rw [List.mem_append]
    obtain (hold | ⟨hrecords, hname⟩) | hmem := hmem
    · exact .inl hold
    · exact .inr (by simp [recordedFiles, hrecords, hname])
    · refine .inr ?_
      simp only [recordedFiles, List.filter_cons]
      split
      · exact List.mem_cons_of_mem _ hmem
      · exact hmem

theorem runFiles_done (r : MigrationRun) (baseline : Option ℤ) {already : List String}
    {files : List MigrationFile} (hnames : (files.map MigrationFile.name).Nodup)
    {db : σ × List String} (halready : ∀ file ∈ files, file.name ∈ already ↔ file.name ∈ db.2) :
    LoopDone exec r db files (runFiles exec r baseline already db files) := by
  induction files generalizing db with
  | nil => exact ⟨List.prefix_refl _, (List.append_nil _).symm, rfl, by simp [runFiles],
      fun early line late h => by simp [runFiles] at h⟩
  | cons file rest ih =>
    have hfirst : FileStep exec r db file (runFile exec r baseline already db file) :=
      runFile_step r baseline (halready file List.mem_cons_self)
    rw [List.map_cons, List.nodup_cons] at hnames
    unfold runFiles
    generalize runFile exec r baseline already db file = out at hfirst ⊢
    dsimp only
    have hrest : LoopDone exec r out.2 rest (runFiles exec r baseline already out.2 rest) := by
      refine ih hnames.2 fun f hf => ?_
      have hother : f.name ≠ file.name := fun heq => hnames.1 (heq ▸ List.mem_map_of_mem hf)
      rw [halready f (List.mem_cons_of_mem _ hf), hfirst.mem_recorded]
      simp [hother]
    split
    next herror =>
      obtain ⟨result, db'⟩ := out
      obtain rfl : result = .error := herror
      obtain rfl : db' = db := by
        cases hfirst with
        | listed result hresult hdry => rfl
        | error hnew hdry => rfl
      refine ⟨⟨rest, rfl⟩, (List.append_nil _).symm, rfl, by simp [FileResult.records],
        fun early line late h => ?_⟩
      obtain ⟨rfl, -⟩ | ⟨early', rfl, h⟩ := List.cons_eq_append_iff.mp h
      · simp
      · simp at h
    next herror => exact hrest.cons hfirst herror

/-- The names that are recorded; none where the table is not there yet. -/
def SchemaDb.names (db : SchemaDb σ) : List String := db.recorded.getD []

/-- The database, and what the runs so far printed. -/
structure Deployment (σ : Type*) where
  db : SchemaDb σ
  reports : List RunReport

namespace Deployment

def step (exec : String → σ → Except String σ) (d : Deployment σ) (r : MigrationRun) :
    Deployment σ :=
  let out := runMigrations exec d.db r
  ⟨out.2, d.reports ++ [out.1]⟩

/-- Everything printed, in order. -/
def lines (d : Deployment σ) : List (FileResult × MigrationFile) :=
  d.reports.flatMap RunReport.lines

/-- What the runs from a database keep. -/
structure Sound (exec : String → σ → Except String σ) (db₀ : SchemaDb σ) (d : Deployment σ) :
    Prop where
  recorded : d.db.names = db₀.names ++ (recordedFiles d.lines).map MigrationFile.name
  once : ((recordedFiles d.lines).map MigrationFile.name).Nodup
  fresh : ∀ file ∈ recordedFiles d.lines, file.name ∉ db₀.names
  makes : Makes exec (executedFiles d.lines) db₀.schema d.db.schema

end Deployment

/-- A run either leaves all that was recorded as it is and prints nothing, or is the loop over
the first of the sorted files. -/
theorem runMigrations_cases (db : SchemaDb σ) (r : MigrationRun) :
    ((runMigrations exec db r).1.lines = [] ∧ (runMigrations exec db r).2 = db) ∨
    ∃ baseline, parseBaselineThrough r.argv = some baseline ∧
      let out := runFiles exec r baseline db.names (db.schema, db.names) (r.dir.sorted.take r.reach)
      (runMigrations exec db r).1.lines = out.1 ∧
        (runMigrations exec db r).2 = ⟨out.2.1, some out.2.2⟩ ∧
        LoopDone exec r (db.schema, db.names) (r.dir.sorted.take r.reach) out := by
  unfold runMigrations
  split
  · exact .inl ⟨rfl, rfl⟩
  rename_i baseline hbaseline
  split
  · exact .inl ⟨rfl, rfl⟩
  split
  · exact .inl ⟨rfl, rfl⟩
  refine .inr ⟨baseline, hbaseline, rfl, rfl, runFiles_done r baseline ?_ fun _ _ => Iff.rfl⟩
  exact r.dir.nodup_sorted.sublist ((List.take_sublist _ _).map _)

theorem recordedFiles_append (xs ys : List (FileResult × MigrationFile)) :
    recordedFiles (xs ++ ys) = recordedFiles xs ++ recordedFiles ys := by
  simp [recordedFiles]

theorem executedFiles_append (xs ys : List (FileResult × MigrationFile)) :
    executedFiles (xs ++ ys) = executedFiles xs ++ executedFiles ys := by
  simp [executedFiles]

/-- An executed file is a recorded one. -/
theorem executedFiles_sublist (xs : List (FileResult × MigrationFile)) :
    (executedFiles xs).Sublist (recordedFiles xs) := by
  refine (List.monotone_filter_right xs fun line hline => ?_).map _
  rw [show line.1 = .applied by simpa using hline]
  rfl

theorem mem_recordedFiles {lines : List (FileResult × MigrationFile)} {file : MigrationFile} :
    file ∈ recordedFiles lines ↔ ∃ line ∈ lines, line.1.records = true ∧ line.2 = file := by
  simp [recordedFiles]

namespace Deployment

variable {db₀ : SchemaDb σ} {d : Deployment σ}

theorem lines_step (d : Deployment σ) (r : MigrationRun) :
    (d.step exec r).lines = d.lines ++ (runMigrations exec d.db r).1.lines := by
  simp [lines, step]

theorem Sound.step (h : Sound exec db₀ d) (r : MigrationRun) : Sound exec db₀ (d.step exec r) := by
  obtain ⟨hlines, hdb⟩ | ⟨baseline, -, hlines, hdb, hloop⟩ := @runMigrations_cases _ exec d.db r
  · have hsame : (d.step exec r).lines = d.lines := by
      rw [lines_step, hlines, List.append_nil]
    have hsamedb : (d.step exec r).db = d.db := hdb
    exact ⟨by rw [hsame, hsamedb, h.recorded], by rw [hsame]; exact h.once,
      by rw [hsame]; exact h.fresh, by rw [hsame, hsamedb]; exact h.makes⟩
  generalize runFiles exec r baseline d.db.names (d.db.schema, d.db.names)
    (r.dir.sorted.take r.reach) = out at hlines hdb hloop
  have hmore : (d.step exec r).lines = d.lines ++ out.1 := by rw [lines_step, hlines]
  have hnames : (d.step exec r).db.names = d.db.names ++
      (recordedFiles out.1).map MigrationFile.name := by
    have hsaved : (d.step exec r).db = ⟨out.2.1, some out.2.2⟩ := hdb
    rw [hsaved, ← hloop.recorded]
    rfl
  have hnew : ∀ file ∈ recordedFiles out.1, file.name ∉ d.db.names := by
    intro file hfile
    obtain ⟨line, hline, hrecords, rfl⟩ := mem_recordedFiles.mp hfile
    exact (hloop.fresh line hline hrecords).2
  refine ⟨?_, ?_, ?_, ?_⟩
  · rw [hnames, hmore, recordedFiles_append, List.map_append, h.recorded, List.append_assoc]
  · rw [hmore, recordedFiles_append, List.map_append, List.nodup_append']
    refine ⟨h.once, ?_, fun name hold hmem => ?_⟩
    · have hsorted := r.dir.nodup_sorted.sublist ((List.take_sublist r.reach _).map _)
      have hprinted := hsorted.sublist (hloop.lines.sublist.map _)
      rw [List.map_map] at hprinted
      rw [recordedFiles, List.map_map]
      exact hprinted.sublist (List.filter_sublist.map _)
    · obtain ⟨file, hfile, rfl⟩ := List.mem_map.mp hmem
      exact hnew file hfile (h.recorded ▸ List.mem_append_right _ hold)
  · intro file hfile
    rw [hmore, recordedFiles_append, List.mem_append] at hfile
    obtain hold | hlast := hfile
    · exact h.fresh file hold
    · exact fun hmem => hnew file hlast (h.recorded ▸ List.mem_append_left _ hmem)
  · have hsaved : (d.step exec r).db = ⟨out.2.1, some out.2.2⟩ := hdb
    rw [hmore, executedFiles_append, hsaved]
    exact h.makes.append hloop.makes

theorem sound_run (db₀ : SchemaDb σ) (runs : List MigrationRun) :
    Sound exec db₀ (run (Deployment.step exec) ⟨db₀, []⟩ runs) := by
  have hstart : Sound exec db₀ ⟨db₀, []⟩ :=
    ⟨(List.append_nil _).symm, List.nodup_nil, fun file hfile => absurd hfile List.not_mem_nil, rfl⟩
  exact @invariant_run_of_step _ _ (Deployment.step exec) (Sound exec db₀)
    (fun d r h => h.step r) _ runs hstart

end Deployment

/-- What a run executes, it executes after every file of the directory that sorts before. -/
theorem runMigrations_in_order {db : SchemaDb σ} {r : MigrationRun}
    {early late : List (FileResult × MigrationFile)} {file : MigrationFile}
    (h : (runMigrations exec db r).1.lines = early ++ (.applied, file) :: late) :
    ∀ f ∈ r.dir.files, f.numericKey < file.numericKey →
      f.name ∈ db.names ++ (recordedFiles early).map MigrationFile.name := by
  intro f hf hbefore
  obtain ⟨hlines, -⟩ | ⟨baseline, -, hlines, -, hloop⟩ := @runMigrations_cases _ exec db r
  · simp [hlines] at h
  rw [hlines] at h
  have happlied : ((.applied, file) : FileResult × MigrationFile) ∈
      (runFiles exec r baseline db.names (db.schema, db.names)
        (r.dir.sorted.take r.reach)).1 := by simp [h]
  have hwet := (hloop.fresh _ happlied rfl).1
  obtain ⟨rest, hrest⟩ := hloop.lines.trans (List.take_prefix _ _)
  rw [h, List.map_append, List.map_cons, List.append_assoc, List.cons_append] at hrest
  have hmem : f ∈ early.map Prod.snd := by
    have hsorted := MigrationsDir.mem_sorted.mpr hf
    rw [← hrest, List.mem_append, List.mem_cons] at hsorted
    obtain hearly | rfl | hlater := hsorted
    · exact hearly
    · exact absurd hbefore (lt_irrefl _)
    · have hpairs := r.dir.sorted_pairwise
      rw [← hrest, List.pairwise_append, List.pairwise_cons] at hpairs
      exact absurd hbefore (hpairs.2.1.1 f hlater)
  obtain ⟨x, hx, rfl⟩ := List.mem_map.mp hmem
  exact (hloop.passed early _ late h x hx).resolve_right (by simp [hwet])

/-- Over any runs of the runner, with any files in the directory at each and wherever one fails
or is killed: no file is executed twice, nor one that was recorded at the start; the records are
those of the start and then the executed and baselined files in order; the schema is what the
executed files make of the first; and each file was executed when every file of the directory
that sorts before it was recorded. -/
theorem migrations_tracked (db₀ : SchemaDb σ) (runs : List MigrationRun) :
    let d := run (Deployment.step exec) ⟨db₀, []⟩ runs
    ((executedFiles d.lines).map MigrationFile.name).Nodup ∧
    (∀ file ∈ executedFiles d.lines, file.name ∉ db₀.names) ∧
    d.db.names = db₀.names ++ (recordedFiles d.lines).map MigrationFile.name ∧
    Makes exec (executedFiles d.lines) db₀.schema d.db.schema ∧
    ∀ past r later, runs = past ++ r :: later →
      let before := run (Deployment.step exec) ⟨db₀, []⟩ past
      ∀ early file late,
        (runMigrations exec before.db r).1.lines = early ++ (.applied, file) :: late →
        ∀ f ∈ r.dir.files, f.numericKey < file.numericKey →
          f.name ∈ before.db.names ++ (recordedFiles early).map MigrationFile.name := by
  intro d
  have hsound : Deployment.Sound exec db₀ d := Deployment.sound_run db₀ runs
  have hsub := executedFiles_sublist d.lines
  refine ⟨hsound.once.sublist (hsub.map _), fun file hfile => hsound.fresh file (hsub.mem hfile),
    hsound.recorded, hsound.makes, ?_⟩
  intro past r later _ before early file late hlines
  exact runMigrations_in_order hlines

/-- The ledger of a schema and the recorded names. -/
def ledgerOf (db : σ × List String) : WorkLedger σ String := ⟨db.1, db.2⟩

def SchemaDb.ledger (db : SchemaDb σ) : WorkLedger σ String := ledgerOf (db.schema, db.names)

/-- What becomes of the schema when a file is recorded. -/
def performFile (exec : String → σ → Except String σ) (baseline : Option ℤ) (outage : String → Bool)
    (file : MigrationFile) (schema : σ) : Option σ :=
  if baseline.any (fun n => (fileNumber file.name : ℤ) ≤ n) then
    if outage file.name then none else some schema
  else file.sql.bind (fun sql => if outage file.name then none else (exec sql schema).toOption)

/-- The transaction of a file advances the work by it. -/
theorem advance_eq {r : MigrationRun} (baseline : Option ℤ) (hwet : r.dryRun = false)
    {already : List String} {db : σ × List String} {file : MigrationFile}
    (halready : file.name ∈ already ↔ file.name ∈ db.2) :
    let out := runFile exec r baseline already db file
    advance MigrationFile.name (performFile exec baseline r.outage) (ledgerOf db) file =
      if out.1 = .error then none else some (ledgerOf out.2) := by
  intro out
  show _ = if (runFile exec r baseline already db file).1 = .error then none
    else some (ledgerOf (runFile exec r baseline already db file).2)
  unfold advance runFile performFile ledgerOf
  by_cases hdone : file.name ∈ db.2
  · simp [hdone, halready.mpr hdone]
  have hnew : file.name ∉ already := fun h => hdone (halready.mp h)
  simp only [hdone, hnew, if_false, hwet, Bool.false_eq_true, recordName_of_not_mem hdone]
  by_cases hbaselined : baseline.any (fun n => (fileNumber file.name : ℤ) ≤ n) = true
  · cases houtage : r.outage file.name <;> simp [hbaselined]
  · simp only [hbaselined, Bool.false_eq_true, if_false]
    cases hsql : file.sql with
    | none => simp
    | some sql =>
      cases houtage : r.outage file.name with
      | true => simp
      | false => cases hexec : exec sql db.1 <;> simp [hexec, Except.toOption]

/-- The loop of a run that writes works off the files. -/
theorem runFiles_eq_work {r : MigrationRun} (baseline : Option ℤ) (hwet : r.dryRun = false)
    {already : List String} {files : List MigrationFile}
    (hnames : (files.map MigrationFile.name).Nodup) {db : σ × List String}
    (halready : ∀ file ∈ files, file.name ∈ already ↔ file.name ∈ db.2) :
    ledgerOf (runFiles exec r baseline already db files).2 =
      work MigrationFile.name (performFile exec baseline r.outage) (ledgerOf db) files := by
  induction files generalizing db with
  | nil => rfl
  | cons file rest ih =>
    rw [List.map_cons, List.nodup_cons] at hnames
    have hname := halready file List.mem_cons_self
    have hstep := @runFile_step _ exec r baseline _ _ _ hname
    have hadvance := @advance_eq _ exec r baseline hwet _ _ _ hname
    unfold runFiles
    generalize runFile exec r baseline already db file = out at hstep hadvance ⊢
    dsimp only at hadvance ⊢
    split
    next herror =>
      rw [if_pos herror] at hadvance
      rw [work_cons_none hadvance]
      cases hstep with
      | listed result hresult hdry => rfl
      | error hnew hdry => rfl
      | _ => cases herror
    next herror =>
      rw [if_neg herror] at hadvance
      rw [work_cons_some hadvance]
      refine ih hnames.2 fun f hf => ?_
      have hother : f.name ≠ file.name := fun heq => hnames.1 (heq ▸ List.mem_map_of_mem hf)
      rw [halready f (List.mem_cons_of_mem _ hf), hstep.mem_recorded]
      simp [hother]

/-- A dry run writes nothing. -/
theorem runFiles_dry {r : MigrationRun} (baseline : Option ℤ) (hdry : r.dryRun = true)
    {already : List String} {files : List MigrationFile} {db : σ × List String}
    (halready : ∀ file ∈ files, file.name ∈ already ↔ file.name ∈ db.2) :
    (runFiles exec r baseline already db files).2 = db := by
  induction files with
  | nil => rfl
  | cons file rest ih =>
    have hstep : FileStep exec r db file (runFile exec r baseline already db file) :=
      runFile_step r baseline (halready file List.mem_cons_self)
    have hsame : (runFile exec r baseline already db file).2 = db := by
      generalize runFile exec r baseline already db file = out at hstep ⊢
      cases hstep with
      | skip hdone => rfl
      | listed result hresult hdry => rfl
      | error hnew hdry => rfl
      | baseline hnew hwet => simp [hdry] at hwet
      | applied hnew hwet sql schema hsql hexec => simp [hdry] at hwet
    unfold runFiles
    dsimp only
    split
    · exact hsame
    · rw [hsame]
      exact ih fun f hf => halready f (List.mem_cons_of_mem _ hf)

/-- A run that nothing cuts short, and that is no dry run. -/
structure MigrationRun.Complete (r : MigrationRun) : Prop where
  wet : r.dryRun = false
  baseline : (parseBaselineThrough r.argv).isSome = true
  connects : r.connects = true
  noOutage : ∀ name, r.outage name = false
  reach : r.dir.files.length ≤ r.reach

/-- Two runs over the same files, one of them a dry run or with the same baseline as the
other. -/
def MigrationRun.Towards (r last : MigrationRun) : Prop :=
  r.dir = last.dir ∧
    (r.dryRun = true ∨ parseBaselineThrough r.argv = parseBaselineThrough last.argv)

/-- The ledger after a run is that of some first part of the work. -/
theorem runMigrations_work {db : SchemaDb σ} {r last : MigrationRun} {baseline : Option ℤ}
    (hbaseline : parseBaselineThrough last.argv = some baseline) (h : r.Towards last) :
    ∃ us, us <+: last.dir.sorted ∧ (runMigrations exec db r).2.ledger =
      work MigrationFile.name (performFile exec baseline fun _ => false) db.ledger us := by
  obtain ⟨hdir, hmode⟩ := h
  obtain ⟨-, hdb⟩ | ⟨own, hown, -, hdb, hloop⟩ := @runMigrations_cases _ exec db r
  · exact ⟨[], List.nil_prefix, by rw [hdb]; rfl⟩
  rw [hdb]
  by_cases hdry : r.dryRun = true
  · have hsame : (runFiles exec r own db.names (db.schema, db.names)
        (r.dir.sorted.take r.reach)).2 = (db.schema, db.names) :=
      runFiles_dry own hdry fun _ _ => Iff.rfl
    exact ⟨[], List.nil_prefix, by rw [hsame]; rfl⟩
  rw [Bool.not_eq_true] at hdry
  obtain rfl : own = baseline := by
    have hsame := hmode.resolve_left (by simp [hdry])
    rw [hown, hbaseline] at hsame
    exact Option.some.inj hsame
  have hnames := r.dir.nodup_sorted.sublist ((List.take_sublist r.reach _).map _)
  have hwork : ledgerOf (runFiles exec r own db.names (db.schema, db.names)
      (r.dir.sorted.take r.reach)).2 = work MigrationFile.name (performFile exec own r.outage)
        db.ledger (r.dir.sorted.take r.reach) :=
    runFiles_eq_work own hdry hnames fun _ _ => Iff.rfl
  have hweaker : ∀ (file : MigrationFile) (schema : σ),
      performFile exec own r.outage file schema = none ∨
        performFile exec own r.outage file schema =
          performFile exec own (fun _ => false) file schema := by
    intro file schema
    unfold performFile
    cases r.outage file.name with
    | false => exact .inr rfl
    | true => cases file.sql <;> simp
  obtain ⟨us, hus, hprefix⟩ :=
    @work_eq_shorter _ _ _ _ MigrationFile.name _ _ hweaker db.ledger (r.dir.sorted.take r.reach)
  exact ⟨us, hdir ▸ hus.trans (List.take_prefix _ _), hwork.trans hprefix⟩

/-- A complete run does the whole work. -/
theorem runMigrations_complete {db : SchemaDb σ} {last : MigrationRun} {baseline : Option ℤ}
    (hbaseline : parseBaselineThrough last.argv = some baseline) (h : last.Complete) :
    (runMigrations exec db last).2.ledger =
      work MigrationFile.name (performFile exec baseline fun _ => false) db.ledger
        last.dir.sorted := by
  have houtage : last.outage = fun _ => false := funext h.noOutage
  unfold runMigrations
  simp only [hbaseline, h.connects, Bool.not_true, Bool.false_eq_true, if_false]
  split
  next hempty =>
    have hnone : last.dir.sorted = [] := by
      rw [MigrationsDir.sorted, hempty]
      rfl
    rw [hnone]
    rfl
  next =>
    have hwhole : last.dir.sorted.take last.reach = last.dir.sorted :=
      List.take_of_length_le (last.dir.length_sorted.le.trans h.reach)
    rw [hwhole, ← houtage]
    exact runFiles_eq_work baseline h.wet last.dir.nodup_sorted fun _ _ => Iff.rfl

/-- Runs over the same files, each dry or with the baseline of the last one, that were cut short
anywhere, by a failure, an outage or a kill, leave no trace in what a later complete run comes
to. -/
theorem interrupted_runs_resume (db : SchemaDb σ) (earlier : List MigrationRun)
    (last : MigrationRun) (hsame : ∀ r ∈ earlier, r.Towards last) (hlast : last.Complete) :
    (run (Deployment.step exec) ⟨db, []⟩ (earlier ++ [last])).db.ledger =
      (runMigrations exec db last).2.ledger := by
  obtain ⟨baseline, hbaseline⟩ := Option.isSome_iff_exists.mp hlast.baseline
  rw [run_concat]
  generalize ([] : List RunReport) = reports
  show (runMigrations exec _ last).2.ledger = _
  induction earlier generalizing db reports with
  | nil => rfl
  | cons r earlier ih =>
    have hlater : ∀ r' ∈ earlier, r'.Towards last :=
      fun r' hr' => hsame r' (List.mem_cons_of_mem _ hr')
    obtain ⟨us, hus, hfirst⟩ :=
      @runMigrations_work _ exec db _ _ _ hbaseline (hsame r List.mem_cons_self)
    calc (runMigrations exec (run (Deployment.step exec) ⟨db, reports⟩ (r :: earlier)).db
            last).2.ledger
        = (runMigrations exec (runMigrations exec db r).2 last).2.ledger :=
          ih (runMigrations exec db r).2 hlater (reports ++ [(runMigrations exec db r).1])
      _ = (runMigrations exec db last).2.ledger := by
          rw [runMigrations_complete hbaseline hlast, runMigrations_complete hbaseline hlast,
            hfirst]
          exact work_work_of_prefix hus

/-- A run that is killed after its first file, and a run that resumes it. -/
theorem interrupted_runs_resume_after_a_kill :
    let dir : MigrationsDir :=
      ⟨[⟨"010_wallets.sql", some "wallets"⟩, ⟨"002_clients.sql", some "clients"⟩,
        ⟨"011_broken.sql", none⟩], by decide⟩
    let exec := fun (sql : String) (schema : List String) =>
      (Except.ok (schema ++ [sql]) : Except String (List String))
    let killed : MigrationRun := ⟨dir, [], true, fun _ => false, 1⟩
    let whole : MigrationRun := ⟨dir, [], true, fun _ => false, 3⟩
    (run (Deployment.step exec) ⟨⟨[], none⟩, []⟩ ([killed] ++ [whole])).db.ledger =
        (runMigrations exec ⟨[], none⟩ whole).2.ledger ∧
      (runMigrations exec ⟨[], none⟩ whole).2.ledger =
        ⟨["clients", "wallets"], ["002_clients.sql", "010_wallets.sql"]⟩ := by
  intro dir exec killed whole
  refine ⟨interrupted_runs_resume _ [killed] whole (fun r hr => ?_) ?_, by decide⟩
  · obtain rfl := List.mem_singleton.mp hr
    exact ⟨rfl, .inr rfl⟩
  · exact ⟨rfl, rfl, rfl, fun _ => rfl, by decide⟩

end FinylDcp
