import FinylDcp.Listings
import FinylDcp.Literals
import FinylDcp.Runs
import FinylDcp.Worklists
import Mathlib.Data.Prod.Lex
import Mathlib.Data.String.Basic

/-!
# The migration runner

The numbered SQL files are applied in the order of their numbers, each in a transaction of its
own that also records its name, so that a later run passes it over. Files can be marked as
applied without being executed, and a dry run only lists. One runner works at a time.
-/
namespace FinylDcp
open Listings Runs Text

/-- `int` on a text: blanks around it do not count, and single underscores may stand between
digits. -/
def readInt (value : String) : Option ℤ :=
  let digits (cs : List Char) : Option ℕ :=
    if (cs.splitOn '_').all (fun group => group ≠ [] && group.all isDecimal) then
      some (digitsValue (cs.filter (· ≠ '_')))
    else none
  match (strip value).toList with
  | '-' :: cs => (digits cs).map (fun n => -(n : ℤ))
  | '+' :: cs => (digits cs).map (fun n => (n : ℤ))
  | cs => (digits cs).map (fun n => (n : ℤ))

/-- `_parse_baseline_through`; `none` where `int` raises. -/
def parseBaselineThrough : List String → Option (Option ℤ)
  | [] => some none
  | a :: rest =>
    if a = "--baseline-through" then
      match rest with
      | [] => some none
      | value :: _ => (readInt value).map some
    else if "--baseline-through=".toList.isPrefixOf a.toList then
      (readInt (String.ofList (a.toList.drop "--baseline-through=".length))).map some
    else parseBaselineThrough rest

/-- A file of the directory; one that cannot be read has no text. -/
structure MigrationFile where
  name : String
  sql : Option String
  deriving DecidableEq, Repr

/-- The leading number of a file name; files without one come last. -/
def fileNumber (name : String) : ℕ :=
  match name.toList.takeWhile isDecimal with
  | [] => 1000000
  | digits => digitsValue digits

/-- `_numeric_key`: the leading number, then the name. -/
def MigrationFile.numericKey (file : MigrationFile) : ℕ ×ₗ String :=
  toLex (fileNumber file.name, file.name)

/-- The SQL files of a directory, in any order; no two have the same name. -/
structure MigrationsDir where
  files : List MigrationFile
  nodup : (files.map MigrationFile.name).Nodup

/-- The files in the order of their keys. -/
def MigrationsDir.sorted (dir : MigrationsDir) : List MigrationFile :=
  dir.files.insertionSort (fun a b => a.numericKey ≤ b.numericKey)

/-- The database: everything the files change, and the rows of `schema_migrations` once the
table exists. -/
structure SchemaDb (σ : Type*) where
  schema : σ
  recorded : Option (List String)
  deriving DecidableEq

/-- The line printed for a file. -/
inductive FileResult
  | skip | baseline | baselineDry | pending | applied | error
  deriving DecidableEq, Repr

/-- How a run ends. -/
inductive RunExit
  | done (dryRun : Bool) (applied skipped baselined : ℕ)
  | failed
  | badBaseline
  | noFiles
  | noConnection
  | killed
  deriving DecidableEq, Repr

/-- The status a run exits with; a killed one has none. -/
def RunExit.status : RunExit → Option ℕ
  | done .. => some 0
  | killed => none
  | _ => some 1

/-- A run: the directory and the arguments it finds, whether it can connect, the files at which
the database fails, and how many files it gets to before it is killed. -/
structure MigrationRun where
  dir : MigrationsDir
  argv : List String
  connects : Bool
  outage : String → Bool
  reach : ℕ

def MigrationRun.dryRun (r : MigrationRun) : Bool := r.argv.contains "--dry-run"

/-- What a run printed and how it ended. -/
structure RunReport where
  lines : List (FileResult × MigrationFile)
  exit : RunExit
  deriving DecidableEq, Repr

section Runner

variable {σ : Type*} (exec : String → σ → Except String σ)

/-- `ON CONFLICT DO NOTHING`. -/
def recordName (recorded : List String) (name : String) : List String :=
  if name ∈ recorded then recorded else recorded ++ [name]

/-- The transaction of one file: what it prints, and the schema and records it commits. A file
fails as a whole, whether it cannot be read, its SQL raises or the database is gone. -/
def runFile (r : MigrationRun) (baseline : Option ℤ) (already : List String)
    (db : σ × List String) (file : MigrationFile) : FileResult × (σ × List String) :=
  if file.name ∈ already then (.skip, db)
  else if baseline.any (fun n => (fileNumber file.name : ℤ) ≤ n) then
    if r.dryRun then (.baselineDry, db)
    else if r.outage file.name then (.error, db)
    else (.baseline, (db.1, recordName db.2 file.name))
  else if r.dryRun then (.pending, db)
  else
    match file.sql with
    | none => (.error, db)
    | some sql =>
      if r.outage file.name then (.error, db)
      else
        match exec sql db.1 with
        | .error _ => (.error, db)
        | .ok schema => (.applied, (schema, recordName db.2 file.name))

/-- The loop over the files; it ends with the first that fails. -/
def runFiles (r : MigrationRun) (baseline : Option ℤ) (already : List String) :
    σ × List String → List MigrationFile → List (FileResult × MigrationFile) × (σ × List String)
  | db, [] => ([], db)
  | db, file :: rest =>
    let out := runFile exec r baseline already db file
    if out.1 = .error then ([(.error, file)], out.2)
    else
      let more := runFiles r baseline already out.2 rest
      ((out.1, file) :: more.1, more.2)

/-- How the loop ended. -/
def RunExit.ofLines (dryRun : Bool) (files : ℕ) (lines : List (FileResult × MigrationFile)) :
    RunExit :=
  let count (results : List FileResult) := lines.countP (fun line => line.1 ∈ results)
  if lines.any (fun line => line.1 = .error) then .failed
  else if lines.length < files then .killed
  else .done dryRun (count [.applied, .pending]) (count [.skip]) (count [.baseline, .baselineDry])

/-- `main`. The names that are recorded are read once, before the loop. -/
def runMigrations (db : SchemaDb σ) (r : MigrationRun) : RunReport × SchemaDb σ :=
  match parseBaselineThrough r.argv with
  | none => (⟨[], .badBaseline⟩, db)
  | some baseline =>
    if r.dir.files = [] then (⟨[], .noFiles⟩, db)
    else if !r.connects then (⟨[], .noConnection⟩, db)
    else
      let already := db.recorded.getD []
      let out := runFiles exec r baseline already (db.schema, already) (r.dir.sorted.take r.reach)
      (⟨out.1, .ofLines r.dryRun r.dir.files.length out.1⟩, ⟨out.2.1, some out.2.2⟩)

end Runner

end FinylDcp
