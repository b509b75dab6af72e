import LintBench.Proofs.Reconciliation.Aging
import Mathlib.Logic.Function.Basic

/-!
# The life of fixture files

Files that were read may follow further directives, be promoted, and be reconciled
with reports, in any order and any number of times, each time with other files
beside them and under other paths. Each of these calls makes the files it was given
grow and leaves the others alone. So at any time the files are coherent, and at any
later time they have aged.
-/

namespace LintBench

variable {ι : Type} [DecidableEq ι]

/-- Files that a call is given, by path: a path stands for one file, and a file has one path. -/
structure FileSelection (ι : Type) where
  /-- The files, each told apart from all others, by path. -/
  entries : Keyed ι
  /-- No path is listed twice. -/
  distinct : (Keyed.keys entries).Nodup
  /-- No file is listed twice. -/
  once : (entries.map Prod.snd).Nodup

namespace FileSelection

/-- The selected files as they are. -/
def files (selection : FileSelection ι) (state : ι → FixtureFile) : Keyed FixtureFile :=
  selection.entries.map fun (path, file) => (path, state file)

/-- All files after the selected ones have changed. -/
def put (selection : FileSelection ι) (changed : Keyed FixtureFile) (state : ι → FixtureFile)
    (file : ι) : FixtureFile :=
  match selection.entries.find? fun entry => entry.2 = file with
  | some (path, _) => (Keyed.get? changed path).getD (state file)
  | none => state file

omit [DecidableEq ι] in
/-- The selected files keep their paths. -/
theorem nodup_keys_files (selection : FileSelection ι) (state : ι → FixtureFile) :
    (Keyed.keys (selection.files state)).Nodup := by
  rw [files, Keyed.keys_map_value fun _ file => state file]
  exact selection.distinct

omit [DecidableEq ι] in
/-- The selected files are coherent if all files are. -/
theorem coherent_files {state : ι → FixtureFile} (coherent : ∀ file, (state file).Coherent)
    (selection : FileSelection ι) : ∀ entry ∈ selection.files state, entry.2.Coherent := by
  intro entry member
  obtain ⟨⟨path, file⟩, -, rfl⟩ := List.mem_map.1 member
  exact coherent file

/-- All files grow if the selected ones do. -/
theorem grows_put {state : ι → FixtureFile} (coherent : ∀ file, (state file).Coherent)
    {selection : FileSelection ι} {changed : Keyed FixtureFile}
    (grown : ∀ path file, Keyed.get? (selection.files state) path = some file →
      ∃ later, Keyed.get? changed path = some later ∧ file.Grows later) (file : ι) :
    (state file).Grows (selection.put changed state file) := by
  rw [put]
  split
  · rename_i path own found
    have same : own = file := by simpa using List.find?_some found
    subst same
    have listed : (path, state own) ∈ selection.files state :=
      List.mem_map_of_mem (List.mem_of_find?_eq_some found)
    have shown := (Keyed.get?_eq_some_iff (selection.nodup_keys_files state) path (state own)).2 listed
    obtain ⟨later, present, grows⟩ := grown path (state own) shown
    rw [present]
    exact grows
  · exact ⟨coherent file, .refl _⟩

end FileSelection

/-- What can be asked of files that were read. -/
inductive FileCall (ι : Type) where
  /-- Let a file follow a comment. -/
  | follow (file : ι) (comment : List Char)
  /-- Promote the selected files that are named after codes of issues. -/
  | promote (selection : FileSelection ι) (issues : List Issue)
  /-- Reconcile the selected files with issues. -/
  | reconcile (selection : FileSelection ι) (excluded included : List String)
    (issues : List Issue)

/-- All files after a call. -/
def FileCall.run (state : ι → FixtureFile) : FileCall ι → ι → FixtureFile
  | .follow file comment => Function.update state file ((state file).follow comment)
  | .promote selection issues =>
    selection.put (promoteFiles (selection.files state) (issueCodes issues)) state
  | .reconcile selection excluded included issues =>
    selection.put (LintBench.reconcile (selection.files state) excluded included issues).files state

/-- Every file grows in a call. -/
theorem FileCall.grows_run {state : ι → FixtureFile} (coherent : ∀ file, (state file).Coherent)
    (call : FileCall ι) (file : ι) : (state file).Grows (call.run state file) := by
  cases call with
  | follow own comment =>
    rw [run]
    by_cases same : file = own
    · subst same
      rw [Function.update_self]
      exact (coherent file).grows_follow comment
    · rw [Function.update_of_ne same]
      exact ⟨coherent file, .refl _⟩
  | promote selection issues =>
    refine FileSelection.grows_put coherent (fun path own found => ?_) file
    have listed := (Keyed.get?_eq_some_iff (selection.nodup_keys_files state) path own).1 found
    have grows := (selection.coherent_files coherent _ listed).grows_promote (issueCodes issues)
    refine ⟨_, ?_, grows⟩
    rw [promoteFiles, Keyed.get?_map_value fun _ (file : FixtureFile) =>
      file.promote (issueCodes issues), found]
    rfl
  | reconcile selection excluded included issues =>
    exact FileSelection.grows_put coherent (fun path own found =>
      grows_reconcile excluded included issues (selection.nodup_keys_files state)
        (selection.coherent_files coherent) found) file

/-- Every file grows in a run of calls. -/
theorem grows_foldl_run {state : ι → FixtureFile} (coherent : ∀ file, (state file).Coherent)
    (calls : List (FileCall ι)) (file : ι) :
    (state file).Grows (calls.foldl FileCall.run state file) := by
  induction calls generalizing state with
  | nil => exact ⟨coherent file, .refl _⟩
  | cons call rest ih =>
    have first := call.grows_run coherent
    exact (first file).trans (ih fun file => (first file).coherent)

/-- The life of files that were read, whatever calls are made on them: after the earlier calls each
of them is coherent, and after the later ones it has aged since then. -/
theorem life_of_files (files : ι → FixtureFile)
    (read : ∀ file, ∃ name content markers,
      FixtureFile.ofSource name content markers = .ok (files file))
    (earlier later : List (FileCall ι)) (file : ι) :
    let now := earlier.foldl FileCall.run files
    let afterwards := later.foldl FileCall.run now
    (now file).Coherent ∧ (now file).Ages (afterwards file) := by
  intro now afterwards
  have start : ∀ file, (files file).Coherent := by
    intro file
    obtain ⟨name, content, markers, same⟩ := read file
    exact FixtureFile.coherent_of_ofSource same
  have coherent : ∀ file, (now file).Coherent :=
    fun file => (grows_foldl_run start earlier file).coherent
  exact ⟨coherent file, (grows_foldl_run coherent later file).ages⟩

/-- A selection of a single file. -/
def soleFile : FileSelection Unit := ⟨[("/a", ())], by decide, by decide⟩

/-- A report of a code with one of its columns limits the file that is named after the code. It is
coherent then, and a directive does not limit it anew. -/
theorem life_of_files_named_after_code :
    let issue : Issue :=
      { code := "A-1", position := { start := { line := 1, column := 10 }, resolved := "/a" } }
    let now := [FileCall.reconcile soleFile [] [] [issue]].foldl FileCall.run fun _ => namedAfterCode
    let afterwards := [FileCall.follow () " scatr-ignore: B-1".toList].foldl FileCall.run now
    (now ()).mode = .only ["A-1"] ∧ (now ()).Coherent ∧ (now ()).Ages (afterwards ()) :=
  ⟨rfl, life_of_files (fun _ => namedAfterCode)
    (fun _ => ⟨"A-1.py", "f() # [A-1]: 10, 12; [B-1]", ["#"], by decide +kernel⟩)
    [.reconcile soleFile [] [] [_]] [.follow () " scatr-ignore: B-1".toList] ()⟩

end LintBench
