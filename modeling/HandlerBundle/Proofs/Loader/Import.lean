import HandlerBundle.Proofs.Loader.Interpreter
import HandlerBundle.Proofs.Loader.Program

/-!
# Importing the entry point

The import of the entry point puts the directory of the artifact on the search path, makes a module
from the loader, and has the loader run. None of this depends on the parameters of the handler.

## Main definitions

* `importCalls` — the calls of imported functions, in their order.
* `loadedMachine` — what an import comes to.

## Main results

* `loadEntry_run` — an import comes to this machine if none of its calls raises an exception.
-/

namespace HandlerBundle.Generated

open Run

/-! ### What is imported -/

/-- The module that paths are handled with. -/
def pathModule : Value := .member (.imported "os") "path"

/-- The path of a file from the root on. -/
def absolutePath (file : String) : Value :=
  .returned (.member pathModule "abspath") [.text file] []

/-- The directory of the artifact, which is that of the entry point. -/
def artifactDirectory (file : String) : Value :=
  .returned (.member pathModule "dirname") [absolutePath file] []

/-- Where modules are searched for. -/
def searchPath : Value := .member (.imported "sys") "path"

/-- Puts the directory of the artifact on the search path. -/
def pathInsertion (file : String) : Value :=
  .returned (.member searchPath "insert") [.number 0, artifactDirectory file] []

/-- The file of the loader. -/
def loaderFile (handler : Descriptor) (file : String) : Value :=
  .returned (.member pathModule "join")
    [artifactDirectory file, .text (handler.loaderName ++ ".pyc")] []

/-- What the module of the loader is made from. -/
def loaderSpecification (handler : Descriptor) (file : String) : Value :=
  .returned (.member (.imported "importlib.util") "spec_from_file_location")
    [.text handler.loaderName, loaderFile handler file] []

/-- The module of the loader. -/
def loaderModule (handler : Descriptor) (file : String) : Value :=
  .returned moduleMaker [loaderSpecification handler file] []

/-- Has the loader run. -/
def loaderExecution (handler : Descriptor) (file : String) : Value :=
  .returned (.member (.member (loaderSpecification handler file) "loader") "exec_module")
    [loaderModule handler file] []

/-- The lock of the loader. -/
def loaderLock : Value := .returned (.member (.imported "threading") "Lock") [] []

/-- The calls of imported functions that an import makes. -/
def importCalls (library : Library) (handler : Descriptor) (file : String) : List Value :=
  [absolutePath file, artifactDirectory file] ++
    (if library.contains searchPath (artifactDirectory file) then [] else [pathInsertion file]) ++
    [loaderFile handler file, loaderSpecification handler file, loaderModule handler file,
      loaderExecution handler file, loaderLock]

/-- The names of the entry point after it was run, the last first. -/
def entryNames (handler : Descriptor) (file : String) : NameTable :=
  [("main", .function .entry (entryRoutine handler)),
    ("__funcpack_loader", loaderModule handler file),
    ("__funcpack_spec", loaderSpecification handler file),
    ("__dir", artifactDirectory file),
    ("__funcpack_sys", .imported "sys"),
    ("__funcpack_os", .imported "os"),
    ("__funcpack_importlib_util", .imported "importlib.util"),
    ("__file__", .text file)]

/-- The names of the loader after it was run, the last first. -/
def loaderNames (handler : Descriptor) : NameTable :=
  [(composedText handler.loaderFunction, .function .loader (loaderRoutine handler)),
    ("__funcpack_cached", .none),
    ("__funcpack_lock", loaderLock),
    ("__funcpack_function_type", .text handler.written.functionType),
    ("__funcpack_runtime", .imported "funcpack_rehydrate"),
    ("__funcpack_threading", .imported "threading")]

/-- What an import comes to. -/
def loadedMachine (library : Library) (handler : Descriptor) (file : String) : Machine where
  entry := entryNames handler file
  loader := loaderNames handler
  locals := []
  calls := importCalls library handler file

/-- None of the calls that an import makes raises an exception. -/
def Library.Imports (library : Library) (handler : Descriptor) (file : String) : Prop :=
  ∀ before, ∀ call ∈ importCalls library handler file, library.raises before call = false

variable {library : Library} {handler : Descriptor} {file : String} {caller : Caller} {m : Machine}

theorem Library.call_run_of_not_raises {f : Value} {vs : List Value} {ks : List (String × Value)}
    (h : library.raises m.calls (.returned f vs ks) = false) :
    (library.call f vs ks).run.run m =
      (.ok (.returned f vs ks), { m with calls := m.calls ++ [.returned f vs ks] }) := by
  rw [Library.call_run, Library.outcome, h]
  rfl

/-! ### The loader -/

theorem loaderProgram_exec_run (library : Library) (handler : Descriptor)
    (hlock : ∀ m : Machine, (caller (.member (.imported "threading") "Lock") [] []).run.run m =
      (.ok loaderLock, { m with calls := m.calls ++ [loaderLock] }))
    (hm : m.loader = []) :
    (Program.exec library caller .loader (loaderProgram handler)).run.run m =
      (.ok ⟨⟩, { m with
        loader := loaderNames handler
        calls := m.calls ++ [loaderLock] }) := by
  obtain ⟨entry, loader, locals, calls⟩ := m
  obtain rfl : loader = [] := hm
  simp (disch := decide) only [loaderProgram, Program.exec, Item.exec, Statement.exec,
    Expression.eval, Expression.evalAll, Frame.read, Frame.write, Frame.readKeywords, memberOf,
    Machine.bindGlobal, Machine.globals, NameTable.bind, NameTable.find?, composedText_of_ascii,
    List.contains_nil, List.mapM_nil, List.lookup_cons, String.reduceBEq, beq_self_eq_true,
    if_false, Bool.false_eq_true, run_bind, run_pure, run_get, run_modify, hlock]
  rfl

theorem callValue_member_imported (library : Library) (loader : Program) (depth : ℕ)
    (path n : String) :
    callValue library loader depth (.member (.imported path) n) =
      library.call (.member (.imported path) n) := by
  cases depth <;> rfl

theorem callValue_member_path (library : Library) (loader : Program) (depth : ℕ)
    (path n : String) :
    callValue library loader depth (.member (.member (.imported path) "path") n) =
      library.call (.member (.member (.imported path) "path") n) := by
  cases depth <;> rfl

/-! ### The entry point -/

theorem memberOf_imported (path n : String) :
    memberOf (.imported path) n = pure (.member (.imported path) (composedText n)) :=
  rfl

theorem memberOf_member (v : Value) (k n : String) :
    memberOf (.member v k) n = pure (.member (.member v k) (composedText n)) :=
  rfl

theorem memberOf_specification (vs : List Value) (ks : List (String × Value)) (n : String) :
    let maker := (Value.imported "importlib.util").member "spec_from_file_location"
    memberOf (.returned maker vs ks) n =
      pure (.member (.returned maker vs ks) (composedText n)) :=
  rfl

/-- What a module is run with runs the loader. -/
theorem callValue_execution_run (himports : library.Imports handler file) (depth : ℕ)
    (hm : m.loader = []) :
    (callValue library (loaderProgram handler) (depth + 1)
      (.member (.member (loaderSpecification handler file) "loader") "exec_module")
      [loaderModule handler file] []).run.run m =
        (.ok .none, { m with
          loader := loaderNames handler
          calls := m.calls ++ [loaderExecution handler file] ++ [loaderLock] }) := by
  have hmem : loaderLock ∈ importCalls library handler file ∧
      loaderExecution handler file ∈ importCalls library handler file := by
    simp [importCalls]
  have hlock (m : Machine) : (callValue library (loaderProgram handler) depth
      (.member (.imported "threading") "Lock") [] []).run.run m =
        (.ok loaderLock, { m with calls := m.calls ++ [loaderLock] }) := by
    rw [callValue_member_imported]
    exact Library.call_run_of_not_raises (himports _ _ hmem.1)
  have hexecution := Library.call_run_of_not_raises (m := m) (himports m.calls _ hmem.2)
  have hloader := loaderProgram_exec_run library handler hlock
    (m := { m with calls := m.calls ++ [loaderExecution handler file] }) hm
  rw [callValue, run_bind_of_ok hexecution]
  exact run_bind_of_ok hloader

/-- The directory of the artifact is put on the search path once. -/
theorem searchStatement_run
    (hinsert : library.contains searchPath (artifactDirectory file) = false →
      ∀ m : Machine, (caller (.member searchPath "insert")
        [.number 0, artifactDirectory file] []).run.run m =
          (.ok (pathInsertion file), { m with calls := m.calls ++ [pathInsertion file] }))
    (hdirectory : m.entry.find? "__dir" = some (artifactDirectory file))
    (hsystem : m.entry.find? "__funcpack_sys" = some (.imported "sys")) :
    (searchStatement.exec library ⟨.entry, []⟩ caller).run.run m =
      (.ok none, { m with calls := m.calls ++
        if library.contains searchPath (artifactDirectory file) then []
        else [pathInsertion file] }) := by
  have hpath : composedText "path" = "path" := composedText_of_ascii (by decide)
  have hcall : composedText "insert" = "insert" := composedText_of_ascii (by decide)
  have hdirectory : (Frame.read ⟨.entry, []⟩ "__dir").run.run m =
      (.ok (artifactDirectory file), m) := Frame.read_run_of_global List.not_mem_nil hdirectory
  have hsystem : (Frame.read ⟨.entry, []⟩ "__funcpack_sys").run.run m =
      (.ok (.imported "sys"), m) := Frame.read_run_of_global List.not_mem_nil hsystem
  rw [searchPath] at hinsert ⊢
  cases hcontains :
    library.contains (.member (.imported "sys") "path") (artifactDirectory file) with
  | true =>
    simp only [searchStatement, Statement.exec, Expression.eval, memberOf_imported, run_bind,
      run_pure, hpath, hdirectory, hsystem, hcontains, Bool.not_true, if_true, List.append_nil]
  | false =>
    simp only [searchStatement, Statement.exec, Statement.execAll, Expression.eval,
      Expression.evalAll, Frame.readKeywords, List.mapM_nil, memberOf_imported, memberOf_member,
      run_bind, run_pure, hpath, hcall, hdirectory, hsystem, hinsert hcontains, hcontains,
      Bool.not_false]
    rfl

/-- **The import of the entry point succeeds** if the imported functions that it calls do. -/
theorem loadEntry_run (himports : library.Imports handler file) (depth : ℕ) :
    (loadEntry library (loaderProgram handler) (entryProgram handler) (depth + 1)).run.run
      (Machine.initial file) = (.ok ⟨⟩, loadedMachine library handler file) := by
  have hcall {f : Value} {vs : List Value} {ks : List (String × Value)} {caller : Caller}
      (hf : caller f = library.call f) (hmem : .returned f vs ks ∈ importCalls library handler file)
      (m : Machine) : (caller f vs ks).run.run m =
        (.ok (.returned f vs ks), { m with calls := m.calls ++ [.returned f vs ks] }) := by
    rw [hf]
    exact Library.call_run_of_not_raises (himports _ _ hmem)
  have hmember (path n : String) :=
    callValue_member_imported library (loaderProgram handler) (depth + 1) path n
  have hpath (path n : String) :=
    callValue_member_path library (loaderProgram handler) (depth + 1) path n
  have habsolute := hcall (hpath "os" "abspath")
    (show absolutePath file ∈ _ by simp [importCalls])
  have hdirectory := hcall (hpath "os" "dirname")
    (show artifactDirectory file ∈ _ by simp [importCalls])
  have hinsert (hcontains : library.contains searchPath (artifactDirectory file) = false) :=
    hcall (hpath "sys" "insert") (show pathInsertion file ∈ _ by simp [importCalls, hcontains])
  have hjoin := hcall (hpath "os" "join")
    (show loaderFile handler file ∈ _ by simp [importCalls])
  have hspecification := hcall (hmember "importlib.util" "spec_from_file_location")
    (show loaderSpecification handler file ∈ _ by simp [importCalls])
  have hmodule := hcall (hmember "importlib.util" "module_from_spec")
    (show loaderModule handler file ∈ _ by simp [importCalls])
  have hexecution (m : Machine) (hm : m.loader = []) :=
    callValue_execution_run himports depth hm
  unfold loadEntry
  generalize callValue library (loaderProgram handler) (depth + 1) = caller at *
  have hmain : composedText (entryRoutine handler).name = "main" :=
    composedText_of_ascii (s := "main") (by decide)
  have hsearch := searchStatement_run
    (m := ⟨(entryNames handler file).drop 3, [], [],
      [absolutePath file, artifactDirectory file]⟩) hinsert rfl rfl
  simp only [entryNames, List.drop_succ_cons, List.drop_zero] at hsearch
  simp only [absolutePath, artifactDirectory, loaderFile, loaderSpecification, loaderModule,
    pathModule, moduleMaker] at habsolute hdirectory hjoin hspecification hmodule hexecution hsearch
  simp (disch := first | decide | rfl) only [entryProgram, Program.exec, Item.exec, Statement.exec,
    Expression.eval, Expression.evalAll, Frame.read, Frame.write, Frame.readKeywords,
    memberOf_imported, memberOf_member, memberOf_specification, Machine.bindGlobal,
    Machine.globals, NameTable.bind, NameTable.find?, composedText_of_ascii, List.contains_nil,
    List.mapM_nil, List.lookup_cons, String.reduceBEq, beq_self_eq_true, if_false,
    Bool.false_eq_true, run_bind, run_pure, run_get, run_modify, Machine.initial, habsolute,
    hdirectory, hjoin, hspecification, hmodule, hexecution, hsearch, hmain, List.nil_append,
    List.cons_append, List.append_assoc]
  rfl

end HandlerBundle.Generated
