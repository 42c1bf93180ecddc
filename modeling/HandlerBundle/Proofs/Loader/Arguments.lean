import HandlerBundle.Proofs.Loader.Call

/-!
# Arguments reach their parameters

The two programs of a handler line up: the entry point calls the loader with its parameters in the
order in which the loader takes them, and the loader gives each of them on under its own name.
Neither refers to a name that a parameter could have taken from it. So however often the entry point
is called, each call comes to one of the captured value that gives every parameter its argument, and
the captured value has been restored from the directory of the artifact.

All of this holds for handlers whose names a compiler reads apart. That a handler is accepted does
not make them so: names are compared as they are spelled, and a compiler reads them in composed
form.

## Main definitions

* `LinesUp` — the programs of a handler line up.
* `callAll` — the outcomes of calls one after the other.

## Main results

* `nodup_of_loaderProgram_compiles` — the names of the parameters differ in composed form, and from
  that of the directory, if a compiler takes the loader.
* `arguments_reach_parameters` — the programs of an accepted handler line up, and calls of the entry
  point are calls of the captured value.
-/

namespace HandlerBundle.Generated

open Run

variable {library : Library} {handler : Descriptor} {file : String}

/-! ### The two programs -/

/-- The two programs of a handler line up. The entry point takes the parameters, and the loader
takes them and the directory of the artifact. The entry point calls the loader with a variable for
each of the loader's parameters, in their order. The loader calls the captured value with each
parameter under its own name, once, and without the directory. Besides the parameters, their
functions refer to names that none of the parameters has. -/
structure LinesUp (handler : Descriptor) : Prop where
  entry_parameters : (entryRoutine handler).parameters.map Prod.fst = handler.parameterNames
  loader_parameters : (loaderRoutine handler).parameters.map Prod.fst =
    handler.parameterNames ++ [directoryParameter]
  entry_call : (entryRoutine handler).finalCall? =
    some (.member (.name "__funcpack_loader") (loaderRoutine handler).name,
      (loaderRoutine handler).parameters.map fun p => .name p.1, [])
  loader_call : (loaderRoutine handler).finalCall? =
    some (.name "__funcpack_target", [], handler.parameterNames.map fun n => (n, n))
  once : handler.parameterNames.Nodup
  directory : directoryParameter ∉ handler.parameterNames
  entry_names : ∀ n, n ∈ Statement.namesAll (entryRoutine handler).body ↔
    n ∈ ownNames entryRoutine handler ∨ n ∈ handler.parameterNames
  loader_names : ∀ n, n ∈ Statement.namesAll (loaderRoutine handler).body ↔
    n ∈ ownNames loaderRoutine handler ∨ n ∈ handler.parameterNames
  apart : ∀ p ∈ handler.parameterNames,
    ∀ n ∈ ownNames entryRoutine handler ++ ownNames loaderRoutine handler,
      p ≠ n ∧ composedText p ≠ composedText n

/-- The names that the functions refer to themselves are reserved, and in composed form. -/
theorem isReservedName_of_mem_ownNames {n : String}
    (hn : n ∈ ownNames entryRoutine handler ++ ownNames loaderRoutine handler) :
    isReservedName n = true ∧ composedText n = n := by
  rw [ownNames_entryRoutine, ownNames_loaderRoutine] at hn
  revert n
  decide

/-- The programs of an accepted handler line up. -/
theorem linesUp {attributes : List Attribute} (haccepted : (resolve handler attributes).errors = [])
    (hreadable : HasReadableNames handler) : LinesUp handler := by
  obtain ⟨⟨-, hreserved⟩, -⟩ := (errors_resolve_eq_nil_iff handler attributes).mp haccepted
  have hunreserved : ∀ p ∈ handler.parameterNames, isReservedName p = false :=
    List.forall_mem_map.mpr hreserved
  exact {
    entry_parameters := fst_written_parameters handler
    loader_parameters := fst_loaderRoutine_parameters handler
    entry_call := by
      have hnames : (loaderRoutine handler).parameters.map (fun p => Expression.name p.1) =
          handler.parameterNames.map .name ++ [.name directoryParameter] := by
        rw [← List.map_singleton, ← List.map_append, ← fst_loaderRoutine_parameters, List.map_map]
        rfl
      rw [hnames]
      rfl
    loader_call := rfl
    once := List.Nodup.of_map _ hreadable.distinct
    directory := by
      intro hmem
      have hfalse := hunreserved _ hmem
      revert hfalse
      decide
    entry_names := by
      intro n
      rw [namesAll_entryRoutine, ownNames_entryRoutine]
      simp only [List.mem_cons, List.mem_append, List.not_mem_nil, or_false]
      tauto
    loader_names := by
      intro n
      rw [namesAll_loaderRoutine, List.mem_append]
    apart := by
      intro p hp n hn
      obtain ⟨hown, hcomposed⟩ := isReservedName_of_mem_ownNames hn
      constructor
      · rintro rfl
        rw [hunreserved p hp] at hown
        exact Bool.false_ne_true hown
      · intro heq
        rw [hcomposed] at heq
        rw [← heq, hreadable.unreserved p hp] at hown
        exact Bool.false_ne_true hown }

/-- The names of the parameters differ in composed form, and from that of the directory, if a
compiler takes the loader. -/
theorem nodup_of_loaderProgram_compiles (h : (loaderProgram handler).compiles = true) :
    (handler.parameterNames.map composedText ++ [directoryParameter]).Nodup := by
  have hroutine : (loaderRoutine handler).compiles = true :=
    List.all_eq_true.mp h (.define (loaderRoutine handler)) (by simp [loaderProgram])
  rw [Routine.compiles, Bool.and_eq_true, Bool.and_eq_true, decide_eq_true_iff] at hroutine
  rw [← formals_loaderRoutine]
  exact hroutine.1.2

/-! ### Calls -/

/-- The outcomes of calls one after the other, with what they leave. -/
def callAll {σ : Type} (call : σ → List Value → Except RunError Value × σ) :
    σ → List (List Value) → List (Except RunError Value) × σ
  | state, [] => ([], state)
  | state, arguments :: rest =>
    let next := call state arguments
    let last := callAll call next.2 rest
    (next.1 :: last.1, last.2)

/-- Calls go on in step with others that each of them is in step with. -/
theorem callAll_map {σ τ : Type} (call : σ → List Value → Except RunError Value × σ)
    (call' : τ → List Value → Except RunError Value × τ) (f : σ → τ)
    (h : ∀ state arguments,
      call' (f state) arguments = ((call state arguments).1, f (call state arguments).2))
    (state : σ) (argumentLists : List (List Value)) :
    callAll call' (f state) argumentLists =
      ((callAll call state argumentLists).1, f (callAll call state argumentLists).2) := by
  induction argumentLists generalizing state with
  | nil => rfl
  | cons arguments rest ih => rw [callAll, h, ih, callAll]

/-- **Arguments reach their parameters.** For an accepted handler whose names a compiler reads
apart, the two sources are programs that a compiler takes, and these line up. Once the entry point
has been imported, any number of calls of it with any arguments come to what they come to in a
session: a call with the right number of arguments restores the captured value from the directory of
the artifact, unless that has been done, and then calls it with every argument under the name of its
parameter. -/
theorem arguments_reach_parameters {attributes : List Attribute}
    (haccepted : (resolve handler attributes).errors = []) (hreadable : HasReadableNames handler)
    (himports : library.Imports handler file) (depth : ℕ) :
    (loaderSource handler = (loaderProgram handler).source ∧
      (loaderProgram handler).compiles = true ∧
      (loaderProgram handler).function? = some (loaderRoutine handler)) ∧
    (entrySource handler = (entryProgram handler).source ∧
      (entryProgram handler).compiles = true ∧
      (entryProgram handler).function? = some (entryRoutine handler)) ∧
    LinesUp handler ∧
    ∃ m, (loadEntry library (loaderProgram handler) (entryProgram handler) (depth + 2)).run.run
        (Machine.initial file) = (.ok ⟨⟩, m) ∧
      ∀ argumentLists,
        let calls := callAll (fun m arguments => (callEntry library (loaderProgram handler)
          (depth + 2) "main" arguments).run.run m) m argumentLists
        let session := callAll (Session.call library handler file) ⟨false, m.calls⟩ argumentLists
        calls.1 = session.1 ∧ calls.2.calls = session.2.calls := by
  refine ⟨⟨loaderSource_eq handler, loaderProgram_compiles hreadable, rfl⟩,
    ⟨entrySource_eq handler, entryProgram_compiles hreadable, rfl⟩,
    linesUp haccepted hreadable, _, loadEntry_run himports (depth + 1), fun argumentLists => ?_⟩
  have hcalls := callAll_map (Session.call library handler file)
    (fun m arguments => (callEntry library (loaderProgram handler) (depth + 2) "main"
      arguments).run.run m)
    (fun session => session.machine handler file []) (callEntry_run hreadable depth)
    ⟨false, importCalls library handler file⟩ argumentLists
  exact ⟨congrArg Prod.fst hcalls, congrArg (fun r => r.2.calls) hcalls⟩

/-- A handler with a timer and a log. -/
def loggingHandler : Descriptor where
  scope := "pkg.mod"
  name := "fa"
  parameters := [⟨"timer", .cls (.known .timerInfo)⟩, ⟨"log", .cls (.known .logger)⟩]
  result := Annotation.noneType
  shapeErrors := []

/-- Imported functions that never raise an exception. -/
def quietLibrary : Library where
  contains _ _ := false
  raises _ _ := false

/-- The handler is called with a tick and a log, and then without arguments. -/
theorem arguments_reach_parameters_loggingHandler :
    (resolve loggingHandler [fiveMinuteTrigger]).errors = [] ∧ HasReadableNames loggingHandler ∧
      quietLibrary.Imports loggingHandler "/srv/fa/run.py" ∧
      ∃ m, (loadEntry quietLibrary (loaderProgram loggingHandler) (entryProgram loggingHandler)
          2).run.run (Machine.initial "/srv/fa/run.py") = (.ok ⟨⟩, m) ∧
        (callAll (fun m arguments => (callEntry quietLibrary (loaderProgram loggingHandler) 2 "main"
            arguments).run.run m) m [[.text "tick", .text "lines"], []]).1 =
          [.ok (.returned (restoredTarget loggingHandler "/srv/fa/run.py") []
              [("timer", .text "tick"), ("log", .text "lines")]),
            .error (.arguments "main")] := by
  have haccepted : (resolve loggingHandler [fiveMinuteTrigger]).errors = [] := by decide +kernel
  have hreadable : HasReadableNames loggingHandler :=
    { scope := by decide
      name := by decide
      ending := by decide
      assignable := by decide
      distinct := by decide
      unreserved := by decide }
  have himports : quietLibrary.Imports loggingHandler "/srv/fa/run.py" := fun _ _ _ => rfl
  obtain ⟨-, -, -, m, hload, hcalls⟩ :=
    arguments_reach_parameters haccepted hreadable himports 0
  refine ⟨haccepted, hreadable, himports, m, hload, ?_⟩
  rw [(hcalls _).1]
  rfl

end HandlerBundle.Generated
