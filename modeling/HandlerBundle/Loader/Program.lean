import HandlerBundle.Loader.Language

/-!
# The generated programs

The loader and the entry point of a handler as programs.

## Main definitions

* `restoreStatement` — how the captured value is restored.
* `searchStatement` — how the artifact is put on the search path.
* `loaderRoutine`, `entryRoutine` — the functions that the programs define.
* `loaderProgram`, `entryProgram` — the programs.
-/

namespace HandlerBundle

/-- The names of the parameters of a handler. -/
def Descriptor.parameterNames (handler : Descriptor) : List String :=
  handler.parameters.map (·.name)

namespace Generated

open Expression

/-- Restores the captured value under a lock, unless that has been done in the meantime. -/
def restoreStatement : Statement :=
  .within (name "__funcpack_lock")
    [.ifThen (isNone (name "__funcpack_cached"))
      [.assign "__funcpack_cached"
        (call (member (name "__funcpack_runtime") "rehydrate")
          [name directoryParameter, name "__funcpack_function_type"] [])],
      .assign "__funcpack_target" (name "__funcpack_cached")]

/-- The function of the loader. It restores the captured value when it is called for the first time,
and calls it with every argument by name. -/
def loaderRoutine (handler : Descriptor) : Routine where
  name := handler.loaderFunction
  parameters := handler.written.parameters ++ [directoryEntry]
  result := handler.written.result
  body :=
    [.global "__funcpack_cached",
      .assign "__funcpack_target" (name "__funcpack_cached"),
      .ifThen (isNone (name "__funcpack_target")) [restoreStatement],
      .returns (call (name "__funcpack_target") [] (handler.parameterNames.map fun n => (n, n)))]

/-- The loader of a handler. -/
def loaderProgram (handler : Descriptor) : Program :=
  [.remark ("Generated loader for " ++ handler.qualifiedName ++ ". Do not edit."),
    .blank,
    .importAs "threading" "__funcpack_threading",
    .blank,
    .importAs "funcpack_rehydrate" "__funcpack_runtime",
    .blank,
    .statement (.assign "__funcpack_function_type" (text handler.written.functionType)),
    .blank,
    .statement (.assign "__funcpack_lock"
      (call (member (name "__funcpack_threading") "Lock") [] [])),
    .statement (.assign "__funcpack_cached" none),
    .blank,
    .blank,
    .define (loaderRoutine handler)]

/-- The function of the entry point. It calls the function of the loader with every argument by
position, and the directory of the artifact last. -/
def entryRoutine (handler : Descriptor) : Routine where
  name := "main"
  parameters := handler.written.parameters
  result := handler.written.result
  body :=
    [.returns (call (member (name "__funcpack_loader") handler.loaderFunction)
      (handler.parameterNames.map name ++ [name directoryParameter]) [])]

/-- Puts the directory of the artifact on the search path, unless it is there. -/
def searchStatement : Statement :=
  .ifThen (isNotIn (name "__dir") (member (name "__funcpack_sys") "path"))
    [.perform (call (member (member (name "__funcpack_sys") "path") "insert")
      [number 0, name "__dir"] [])]

/-- The entry point of a handler. -/
def entryProgram (handler : Descriptor) : Program :=
  let path := member (name "__funcpack_os") "path"
  [.remark ("Generated entry point for " ++ handler.qualifiedName ++ ". Do not edit."),
    .blank,
    .importAs "importlib.util" "__funcpack_importlib_util",
    .importAs "os" "__funcpack_os",
    .importAs "sys" "__funcpack_sys",
    .blank,
    .statement (.assign "__dir" (call (member path "dirname")
      [call (member path "abspath") [name "__file__"] []] [])),
    .statement searchStatement,
    .blank,
    .statement (.assignCall "__funcpack_spec"
      (member (name "__funcpack_importlib_util") "spec_from_file_location")
      [text handler.loaderName,
        call (member path "join") [name "__dir", text (handler.loaderName ++ ".pyc")] []]),
    .statement (.assign "__funcpack_loader"
      (call (member (name "__funcpack_importlib_util") "module_from_spec")
        [name "__funcpack_spec"] [])),
    .statement (.perform (call (member (member (name "__funcpack_spec") "loader") "exec_module")
      [name "__funcpack_loader"] [])),
    .blank,
    .blank,
    .define (entryRoutine handler)]

end Generated

end HandlerBundle
