import HandlerBundle.Annotation.Display
import HandlerBundle.Handler.Descriptor
import HandlerBundle.Loader.Reserved
import HandlerBundle.Text.Quoted

/-!
# Generated sources

Two sources are generated for a handler. The *loader* takes the parameters of the handler and the
artifact directory, restores the captured value once, and calls it with every argument by name. The
*entry point* takes the parameters alone and calls the loader with every argument by position and
the directory last. Both state the signature of the handler in full names.

## Main definitions

* `WrittenSignature` — a signature in full names.
* `loaderSource`, `entrySource` — the two sources.
-/

namespace HandlerBundle

/-- A signature in full names. -/
structure WrittenSignature where
  parameters : List (String × String)
  result : String
  deriving DecidableEq, Repr

namespace WrittenSignature

/-- The type of a function with the signature. -/
def functionType (sig : WrittenSignature) : String :=
  "(" ++ ", ".intercalate (sig.parameters.map Prod.snd) ++ ") -> " ++ sig.result

/-- The parameters with their types as quoted texts. -/
def parameterList (parameters : List (String × String)) : String :=
  ", ".intercalate (parameters.map fun p => p.1 ++ ": " ++ quoted p.2)

end WrittenSignature

namespace Descriptor

/-- The signature of a handler in full names. -/
def written (handler : Descriptor) : WrittenSignature where
  parameters := handler.parameters.map fun p => (p.name, p.annotation.fullName)
  result := handler.result.fullName

/-- The module name of the loader of a handler. -/
def loaderName (handler : Descriptor) : String :=
  handler.name ++ "_loader"

/-- The name of the loader's function. -/
def loaderFunction (handler : Descriptor) : String :=
  handler.name ++ "_execute"

end Descriptor

/-- The parameter that takes the artifact directory, with its type. -/
def directoryEntry : String × String :=
  (directoryParameter, ( Annotation.cls (.known .str)).fullName)

/-- Lines of a source, each with its end. -/
def sourceLines (ls : List String) : String :=
  String.join (ls.map (· ++ "\n"))

/-- The source of the loader of a handler. -/
def loaderSource (handler : Descriptor) : String :=
  let sig := handler.written
  let parameters := WrittenSignature.parameterList (sig.parameters ++ [directoryEntry])
  let arguments := ", ".intercalate (sig.parameters.map fun p => p.1 ++ "=" ++ p.1)
  sourceLines
    ["\"\"\"Generated loader for " ++ handler.qualifiedName ++ ". Do not edit.\"\"\"",
      "",
      "import threading as __funcpack_threading",
      "",
      "import funcpack_rehydrate as __funcpack_runtime",
      "",
      "__funcpack_function_type = " ++ quoted sig.functionType,
      "",
      "__funcpack_lock = __funcpack_threading.Lock()",
      "__funcpack_cached = None",
      "",
      "",
      "def " ++ handler.loaderFunction ++ "(" ++ parameters ++ ") -> " ++ quoted sig.result ++ ":",
      "    global __funcpack_cached",
      "    __funcpack_target = __funcpack_cached",
      "    if __funcpack_target is None:",
      "        with __funcpack_lock:",
      "            if __funcpack_cached is None:",
      "                __funcpack_cached = __funcpack_runtime.rehydrate(" ++ directoryParameter ++
        ", __funcpack_function_type)",
      "            __funcpack_target = __funcpack_cached",
      "    return __funcpack_target(" ++ arguments ++ ")"]

/-- The source of the entry point of a handler. -/
def entrySource (handler : Descriptor) : String :=
  let sig := handler.written
  let parameters := WrittenSignature.parameterList sig.parameters
  let arguments := ", ".intercalate (sig.parameters.map Prod.fst ++ [directoryParameter])
  sourceLines
    ["\"\"\"Generated entry point for " ++ handler.qualifiedName ++ ". Do not edit.\"\"\"",
      "",
      "import importlib.util as __funcpack_importlib_util",
      "import os as __funcpack_os",
      "import sys as __funcpack_sys",
      "",
      "__dir = __funcpack_os.path.dirname(__funcpack_os.path.abspath(__file__))",
      "if __dir not in __funcpack_sys.path:",
      "    __funcpack_sys.path.insert(0, __dir)",
      "",
      "__funcpack_spec = __funcpack_importlib_util.spec_from_file_location(",
      "    " ++ quoted handler.loaderName ++ ", __funcpack_os.path.join(__dir, " ++
        quoted (handler.loaderName ++ ".pyc") ++ ")",
      ")",
      "__funcpack_loader = __funcpack_importlib_util.module_from_spec(__funcpack_spec)",
      "__funcpack_spec.loader.exec_module(__funcpack_loader)",
      "",
      "",
      "def main(" ++ parameters ++ ") -> " ++ quoted sig.result ++ ":",
      "    return __funcpack_loader." ++ handler.loaderFunction ++ "(" ++ arguments ++ ")"]

end HandlerBundle
