import HandlerBundle.Closure.Standard

/-!
# Excluded modules

A module is excluded when the host has it already: when its top-level name belongs to the standard
library, or when it or one of the packages around it is on the allow-list of the host.

## Main definitions

* `Exclusion` — an allow-list, and `Exclusion.standard` the usual one.
* `Exclusion.excludes` — whether a module is excluded.
-/

namespace HandlerBundle

/-- The names that begin a list of components, from the shortest to the whole; `before` holds the
components in front, backwards. -/
def enclosingNames (before : List String) : List String → List String
  | [] => []
  | part :: rest =>
    joinComponents (part :: before).reverse :: enclosingNames (part :: before) rest

/-- The modules that a host ships besides the standard library. -/
structure Exclusion where
  entries : List String

namespace Exclusion

/-- The usual allow-list. -/
def standard : Exclusion :=
  ⟨["azure.functions", "azure_functions_worker", "pydantic", "pydantic_core",
    "typing_extensions", "annotated_types"]⟩

/-- Whether a module is excluded. The empty name always is. -/
def excludes (ex : Exclusion) (name : String) : Bool :=
  name.isEmpty || isStandardModule (topName name) ||
    (enclosingNames [] (components name)).any ex.entries.contains

end Exclusion

end HandlerBundle
