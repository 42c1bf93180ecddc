import HandlerBundle.Package.Settings

/-!
# Where entries come from

Every entry of the journal names the service, the environment and the version of the program that
writes it. What is not given is read from variables, and what no variable says has a default. The
entries of one build carry its identifier.

## Main definitions

* `Origin`, `Origin.read` — what an entry says of the program.
* `buildIdentifier` — the identifier of a build.
-/

namespace HandlerBundle

/-- The greatest length of a name in an entry. -/
def nameLimit : Nat := 128

/-- A value that is given and not empty. -/
def nonEmpty? (s : Option String) : Option String :=
  s.filter fun s => !s.isEmpty

/-- The program that writes entries. -/
structure Origin where
  service : String
  environment : String
  version : String
  deriving DecidableEq, Repr

namespace Origin

/-- The value of the first variable of `names` that is not blank, on one line. -/
def ofVariables (vars : Variables) (names : List String) (default : String) : String :=
  let values := names.filterMap fun name =>
    (vars.lookup name).map fun value => oneLine value nameLimit
  (values.find? fun value => !value.isEmpty).getD default

/-- The program that is given or, where nothing is given, that variables tell of. -/
def read (vars : Variables) (service environment version : Option String) : Origin where
  service :=
    (nonEmpty? service).getD (ofVariables vars ["SERVICE_NAME", "SERVICE"] "funcpack")
  environment :=
    (nonEmpty? environment).getD (ofVariables vars ["ENVIRONMENT", "ENV"] "unknown")
  version :=
    (nonEmpty? version).getD (ofVariables vars ["FUNCPACK_VERSION", "VERSION"] "unknown")

end Origin

/-- The identifier of a build: a given one on one line, or `fresh` if that is empty. -/
def buildIdentifier (given : Option String) (fresh : String) : String :=
  let line := oneLine (given.getD "") nameLimit
  if line.isEmpty then fresh else line

end HandlerBundle
