/-!
# Reserved names

The generated sources define names of their own. They all begin with one marker, apart from the
parameter that takes the artifact directory, and handlers may not use them for parameters.
-/

namespace HandlerBundle

/-- The parameter of the generated loader that takes the artifact directory. -/
def directoryParameter : String := "__dir"

/-- What the names of the generated sources begin with. -/
def reservedMarker : String := "__funcpack"

/-- Whether the generated sources may use a name. -/
def isReservedName (name : String) : Bool :=
  name == directoryParameter || reservedMarker.toList.isPrefixOf name.toList

end HandlerBundle
