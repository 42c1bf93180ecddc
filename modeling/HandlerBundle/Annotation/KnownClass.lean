/-!
# Classes that are known by name

The classes that annotations can name without any declaration, with the modules they belong to and
the classes they are counted under. The table states the closed relation: a class's row lists all
the others it is a subclass of, the root `object` apart.

## Main definitions

* `KnownClass` — the classes, and `KnownClass.all` their list.
* `KnownClass.supers` — the classes that a class is counted under.
* `KnownClass.slots?` — the slots that it declares.
-/

namespace HandlerBundle

/-- The classes that annotations can name without any declaration. -/
inductive KnownClass where
  | object
  | int
  | bool
  | float
  | complex
  | str
  | bytes
  | bytearray
  | list
  | dict
  | tuple
  | set
  | frozenset
  | typeClass
  | baseException
  | exception
  | valueError
  | any
  | noneType
  | awaitable
  | coroutine
  | callable
  | iterable
  | iterator
  | collection
  | sequence
  | mutableSequence
  | mapping
  | mutableMapping
  | abstractSet
  | hashable
  | sized
  | future
  | task
  | logger
  | rootLogger
  | loggerAdapter
  | filterer
  | httpRequest
  | httpResponse
  | timerInfo
  | path
  | purePath
  | date
  | datetime
  | decimal
  | orderedDict
  | defaultdict
  | annotated
  | unionType
  deriving DecidableEq, Repr

namespace KnownClass

/-- The module that defines the class. -/
def module : KnownClass → String
  | .any | .annotated => "typing"
  | .awaitable | .coroutine | .callable | .iterable | .iterator | .collection | .sequence
  | .mutableSequence | .mapping | .mutableMapping | .abstractSet | .hashable | .sized =>
    "collections.abc"
  | .future | .task => "_asyncio"
  | .logger | .rootLogger | .loggerAdapter | .filterer => "logging"
  | .httpRequest | .httpResponse | .timerInfo => "funcpack.host_types"
  | .path | .purePath => "pathlib"
  | .date | .datetime => "datetime"
  | .decimal => "decimal"
  | .orderedDict | .defaultdict => "collections"
  | .unionType => "types"
  | _ => "builtins"

/-- The name of the class. -/
def name : KnownClass → String
  | .object => "object"
  | .int => "int"
  | .bool => "bool"
  | .float => "float"
  | .complex => "complex"
  | .str => "str"
  | .bytes => "bytes"
  | .bytearray => "bytearray"
  | .list => "list"
  | .dict => "dict"
  | .tuple => "tuple"
  | .set => "set"
  | .frozenset => "frozenset"
  | .typeClass => "type"
  | .baseException => "BaseException"
  | .exception => "Exception"
  | .valueError => "ValueError"
  | .any => "Any"
  | .noneType => "NoneType"
  | .awaitable => "Awaitable"
  | .coroutine => "Coroutine"
  | .callable => "Callable"
  | .iterable => "Iterable"
  | .iterator => "Iterator"
  | .collection => "Collection"
  | .sequence => "Sequence"
  | .mutableSequence => "MutableSequence"
  | .mapping => "Mapping"
  | .mutableMapping => "MutableMapping"
  | .abstractSet => "Set"
  | .hashable => "Hashable"
  | .sized => "Sized"
  | .future => "Future"
  | .task => "Task"
  | .logger => "Logger"
  | .rootLogger => "RootLogger"
  | .loggerAdapter => "LoggerAdapter"
  | .filterer => "Filterer"
  | .httpRequest => "HttpRequest"
  | .httpResponse => "HttpResponse"
  | .timerInfo => "TimerInfo"
  | .path => "Path"
  | .purePath => "PurePath"
  | .date => "date"
  | .datetime => "datetime"
  | .decimal => "Decimal"
  | .orderedDict => "OrderedDict"
  | .defaultdict => "defaultdict"
  | .annotated => "Annotated"
  | .unionType => "UnionType"

/-- The classes that a class is counted under, itself and the root apart. -/
def supers : KnownClass → List KnownClass
  | .object => [.hashable]
  | .int => [.hashable]
  | .bool => [.int, .hashable]
  | .float => [.hashable]
  | .complex => [.hashable]
  | .str => [.iterable, .collection, .sequence, .hashable, .sized]
  | .bytes => [.iterable, .collection, .sequence, .hashable, .sized]
  | .bytearray => [.iterable, .collection, .sequence, .mutableSequence, .sized]
  | .list => [.iterable, .collection, .sequence, .mutableSequence, .sized]
  | .dict => [.iterable, .collection, .mapping, .mutableMapping, .sized]
  | .tuple => [.iterable, .collection, .sequence, .hashable, .sized]
  | .set => [.iterable, .collection, .abstractSet, .sized]
  | .frozenset => [.iterable, .collection, .abstractSet, .hashable, .sized]
  | .typeClass => [.callable, .hashable]
  | .baseException => [.hashable]
  | .exception => [.baseException, .hashable]
  | .valueError => [.baseException, .exception, .hashable]
  | .any => [.hashable]
  | .noneType => [.hashable]
  | .awaitable => [.hashable]
  | .coroutine => [.awaitable, .hashable]
  | .callable => [.hashable]
  | .iterable => [.hashable]
  | .iterator => [.iterable, .hashable]
  | .collection => [.iterable, .hashable, .sized]
  | .sequence => [.iterable, .collection, .hashable, .sized]
  | .mutableSequence => [.iterable, .collection, .sequence, .hashable, .sized]
  | .mapping => [.iterable, .collection, .sized]
  | .mutableMapping => [.iterable, .collection, .mapping, .sized]
  | .abstractSet => [.iterable, .collection, .sized]
  | .hashable => []
  | .sized => [.hashable]
  | .future => [.awaitable, .iterable, .hashable]
  | .task => [.awaitable, .iterable, .hashable, .future]
  | .logger => [.hashable, .filterer]
  | .rootLogger => [.hashable, .logger, .filterer]
  | .loggerAdapter => [.hashable]
  | .filterer => [.hashable]
  | .httpRequest => [.hashable]
  | .httpResponse => [.hashable]
  | .timerInfo => [.hashable]
  | .path => [.hashable, .purePath]
  | .purePath => [.hashable]
  | .date => [.hashable]
  | .datetime => [.hashable, .date]
  | .decimal => [.hashable]
  | .orderedDict => [.dict, .iterable, .collection, .mapping, .mutableMapping, .sized]
  | .defaultdict => [.dict, .iterable, .collection, .mapping, .mutableMapping, .sized]
  | .annotated => [.hashable]
  | .unionType => [.hashable]

/-- The slots that a class declares, if it does, or the nearest class above it that does. -/
def slots? : KnownClass → Option (List String)
  | .awaitable | .coroutine | .callable | .iterable | .iterator | .collection | .sequence
  | .mutableSequence | .mapping | .mutableMapping | .abstractSet | .hashable | .sized | .path
  | .annotated => some []
  | .purePath => some ["_drv", "_root", "_parts", "_str", "_hash", "_pparts", "_cached_cparts"]
  | _ => none

/-- Whether a class is another one or is counted under it. -/
def isSubclass (a b : KnownClass) : Bool :=
  a == b || b == .object || a.supers.contains b

/-- The classes of the table. -/
def all : List KnownClass :=
  [.object, .int, .bool, .float, .complex, .str, .bytes, .bytearray, .list, .dict, .tuple, .set,
    .frozenset, .typeClass, .baseException, .exception, .valueError, .any, .noneType,
    .awaitable, .coroutine, .callable, .iterable, .iterator, .collection, .sequence,
    .mutableSequence, .mapping, .mutableMapping, .abstractSet, .hashable, .sized, .future,
    .task, .logger, .rootLogger, .loggerAdapter, .filterer, .httpRequest, .httpResponse,
    .timerInfo, .path, .purePath, .date, .datetime, .decimal, .orderedDict, .defaultdict,
    .annotated, .unionType]

end KnownClass

end HandlerBundle
