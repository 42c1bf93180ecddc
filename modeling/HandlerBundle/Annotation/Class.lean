import HandlerBundle.Annotation.KnownClass

/-!
# Classes

A class is one of the known classes or a declared one. A declared class records every class that it
is counted under, so that the subclass relation is a look-up. Two declarations are different
classes even when they agree on every name; the serial number tells them apart.

## Main definitions

* `Class`, `DeclaredClass` — the classes.
* `Class.isSubclass` — the subclass relation.
* `Class.declare` — a new class over given bases.
-/

namespace HandlerBundle

/-- A class that a program declares. -/
structure DeclaredClass where
  serial : Nat
  name : String
  module : String
  qualname : String
  /-- The known classes it is counted under. -/
  knownSupers : List KnownClass
  /-- The serial numbers of the declared classes it is counted under, itself included. -/
  declaredSupers : List Nat
  /-- The known classes that it derives from. -/
  knownBases : List KnownClass
  /-- The modules of the other classes that it derives from. -/
  baseModules : List String
  /-- A protocol cannot be tested against: nothing is counted under it. -/
  isProtocol : Bool
  deriving DecidableEq, Repr

/-- A class, known or declared. -/
inductive Class where
  | known (k : KnownClass)
  | declared (d : DeclaredClass)
  deriving DecidableEq, Repr

namespace Class

/-- The module that defines a class. -/
def module : Class → String
  | .known k => k.module
  | .declared d => d.module

/-- The bare name of a class. -/
def name : Class → String
  | .known k => k.name
  | .declared d => d.name

/-- The name of a class within its module. -/
def qualname : Class → String
  | .known k => k.name
  | .declared d => d.qualname

/-- The name of a class with its module. -/
def fullName (c : Class) : String :=
  c.module ++ "." ++ c.qualname

/-- Whether the first class is the second or is counted under it. -/
def isSubclass : Class → Class → Bool
  | .known a, .known b => a.isSubclass b
  | .declared a, .known b => b == .object || a.knownSupers.contains b
  | .declared a, .declared b => !b.isProtocol && a.declaredSupers.contains b.serial
  | .known _, .declared _ => false

/-- The known classes that a class is counted under, itself included. -/
def knownSupers : Class → List KnownClass
  | .known k => k :: k.supers
  | .declared d => d.knownSupers

/-- The serial numbers of the declared classes that a class is counted under. -/
def declaredSupers : Class → List Nat
  | .known _ => []
  | .declared d => d.declaredSupers

/-- The known classes that a class derives from, itself included. -/
def knownBases : Class → List KnownClass
  | .known k => [k]
  | .declared d => d.knownBases

/-- The modules of the other classes that a class derives from, its own included. -/
def baseModules : Class → List String
  | .known _ => []
  | .declared d => d.module :: d.baseModules

/-- The slots that the nearest declaration of slots names. -/
def slots? : Class → Option (List String)
  | .known k => k.slots?
  | .declared d => d.knownBases.findSome? KnownClass.slots?

/-- The name of the class that a class is an instance of. -/
def metaName : Class → String
  | .known .any => "_AnyMeta"
  | .known k => if k.module == "collections.abc" then "ABCMeta" else "type"
  | .declared c => if c.isProtocol then "_ProtocolMeta" else "type"

/-- Whether instances can serve as keys. -/
def isHashable (c : Class) : Bool :=
  c.isSubclass (.known .hashable)

/-- Declares a class over the given bases. A class that can be awaited is counted under the
awaitables, and a class over a base without hash has none itself. -/
def declare (serial : Nat) (name module qualname : String) (bases : List Class)
    (awaitable isProtocol : Bool) : DeclaredClass :=
  let inherited := (bases.flatMap knownSupers).filter fun k => k != .hashable
  let hash := if bases.all isHashable then [KnownClass.hashable] else []
  let awaits := if awaitable then [KnownClass.awaitable] else []
  { serial, name, module, qualname, isProtocol
    knownSupers := awaits ++ hash ++ inherited
    declaredSupers := serial :: bases.flatMap declaredSupers
    knownBases := bases.flatMap Class.knownBases
    baseModules := bases.flatMap Class.baseModules ++ if isProtocol then ["typing"] else [] }

/-- The form in which a class stands in a message. -/
def display (c : Class) : String :=
  match c with
  | .known .any => "typing.Any"
  | _ =>
    let path := if c.module == "builtins" then c.qualname else c.fullName
    "<class '" ++ path ++ "'>"

end Class

end HandlerBundle
