import HandlerBundle.Host.Restore

/-!
# Calls to a host

A host is asked for the finder of a directory or for the value of it. The directory is given by a
text, and between two calls the files of the host and the directory that it works in may change.

## Main definitions

* `HostCall` — a call, with what it finds.
* `HostCall.perform` — the steps of a call.
* `Host.after` — the host after calls.
-/

namespace HandlerBundle

/-- What a host is asked for. -/
inductive HostRequest where
  | install
  | rehydrate (functionType : String)
  deriving DecidableEq, Repr

/-- A call to a host, with what it finds: the files at the time and the directory that the host
works in, and the objects and modules of the process. -/
structure HostCall where
  files : FileTree
  workingDirectory : TreePath
  heap : Heap
  table : ModuleTable
  path : String
  request : HostRequest

/-- What a host answers: the place of a finder among the others, or a value among the objects. -/
inductive HostAnswer where
  | finder (i : Nat)
  | value (h : Heap) (id : ObjectId)

namespace HostCall

/-- The directory that a call is about. -/
def directory (c : HostCall) : TreePath :=
  Host.absolutePath c.workingDirectory c.path

/-- The steps of a call. -/
def perform (c : HostCall) : Hosting HostAnswer := do
  modify fun host => { host with files := c.files }
  match c.request with
  | .install => return .finder (← Hosting.install c.directory)
  | .rehydrate functionType =>
    let (h, id) ← Hosting.restore c.heap c.table c.directory functionType
    return .value h id

end HostCall

/-- The host after calls. -/
def Host.after (host : Host) (calls : List HostCall) : Host :=
  calls.foldl (fun host c => (c.perform.run.run host).2) host

end HandlerBundle
