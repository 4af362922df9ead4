import HubService.Registry.Descriptor
import HubService.Wire.EndpointPath

/-!
# The endpoint registry

A service offers endpoints to users and to other services, in two separate tables keyed by
path. Registration goes through a builder (`HubService.Registry.Builder`) and is all or
nothing for each endpoint: a descriptor whose keys and kinds do not pair up, or a path already
taken in that table, is refused and leaves the builder as it was. The built registry
(`HubService.Registry.EndpointRegistry`) is looked up by exact path.

A program makes its registration calls one after another on one builder, each call on the
builder the calls before it left (`HubService.Registry.Builder.registerAll`).

Endpoints are generic in their handler `H`: the registry neither runs nor inspects handlers.
-/

namespace HubService.Registry

open HubService.Wire

/-- Who a request comes from, and so which table serves it. -/
inductive Origin where
  | user
  | service
  deriving DecidableEq, Repr

/-- The word for an origin. -/
def Origin.text : Origin → String
  | .user => "user"
  | .service => "service"

/-- Why an endpoint cannot be registered. -/
inductive RegistryError where
  /-- The table already has an endpoint at this path. -/
  | duplicate (origin : Origin) (path : EndpointPath)
  /-- The descriptor has a different number of keys and kinds. -/
  | descriptorArity (origin : Origin) (path : EndpointPath) (keys kinds : Nat)
  deriving DecidableEq, Repr

/-- The words for a refusal. -/
def RegistryError.message : RegistryError → String
  | .duplicate origin path => s!"{origin.text} endpoint {path.display} is already registered"
  | .descriptorArity origin path keys kinds =>
    s!"{origin.text} endpoint {path.display} declares {keys} keys but {kinds} kinds"

/-- The name of a refusal's kind. -/
def RegistryError.kindName : RegistryError → String
  | .duplicate .. => "Duplicate"
  | .descriptorArity .. => "DescriptorArity"

/-- An endpoint: what it requires of its data, and its handler. -/
structure Endpoint (H : Type) where
  descriptor : EndpointDescriptor
  handler : H

/-- One table of endpoints, by path, in the order they were added. -/
structure Table (H : Type) where
  origin : Origin
  entries : List (EndpointPath × Endpoint H) := []

namespace Table

/-- The endpoint at exactly this path. -/
def find? {H : Type} (t : Table H) (path : EndpointPath) : Option (Endpoint H) :=
  (t.entries.find? (·.1 = path)).map (·.2)

/-- The paths of the table. -/
def paths {H : Type} (t : Table H) : List EndpointPath := t.entries.map (·.1)

/-- Adds an endpoint; the descriptor is checked first, then the path. -/
def insert {H : Type} (t : Table H) (path : EndpointPath) (keys : List String)
    (kinds : List ValueKind) (handler : H) : Except RegistryError (Table H) :=
  match EndpointDescriptor.ofLists? keys kinds with
  | none => .error (.descriptorArity t.origin path keys.length kinds.length)
  | some descriptor =>
    if (t.find? path).isSome then .error (.duplicate t.origin path)
    else .ok { t with entries := t.entries ++ [(path, ⟨descriptor, handler⟩)] }

/-- The table as a debugging view writes its paths. -/
def debugPaths {H : Type} (t : Table H) : String :=
  "[" ++ ", ".intercalate (t.paths.map EndpointPath.debug) ++ "]"

end Table

/-- A registry being built: one table for users, one for services. -/
structure Builder (H : Type) where
  user : Table H := { origin := .user }
  service : Table H := { origin := .service }

/-- A built registry. -/
structure EndpointRegistry (H : Type) where
  user : Table H
  service : Table H

/-- One registration call: the table it goes to, the path, the keys the endpoint requires and
their kinds, and the handler. -/
structure Registration (H : Type) where
  origin : Origin
  path : EndpointPath
  keys : List String
  kinds : List ValueKind
  handler : H

namespace Builder

/-- Registers an endpoint for requests of the given origin. -/
def register {H : Type} (b : Builder H) (origin : Origin) (path : EndpointPath)
    (keys : List String) (kinds : List ValueKind) (handler : H) : Except RegistryError (Builder H) :=
  match origin with
  | .user => (b.user.insert path keys kinds handler).map fun t => { b with user := t }
  | .service => (b.service.insert path keys kinds handler).map fun t => { b with service := t }

/-- The registry of the endpoints registered so far. -/
def build {H : Type} (b : Builder H) : EndpointRegistry H := ⟨b.user, b.service⟩

/-- Makes one registration call in place: a refused call leaves the builder as it was. The
builder after the call, and what the call returned. -/
def call {H : Type} (b : Builder H) (c : Registration H) : Builder H × Except RegistryError Unit :=
  match b.register c.origin c.path c.keys c.kinds c.handler with
  | .ok b' => (b', .ok ())
  | .error e => (b, .error e)

/-- Makes registration calls in order, each on the builder the calls before it left; the builder
at the end, and what each call returned. -/
def registerAll {H : Type} (b : Builder H) (cs : List (Registration H)) :
    Builder H × List (Except RegistryError Unit) :=
  cs.foldl (fun acc c => ((acc.1.call c).1, acc.2 ++ [(acc.1.call c).2])) (b, [])

/-- The builder as a debugging view writes it. -/
def debug {H : Type} (b : Builder H) : String :=
  "RegistryBuilder \x7b user: " ++ b.user.debugPaths ++ ", service: " ++ b.service.debugPaths ++
    " \x7d"

end Builder

namespace EndpointRegistry

/-- The table for an origin. -/
def table {H : Type} (r : EndpointRegistry H) : Origin → Table H
  | .user => r.user
  | .service => r.service

/-- The endpoint at exactly this path, for requests of the given origin. -/
def lookup {H : Type} (r : EndpointRegistry H) (origin : Origin) (path : EndpointPath) :
    Option (Endpoint H) :=
  (r.table origin).find? path

/-- The descriptor of the endpoint at exactly this path, for requests of the given origin. -/
def descriptor {H : Type} (r : EndpointRegistry H) (origin : Origin) (path : EndpointPath) :
    Option EndpointDescriptor :=
  (r.lookup origin path).map (·.descriptor)

/-- The number of endpoints for requests of the given origin. -/
def len {H : Type} (r : EndpointRegistry H) (origin : Origin) : Nat :=
  (r.table origin).entries.length

/-- The registry as a debugging view writes it. -/
def debug {H : Type} (r : EndpointRegistry H) : String :=
  "EndpointRegistry \x7b user: " ++ r.user.debugPaths ++ ", service: " ++ r.service.debugPaths ++
    " \x7d"

end EndpointRegistry

end HubService.Registry
