import GaleraControl.ObjectMeta
import GaleraControl.ResourceKey

/-!
# Reflected stores

A reflected store follows the objects of one kind by the events of a watch.  A
listing is collected apart and takes the place of the old contents when it is
complete, so that a lookup never sees half of a list.
-/

namespace GaleraControl.Watch

/-- An event of a watch. -/
inductive WatchEvent (Object : Type) where
  | listing
  | listed (object : Object)
  | listedAll
  | applied (object : Object)
  | deleted (object : Object)

namespace WatchEvent

/-- The object that an event is about. -/
def object? {Object : Type} : WatchEvent Object → Option Object
  | .listed object | .applied object | .deleted object => some object
  | .listing | .listedAll => none

end WatchEvent

/-- The place of an object in a store. -/
structure StoreKey where
  /-- The namespace; no namespace differs from an empty one. -/
  namespaceName : Option String
  name : String
deriving DecidableEq, Repr

namespace StoreKey

/-- The place of an object. -/
def ofMetadata (metadata : ObjectMeta) : StoreKey :=
  ⟨metadata.namespaceName, metadata.anyName⟩

end StoreKey

/-- A store of objects of one kind. -/
structure Reflector (Object : Type) where
  contents : List (StoreKey × Object) := []
  /-- The objects of a listing that is not complete. -/
  collected : List (StoreKey × Object) := []
  isReady : Bool := false
deriving Repr

namespace Reflector

variable {Object : Type}

/-- The objects with one of them put in its place. -/
def put (place : StoreKey) (object : Object) (objects : List (StoreKey × Object)) :
    List (StoreKey × Object) :=
  (place, object) :: Table.erase place objects

/-- The store after an event, given the metadata of its objects. -/
def receive (metadata : Object → ObjectMeta) (store : Reflector Object) :
    WatchEvent Object → Reflector Object
  | .listing => { store with collected := [] }
  | .listed object =>
      let place := StoreKey.ofMetadata (metadata object)
      { store with collected := put place object store.collected }
  | .listedAll => { contents := store.collected, collected := [], isReady := true }
  | .applied object =>
      let place := StoreKey.ofMetadata (metadata object)
      { store with contents := put place object store.contents }
  | .deleted object =>
      let place := StoreKey.ofMetadata (metadata object)
      { store with contents := Table.erase place store.contents }

/-- The object of a key, or else the one of its name without a namespace. -/
def lookup? (store : Reflector Object) (key : ResourceKey) : Option Object :=
  match Table.get? store.contents ⟨some key.namespaceName, key.name⟩ with
  | some object => some object
  | none => Table.get? store.contents ⟨none, key.name⟩

end Reflector

end GaleraControl.Watch
