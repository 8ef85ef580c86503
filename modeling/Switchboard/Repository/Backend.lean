/-
**A store behind a line.**

A backend is a store that can go offline and that counts how often it is read.

* `Backend.handle` — the calls of a repository: every call is refused while the store is offline, and
  reads are counted whether they are refused or not.
-/

import Switchboard.Store

namespace Switchboard

/-- A store that can go offline, with the numbers of its single reads and its bulk reads. -/
structure Backend (E : Type) where
  store : Store E := {}
  reads : Nat := 0
  bulkReads : Nat := 0
  online : Bool := true

namespace Backend

variable {E : Type} [Entity E]

/-- What an offline store answers. -/
def offline : Fault := .storeUnavailable "store offline"

/-- The backend with a call counted. -/
def counted (backend : Backend E) : StoreCall E → Backend E
  | .find _ | .read _ | .fetch _ => { backend with reads := backend.reads + 1 }
  | .all => { backend with bulkReads := backend.bulkReads + 1 }
  | _ => backend

/-- The calls of a repository, answered by a backend. -/
def handle : StoreHandler E (Backend E) := fun call => do
  modify fun backend => backend.counted call
  if !(← get).online then throw offline
  Act.onPart Backend.store (fun store backend => { backend with store }) (Store.handle call)

end Backend

end Switchboard
