/-
**Calls made of other calls.**

The calls that features and properties add are made of the calls that every repository answers: a
change reads the entity from the source of truth, alters it and updates it.

* `Repository.features`, `Repository.properties` — the handlers made in this way.
-/

import Switchboard.Repository.Call

namespace Switchboard

namespace Repository

variable {σ : Type}

/-- The members of a group, of which there has to be one. -/
def members (store : StoreHandler Feature σ) (group : String) : Act σ (List Feature) := do
  let features ← store .all
  match features.filter fun feature => feature.inGroup group with
  | [] => throw (.notFound .group group)
  | members => pure members

/-- Replaces an entity by a change of it. -/
def changing {E : Type} (store : StoreHandler E σ) (id : String)
    (change : E → Time.Instant → Except Fault E) : Act σ Unit := do
  let entity ← store (.fetch id)
  store (.update (← Act.lift (change entity (← Act.now))))

/-- The calls of a repository of features, made of those of every repository. -/
def features (store : StoreHandler Feature σ) : FeatureHandler σ
  | .store call => store call
  | .setEnabled id enabled =>
    changing store id fun feature now => .ok (feature.withEnabled now enabled)
  | .addToGroup id group => do
    Act.lift (checkIdentifier group)
    changing store id fun feature now => .ok (feature.withGroup now (some group))
  | .removeFromGroup id group =>
    changing store id fun feature now =>
      if feature.inGroup group then .ok (feature.withGroup now none)
      else .error (.notFound .group group)
  | .hasGroup group => return (← store .all).any fun feature => feature.inGroup group
  | .readGroup group => members store group
  | .groups => return Names.of ((← store .all).filterMap Feature.group)
  | .setGroupEnabled group enabled => do
    let features ← members store group
    let now ← Act.now
    store (.save (features.map fun feature => feature.withEnabled now enabled))

/-- The calls of a repository of properties, made of those of every repository. -/
def properties (store : StoreHandler Property σ) : PropertyHandler σ
  | .store call => store call
  | .setValue id raw => changing store id fun property now => property.withValueRead now raw

end Repository

end Switchboard
