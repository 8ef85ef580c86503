/-
**No stale copy reaches a write.**

Two repositories have stores that are alike; their caches hold anything, also what no store ever held.

* `Layered.EndsAlike` — an action has one outcome on both, leaves stores that are alike and submits the
  same notices.
* `Layered.EndsAsBare` — an action does to the store what another one does to the store by itself.
* `Layered.copies_never_reach_writes` — every call but a single read ends alike and as on the bare store,
  and every call of a principal ends alike.
-/

import Switchboard.Proofs.Layered.Writes

namespace Switchboard

open Act

namespace Layered

variable {E N α : Type}

/-- Started in two states, an action has one outcome, leaves stores that are alike, and submits the same
notices. -/
structure EndsAlike (action : Act (Layered E N) α) (moment : Moment) (left right : Layered E N) :
    Prop where
  outcome : (action.perform moment left).1 = (action.perform moment right).1
  store : Backend.Alike (action.perform moment left).2.backend (action.perform moment right).2.backend
  notices : ∃ notices, (action.perform moment left).2.submitted = left.submitted ++ notices ∧
    (action.perform moment right).2.submitted = right.submitted ++ notices

/-- An action has the outcome of another one on the store by itself, and leaves the same there. -/
structure EndsAsBare (action : Act (Layered E N) α) (bare : Act (Backend E) α) (moment : Moment)
    (layered : Layered E N) : Prop where
  outcome : (action.perform moment layered).1 = (bare.perform moment layered.backend).1
  store : (action.perform moment layered).2.backend.store =
    (bare.perform moment layered.backend).2.store

/-- All layers. -/
def allLayers : Layers := { cached := true, notifying := true }

/-- What is behind two caches is alike. -/
def CopiesDiffer (left right : Cached E (Backend E)) : Prop := Backend.Alike left.below right.below

theorem copies_agree {C : Type} {Reply : C → Type} {copies : C → Prop}
    {decorated : Handler Reply (Cached E (Backend E))} {plain : Handler Reply (Backend E)}
    (passes : Caching.PassesOn copies decorated plain)
    (alike : ∀ call, Agree Backend.Alike (plain call) (plain call)) :
    Handler.AgreeOn (fun call => ¬copies call) CopiesDiffer decorated decorated := by
  intro call answered moment left right same
  obtain ⟨settle, passed⟩ := passes call answered
  rw [passed moment left, passed moment right]
  exact alike call moment _ _ same

theorem endsAlike_of_agree {action : Act (Layered E N) α}
    (agree : ∀ start start' : List N,
      Agree (Notified.Alike start start' CopiesDiffer) action action)
    (moment : Moment) {left right : Layered E N} (same : Backend.Alike left.backend right.backend) :
    EndsAlike action moment left right := by
  have begun : Notified.Alike left.submitted right.submitted CopiesDiffer left right :=
    ⟨⟨[], (List.append_nil _).symm, (List.append_nil _).symm⟩, same⟩
  obtain ⟨outcome, notices, store⟩ := agree _ _ moment left right begun
  exact ⟨outcome, store, notices⟩

theorem endsAsBare_of_agree {action : Act (Layered E N) α} {bare : Act (Backend E) α}
    (agree : Agree Over action bare) (moment : Moment) (layered : Layered E N) :
    EndsAsBare action bare moment layered := by
  obtain ⟨outcome, store, _⟩ := agree moment layered layered.backend ⟨rfl, rfl⟩
  exact ⟨outcome, store⟩

theorem features_agreeOn (start start' : List FeatureNotice) :
    Handler.AgreeOn (fun call => ¬FeatureCall.FromCopy call)
      (Notified.Alike start start' CopiesDiffer) (features allLayers) (features allLayers) := by
  intro call answered
  refine Notifying.features_agree
    (copies_agree (Caching.passesOn_features _) (Repository.features_agree Backend.handle_alike))
    ?_ ?_ answered
  · exact fun id copy => absurd trivial copy
  · exact fun group enabled _ copy => copy

theorem properties_agreeOn (start start' : List PropertyNotice) :
    Handler.AgreeOn (fun call => ¬PropertyCall.FromCopy call)
      (Notified.Alike start start' CopiesDiffer) (properties allLayers) (properties allLayers) := by
  intro call answered
  refine Notifying.properties_agree
    (copies_agree (Caching.passesOn_properties _) (Repository.properties_agree Backend.handle_alike))
    ?_ ?_ answered
  · exact fun id copy => absurd trivial copy
  · exact fun id raw _ copy => copy

theorem secured_agree (start start' : List FeatureNotice) (principal : Principal)
    (call : SecuredCall) :
    Agree (Notified.Alike start start' CopiesDiffer)
      (Secured.handle (features allLayers) principal call)
      (Secured.handle (features allLayers) principal call) := by
  refine Secured.handle_agree (features_agreeOn start start') ?_ ?_ ?_ ?_ principal call
  · exact fun id copy => copy
  · exact fun id enabled copy => copy
  · exact fun feature copy => copy
  · exact fun id copy => copy

/-- **No stale copy reaches a write.** Whatever two caches hold, every call but a single read ends alike
and as on the bare store, and every call of a principal ends alike. -/
theorem copies_never_reach_writes (moment : Moment) {switches switches' : Layered Feature FeatureNotice}
    {values values' : Layered Property PropertyNotice}
    (sameSwitches : Backend.Alike switches.backend switches'.backend)
    (sameValues : Backend.Alike values.backend values'.backend) :
    (∀ call : FeatureCall, ¬call.FromCopy →
      EndsAlike (features allLayers call) moment switches switches' ∧
        EndsAsBare (features allLayers call) (Repository.features Backend.handle call) moment switches) ∧
    (∀ call : PropertyCall, ¬call.FromCopy →
      EndsAlike (properties allLayers call) moment values values' ∧
        EndsAsBare (properties allLayers call) (Repository.properties Backend.handle call) moment
          values) ∧
    ∀ principal call,
      EndsAlike (Secured.handle (features allLayers) principal call) moment switches switches' := by
  refine ⟨fun call answered => ⟨?_, ?_⟩, fun call answered => ⟨?_, ?_⟩, fun principal call => ?_⟩
  · exact endsAlike_of_agree (fun start start' => features_agreeOn start start' call answered) moment
      sameSwitches
  · exact endsAsBare_of_agree (features_over allLayers answered) moment switches
  · exact endsAlike_of_agree (fun start start' => properties_agreeOn start start' call answered) moment
      sameValues
  · exact endsAsBare_of_agree (properties_over allLayers answered) moment values
  · exact endsAlike_of_agree (fun start start' => secured_agree start start' principal call) moment
      sameSwitches

/-- A lamp that nobody may toggle is behind a cache that takes it for one with an empty access list, and
behind an empty cache: a principal is refused alike. -/
theorem copies_never_reach_writes_of_lamp :
    let list := ({} : AccessList).apply (.restrict .toggle)
    let lamp := { Feature.new "lamp" .epoch with acl := list }
    let empty : Layered Feature FeatureNotice := Layered.new (Store.empty.insert lamp) 10 4 (fun _ => 0)
    let stale : Layered Feature FeatureNotice :=
      { empty with below := { empty.below with
          cache := empty.cache.put 0 "lamp" (Feature.new "lamp" .epoch) none } }
    let level : Layered Property PropertyNotice :=
      Layered.new (Store.empty.insert (Property.new "level" (.int 1) .epoch)) 10 4 (fun _ => 0)
    let toggle := Secured.handle (features allLayers) { userId := "eve" } (.setEnabled "lamp" true)
    Backend.Alike stale.backend empty.backend ∧ Backend.Alike level.backend level.backend ∧
      (toggle.perform ⟨5, .epoch⟩ stale).1 = .error (.accessDenied .toggle "lamp") ∧
      EndsAlike toggle ⟨5, .epoch⟩ stale empty ∧
      EndsAsBare (features allLayers (.setEnabled "lamp" true))
        (Repository.features Backend.handle (.setEnabled "lamp" true)) ⟨5, .epoch⟩ stale := by
  intro list lamp empty stale level toggle
  have sameLamp : Backend.Alike stale.backend empty.backend := ⟨rfl, rfl⟩
  have sameLevel : Backend.Alike level.backend level.backend := ⟨rfl, rfl⟩
  have refused : (toggle.perform ⟨5, .epoch⟩ stale).1 = .error (.accessDenied .toggle "lamp") := by
    dsimp only [toggle, stale, empty, lamp, list]
    rfl
  obtain ⟨calls, _, secured⟩ := copies_never_reach_writes ⟨5, .epoch⟩ sameLamp sameLevel
  have answered : ¬(FeatureCall.setEnabled "lamp" true).FromCopy := fun copy => copy
  exact ⟨sameLamp, sameLevel, refused, secured _ _, (calls _ answered).2⟩

end Layered

end Switchboard
