/-
**A write that fails changes nothing.**

* `Layered.failed_writes_change_nothing` — through all layers, every call but a single read and every call of a
  principal that fails, for whatever reason and in whatever state, leaves the store, the cache with all its
  entries, and the notices as they were.
-/

import Switchboard.Proofs.Secured.Calls

namespace Switchboard

namespace Layered

/-- **A write that fails changes nothing.** Whichever layers there are, and whatever the store and the cache hold,
a call that is not a single read, or a call of a principal, leaves the store, the cache and the notices as they
were if it ends with a fault. -/
theorem failed_writes_change_nothing (layers : Layers) :
    (∀ call : FeatureCall, ¬call.FromCopy → Atomic (features layers call)) ∧
    (∀ call : PropertyCall, ¬call.FromCopy → Atomic (properties layers call)) ∧
    ∀ principal call, Atomic (Secured.handle (features layers) principal call) := by
  refine ⟨fun call answered => ?_, fun call answered => ?_, fun principal call => ?_⟩
  · exact features_atomic layers answered
  · exact properties_atomic layers answered
  · exact Secured.atomic layers principal call

/-- A lamp is kept by the cache. A batch whose second feature has no identifier stores nothing, a principal who may
not toggle the lamp drops nothing from the cache, and a value that is not allowed is not reported. -/
theorem failed_writes_change_nothing_of_lamp :
    let layers : Layers := { cached := true, notifying := true }
    let lamp := { Feature.new "lamp" .epoch with acl := ({} : AccessList).apply (.restrict .toggle) }
    let level := { Property.new "level" (.int 1) .epoch with fixedValues := [.int 1, .int 2] }
    let switches : Layered Feature FeatureNotice :=
      ((features layers (.store (.create lamp))).perform ⟨3, .epoch⟩ (Layered.new .empty 10 4 (fun _ => 0))).2
    let values : Layered Property PropertyNotice := Layered.new (Store.empty.insert level) 10 4 (fun _ => 0)
    let save := features layers (.store (.save [Feature.new "spare" .epoch, Feature.new "" .epoch]))
    let toggle := Secured.handle (features layers) { userId := "eve" } (.setEnabled "lamp" true)
    let set := properties layers (.setValue "level" "7")
    (save.perform ⟨5, .epoch⟩ switches).1 = .error (.invalidIdentifier "") ∧
      Untouched switches (save.perform ⟨5, .epoch⟩ switches).2 ∧
      (toggle.perform ⟨5, .epoch⟩ switches).1 = .error (.accessDenied .toggle "lamp") ∧
      Untouched switches (toggle.perform ⟨5, .epoch⟩ switches).2 ∧
      (set.perform ⟨5, .epoch⟩ values).1 =
        .error (.invalidPropertyValue "level" "'7' is not one of the allowed values") ∧
      Untouched values (set.perform ⟨5, .epoch⟩ values).2 := by
  intro layers lamp level switches values save toggle set
  have refused : (save.perform ⟨5, .epoch⟩ switches).1 = .error (.invalidIdentifier "") := by
    dsimp only [save, switches, lamp, layers]
    rfl
  have denied : (toggle.perform ⟨5, .epoch⟩ switches).1 = .error (.accessDenied .toggle "lamp") := by
    dsimp only [toggle, switches, lamp, layers]
    rfl
  have barred : (set.perform ⟨5, .epoch⟩ values).1 =
      .error (.invalidPropertyValue "level" "'7' is not one of the allowed values") := by
    dsimp only [set, values, level, layers]
    rfl
  obtain ⟨calls, propertyCalls, principals⟩ := failed_writes_change_nothing layers
  have saved := calls (.store (.save [Feature.new "spare" .epoch, Feature.new "" .epoch])) id _ _ _ refused
  have changed := propertyCalls (.setValue "level" "7") id _ _ _ barred
  exact ⟨refused, saved, denied, principals _ _ _ _ _ denied, barred, changed⟩

end Layered

end Switchboard
