/-
**Setting a value changes the value.**

A value is read from a text as one of the type of the value before it, and has to be allowed. The call then
passes all layers: the store replaces the property and stamps it, the cache drops its copy, and what is stored is
fetched for the notice.

* `Property.Takes` — a property takes a value from a text; `Property.revalued` — the property afterwards.
* `Store.RefusesValue` — the faults of a store that takes no value from a text.
* `Repository.setValue_of_takes`, `Repository.setValue_of_refuses` — a store keeps the property with its new value, or
  refuses and stays as it was. There is no third case (`Store.takes_or_refuses`).
* `Layered.ValueSet` — what is changed through all layers, and what is left.
* `Layered.setValue_changes_value_alone` — **setting a value changes that value and nothing else.**
-/

import Switchboard.Proofs.Notices.Told
import Switchboard.Proofs.Value.Shown

namespace Switchboard

open Act

/-! ### Properties -/

namespace Property

variable {property : Property} {raw : String} {value : Value} {now : Time.Instant}

/-- A property takes a value from a text: it is read as one of the type of its value, and allowed. -/
structure Takes (property : Property) (raw : String) (value : Value) : Prop where
  read : property.value.readLike raw = .ok value
  allowed : property.accepts value = true

/-- The property with another value, updated at a time. -/
def revalued (property : Property) (value : Value) (now : Time.Instant) : Property :=
  { property with value, updatedAt := max now property.createdAt }

theorem checkAccepts_of_allowed (allowed : property.accepts value = true) :
    property.checkAccepts value = .ok () := if_pos allowed

theorem checkAccepts_of_barred (barred : property.accepts value = false) :
    property.checkAccepts value = .error
      (.invalidPropertyValue property.id ("'" ++ value.shown ++ "' is not one of the allowed values")) :=
  if_neg (ne_true_of_eq_false barred)

/-- **What a property takes, it is changed to.** -/
theorem Takes.withValueRead (takes : property.Takes raw value) (now : Time.Instant) :
    property.withValueRead now raw = .ok (property.revalued value now) := by
  unfold Property.withValueRead
  rw [takes.read]
  dsimp only
  rw [checkAccepts_of_allowed takes.allowed]
  rfl

theorem withValueRead_of_unread {problem : ValueProblem} (unread : property.value.readLike raw = .error problem)
    (now : Time.Instant) :
    property.withValueRead now raw = .error (.invalidPropertyValue property.id problem.message) := by
  unfold Property.withValueRead
  rw [unread]
  rfl

theorem withValueRead_of_barred (read : property.value.readLike raw = .ok value)
    (barred : property.accepts value = false) (now : Time.Instant) :
    property.withValueRead now raw = .error
      (.invalidPropertyValue property.id ("'" ++ value.shown ++ "' is not one of the allowed values")) := by
  unfold Property.withValueRead
  rw [read]
  dsimp only
  rw [checkAccepts_of_barred barred]
  rfl

/-- A value that was taken has the type of the value before it. -/
theorem Takes.typed (takes : property.Takes raw value) : value.type = property.value.type :=
  (Value.of_readLike takes.read).1

/-- **A property that passed its check passes it with every value that it takes.** -/
theorem Takes.check_revalued (takes : property.Takes raw value) (checked : property.check = .ok ())
    (now : Time.Instant) : (property.revalued value now).check = .ok () := by
  have valid := check_eq_ok.mp checked
  refine check_eq_ok.mpr ⟨valid.identifier, fun fixed listed => ?_, ?_⟩
  · exact (valid.typed fixed listed).trans takes.typed.symm
  · exact checkAccepts_eq_ok.mp (checkAccepts_of_allowed takes.allowed)

theorem inOrder_revalued (property : Property) (value : Value) (now : Time.Instant) :
    Entity.InOrder (property.revalued value now) := Time.Instant.le_max_right _ _

end Property

/-! ### The store -/

namespace Store

/-- The faults of a store that takes no value from a text: the identifier is unknown, or the text is not of the
type of the value that is kept, or its value is not allowed. -/
inductive RefusesValue (store : Store Property) (id raw : String) : Fault → Prop
  | missing (unknown : store.find? id = none) : RefusesValue store id raw (.notFound .property id)
  | unreadable {property : Property} {problem : ValueProblem} (kept : store.find? id = some property)
    (unread : property.value.readLike raw = .error problem) :
    RefusesValue store id raw (.invalidPropertyValue id problem.message)
  | barred {property : Property} {value : Value} (kept : store.find? id = some property)
    (read : property.value.readLike raw = .ok value) (barred : property.accepts value = false) :
    RefusesValue store id raw
      (.invalidPropertyValue id ("'" ++ value.shown ++ "' is not one of the allowed values"))

/-- A store keeps a property that takes a value from a text, or refuses the text. -/
theorem takes_or_refuses (store : Store Property) (id raw : String) :
    (∃ property value, store.find? id = some property ∧ property.Takes raw value) ∨
      ∃ fault, store.RefusesValue id raw fault := by
  cases kept : store.find? id with
  | none => exact .inr ⟨_, .missing kept⟩
  | some property =>
    cases read : property.value.readLike raw with
    | error problem => exact .inr ⟨_, .unreadable kept read⟩
    | ok value =>
      cases allowed : property.accepts value with
      | true => exact .inl ⟨property, value, rfl, read, allowed⟩
      | false => exact .inr ⟨_, .barred kept read allowed⟩

end Store

namespace Repository

variable {store : Store Property} {id raw : String}

/-- **A store that refuses a value** stays as it was. -/
theorem setValue_of_refuses (keyed : store.Keyed) {fault : Fault} (refuses : store.RefusesValue id raw fault)
    (moment : Moment) :
    (properties Store.handle (.setValue id raw)).perform moment store = (.error fault, store) := by
  unfold properties
  cases refuses with
  | missing unknown => exact changing_of_unknown unknown moment
  | @unreadable property problem kept unread =>
    have named : property.id = id := keyed id property kept
    rw [changing_of_kept kept, Property.withValueRead_of_unread unread, named]
  | @barred property value kept read barred =>
    have named : property.id = id := keyed id property kept
    rw [changing_of_kept kept, Property.withValueRead_of_barred read barred, named]

/-- **A store whose property takes a value** keeps the property with it. -/
theorem setValue_of_takes (keyed : store.Keyed) (checked : store.Checked) {property : Property} {value : Value}
    (kept : store.find? id = some property) (takes : property.Takes raw value) (moment : Moment) :
    (properties Store.handle (.setValue id raw)).perform moment store =
      (.ok (), store.insert (property.revalued value moment.wall)) := by
  have named : property.id = id := keyed id property kept
  have stored : store.find? (Entity.id (property.revalued value moment.wall)) = some property := by
    show store.find? property.id = some property
    rw [named, kept]
  have passed : Entity.check (property.revalued value moment.wall) = .ok () :=
    takes.check_revalued (checked id property kept) moment.wall
  unfold properties
  rw [changing_of_kept kept, takes.withValueRead]
  dsimp only
  rw [perform_update, Store.update_of_kept passed stored]
  rfl

end Repository

/-! ### All layers -/

namespace Layered

variable {layered : Layered Property PropertyNotice} {moment : Moment} {id raw : String}

/-- After a value was set, the cache holds no copy of the property. -/
theorem cache_setValue (succeeds : ((properties allLayers (.setValue id raw)).perform moment layered).1 = .ok ()) :
    ((properties allLayers (.setValue id raw)).perform moment layered).2.cache = layered.cache.evict id := by
  have passed := Caching.passed_properties (Repository.properties Backend.handle)
    (fun copy : PropertyCall.FromCopy (.setValue id raw) => copy) moment layered.below
  rw [properties_all] at succeeds ⊢
  unfold Notifying.properties at succeeds ⊢
  dsimp only at succeeds ⊢
  rw [perform_bind, Notified.perform_under, passed] at succeeds ⊢
  dsimp only at succeeds ⊢
  cases set : ((Repository.properties Backend.handle (.setValue id raw)).perform moment
      layered.below.below).1 with
  | error fault =>
    rw [set] at succeeds
    cases succeeds
  | ok done =>
    -- What is stored is fetched for the notice, past the cache.
    dsimp only
    rw [perform_bind, Notified.perform_under]
    split <;> rfl

/-- **A read without a copy** answers what the store keeps. -/
theorem find_of_unheld (online : layered.backend.online = true) (unheld : layered.cache.entries[id]? = none)
    (moment : Moment) :
    ((properties allLayers (.store (.find id))).perform moment layered).1 =
      .ok (layered.backend.store.find? id) := by
  show ((Caching.find Backend.handle id).perform moment layered.below).1 = _
  rcases Caching.find_cases moment layered.below id with ⟨entry, held, _⟩ | ⟨_, loaded⟩ | ⟨offline, _⟩
  · cases unheld.symm.trans held
  · rw [loaded]
    rfl
  · cases online.symm.trans offline

theorem read_of_unheld (online : layered.backend.online = true) (unheld : layered.cache.entries[id]? = none)
    (moment : Moment) :
    ((properties allLayers (.store (.read id))).perform moment layered).1 =
      found id (layered.backend.store.find? id) := by
  have searched : properties allLayers (.store (.read id)) =
      properties allLayers (.store (.find id)) >>= fun property => Act.lift (found id property) := rfl
  rw [searched, perform_bind_ok (find_of_unheld online unheld moment), perform_lift]

/-- What is changed when the value of a property is set, and what is left: the property is kept with the value and
what was its own, in order and valid; nothing else is changed in the store or the cache, whose copy of the property
is gone; the property is told once, as it is kept, and read so by everybody from then on. -/
structure ValueSet (id : String) (property : Property) (value : Value) (now : Time.Instant)
    (before after : Layered Property PropertyNotice) : Prop where
  kept : after.backend.store.find? id = some (property.revalued value now)
  typed : value.type = property.value.type
  inOrder : Entity.InOrder (property.revalued value now)
  checked : (property.revalued value now).check = .ok ()
  others : ∀ other, id ≠ other → after.backend.store.find? other = before.backend.store.find? other
  uncopied : after.cache.entries[id]? = none
  copies : ∀ other : String, id ≠ other → after.cache.entries[other]? = before.cache.entries[other]?
  told : after.submitted = before.submitted ++ [.updated (property.revalued value now)]
  read : ∀ later, ((properties allLayers (.store (.read id))).perform later after).1 =
    .ok (property.revalued value now)
  found : ∀ later, ((properties allLayers (.store (.find id))).perform later after).1 =
    .ok (some (property.revalued value now))

/-- Through all layers a value is set as on the store, which stays online. -/
theorem setValue_served (online : layered.backend.online = true) (moment : Moment) (id raw : String) :
    let set := (properties allLayers (.setValue id raw)).perform moment layered
    let bare := (Repository.properties Store.handle (.setValue id raw)).perform moment layered.backend.store
    set.1 = bare.1 ∧ set.2.backend.store = bare.2 ∧ set.2.backend.online = true := by
  have answered : ¬PropertyCall.FromCopy (.setValue id raw) := fun copy => copy
  obtain ⟨outcome, store, line⟩ := properties_over allLayers answered moment layered layered.backend ⟨rfl, rfl⟩
  obtain ⟨served, onlineAfter, storeAfter⟩ :=
    Backend.properties_answers.online (.setValue id raw) moment layered.backend _ ⟨online, rfl⟩
  exact ⟨outcome.trans served, store.trans storeAfter, line.trans onlineAfter⟩

/-- **A value that is taken is set**, and nothing else is changed. -/
theorem valueSet_of_takes (keyed : layered.backend.store.Keyed) (checked : layered.backend.store.Checked)
    (online : layered.backend.online = true) (moment : Moment) {property : Property} {value : Value}
    (kept : layered.backend.store.find? id = some property) (takes : property.Takes raw value) :
    let set := (properties allLayers (.setValue id raw)).perform moment layered
    set.1 = .ok () ∧ ValueSet id property value moment.wall layered set.2 := by
  intro set
  obtain ⟨outcome, store, onlineAfter⟩ := setValue_served online moment id raw
  have succeeds : (Repository.properties Store.handle (.setValue id raw)).perform moment layered.backend.store =
      (.ok (), layered.backend.store.insert (property.revalued value moment.wall)) :=
    Repository.setValue_of_takes keyed checked kept takes moment
  rw [succeeds] at outcome store
  have named : Entity.id (property.revalued value moment.wall) = id := keyed id property kept
  have keptAfter : set.2.backend.store.find? id = some (property.revalued value moment.wall) := by
    rw [store, Store.find?_insert, if_pos named]
  have cacheAfter : set.2.cache = layered.cache.evict id := cache_setValue outcome
  have uncopied : set.2.cache.entries[id]? = none := by
    rw [cacheAfter]
    exact (Table.getElem?_erase_eq _ _).trans (if_pos rfl)
  have told : set.2.submitted = _ := submitted_setValue moment layered id raw
  rw [outcome] at told
  exact ⟨outcome,
    { kept := keptAfter
      typed := takes.typed
      inOrder := property.inOrder_revalued value moment.wall
      checked := takes.check_revalued (checked id property kept) moment.wall
      others := fun other differs => by
        rw [store]
        exact Store.find?_insert_of_ne (named ▸ differs)
      uncopied := uncopied
      copies := fun other differs => by
        rw [cacheAfter]
        exact (Table.getElem?_erase_eq _ _).trans (if_neg differs)
      told := by
        rw [told, PropertyCall.kept, keptAfter]
        rfl
      read := fun later => by
        rw [read_of_unheld onlineAfter uncopied later, keptAfter]
        rfl
      found := fun later => by rw [find_of_unheld onlineAfter uncopied later, keptAfter] }⟩

/-- **A value that is refused leaves everything as it was.** -/
theorem untouched_of_refused (keyed : layered.backend.store.Keyed) (checked : layered.backend.store.Checked)
    (online : layered.backend.online = true) (moment : Moment) {fault : Fault}
    (failed : ((properties allLayers (.setValue id raw)).perform moment layered).1 = .error fault) :
    layered.backend.store.RefusesValue id raw fault ∧
      Untouched layered ((properties allLayers (.setValue id raw)).perform moment layered).2 := by
  have answered : ¬PropertyCall.FromCopy (.setValue id raw) := fun copy => copy
  refine ⟨?_, properties_atomic allLayers answered moment layered fault failed⟩
  have bare := (setValue_served online moment id raw).1.symm.trans failed
  rcases layered.backend.store.takes_or_refuses id raw with ⟨property, value, kept, takes⟩ | ⟨other, refuses⟩
  · rw [Repository.setValue_of_takes keyed checked kept takes] at bare
    cases bare
  · rw [Repository.setValue_of_refuses keyed refuses] at bare
    cases bare
    exact refuses

/-- **Setting a value changes that value and nothing else.** Over every store that came to be by calls and is online,
whatever the cache holds: the value of a property is set if and only if the property is kept and takes the value from
the text. Then the property is kept with the value, and all else is left; otherwise everything is left as it was, and
the fault says why. -/
theorem setValue_changes_value_alone {start : Store Property} (built : start.Built)
    (calls : List (Moment × PropertyCall)) (layered : Layered Property PropertyNotice)
    (reached : layered.backend.store = Handler.run (Repository.properties Store.handle) start calls)
    (online : layered.backend.online = true) (moment : Moment) (id raw : String) :
    let set := (properties allLayers (.setValue id raw)).perform moment layered
    (set.1 = .ok () ↔
        ∃ property value, layered.backend.store.find? id = some property ∧ property.Takes raw value) ∧
      (∀ fault, set.1 = .error fault →
        layered.backend.store.RefusesValue id raw fault ∧ Untouched layered set.2) ∧
      ∀ property value, layered.backend.store.find? id = some property → property.Takes raw value →
        ValueSet id property value moment.wall layered set.2 := by
  intro set
  have continued := Store.continues_run Store.continues_properties start calls
  have keyed : layered.backend.store.Keyed := reached ▸ continued.keyed built.keyed
  have checked : layered.backend.store.Checked := reached ▸ continued.checked built.checked
  refine ⟨⟨fun done => ?_, ?_⟩, fun fault => untouched_of_refused keyed checked online moment, ?_⟩
  · have bare := (setValue_served online moment id raw).1.symm.trans done
    rcases layered.backend.store.takes_or_refuses id raw with taken | ⟨fault, refuses⟩
    · exact taken
    · rw [Repository.setValue_of_refuses keyed refuses] at bare
      cases bare
  · exact fun ⟨property, value, kept, takes⟩ => (valueSet_of_takes keyed checked online moment kept takes).1
  · exact fun property value kept takes => (valueSet_of_takes keyed checked online moment kept takes).2

/-- A level that may be low or high is copied by a read, and then set to a text with blanks around the second word. It
is read as high from then on, and told as high; a third word leaves it low. -/
theorem setValue_changes_level_alone :
    let level := { Property.new "level" (.text "low") .epoch with fixedValues := [.text "low", .text "high"] }
    let layered : Layered Property PropertyNotice :=
      ((properties allLayers (.store (.read "level"))).perform ⟨1, .epoch⟩
        (Layered.new (Store.empty.insert level) 10 4 (fun _ => 0))).2
    let set := (properties allLayers (.setValue "level" " high ")).perform ⟨2, .epoch⟩ layered
    let barred := (properties allLayers (.setValue "level" "middle")).perform ⟨2, .epoch⟩ layered
    (layered.cache.entries["level"]?).isSome = true ∧ set.1 = .ok () ∧
      ((properties allLayers (.store (.read "level"))).perform ⟨3, .epoch⟩ set.2).1 =
        .ok { level with value := .text "high" } ∧
      set.2.submitted = [.updated { level with value := .text "high" }] ∧
      barred.1 = .error (.invalidPropertyValue "level" "'middle' is not one of the allowed values") ∧
      Untouched layered barred.2 := by
  intro level layered set barred
  have built : Store.Built (Store.empty.insert level) := .ofList (show Store.ofList [level] = .ok _ from by
    dsimp only [level]
    rfl)
  obtain ⟨reached, silent⟩ := copy_untold (id : PropertyNotice → PropertyNotice) ⟨1, .epoch⟩
    (Layered.new (Store.empty.insert level) 10 4 (fun _ => 0)) (show StoreCall.FromCopy (.read "level") from trivial)
  have online : layered.backend.online = true := by decide +kernel
  have kept : layered.backend.store.find? "level" = some level := by decide +kernel
  have takes : level.Takes " high " (.text "high") := ⟨by decide +kernel, by decide +kernel⟩
  have failed : barred.1 = .error (.invalidPropertyValue "level" "'middle' is not one of the allowed values") := by
    decide +kernel
  obtain ⟨succeeds, _, changes⟩ :=
    setValue_changes_value_alone built [] layered reached online ⟨2, .epoch⟩ "level" " high "
  obtain ⟨_, refuses, _⟩ :=
    setValue_changes_value_alone built [] layered reached online ⟨2, .epoch⟩ "level" "middle"
  have changed := changes level (.text "high") kept takes
  exact ⟨by decide +kernel, succeeds.mpr ⟨level, _, kept, takes⟩, changed.read _,
    changed.told.trans (congrArg (· ++ _) silent), failed, (refuses _ failed).2⟩

end Layered

end Switchboard
