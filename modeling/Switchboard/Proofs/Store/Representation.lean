/-
**What a store represents.**

A store keeps every entity under its own identifier, keeps only entities that pass their check, and lists
them in the order of their identifiers; all its reads agree with the list. From when an entity is kept until a
call deletes it, the entity under its identifier was created when that one was, whatever is updated, saved or
switched in between.

* `Feature.Valid`, `Property.Valid` — what a check looks at; `Feature.check_eq_ok`, `Property.check_eq_ok` — an
  entity is valid if and only if it passes.
* `Store.Continues` — a store stays keyed and checked, and what is not dropped stays, created when it was.
  Every call of a store leads to this (`Store.continues_handle`), and so does every call made of them
  (`Store.continues_features`, `Store.continues_properties`).
* `Store.Represented` — the invariant; `Store.representation_is_kept` — it holds after any calls.
-/

import Switchboard.Proofs.Repository.Leads
import Switchboard.Proofs.Store.Timestamps

namespace Switchboard

open Act

/-! ### Valid entities -/

/-- The identifier of a property can name it, and if values are fixed, all of them have the type of its value
and one of them is its value. -/
structure Property.Valid (property : Property) : Prop where
  identifier : isIdentifier property.id = true
  typed : ∀ fixed ∈ property.fixedValues, fixed.type = property.value.type
  among : property.fixedValues ≠ [] → ∃ fixed ∈ property.fixedValues, fixed.agrees property.value = true

/-- The identifier of a feature can name it, its group can be named, and its properties are valid. -/
structure Feature.Valid (feature : Feature) : Prop where
  identifier : isIdentifier feature.id = true
  group : ∀ group, feature.group = some group → isIdentifier group = true
  properties : ∀ property ∈ feature.properties.values, property.Valid

theorem checkIdentifier_eq_ok {text : String} : checkIdentifier text = .ok () ↔ isIdentifier text = true := by
  unfold checkIdentifier
  cases isIdentifier text <;> simp

/-- A check that is followed by another one. -/
theorem Outcome.then_eq_ok {ε : Type} {first : Except ε Unit} {next : Except ε Unit} :
    (first >>= fun _ => next) = .ok () ↔ first = .ok () ∧ next = .ok () := by
  rw [bind_eq_ok]
  exact ⟨fun ⟨_, passed, rest⟩ => ⟨passed, rest⟩, fun ⟨passed, rest⟩ => ⟨(), passed, rest⟩⟩

/-- A list of checks passes if and only if all of them do. -/
theorem Outcome.forM_eq_ok {α ε : Type} {check : α → Except ε Unit} {values : List α} :
    values.forM check = .ok () ↔ ∀ value ∈ values, check value = .ok () := by
  induction values with
  | nil => exact ⟨fun _ => nofun, fun _ => rfl⟩
  | cons value rest ih =>
    show (check value >>= fun _ => rest.forM check) = .ok () ↔ _
    rw [then_eq_ok, List.forall_mem_cons, ih]

/-- A value is accepted if nothing is fixed, or it is among what is. -/
theorem Property.checkAccepts_eq_ok {property : Property} {value : Value} :
    property.checkAccepts value = .ok () ↔
      (property.fixedValues ≠ [] → ∃ fixed ∈ property.fixedValues, fixed.agrees value = true) := by
  have accepted : property.checkAccepts value = .ok () ↔ property.accepts value = true := by
    unfold checkAccepts
    cases property.accepts value <;> simp
  rw [accepted, accepts, Bool.or_eq_true, List.isEmpty_iff, List.any_eq_true]
  exact Decidable.or_iff_not_imp_left

/-- **A property passes its check if and only if it is valid.** -/
theorem Property.check_eq_ok {property : Property} : property.check = .ok () ↔ property.Valid := by
  have typed : (property.fixedValues.find? fun fixed => fixed.type != property.value.type) = none ↔
      ∀ fixed ∈ property.fixedValues, fixed.type = property.value.type := by
    simp only [List.find?_eq_none, bne_iff_ne, ne_eq, Decidable.not_not]
  unfold check
  rw [Outcome.then_eq_ok, checkIdentifier_eq_ok]
  constructor
  · rintro ⟨identified, rest⟩
    split at rest
    · cases rest
    next none => exact ⟨identified, typed.mp none, checkAccepts_eq_ok.mp rest⟩
  · intro valid
    refine ⟨valid.identifier, ?_⟩
    rw [typed.mpr valid.typed]
    exact checkAccepts_eq_ok.mpr valid.among

/-- **A feature passes its check if and only if it is valid.** -/
theorem Feature.check_eq_ok {feature : Feature} : feature.check = .ok () ↔ feature.Valid := by
  have parts : feature.check = .ok () ↔ checkIdentifier feature.id = .ok () ∧
      (∀ group, feature.group = some group → checkIdentifier group = .ok ()) ∧
        feature.properties.values.forM Property.check = .ok () := by
    unfold check
    rw [Outcome.then_eq_ok]
    refine and_congr_right fun _ => ?_
    cases feature.group with
    | none => exact ⟨fun rest => ⟨fun _ => nofun, rest⟩, And.right⟩
    | some group =>
      refine Outcome.then_eq_ok.trans (and_congr_left fun _ => ?_)
      exact ⟨fun named _ same => Option.some.inj same ▸ named, fun named => named group rfl⟩
  simp only [parts, checkIdentifier_eq_ok, Outcome.forM_eq_ok, Property.check_eq_ok]
  exact ⟨fun ⟨identified, named, properties⟩ => ⟨identified, named, properties⟩,
    fun valid => ⟨valid.identifier, valid.group, valid.properties⟩⟩

/-! ### What calls delete -/

/-- A call deletes what is kept under an identifier. -/
def StoreCall.Deletes {E : Type} : StoreCall E → String → Prop
  | delete target, id => target = id
  | deleteAll, _ => True
  | has _, _ | find _, _ | read _, _ | fetch _, _ | all, _ | create _, _ | update _, _ | save _, _
  | count, _ | prepare, _ => False

/-- A call deletes what is kept under an identifier. -/
def FeatureCall.Deletes : FeatureCall → String → Prop
  | store call, id => call.Deletes id
  | setEnabled _ _, _ | addToGroup _ _, _ | removeFromGroup _ _, _ | hasGroup _, _ | readGroup _, _
  | groups, _ | setGroupEnabled _ _, _ => False

/-- A call deletes what is kept under an identifier. -/
def PropertyCall.Deletes : PropertyCall → String → Prop
  | store call, id => call.Deletes id
  | setValue _ _, _ => False

namespace Store

section Continues

variable {E : Type} [Entity E] {drops : String → Prop} {store : Store E}

/-- Everything that is kept has passed its check. -/
def Checked (store : Store E) : Prop := ∀ id entity, store.find? id = some entity → Entity.check entity = .ok ()

theorem checked_empty : (empty : Store E).Checked := by
  intro id entity found
  have missing : (empty : Store E).find? id = none := Std.ExtTreeMap.getElem?_empty
  rw [missing] at found
  cases found

theorem Checked.insert (checked : store.Checked) {entity : E} (passed : Entity.check entity = .ok ()) :
    (store.insert entity).Checked := by
  intro id other found
  rw [find?_insert] at found
  split at found
  · cases found
    exact passed
  · exact checked id other found

theorem Checked.erase (checked : store.Checked) (target : String) :
    Checked (E := E) ⟨store.entities.erase target⟩ := by
  intro id entity found
  have kept : (store.entities.erase target)[id]? = some entity := found
  rw [Table.getElem?_erase_eq] at kept
  split at kept
  · cases kept
  · exact checked id entity kept

/-- A store that is made from a list keeps entities that passed their check. -/
theorem checked_ofList {entities : List E} (made : ofList entities = .ok store) : store.Checked := by
  obtain ⟨table, folded, whole⟩ := Outcome.bind_eq_ok.mp made
  cases whole
  refine Outcome.foldlM_keeps (fun table => Checked (E := E) ⟨table⟩) ?_ checked_empty folded
  intro before entity after member checked added
  obtain ⟨_, passed, admitted⟩ := Outcome.bind_eq_ok.mp added
  split at admitted
  · cases admitted
  · cases admitted
    exact Checked.insert checked passed

/-- A store stays keyed and checked, and what is kept under an identifier that is not dropped stays, created
when it was. -/
structure Continues (drops : String → Prop) (before after : Store E) : Prop where
  keyed : before.Keyed → after.Keyed
  checked : before.Checked → after.Checked
  created : ∀ id entity, ¬drops id → before.find? id = some entity →
    ∃ kept, after.find? id = some kept ∧ Entity.createdAt kept = Entity.createdAt entity

namespace Continues

theorem refl (store : Store E) : Continues drops store store :=
  ⟨id, id, fun _ entity _ kept => ⟨entity, kept, rfl⟩⟩

theorem trans (first second third : Store E) (early : Continues drops first second)
    (late : Continues drops second third) : Continues drops first third where
  keyed := late.keyed ∘ early.keyed
  checked := late.checked ∘ early.checked
  created id entity lasts kept := by
    obtain ⟨between, found, same⟩ := early.created id entity lasts kept
    obtain ⟨after, foundAfter, sameAfter⟩ := late.created id between lasts found
    exact ⟨after, foundAfter, sameAfter.trans same⟩

/-- A checked entity is kept: a new one, or one that was created when the one before it was. -/
theorem insert {entity : E} (passed : Entity.check entity = .ok ())
    (created : ∀ previous, store.find? (Entity.id entity) = some previous →
      Entity.createdAt entity = Entity.createdAt previous) :
    Continues drops store (store.insert entity) where
  keyed keyed := keyed.insert entity
  checked checked := checked.insert passed
  created id other _ kept := by
    rw [find?_insert]
    split
    next same => exact ⟨entity, rfl, created other (same ▸ kept)⟩
    · exact ⟨other, kept, rfl⟩

/-- An entity that passes its check replaces the one before it. -/
theorem restamp {entity previous : E} (passed : Entity.check entity = .ok ())
    (found : store.find? (Entity.id entity) = some previous) (now : Time.Instant) :
    Continues drops store (store.insert (restamp now entity previous)) := by
  refine insert ((Entity.check_stamp _ _ _).trans passed) fun other kept => ?_
  rw [id_restamp, found] at kept
  cases kept
  exact Entity.createdAt_stamp _ _ _

theorem upsert {entity : E} (passed : Entity.check entity = .ok ()) (now : Time.Instant) :
    Continues drops store (upsert now store entity) := by
  unfold Store.upsert
  split
  next previous found => exact restamp passed found now
  next missing => exact insert passed fun previous found => nomatch missing.symm.trans found

/-- The entities of a batch are kept one after the other, also where one replaces another of the same batch. -/
theorem upsertAll {entities : List E} (passed : ∀ entity ∈ entities, Entity.check entity = .ok ())
    (now : Time.Instant) : Continues drops store (entities.foldl (Store.upsert now) store) := by
  induction entities generalizing store with
  | nil => exact refl store
  | cons entity rest ih =>
    obtain ⟨first, others⟩ := List.forall_mem_cons.mp passed
    exact trans _ _ _ (upsert first now) (ih others)

theorem erase {target : String} (dropped : drops target) :
    Continues drops store ⟨store.entities.erase target⟩ where
  keyed keyed := keyed.erase target
  checked checked := checked.erase target
  created id entity lasts kept := by
    refine ⟨entity, ?_, rfl⟩
    show (store.entities.erase target)[id]? = some entity
    rw [Table.getElem?_erase_eq, if_neg fun same : target = id => lasts (same ▸ dropped)]
    exact kept

end Continues

/-! ### Calls -/

/-- **Every call of a store** lets it continue. -/
theorem continues_handle (call : StoreCall E) : Leads (Continues call.Deletes) (handle call) := by
  intro moment store
  have same : Continues call.Deletes store store := .refl store
  cases call with
  | create entity =>
    refine changing_keeps (Continues _ store) same fun changed succeeds => ?_
    obtain ⟨passed, missing, rfl⟩ := create_eq_ok succeeds
    exact .insert passed fun previous found => nomatch missing.symm.trans found
  | update entity =>
    refine changing_keeps (Continues _ store) same fun changed succeeds => ?_
    obtain ⟨passed, previous, found, rfl⟩ := update_eq_ok succeeds
    exact .restamp passed found moment.wall
  | delete id =>
    refine changing_keeps (Continues _ store) same fun changed succeeds => ?_
    obtain ⟨_, rfl⟩ := delete_eq_ok succeeds
    exact .erase rfl
  | save entities =>
    refine changing_keeps (Continues _ store) same fun changed succeeds => ?_
    obtain ⟨passed, rfl⟩ := save_eq_ok succeeds
    exact .upsertAll (Outcome.forM_eq_ok.mp passed) moment.wall
  | deleteAll => exact ⟨fun _ => keyed_empty, fun _ => checked_empty, fun _ _ lasts => absurd trivial lasts⟩
  | read id | fetch id =>
    simp only [handle, Act.perform_bind, Act.perform_get, Act.perform_lift]
    exact same
  | has id | find id | all | count | prepare => exact same

end Continues

end Store

/-! ### Calls made of other calls -/

namespace Repository

variable {σ : Type} {related : σ → σ → Prop} (refl : ∀ state, related state state)
  (trans : ∀ first second third, related first second → related second third → related first third)

include refl trans

theorem changing_leads {E : Type} {store : StoreHandler E σ} {id : String}
    {change : E → Time.Instant → Except Fault E} (fetching : Leads related (store (.fetch id)))
    (updating : ∀ entity, Leads related (store (.update entity))) :
    Leads related (changing store id change) :=
  fetching.bind trans fun _ => (Leads.now refl).bind trans fun _ =>
    (Leads.lift refl _).bind trans fun entity => updating entity

/-- **What fetches, lists, updates and batches lead to, the calls of features made of them lead to.** -/
theorem features_leads {store : StoreHandler Feature σ} (listing : Leads related (store .all))
    (fetching : ∀ id, Leads related (store (.fetch id)))
    (updating : ∀ feature, Leads related (store (.update feature)))
    (saving : ∀ features, Leads related (store (.save features))) {call : FeatureCall}
    (composed : ∀ plain, call ≠ .store plain) : Leads related (features store call) := by
  have grouping : ∀ group, Leads related (members store group) := by
    refine fun group => listing.bind trans fun features => ?_
    split
    · exact .throw refl _
    · exact .pure refl _
  cases call with
  | store plain => exact absurd rfl (composed plain)
  | setEnabled id enabled => exact changing_leads refl trans (fetching id) updating
  | addToGroup id group =>
    exact (Leads.lift refl _).bind trans fun _ => changing_leads refl trans (fetching id) updating
  | removeFromGroup id group => exact changing_leads refl trans (fetching id) updating
  | hasGroup group => exact listing.bind trans fun _ => .pure refl _
  | readGroup group => exact grouping group
  | groups => exact listing.bind trans fun _ => .pure refl _
  | setGroupEnabled group enabled =>
    exact (grouping group).bind trans fun _ => (Leads.now refl).bind trans fun _ => saving _

end Repository

namespace Store

/-- **Every call of features** lets a store continue. -/
theorem continues_features (call : FeatureCall) :
    Leads (Continues call.Deletes) (Repository.features handle call) := by
  have composed : ∀ {call : FeatureCall}, (∀ plain, call ≠ .store plain) →
      Leads (Continues fun _ => False) (Repository.features handle call) :=
    Repository.features_leads Continues.refl Continues.trans (continues_handle .all)
      (fun id => continues_handle (.fetch id)) (fun feature => continues_handle (.update feature))
      fun features => continues_handle (.save features)
  cases call with
  | store call => exact continues_handle call
  | _ => exact composed fun _ => nofun

/-- **Every call of properties** lets a store continue. -/
theorem continues_properties (call : PropertyCall) :
    Leads (Continues call.Deletes) (Repository.properties handle call) := by
  cases call with
  | store call => exact continues_handle call
  | setValue id raw =>
    have fetching : Leads (Continues fun _ => False) (handle (E := Property) (.fetch id)) :=
      continues_handle (.fetch id)
    exact Repository.changing_leads Continues.refl Continues.trans fetching fun property =>
      continues_handle (.update property)

/-! ### Reads -/

section Reads

variable {E : Type} [Entity E] {store : Store E}

/-- The entities are listed with increasing identifiers, and all reads agree with the list: they leave the store
as it is, find the entity of an identifier in the list, or the fault that there is none, and count the list. -/
structure Listed (store : Store E) : Prop where
  sorted : store.toList.Pairwise fun first second => Entity.id first < Entity.id second
  all : ∀ moment, (handle .all).perform moment store = (.ok store.toList, store)
  find : ∀ moment id, (handle (.find id)).perform moment store =
    (.ok (store.toList.find? fun entity => Entity.id entity == id), store)
  read : ∀ moment id, (handle (.read id)).perform moment store =
    (found id (store.toList.find? fun entity => Entity.id entity == id), store)
  fetch : ∀ moment id, (handle (.fetch id)).perform moment store =
    (found id (store.toList.find? fun entity => Entity.id entity == id), store)
  has : ∀ moment id, (handle (.has id)).perform moment store =
    (.ok (store.toList.any fun entity => Entity.id entity == id), store)
  count : ∀ moment, (handle .count).perform moment store = (.ok store.toList.length, store)

/-- The entity under an identifier is the one with it in the list. -/
theorem Keyed.find?_eq (keyed : store.Keyed) (id : String) :
    store.find? id = store.toList.find? fun entity => Entity.id entity == id := by
  cases listed : store.toList.find? fun entity => Entity.id entity == id with
  | some entity =>
    have named := List.find?_some listed
    rw [beq_iff_eq] at named
    exact named ▸ keyed.find?_of_mem (List.mem_of_find?_eq_some listed)
  | none =>
    refine Option.eq_none_iff_forall_ne_some.mpr fun entity kept => ?_
    have named := List.find?_eq_none.mp listed entity (mem_toList.mpr ⟨id, kept⟩)
    exact named (beq_iff_eq.mpr (keyed id entity kept))

omit [Entity E] in
theorem size_eq_length (store : Store E) : store.size = store.toList.length := by
  unfold size toList
  rw [Table.values_eq, List.length_map, Std.ExtTreeMap.length_toList]

omit [Entity E] in
theorem contains_eq (store : Store E) (id : String) : store.entities.contains id = (store.find? id).isSome :=
  Std.ExtTreeMap.contains_eq_isSome_getElem?

/-- **All reads of a keyed store agree with its list.** -/
theorem Keyed.listed (keyed : store.Keyed) : store.Listed where
  sorted := keyed.sorted
  all _ := rfl
  find moment id := congrArg (fun found => (Except.ok found, store)) (keyed.find?_eq id)
  read moment id := by
    rw [← keyed.find?_eq]
    exact Repository.perform_fetch id
  fetch moment id := by
    rw [← keyed.find?_eq]
    exact Repository.perform_fetch id
  has moment id := by
    show (Except.ok (store.entities.contains id), store) = _
    rw [contains_eq, keyed.find?_eq, List.isSome_find?]
  count moment := congrArg (fun size => (Except.ok size, store)) store.size_eq_length

end Reads

/-! ### Runs -/

section Runs

variable {E C : Type} [Entity E] {Reply : C → Type} {handler : Handler Reply (Store E)}
  {deletes : C → String → Prop} {store : Store E}

/-- A store as it is made: of nothing, or of the entities of a list. -/
inductive Built : Store E → Prop
  | new : Built .empty
  | ofList {entities : List E} {store : Store E} (made : ofList entities = .ok store) : Built store

theorem Built.keyed (built : Built store) : store.Keyed := by
  cases built with
  | new => exact keyed_empty
  | ofList made => exact keyed_ofList made

theorem Built.checked (built : Built store) : store.Checked := by
  cases built with
  | new => exact checked_empty
  | ofList made => exact checked_ofList made

/-- **A run of calls lets a store continue**; it drops what one of its calls deletes. -/
theorem continues_run (continues : ∀ call, Leads (Continues (deletes call)) (handler call)) (store : Store E)
    (calls : List (Moment × C)) :
    Continues (fun id => ∃ step ∈ calls, deletes step.2 id) store (handler.run store calls) := by
  induction calls generalizing store with
  | nil => exact .refl store
  | cons first rest ih =>
    have widen : ∀ {drops wide : String → Prop} {before after : Store E}, (∀ id, drops id → wide id) →
        Continues drops before after → Continues wide before after := fun within continues =>
      ⟨continues.keyed, continues.checked, fun id entity lasts => continues.created id entity (lasts ∘ within id)⟩
    refine Continues.trans _ _ _ (widen (fun id deleted => ?_) (continues first.2 first.1 store))
      (widen (fun id => ?_) (ih _))
    · exact ⟨first, List.mem_cons_self, deleted⟩
    · exact fun ⟨step, listed, deleted⟩ => ⟨step, List.mem_cons_of_mem _ listed, deleted⟩

/-- What holds of a store after calls: every entity is kept under its own identifier and has passed its check,
all reads agree with the list of the entities, and what is kept after some of the calls and deleted by none of
the others is kept in the end, created when it was. -/
structure Represented (handler : Handler Reply (Store E)) (deletes : C → String → Prop) (store : Store E)
    (calls : List (Moment × C)) : Prop where
  keyed : (handler.run store calls).Keyed
  checked : (handler.run store calls).Checked
  listed : (handler.run store calls).Listed
  created : ∀ earlier later, calls = earlier ++ later → ∀ id entity,
    (handler.run store earlier).find? id = some entity → (∀ step ∈ later, ¬deletes step.2 id) →
      ∃ kept, (handler.run store calls).find? id = some kept ∧
        Entity.createdAt kept = Entity.createdAt entity

/-- **A store stays represented** if every call lets it continue. -/
theorem Built.represented (built : Built store)
    (continues : ∀ call, Leads (Continues (deletes call)) (handler call)) (calls : List (Moment × C)) :
    Represented handler deletes store calls where
  keyed := (continues_run continues store calls).keyed built.keyed
  checked := (continues_run continues store calls).checked built.checked
  listed := ((continues_run continues store calls).keyed built.keyed).listed
  created earlier later whole id entity kept lasts := by
    rw [whole, Handler.run_append]
    refine (continues_run continues _ later).created id entity ?_ kept
    exact fun ⟨step, listed, deleted⟩ => lasts step listed deleted

end Runs

/-- **The representation of a store is kept.** However it was made and whatever calls are made at whatever
times, every entity is kept under its own identifier and is valid; the list of a store has increasing
identifiers, and all other reads agree with it; and from when an entity is kept until a call deletes it, the
entity under its identifier was created when that one was. -/
theorem representation_is_kept {switches : Store Feature} {values : Store Property}
    (builtSwitches : Built switches) (builtValues : Built values) (calls : List (Moment × FeatureCall))
    (changes : List (Moment × PropertyCall)) :
    Represented (Repository.features handle) FeatureCall.Deletes switches calls ∧
      Represented (Repository.properties handle) PropertyCall.Deletes values changes ∧
      (∀ id feature, ((Repository.features handle).run switches calls).find? id = some feature →
        feature.Valid) ∧
      ∀ id property, ((Repository.properties handle).run values changes).find? id = some property →
        property.Valid := by
  have features := builtSwitches.represented continues_features calls
  have properties := builtValues.represented continues_properties changes
  exact ⟨features, properties,
    fun id feature kept => Feature.check_eq_ok.mp (features.checked id feature kept),
    fun id property kept => Property.check_eq_ok.mp (properties.checked id property kept)⟩

/-- A lamp is built in and switched on, saved twice in one batch with another creation time, and switched with its
group; a level takes one of its fixed values and refuses another one. -/
theorem representation_of_lamp :
    let lamp := { Feature.new "lamp" ⟨5, 0, by decide⟩ with group := some "light" }
    let other := { Feature.new "lamp" .epoch with group := some "light" }
    let level := { Property.new "level" (.text "low") .epoch with fixedValues := [.text "low", .text "high"] }
    let switches : Store Feature := Store.empty.insert lamp
    let values : Store Property := Store.empty.insert level
    let calls : List (Moment × FeatureCall) :=
      [(⟨1, .epoch⟩, .setEnabled "lamp" true), (⟨2, .epoch⟩, .store (.save [other, other])),
        (⟨3, .epoch⟩, .setGroupEnabled "light" true)]
    let changes : List (Moment × PropertyCall) :=
      [(⟨1, .epoch⟩, .setValue "level" "high"), (⟨2, .epoch⟩, .setValue "level" "middle")]
    let after := (Repository.features handle).run switches calls
    let changed := (Repository.properties handle).run values changes
    Built switches ∧ Built values ∧ after.Keyed ∧ after.Listed ∧
      (∃ kept, after.find? "lamp" = some kept ∧ kept.createdAt = lamp.createdAt ∧ kept.Valid) ∧
      ∃ kept, changed.find? "level" = some kept ∧ kept.value = .text "high" ∧ kept.Valid := by
  intro lamp other level switches values calls changes after changed
  have builtSwitches : Built switches := .ofList (show ofList [lamp] = .ok switches from by
    dsimp only [switches, lamp]
    rfl)
  have builtValues : Built values := .ofList (show ofList [level] = .ok values from by
    dsimp only [values, level]
    rfl)
  obtain ⟨features, _, validFeatures, validProperties⟩ :=
    representation_is_kept builtSwitches builtValues calls changes
  refine ⟨builtSwitches, builtValues, features.keyed, features.listed, ?_, ?_⟩
  · have kept : ((Repository.features handle).run switches []).find? "lamp" = some lamp :=
      (find?_insert lamp "lamp").trans (if_pos rfl)
    have lasts : ∀ step ∈ calls, ¬FeatureCall.Deletes step.2 "lamp" := by
      simp [calls, FeatureCall.Deletes, StoreCall.Deletes]
    obtain ⟨later, found, same⟩ := features.created [] calls rfl "lamp" lamp kept lasts
    exact ⟨later, found, same, validFeatures "lamp" later found⟩
  · have found : (changed.find? "level").map Property.value = some (.text "high") := by
      dsimp only [changed, changes, values, level]
      rfl
    obtain ⟨kept, found, same⟩ := Option.map_eq_some_iff.mp found
    exact ⟨kept, found, same, validProperties "level" kept found⟩

end Store

end Switchboard
