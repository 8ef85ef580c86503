/-
**Evaluations read, and create what is missing.**

* `Layered.ReportsMissing` — a single read reports that a feature is missing (`Layered.missing_iff`).
* `Layered.CreatedBlank` — a disabled feature with nothing set is created, and nothing else.
* `Evaluator.Creates` — an evaluation creates a feature; else it only reports
  (`Evaluator.onlyReports_of_not_creates`). What is created is disabled (`Evaluator.createdBlank_of_creates`), unless the
  identifier is none (`Evaluator.refused_of_creates`).
* `Layered.Spares` — what comes of a repository while a feature is neither changed nor removed; the feature and its copy
  stay as they are (`Layered.Spares.kept`).
* `Evaluator.evaluations_read_or_create` — all of it, and that a created feature is disabled until it is changed.
-/

import Switchboard.Proofs.Evaluation.Chain

namespace Switchboard

open Act

/-! ### Missing features -/

namespace Layered

variable {layers : Layers} {layered : Layered Feature FeatureNotice} {moment : Moment} {id : String}

/-- A single read reports that a feature is missing. -/
def ReportsMissing (layers : Layers) (layered : Layered Feature FeatureNotice) (moment : Moment) (id : String) : Prop :=
  ∃ fault, ((features layers (.store (.read id))).perform moment layered).1 = .error fault ∧ fault.isNotFound = true

/-- **A feature is reported missing** exactly if there is no copy of it that is alive, and the store is online and does
not keep it. -/
theorem missing_iff : ReportsMissing layers layered moment id ↔
    copy? layers layered moment.clock id = none ∧ layered.backend.online = true ∧
      layered.backend.store.find? id = none := by
  unfold ReportsMissing
  rw [outcome_read]
  unfold search
  cases copy? layers layered moment.clock id with
  | some feature =>
    refine ⟨?_, fun missing => nomatch missing.1⟩
    rintro ⟨_, copied, _⟩
    cases copied
  | none =>
    dsimp only
    cases layered.backend.online with
    | false =>
      refine ⟨?_, fun missing => nomatch missing.2.1⟩
      rintro ⟨_, refused, missing⟩
      cases refused
      cases missing
    | true =>
      cases layered.backend.store.find? id with
      | some feature =>
        refine ⟨?_, fun missing => nomatch missing.2.2⟩
        rintro ⟨_, stored, _⟩
        cases stored
      | none => exact ⟨fun _ => ⟨rfl, rfl, rfl⟩, fun _ => ⟨_, rfl, rfl⟩⟩

end Layered

/-! ### Creation -/

/-- A new feature passes its check if its identifier is one. -/
theorem Feature.check_new (id : String) (now : Time.Instant) :
    Entity.check (Feature.new id now) = checkIdentifier id := by
  show checkIdentifier id >>= _ = _
  cases checkIdentifier id <;> rfl

/-- An entity that is not kept is created if it passes its check. -/
theorem Store.create_of_absent {E : Type} [Entity E] {store : Store E} {entity : E}
    (absent : store.find? (Entity.id entity) = none) :
    store.create entity = (Entity.check entity).map fun _ => store.insert entity := by
  unfold create
  rw [absent]
  cases Entity.check entity <;> rfl

namespace Layered

variable {layers : Layers} {layered : Layered Feature FeatureNotice} {moment : Moment} {id : String}
  {feature : Feature}

/-- Through all layers a feature is created as in the store, if that is online and does not keep it. -/
theorem create_of_absent (layers : Layers) (moment : Moment) (online : layered.backend.online = true)
    (absent : layered.backend.store.find? feature.id = none) :
    let made := (features layers (.store (.create feature))).perform moment layered
    made.1 = Entity.check feature ∧ made.2.backend.online = layered.backend.online ∧
      (Entity.check feature = .ok () → made.2.backend.store = layered.backend.store.insert feature) := by
  intro made
  have answered : ¬FeatureCall.FromCopy (.store (.create feature)) := fun copy => copy
  obtain ⟨outcome, store, line⟩ := features_over layers answered moment layered layered.backend ⟨rfl, rfl⟩
  obtain ⟨served, stays, kept⟩ := Backend.features_answers.online (.store (.create feature)) moment layered.backend
    _ ⟨online, rfl⟩
  have created : (Repository.features Store.handle (.store (.create feature))).perform moment layered.backend.store =
      match (Entity.check feature).map fun _ => layered.backend.store.insert feature with
      | .ok changed => (.ok (), changed)
      | .error fault => (.error fault, layered.backend.store) := by
    have passed : layered.backend.store.create feature = _ := Store.create_of_absent absent
    refine (Store.perform_changing fun store _ => store.create feature).trans ?_
    rw [passed]
    cases Entity.check feature <;> rfl
  rw [created] at served kept
  refine ⟨outcome.trans (served.trans ?_), line.trans (stays.trans online.symm), fun passes => ?_⟩
  · cases Entity.check feature <;> rfl
  · rw [passes] at kept
    exact store.trans kept

/-- A feature that is created is reported if the repository notifies. -/
theorem submitted_create (created : ((features layers (.store (.create feature))).perform moment layered).1 = .ok ()) :
    ((features layers (.store (.create feature))).perform moment layered).2.submitted =
      layered.submitted ++ if layers.notifying then [.store (.created feature)] else [] := by
  cases notifying : layers.notifying with
  | true =>
    obtain ⟨_, submitted⟩ := submitted_through notifying (.store (.create feature)) moment layered
    rw [created] at submitted
    exact submitted
  | false =>
    unfold features
    rw [notifying]
    exact (List.append_nil _).symm

/-- A disabled feature with nothing set, which was not there, is created and reported, and nothing else is. -/
structure CreatedBlank (layers : Layers) (id : String) (created : Feature)
    (before after : Layered Feature FeatureNotice) : Prop where
  named : created.id = id
  disabled : created.enabled = false
  ungrouped : created.group = none
  unbound : created.strategy = none
  unrestricted : created.acl = {}
  plain : created.properties = ∅
  absent : before.backend.store.find? id = none
  store : after.backend.store = before.backend.store.insert created
  online : after.backend.online = before.backend.online
  submitted : after.submitted = before.submitted ++ if layers.notifying then [.store (.created created)] else []

/-- What is created is kept. -/
theorem CreatedBlank.kept {before after : Layered Feature FeatureNotice}
    (blank : CreatedBlank layers id feature before after) : after.backend.store.find? id = some feature := by
  have named : Entity.id feature = id := blank.named
  rw [blank.store, Store.find?_insert, if_pos named]

end Layered

namespace Evaluator

open Layered (features LeftAlone ReportsMissing CreatedBlank)

/-- A check is an evaluation without an override, of which the answer is taken. -/
theorem perform_check {σ : Type} {features : FeatureHandler (Notified FeatureNotice σ)} {evaluator : Evaluator}
    {id : String} {context : Context} {moment : Moment} {state : Notified FeatureNotice σ} :
    (evaluator.check features id context).perform moment state =
      (((evaluator.evaluate features id context none).perform moment state).1.map Decision.enabled,
        ((evaluator.evaluate features id context none).perform moment state).2) := by
  unfold check
  rw [perform_bind]
  cases ((evaluator.evaluate features id context none).perform moment state).1 <;> rfl

section Layers

variable {layers : Layers} {layered : Layered Feature FeatureNotice} {moment : Moment} {id : String}
  {evaluator : Evaluator} {context : Context} {override : Option Strategy}

/-- A single read reports that a feature is missing, and the evaluator creates missing features. -/
def Creates (evaluator : Evaluator) (layers : Layers) (layered : Layered Feature FeatureNotice) (moment : Moment)
    (id : String) : Prop :=
  evaluator.autoCreate = true ∧ ReportsMissing layers layered moment id

/-- An evaluation has left what is stored, and has submitted nothing but the use of a feature that is on. -/
structure OnlyReports (evaluator : Evaluator) (id : String) (context : Context)
    (before : Layered Feature FeatureNotice) (evaluated : Except Fault Decision × Layered Feature FeatureNotice) :
    Prop where
  store : evaluated.2.backend.store = before.backend.store
  online : evaluated.2.backend.online = before.backend.online
  submitted : evaluated.2.submitted = before.submitted ++ evaluator.usage id context evaluated.1

/-- **An evaluation that creates nothing only reports** if its strategies only read. -/
theorem onlyReports_of_not_creates (readers : evaluator.Asks FeatureCall.IsRead)
    (given : ∀ strategy, override = some strategy → strategy.Asks FeatureCall.IsRead)
    (spares : ¬evaluator.Creates layers layered moment id) :
    OnlyReports evaluator id context layered
      ((evaluator.evaluate (features layers) id context override).perform moment layered) := by
  have looked := Layered.leftAlone_of_single_read layers id moment layered
  cases reads : ((features layers (.store (.read id))).perform moment layered).1 with
  | error fault =>
    have unmade : (fault.isNotFound && evaluator.autoCreate) = false := by
      rw [Bool.eq_false_iff, ne_eq, Bool.and_eq_true]
      exact fun ⟨notFound, auto⟩ => spares ⟨auto, fault, reads, notFound⟩
    rw [perform_evaluate_unread reads, unmade]
    exact ⟨looked.store, looked.online, looked.submitted.trans (List.append_nil _).symm⟩
  | ok feature =>
    have deciding : Leads LeftAlone (evaluator.decide (features layers) feature context override) :=
      decide_leads LeftAlone.refl LeftAlone.trans (fun _ read => Layered.leftAlone_of_read layers read) readers
        feature context given
    have decided := LeftAlone.trans _ _ _ looked (deciding moment _)
    rw [perform_evaluate reads]
    exact ⟨decided.store, decided.online, congrArg (· ++ _) decided.submitted⟩

/-- An evaluation that creates a feature creates it after the read. -/
theorem perform_evaluate_of_creates (creates : evaluator.Creates layers layered moment id) :
    (evaluator.evaluate (features layers) id context override).perform moment layered =
      (createMissing (features layers) id).perform moment
        ((features layers (.store (.read id))).perform moment layered).2 := by
  obtain ⟨auto, fault, reads, notFound⟩ := creates
  rw [perform_evaluate_unread reads, notFound, auto]
  rfl

/-- What a creation makes of a missing feature, after the read that reported it missing. -/
theorem create_of_creates (creates : evaluator.Creates layers layered moment id) :
    let feature := Feature.new id moment.wall
    let looked := ((features layers (.store (.read id))).perform moment layered).2
    let made := (features layers (.store (.create feature))).perform moment looked
    made.1 = checkIdentifier id ∧ made.2.backend.online = layered.backend.online ∧
      (checkIdentifier id = .ok () → made.2.backend.store = layered.backend.store.insert feature) := by
  intro feature looked made
  obtain ⟨_, online, absent⟩ := Layered.missing_iff.mp creates.2
  have alone : LeftAlone layered looked := Layered.leftAlone_of_single_read layers id moment layered
  have unstored : looked.backend.store.find? feature.id = none := by
    rw [alone.store]
    exact absent
  obtain ⟨outcome, stays, kept⟩ := Layered.create_of_absent layers moment
    (alone.online.trans online) unstored
  rw [Feature.check_new, alone.store] at kept
  exact ⟨outcome.trans (Feature.check_new id moment.wall), stays.trans alone.online, kept⟩

/-- **A missing feature is created disabled** if its identifier is one. -/
theorem createdBlank_of_creates (creates : evaluator.Creates layers layered moment id)
    (valid : isIdentifier id = true) :
    let evaluated := (evaluator.evaluate (features layers) id context override).perform moment layered
    evaluated.1 = .ok (.off id .autoCreated) ∧
      CreatedBlank layers id (Feature.new id moment.wall) layered evaluated.2 := by
  obtain ⟨outcome, online, store⟩ := create_of_creates creates
  rw [checkIdentifier_eq_ok.mpr valid] at outcome store
  have looked := Layered.leftAlone_of_single_read layers id moment layered
  dsimp only
  rw [perform_evaluate_of_creates creates, perform_createMissing, outcome]
  refine ⟨rfl, rfl, rfl, rfl, rfl, rfl, rfl, (Layered.missing_iff.mp creates.2).2.2, store rfl, online, ?_⟩
  rw [Layered.submitted_create outcome]
  exact congrArg (· ++ _) looked.submitted

/-- A feature that was created is what its copy holds, if there is one. -/
theorem coherentAt_of_creates (keyed : layered.backend.store.Keyed)
    (creates : evaluator.Creates layers layered moment id) (valid : isIdentifier id = true) :
    Layered.CoherentAt layers id
      ((evaluator.evaluate (features layers) id context override).perform moment layered).2 := by
  obtain ⟨outcome, _, _⟩ := create_of_creates creates
  rw [checkIdentifier_eq_ok.mpr valid] at outcome
  obtain ⟨uncopied, _, absent⟩ := Layered.missing_iff.mp creates.2
  have looked := Layered.leftAlone_of_single_read layers id moment layered
  have gone := (Layered.cache_of_vain_read uncopied fun _ => absent).1
  rw [perform_evaluate_of_creates creates, perform_createMissing, outcome]
  refine Layered.coherentAt_features layers id _ moment _ ⟨?_, fun used entry held => ?_⟩
  · exact looked.store.symm ▸ keyed
  · exact nomatch (gone used).symm.trans held

/-- **No feature is created** if its identifier is none. -/
theorem refused_of_creates (creates : evaluator.Creates layers layered moment id)
    (invalid : isIdentifier id = false) :
    let evaluated := (evaluator.evaluate (features layers) id context override).perform moment layered
    evaluated.1 = .error (.invalidIdentifier id) ∧ Layered.Undisturbed moment layered evaluated.2 := by
  obtain ⟨outcome, _, _⟩ := create_of_creates creates
  have refused : checkIdentifier id = .error (.invalidIdentifier id) := by
    unfold checkIdentifier
    rw [invalid]
    rfl
  rw [refused] at outcome
  obtain ⟨uncopied, _, absent⟩ := Layered.missing_iff.mp creates.2
  have looked := Layered.undisturbed_of_vain_read uncopied fun _ => absent
  have answered : ¬FeatureCall.FromCopy (.store (.create (Feature.new id moment.wall))) := fun copy => copy
  have untouched := Layered.features_atomic layers answered moment _ _ outcome
  dsimp only
  rw [perform_evaluate_of_creates creates, perform_createMissing, outcome]
  refine ⟨rfl, ⟨untouched.1.1.trans looked.store, untouched.1.2.trans looked.online,
    untouched.2.2.trans looked.submitted⟩, ?_⟩
  exact (congrArg (Cache.live · moment.clock) untouched.2.1).trans looked.live

/-- **A feature without a copy cannot be had** while the store is offline. -/
theorem refused_of_offline (offline : layered.backend.online = false)
    (uncopied : Layered.copy? layers layered moment.clock id = none) :
    let evaluated := (evaluator.evaluate (features layers) id context override).perform moment layered
    evaluated.1 = .error Backend.offline ∧ Layered.Undisturbed moment layered evaluated.2 := by
  have reads : ((features layers (.store (.read id))).perform moment layered).1 = .error Backend.offline := by
    rw [Layered.outcome_read]
    unfold Layered.search
    rw [uncopied, offline]
    rfl
  dsimp only
  rw [perform_evaluate_unread reads]
  exact ⟨rfl, Layered.undisturbed_of_vain_read uncopied fun online => nomatch offline.symm.trans online⟩

end Layers

end Evaluator

/-! ### While a feature is neither changed nor removed -/

namespace Layered

variable {layers : Layers} {start later : Layered Feature FeatureNotice} {id : String} {feature : Feature}

/-- What comes of a repository while a feature is neither changed nor removed: features are evaluated by strategies that
only read, other operations leave the feature as it is, the cache is reloaded or drops entries, and the store goes
offline or online or is changed elsewhere. -/
inductive Spares (layers : Layers) (id : String) (start : Layered Feature FeatureNotice) :
    Layered Feature FeatureNotice → Prop
  | refl : Spares layers id start start
  | evaluate {layered : Layered Feature FeatureNotice} (spared : Spares layers id start layered)
    {evaluator : Evaluator} (readers : evaluator.Asks FeatureCall.IsRead) {override : Option Strategy}
    (given : ∀ strategy, override = some strategy → strategy.Asks FeatureCall.IsRead) (moment : Moment)
    (other : String) (context : Context) :
    Spares layers id start ((evaluator.evaluate (features layers) other context override).perform moment layered).2
  | operation {layered : Layered Feature FeatureNotice} (spared : Spares layers id start layered)
    (moment : Moment) (operation : FeatureOperation)
    (kept : ((FeatureOperation.through layers operation).perform moment layered).2.backend.store.find? id =
      layered.backend.store.find? id) :
    Spares layers id start ((FeatureOperation.through layers operation).perform moment layered).2
  | reload {layered : Layered Feature FeatureNotice} (spared : Spares layers id start layered) (moment : Moment) :
    Spares layers id start ((belowNotices (Caching.reload Backend.handle)).perform moment layered).2
  | aside {layered : Layered Feature FeatureNotice} (spared : Spares layers id start layered)
    {cache : Cache Feature} (within : cache.Within layered.cache) {backend : Backend Feature}
    (keyed : backend.store.Keyed) (kept : backend.store.find? id = layered.backend.store.find? id)
    (submitted : List FeatureNotice) :
    Spares layers id start ⟨submitted, cache, backend⟩

/-- An evaluation by strategies that only read takes away no feature and changes none. -/
theorem stored_of_evaluate {layered : Layered Feature FeatureNotice}
    (stored : layered.backend.store.find? id = some feature) {evaluator : Evaluator}
    (readers : evaluator.Asks FeatureCall.IsRead) {override : Option Strategy}
    (given : ∀ strategy, override = some strategy → strategy.Asks FeatureCall.IsRead) (moment : Moment)
    (other : String) (context : Context) :
    ((FeatureOperation.through layers (.evaluate evaluator other context override)).perform moment
      layered).2.backend.store.find? id = some feature := by
  by_cases creates : evaluator.Creates layers layered moment other
  · cases valid : isIdentifier other with
    | false => exact (Evaluator.refused_of_creates creates valid).2.store.symm ▸ stored
    | true =>
      have blank : CreatedBlank layers other (Feature.new other moment.wall) layered
          ((FeatureOperation.through layers (.evaluate evaluator other context override)).perform moment layered).2 :=
        (Evaluator.createdBlank_of_creates creates valid).2
      have differs : Entity.id (Feature.new other moment.wall) ≠ id := by
        rintro rfl
        exact nomatch blank.absent.symm.trans stored
      rw [blank.store, Store.find?_insert, if_neg differs]
      exact stored
  · exact (Evaluator.onlyReports_of_not_creates readers given creates).store.symm ▸ stored

/-- **A spared feature stays as it is**, and so does its copy. -/
theorem Spares.kept (spared : Spares layers id start later) (coherent : CoherentAt layers id start)
    (stored : start.backend.store.find? id = some feature) :
    CoherentAt layers id later ∧ later.backend.store.find? id = some feature := by
  induction spared with
  | refl => exact ⟨coherent, stored⟩
  | evaluate _ readers given moment other context kept =>
    exact ⟨coherentAt_operation layers id (.evaluate _ other context _) moment _ kept.1,
      stored_of_evaluate kept.2 readers given moment other context⟩
  | operation _ moment operation same kept =>
    exact ⟨coherentAt_operation layers id operation moment _ kept.1, same.trans kept.2⟩
  | reload _ moment kept =>
    exact ⟨kept.1.reload moment, (store_reload _ moment).symm ▸ kept.2⟩
  | aside _ within keyed same submitted kept =>
    exact ⟨⟨keyed, fun used entry held => same.trans (kept.1.copies used entry (within id entry held))⟩,
      same.trans kept.2⟩

end Layered

/-! ### Reading and creating -/

namespace Evaluator

open Layered (features CreatedBlank Spares Undisturbed copy?)

/-- **Evaluations read, and create what is missing.** In every state of a repository whose store keeps features under
their own identifiers, as it does in every state that a repository can reach, and for every evaluator and override whose
strategies only read:

* a check does what an evaluation without an override does;
* unless a single read reports that the feature is missing and the evaluator creates missing features, an evaluation
  leaves what is stored and submits nothing but the use of a feature that is on;
* otherwise, if the identifier is one, a disabled feature with nothing set is created and reported, nothing else
  changes, and the answer is that it was created; from then on, as long as the feature is spared and whenever the store
  is online, every evaluation, at whatever moment, answers that it is disabled, stores nothing and submits nothing;
* if the identifier is none, the evaluation fails and changes nothing;
* if the store is offline and no copy is alive, the evaluation fails and changes nothing. -/
theorem evaluations_read_or_create (layers : Layers) {layered : Layered Feature FeatureNotice}
    (keyed : layered.backend.store.Keyed) {evaluator : Evaluator} (readers : evaluator.Asks FeatureCall.IsRead)
    {override : Option Strategy}
    (given : ∀ strategy, override = some strategy → strategy.Asks FeatureCall.IsRead) (moment : Moment) (id : String)
    (context : Context) :
    let evaluated := (evaluator.evaluate (features layers) id context override).perform moment layered
    let creates := evaluator.Creates layers layered moment id
    ((evaluator.check (features layers) id context).perform moment layered =
      (((evaluator.evaluate (features layers) id context none).perform moment layered).1.map Decision.enabled,
        ((evaluator.evaluate (features layers) id context none).perform moment layered).2)) ∧
    (¬creates → OnlyReports evaluator id context layered evaluated) ∧
    (creates → isIdentifier id = true →
      evaluated.1 = .ok (.off id .autoCreated) ∧
      (∃ created, CreatedBlank layers id created layered evaluated.2) ∧
      ∀ later, Spares layers id evaluated.2 later → later.backend.online = true →
        ∀ (other : Evaluator) context override moment,
          Rests (other.evaluate (features layers) id context override) moment later (.off id .disabled)) ∧
    (creates → isIdentifier id = false →
      evaluated.1 = .error (.invalidIdentifier id) ∧ Undisturbed moment layered evaluated.2) ∧
    (layered.backend.online = false → copy? layers layered moment.clock id = none →
      evaluated.1 = .error Backend.offline ∧ Undisturbed moment layered evaluated.2) := by
  intro evaluated creates
  refine ⟨perform_check, onlyReports_of_not_creates readers given, fun creates valid => ?_, refused_of_creates,
    refused_of_offline⟩
  obtain ⟨outcome, blank⟩ := createdBlank_of_creates creates valid
  refine ⟨outcome, ⟨_, blank⟩, fun later spared online other context override moment => ?_⟩
  obtain ⟨coherent, stored⟩ := spared.kept (coherentAt_of_creates keyed creates valid) blank.kept
  exact rests_of_barred (coherent.reads online stored moment) rfl other override

/-- A ghost is created disabled; after the lamp was evaluated and the copy of the ghost has expired it is still disabled.
What is no identifier is not created. -/
theorem evaluations_read_or_create_ghost :
    let store := Store.empty.insert { Feature.new "lamp" .epoch with enabled := true }
    let layered : Layered Feature FeatureNotice := Layered.new store 10 4 (fun _ => 0)
    let evaluator : Evaluator := { strategies := Catalogue.registry, autoCreate := true }
    let evaluate := fun id => evaluator.evaluate (features Layered.allLayers) id .empty none
    let haunted := (evaluate "ghost").perform ⟨1, .epoch⟩ layered
    let lit := (evaluate "lamp").perform ⟨2, .epoch⟩ haunted.2
    layered.backend.store.Keyed ∧ evaluator.Asks FeatureCall.IsRead ∧
      evaluator.Creates Layered.allLayers layered ⟨1, .epoch⟩ "ghost" ∧
      haunted.1 = .ok (.off "ghost" .autoCreated) ∧
      lit.1 = .ok ⟨"lamp", true, .enabled⟩ ∧
      Rests (evaluate "ghost") ⟨20, .epoch⟩ lit.2 (.off "ghost" .disabled) ∧
      ((evaluate "no ghost").perform ⟨1, .epoch⟩ layered).1 = .error (.invalidIdentifier "no ghost") := by
  intro store layered evaluator evaluate haunted lit
  have keyed : layered.backend.store.Keyed := Store.keyed_empty.insert _
  have readers : evaluator.Asks FeatureCall.IsRead := Catalogue.registry_asks.evaluator
  have creates : ∀ id, id ≠ "lamp" → evaluator.Creates Layered.allLayers layered ⟨1, .epoch⟩ id := by
    intro id differs
    have absent : store.find? id = none := by
      dsimp only [store]
      rw [Store.find?_insert, if_neg fun same => differs same.symm]
      rfl
    exact ⟨rfl, Layered.missing_iff.mpr ⟨rfl, rfl, absent⟩⟩
  have given : ∀ strategy : Strategy, none = some strategy → strategy.Asks FeatureCall.IsRead := nofun
  obtain ⟨_, _, makes, _⟩ :=
    evaluations_read_or_create Layered.allLayers keyed readers given ⟨1, .epoch⟩ "ghost" .empty
  obtain ⟨outcome, _, rests⟩ := makes (creates "ghost" (by decide)) (by decide)
  obtain ⟨_, _, _, refuses, _⟩ :=
    evaluations_read_or_create Layered.allLayers keyed readers given ⟨1, .epoch⟩ "no ghost" .empty
  have spared : Spares Layered.allLayers "ghost" haunted.2 lit.2 :=
    .evaluate .refl readers given ⟨2, .epoch⟩ "lamp" .empty
  have lights : lit.1 = .ok ⟨"lamp", true, .enabled⟩ := by
    dsimp only [lit, haunted, evaluate, layered, store, evaluator]
    rfl
  have online : lit.2.below.below.online = true := by
    dsimp only [lit, haunted, evaluate, layered, store, evaluator]
    rfl
  exact ⟨keyed, readers, creates "ghost" (by decide), outcome, lights,
    rests lit.2 spared online evaluator .empty none ⟨20, .epoch⟩,
    (refuses (creates "no ghost" (by decide)) (by decide)).1⟩

end Evaluator

end Switchboard
