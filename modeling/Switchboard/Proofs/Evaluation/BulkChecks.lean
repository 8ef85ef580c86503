/-
**Checks of all features agree with single checks.**

A check of all features reads the store past the cache, while single checks and strategies read through it.

* `Layered.Reachable` — the repositories that come to be through their layers: by operations, reloads of the
  cache and entries that it drops, and the store going offline and online. All of them are coherent.
* `Layered.Mirrors.check`, `Layered.Mirrors.checkAll` — single checks and checks of all features give what the
  store by itself says.
* `Layered.bulk_checks_agree` — a check of all features answers for a feature what a single check answers.
-/

import Switchboard.Proofs.Layered.Reads

namespace Switchboard

open Act

/-! ### Repositories that come to be through their layers -/

namespace Layered

variable {layers : Layers} {layered : Layered Feature FeatureNotice} {store : Store Feature}

/-- The repositories that come to be from a new one by operations through its layers, while its cache is
reloaded or drops entries and its store goes offline and online. -/
inductive Reachable (layers : Layers) : Layered Feature FeatureNotice → Prop
  | new {store : Store Feature} (keyed : store.Keyed) (lifetime maxEntries : Nat) (ties : Nat → Nat) :
    Reachable layers (Layered.new store lifetime maxEntries ties)
  | operation {layered : Layered Feature FeatureNotice} (reached : Reachable layers layered)
    (moment : Moment) (operation : FeatureOperation) :
    Reachable layers ((FeatureOperation.through layers operation).perform moment layered).2
  | reload {layered : Layered Feature FeatureNotice} (reached : Reachable layers layered) (moment : Moment) :
    Reachable layers ((belowNotices (Caching.reload Backend.handle)).perform moment layered).2
  | drop {layered : Layered Feature FeatureNotice} (reached : Reachable layers layered)
    {cache : Cache Feature} (within : cache.Within layered.cache) :
    Reachable layers { layered with below := { layered.below with cache } }
  | setOnline {layered : Layered Feature FeatureNotice} (reached : Reachable layers layered)
    (online : Bool) :
    Reachable layers
      { layered with below := { layered.below with below := { layered.backend with online } } }

/-- A reload leaves what is stored. -/
theorem store_reload (layered : Layered Feature FeatureNotice) (moment : Moment) :
    ((belowNotices (Caching.reload Backend.handle)).perform moment layered).2.backend.store =
      layered.backend.store := by
  show ((Caching.reload Backend.handle).perform moment layered.below).2.below.store = _
  rw [Caching.below_reload, Backend.store_counted]
  rfl

/-- A reload keeps a repository coherent under every identifier. -/
theorem CoherentAt.reload {id : String} (coherent : CoherentAt layers id layered) (moment : Moment) :
    CoherentAt layers id ((belowNotices (Caching.reload Backend.handle)).perform moment layered).2 := by
  have kept := store_reload layered moment
  constructor
  · exact kept.symm ▸ coherent.keyed
  · intro used entry held
    refine (congrArg (fun store => store.find? id) kept).trans ?_
    rcases Caching.entry_of_reload coherent.keyed held with ⟨old, _⟩ | ⟨_, _, stored⟩
    · exact coherent.copies used entry old
    · exact stored

/-- A reload keeps a repository coherent. -/
theorem Coherent.reload (coherent : Coherent layers layered) (moment : Moment) :
    Coherent layers ((belowNotices (Caching.reload Backend.handle)).perform moment layered).2 :=
  Cached.coherent_iff.mpr fun id => CoherentAt.reload (Cached.coherent_iff.mp coherent id) moment

/-- **Every operation keeps a repository coherent under every identifier.** -/
theorem coherentAt_operation (layers : Layers) (id : String) (operation : FeatureOperation) :
    Keeps (CoherentAt layers id) (FeatureOperation.through layers operation) :=
  operation_leads (fun _ coherent => coherent) (fun _ _ _ early late coherent => late (early coherent))
    (coherentAt_features layers id) (fun _ _ _ _ coherent => coherent) operation

/-- **Every operation keeps a repository coherent.** -/
theorem coherent_operation (layers : Layers) (operation : FeatureOperation) :
    Keeps (Coherent layers) (FeatureOperation.through layers operation) :=
  fun moment layered coherent => Cached.coherent_iff.mpr fun id =>
    coherentAt_operation layers id operation moment layered (Cached.coherent_iff.mp coherent id)

/-- **A repository that came to be through its layers is coherent.** -/
theorem Reachable.coherent (reached : Reachable layers layered) : Coherent layers layered := by
  induction reached with
  | new keyed lifetime maxEntries ties =>
    refine ⟨keyed, fun _ id entry held => ?_⟩
    have missing : (∅ : Table (CacheEntry Feature))[id]? = none := Std.ExtTreeMap.getElem?_empty
    exact nomatch missing.symm.trans held
  | operation reached moment operation coherent =>
    exact coherent_operation layers operation moment _ coherent
  | reload reached moment coherent => exact coherent.reload moment
  | drop reached within coherent =>
    exact ⟨coherent.keyed, fun used id entry held => coherent.copies used id entry (within id entry held)⟩
  | setOnline reached online coherent => exact ⟨coherent.keyed, coherent.copies⟩

/-! ### Checks -/

namespace Mirrors

/-- **A single check of a stored feature** gives the verdict of the store by itself. -/
theorem check (mirrors : Mirrors layers layered store) (evaluator : Evaluator) {id : String}
    {feature : Feature} (stored : store.find? id = some feature) (context : Context) (moment : Moment) :
    ((evaluator.check (features layers) id context).perform moment layered).1 =
      evaluator.verdict (Repository.features Store.handle) context moment store feature := by
  obtain ⟨read, kept⟩ := features_mirror layers (.store (.read id)) moment layered store mirrors
  have reading : (Repository.features Store.handle (.store (.read id))).perform moment store =
    (found id (store.find? id), store) := Repository.perform_fetch id
  rw [reading] at read kept
  rw [stored] at read
  have decided :=
    (Evaluator.decide_agree (features_mirror layers) evaluator feature context none moment _ _ kept).1
  unfold Evaluator.check Evaluator.evaluate Evaluator.verdict
  rw [perform_bind, perform_bind, perform_attempt, read]
  dsimp only [found]
  rw [perform_bind, decided]
  cases ((evaluator.decide (Repository.features Store.handle) feature context none).perform moment
      store).1 with
  | error fault => rfl
  | ok decision =>
    dsimp only
    cases decision.enabled && evaluator.notifies <;> rfl

/-- **A check of all features** gives the verdicts of the store by itself and leaves it as it was. -/
theorem checkAll (mirrors : Mirrors layers layered store) {evaluator : Evaluator}
    (readers : evaluator.Asks FeatureCall.IsRead) (context : Context) (moment : Moment) :
    let bulk := (evaluator.checkAll (features layers) context).perform moment layered
    bulk.1 = .ok (Evaluator.answered
        (evaluator.verdict (Repository.features Store.handle) context moment store) store.toList) ∧
      Mirrors layers bulk.2 store := by
  have looks := fun feature => Evaluator.decide_looks_of_readers readers feature context
  have bare : (evaluator.checkAll (Repository.features Store.handle) context).perform moment store =
      (.ok (Evaluator.answered
        (evaluator.verdict (Repository.features Store.handle) context moment store) store.toList), store) := by
    have listing : (Repository.features Store.handle (.store .all)).perform moment store =
      (.ok store.toList, store) := Repository.perform_all store
    unfold Evaluator.checkAll
    rw [perform_bind, listing]
    exact Evaluator.perform_answers looks moment store store.toList
  have agree := Evaluator.checkAll_agree (features_mirror layers) evaluator context moment layered store mirrors
  rw [bare] at agree
  exact agree

/-- **An answer of a check of all features** is what a single check answers, at whatever moment. -/
theorem answered_iff (mirrors : Mirrors layers layered store) {evaluator : Evaluator}
    (readers : evaluator.Asks FeatureCall.IsRead) (context : Context) (moment later : Moment) (id : String)
    (enabled : Bool) :
    let verdict := evaluator.verdict (Repository.features Store.handle) context moment store
    (Evaluator.answered verdict store.toList)[id]? = some enabled ↔
      (store.find? id).isSome ∧
        ((evaluator.check (features layers) id context).perform later layered).1 = .ok enabled := by
  intro verdict
  have keyed : store.Keyed := mirrors.store ▸ mirrors.coherent.keyed
  have distinct : store.toList.Pairwise fun first second => first.id ≠ second.id := keyed.distinct
  have single : ∀ {id feature}, store.find? id = some feature →
      ((evaluator.check (features layers) id context).perform later layered).1 = verdict feature :=
    fun {_ feature} found => (mirrors.check evaluator found context later).trans
      (Evaluator.verdict_eq (Evaluator.decide_looks_of_readers readers feature context) later moment store)
  refine (Evaluator.getElem?_answered distinct).trans ⟨?_, ?_⟩
  · rintro ⟨feature, listed, rfl, said⟩
    have found := keyed.find?_of_mem listed
    exact ⟨Option.isSome_of_eq_some found, (single found).trans said⟩
  · rintro ⟨stored, said⟩
    obtain ⟨feature, found⟩ := Option.isSome_iff_exists.mp stored
    have listed := Store.mem_toList.mpr ⟨id, found⟩
    exact ⟨feature, listed, keyed id feature found, (single found).symm.trans said⟩

end Mirrors

/-- **Checks of all features agree with single checks.** In every state that a repository can reach through
its layers, with its store online, and for every evaluator whose strategies only read: a check of all features
answers for exactly the stored features that a single check answers for, at whatever moment, and answers the
same; it leaves out exactly the stored features whose check fails. It submits nothing and leaves the store as
it was. -/
theorem bulk_checks_agree (reached : Reachable layers layered) (online : layered.backend.online = true)
    {evaluator : Evaluator} (readers : evaluator.Asks FeatureCall.IsRead) (context : Context)
    (moment later : Moment) :
    let bulk := (evaluator.checkAll (features layers) context).perform moment layered
    let check := fun id => ((evaluator.check (features layers) id context).perform later layered).1
    (∃ answers : Table Bool, bulk.1 = .ok answers ∧
        (∀ (id : String) enabled, answers[id]? = some enabled ↔
          (layered.backend.store.find? id).isSome ∧ check id = .ok enabled) ∧
        ∀ id : String, (layered.backend.store.find? id).isSome →
          (answers[id]? = none ↔ ∃ fault, check id = .error fault)) ∧
      bulk.2.submitted = layered.submitted ∧ Backend.Alike bulk.2.backend layered.backend := by
  intro bulk check
  have mirrors : Mirrors layers layered layered.backend.store := ⟨rfl, online, reached.coherent⟩
  obtain ⟨answered, after⟩ := mirrors.checkAll readers context moment
  have agree := mirrors.answered_iff readers context moment later
  have quiet : Leads Quietly (evaluator.checkAll (features layers) context) :=
    Evaluator.checkAll_leads Quietly.refl Quietly.trans (fun _ read => quietly_read_through layers read)
      readers rfl context
  refine ⟨⟨_, answered, agree, fun id stored => ⟨fun missing => ?_, ?_⟩⟩, quiet moment layered, after.store,
    after.online.trans online.symm⟩
  · cases said : check id with
    | error fault => exact ⟨fault, rfl⟩
    | ok enabled => exact nomatch missing.symm.trans ((agree id enabled).mpr ⟨stored, said⟩)
  · rintro ⟨fault, fails⟩
    refine Option.eq_none_iff_forall_ne_some.mpr fun enabled answer => ?_
    exact nomatch fails.symm.trans ((agree id enabled).mp answer).2

/-- The lamp was read and then switched off; the mirror depends on it, and the strategy of the bell is unknown. -/
theorem bulk_checks_agree_on_lamp :
    let feature := fun id strategy => { Feature.new id .epoch with enabled := true, strategy }
    let lampIsOn : StrategyConfig := ⟨"depends_on", (∅ : Table String).insert "feature" "lamp"⟩
    let store := ((Store.empty.insert (feature "lamp" none)).insert (feature "mirror" (some lampIsOn))).insert
      (feature "bell" (some ⟨"nobody", ∅⟩))
    let evaluator : Evaluator := { strategies := Catalogue.registry }
    let through := FeatureOperation.through allLayers
    let read := ((through (.ask (.store (.find "lamp")))).perform ⟨1, .epoch⟩ (Layered.new store 10 4 (fun _ => 0))).2
    let after := ((through (.ask (.setEnabled "lamp" false))).perform ⟨2, .epoch⟩ read).2
    let bulk := (evaluator.checkAll (features allLayers) .empty).perform ⟨3, .epoch⟩ after
    let check := fun id => ((evaluator.check (features allLayers) id .empty).perform ⟨4, .epoch⟩ after).1
    Reachable allLayers after ∧ after.backend.online = true ∧ evaluator.Asks FeatureCall.IsRead ∧
      (∃ answers : Table Bool, bulk.1 = .ok answers ∧
        answers.toList = [("lamp", false), ("mirror", false)] ∧ check "mirror" = .ok false ∧
        check "bell" = .error (.invalidStrategy "nobody" "no strategy registered under this type") ∧
        answers["bell"]? = none) ∧
      bulk.2.submitted = after.submitted ∧ Backend.Alike bulk.2.backend after.backend := by
  intro feature lampIsOn store evaluator through read after bulk check
  have keyed : store.Keyed := ((Store.keyed_empty.insert _).insert _).insert _
  have reached : Reachable allLayers after :=
    ((Reachable.new keyed 10 4 _).operation ⟨1, .epoch⟩ _).operation ⟨2, .epoch⟩ _
  have online : after.backend.online = true := by
    dsimp only [after, read, through, store, feature, lampIsOn]
    rfl
  have readers : evaluator.Asks FeatureCall.IsRead := Catalogue.registry_asks.evaluator
  obtain ⟨⟨answers, answered, agree, leftOut⟩, quiet, alike⟩ :=
    bulk_checks_agree reached online readers .empty ⟨3, .epoch⟩ ⟨4, .epoch⟩
  have table : bulk.1.map (·.toList) = .ok [("lamp", false), ("mirror", false)] := by
    dsimp only [bulk, after, read, through, store, feature, lampIsOn, evaluator]
    rfl
  have stored : (after.backend.store.find? "bell").isSome := by
    dsimp only [after, read, through, store, feature, lampIsOn]
    rfl
  have unknown : check "bell" =
      .error (.invalidStrategy "nobody" "no strategy registered under this type") := by
    dsimp only [check, after, read, through, store, feature, lampIsOn, evaluator]
    rfl
  have listed : answers.toList = [("lamp", false), ("mirror", false)] := by
    rw [answered] at table
    exact Except.ok.inj table
  have mirror : answers["mirror"]? = some false := by
    rw [← Std.ExtTreeMap.mem_toList_iff_getElem?_eq_some, listed]
    exact List.mem_cons_of_mem _ List.mem_cons_self
  exact ⟨reached, online, readers, ⟨answers, answered, listed, ((agree _ _).mp mirror).2, unknown,
    (leftOut _ stored).mpr ⟨_, unknown⟩⟩, quiet, alike⟩

end Layered

end Switchboard
