/-
**Stores that stay online.**

Nothing but a call that is made for it takes a store offline or online.

* `CollectionCall.online` — a call that leaves a store online where the given one might not.
* `Layered.online_features`, `Layered.online_properties` — the calls of a repository leave its store online, through
  all layers.
* `Collection.online_handle`, `Collection.online_run` — so do the calls of a collection, and what is due.
-/

import Switchboard.Board.Collection
import Switchboard.Proofs.Caching.Reload
import Switchboard.Proofs.Layered.Coherent

namespace Switchboard

open Act

/-- The same call on a store that never fails. -/
def CollectionCall.online {C : Type} : CollectionCall C → CollectionCall C
  | setOnline _ => setOnline true
  | other => other

/-! ### Repositories -/

/-- The store of a repository is online. -/
def Layered.IsOnline {E N : Type} (layered : Layered E N) : Prop := layered.backend.online = true

/-- No call takes a store offline, be there a cache in front of it or not. -/
theorem Caching.online_either {E C : Type} [Entity E] {Reply : C → Type}
    {decorated : Handler Reply (Cached E (Backend E))} {plain : Handler Reply (Backend E)}
    {kept : Handler Reply (Store E)} (answers : Backend.Answers plain kept)
    (transparent : ∀ call, Transparent (decorated call) (plain call)) (present : Bool) (call : C) :
    Keeps (fun cached : Cached E (Backend E) => cached.below.online = true)
      ((if present then decorated else Bypassing.handle plain) call) := by
  intro moment cached online
  split
  · exact (online_above answers transparent call moment cached).trans online
  · exact (answers.online_perform call moment cached.below).trans online

/-- No call of features takes a store offline. -/
theorem Layered.online_features (layers : Layers) (call : FeatureCall) : Keeps IsOnline (features layers call) := by
  have inner := Caching.online_either Backend.features_answers Caching.transparent_features layers.cached
  unfold features
  split
  · exact Notifying.features_keeps inner call
  · exact fun moment layered online => inner call moment layered.below online

/-- **What the calls below keep, the calls with notices keep.** -/
theorem Notifying.properties_keeps {σ : Type} {kept : σ → Prop} {inner : PropertyHandler σ}
    (keeps : ∀ call, Keeps kept (inner call)) (call : PropertyCall) :
    Keeps (fun state => kept state.below) (properties inner call) := by
  intro moment state holds
  have same : Handler.AgreeOn (fun _ => True) (fun state state' => state' = state ∧ kept state) inner inner :=
    fun call _ => (keeps call).agree
  have agree : Agree (Notified.Alike [] [] _) (properties inner call) (properties inner call) :=
    properties_agree same (fun _ _ => trivial) (fun _ _ _ => trivial) trivial
  exact (agree moment state state ⟨⟨state.submitted, rfl, rfl⟩, rfl, holds⟩).2.2.2

/-- No call of properties takes a store offline. -/
theorem Layered.online_properties (layers : Layers) (call : PropertyCall) :
    Keeps IsOnline (properties layers call) := by
  have inner := Caching.online_either Backend.properties_answers Caching.transparent_properties layers.cached
  unfold properties
  split
  · exact Notifying.properties_keeps inner call
  · exact fun moment layered online => inner call moment layered.below online

/-! ### Collections -/

namespace Collection

variable {E N C α : Type} [Entity E] {Reply : C → Type} {layered : Layers → Handler Reply (Layered E N)}
  {plain : Handler Reply (Backend E)}

/-- The store of a collection is online. -/
def IsOnline (collection : Collection E N) : Prop := collection.layered.IsOnline

omit [Entity E] in
theorem online_onLayered {action : Act (Layered E N) α} (keeps : Keeps Layered.IsOnline action) :
    Keeps IsOnline (onLayered action) :=
  keeps.onPart (fun _ online => online) fun _ _ _ online => online

omit [Entity E] in
theorem online_tally (change : RefreshStats → RefreshStats) : Keeps (IsOnline (E := E) (N := N)) (tally change) :=
  fun _ _ online => online

theorem online_refresh : Keeps (IsOnline (E := E) (N := N)) refresh := by
  have reloaded : Keeps (IsOnline (E := E) (N := N))
      (onLayered (Layered.belowNotices (Caching.reload Backend.handle))).attempt := by
    refine (online_onLayered fun moment layered online => ?_).attempt
    show ((Caching.reload Backend.handle).perform moment layered.below).2.below.online = true
    rw [Caching.below_reload, Backend.online_counted]
    exact online
  refine reloaded.bind fun outcome => ?_
  cases outcome with
  | ok loaded =>
    refine Keeps.bind (fun _ _ online => online) fun now => ?_
    exact (online_tally _).bind fun _ => .pure _
  | error fault => exact (online_tally _).bind fun _ _ _ online => online

omit [Entity E] in
theorem online_turnRefresher (turn : Nat → Periodic → Bool × Periodic) :
    Keeps (IsOnline (E := E) (N := N)) (turnRefresher turn) := by
  refine Keeps.bind (fun _ _ online => online) fun clock moment collection online => ?_
  rw [perform_modifyGet]
  dsimp only
  split <;> exact online

omit [Entity E] in
theorem online_turnSweeper (turn : Nat → Periodic → Bool × Periodic) :
    Keeps (IsOnline (E := E) (N := N)) (turnSweeper turn) := by
  refine Keeps.bind (fun _ _ online => online) fun clock moment collection online => ?_
  rw [perform_modifyGet]
  dsimp only
  split <;> exact online

/-- **A store that is not taken offline stays online**, whatever else is asked of its collection. -/
theorem online_handle (above : ∀ layers call, Keeps Layered.IsOnline (layered layers call))
    (below : ∀ call, Keeps (fun backend => backend.online = true) (plain call)) (call : CollectionCall C) :
    Keeps IsOnline (handle layered plain call.online) := by
  cases call with
  | call call =>
    refine Keeps.get_bind fun moment collection online => ?_
    exact online_onLayered (above collection.layers call) moment collection online
  | direct call => exact online_onLayered fun moment layered online => below call moment layered.backend online
  | setOnline online => exact online_onLayered fun _ _ _ => rfl
  | clearCache => exact online_onLayered fun _ _ online => online
  | refresh => exact online_refresh
  | startRefreshing => exact online_turnRefresher started
  | stopRefreshing => exact online_turnRefresher stopped
  | startSweeping => exact online_turnSweeper started
  | stopSweeping => exact online_turnSweeper stopped
  | register | unregister => exact fun _ _ online => online

omit [Entity E] in
theorem online_sweep : Keeps (IsOnline (E := E) (N := N)) sweep := online_onLayered fun _ _ online => online

omit [Entity E] in
theorem online_repeatedly {action : Act (Collection E N) α} (keeps : Keeps IsOnline action) (times : Nat)
    (moment : Moment) {collection : Collection E N} (online : collection.IsOnline) :
    (repeatedly action times moment collection).IsOnline :=
  repeat_keeps IsOnline (fun state => keeps moment state) online times

theorem online_run (moment : Moment) {collection : Collection E N} (online : collection.IsOnline) :
    (collection.run moment).IsOnline := by
  have refreshed : (collection.runRefresher moment).IsOnline := by
    unfold runRefresher
    split
    · exact online
    · exact online_repeatedly online_refresh _ moment online
  unfold run runSweeper
  split
  · exact refreshed
  · exact online_repeatedly online_sweep _ moment refreshed

end Collection

end Switchboard
