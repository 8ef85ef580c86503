/-
**Fields of layers that are laid over each other.**

* `LayerField` — a field of layers: where two layers are merged, the upper one counts if it sets the field.
  There are fourteen of them in five sections; what is said of all of them is said once.
* `LayerField.latest` — the value of a field in the last of several layers that sets it.
* `Settings.ofLayers` — settings that take every field by itself from the last layer that sets it.
* `Layer.resolve_merged` — layers laid over each other resolve to these settings.
* `Settings.Breaks`, `Settings.check_eq` — the rules, and what a check of them finds.
-/

import Switchboard.Settings.Layer

namespace Switchboard

/-! ### Sections -/

section Sections

variable {σ α : Type} {read : σ → Option α}

/-- A field of a merged section, if it is merged in every section. -/
theorem bind_mergeSection {merge : σ → σ → σ}
    (merges : ∀ base upper, read (merge base upper) = (read upper).or (read base))
    (base upper : Option σ) :
    (mergeSection merge base upper).bind read = (upper.bind read).or (base.bind read) := by
  cases base with
  | none => cases upper <;> simp [mergeSection]
  | some base =>
    cases upper with
    | none => simp [mergeSection]
    | some upper => exact merges base upper

end Sections

/-! ### Fields -/

/-- A field of layers, which a layer sets or does not. An empty layer does not set it, and of two layers the
upper one counts if it sets it. -/
structure LayerField (α : Type) where
  read : Layer → Option α
  read_empty : read {} = none
  read_merge : ∀ base upper : Layer, read (base.merge upper) = (read upper).or (read base)

namespace LayerField

variable {α : Type}

/-- A field of the section of the caches. -/
def ofCache (read : CacheLayer → Option α)
    (merges : ∀ base upper, read (base.merge upper) = (read upper).or (read base)) : LayerField α where
  read layer := layer.cache.bind read
  read_empty := rfl
  read_merge base upper := bind_mergeSection merges base.cache upper.cache

/-- A field of the section of the refreshing of caches. -/
def ofRefresh (read : RefreshLayer → Option α)
    (merges : ∀ base upper, read (base.merge upper) = (read upper).or (read base)) : LayerField α where
  read layer := layer.refresh.bind read
  read_empty := rfl
  read_merge base upper := bind_mergeSection merges base.refresh upper.refresh

/-- A field of the section of the delivery of notices. -/
def ofNotifier (read : NotifierLayer → Option α)
    (merges : ∀ base upper, read (base.merge upper) = (read upper).or (read base)) : LayerField α where
  read layer := layer.notifier.bind read
  read_empty := rfl
  read_merge base upper := bind_mergeSection merges base.notifier upper.notifier

/-- A field of the section of the evaluation of features. -/
def ofEvaluator (read : EvaluatorLayer → Option α)
    (merges : ∀ base upper, read (base.merge upper) = (read upper).or (read base)) : LayerField α where
  read layer := layer.evaluator.bind read
  read_empty := rfl
  read_merge base upper := bind_mergeSection merges base.evaluator upper.evaluator

/-- A field of the section of the log. -/
def ofLogging (read : LoggingLayer → Option α)
    (merges : ∀ base upper, read (base.merge upper) = (read upper).or (read base)) : LayerField α where
  read layer := layer.logging.bind read
  read_empty := rfl
  read_merge base upper := bind_mergeSection merges base.logging upper.logging

def cacheEnabled : LayerField Bool := ofCache CacheLayer.enabled fun _ _ => rfl
def cacheLifetime : LayerField UInt64 := ofCache CacheLayer.lifetimeMillis fun _ _ => rfl
def cacheEntries : LayerField UInt64 := ofCache CacheLayer.maxEntries fun _ _ => rfl
def cacheSweep : LayerField UInt64 := ofCache CacheLayer.sweepMillis fun _ _ => rfl
def refreshEnabled : LayerField Bool := ofRefresh RefreshLayer.enabled fun _ _ => rfl
def refreshDelay : LayerField UInt64 := ofRefresh RefreshLayer.delayMillis fun _ _ => rfl
def refreshPeriod : LayerField UInt64 := ofRefresh RefreshLayer.periodMillis fun _ _ => rfl
def notifierWorkers : LayerField UInt64 := ofNotifier NotifierLayer.workers fun _ _ => rfl
def notifierQueue : LayerField UInt64 := ofNotifier NotifierLayer.queueCapacity fun _ _ => rfl
def notifierTimeout : LayerField UInt64 := ofNotifier NotifierLayer.timeoutMillis fun _ _ => rfl
def evaluatorCreates : LayerField Bool := ofEvaluator EvaluatorLayer.autoCreate fun _ _ => rfl
def evaluatorAudits : LayerField Bool := ofEvaluator EvaluatorLayer.auditEnabled fun _ _ => rfl
def loggingLevel : LayerField String := ofLogging LoggingLayer.level fun _ _ => rfl
def loggingJson : LayerField Bool := ofLogging LoggingLayer.json fun _ _ => rfl

/-- The value of a field in the last of several layers that sets it. -/
def latest (field : LayerField α) (layers : List Layer) : Option α :=
  layers.reverse.findSome? field.read

theorem latest_cons (field : LayerField α) (first : Layer) (rest : List Layer) :
    field.latest (first :: rest) = (field.latest rest).or (field.read first) := by
  simp [latest, List.findSome?_append]

/-- **Layers that are laid over another** set a field as the last of them does that sets it, and otherwise as
the lowest one does. -/
theorem read_foldl_merge (field : LayerField α) (layers : List Layer) (base : Layer) :
    field.read (layers.foldl Layer.merge base) = (field.latest layers).or (field.read base) := by
  induction layers generalizing base with
  | nil => rfl
  | cons first rest ih =>
    calc field.read (rest.foldl Layer.merge (base.merge first))
        = (field.latest rest).or (field.read (base.merge first)) := ih _
      _ = (field.latest rest).or ((field.read first).or (field.read base)) := by rw [field.read_merge]
      _ = (field.latest (first :: rest)).or (field.read base) := by rw [latest_cons, Option.or_assoc]

theorem read_merged (field : LayerField α) (layers : List Layer) :
    field.read (layers.foldl Layer.merge {}) = field.latest layers := by
  rw [read_foldl_merge, field.read_empty, Option.or_none]

end LayerField

/-! ### Settings -/

open LayerField in
/-- The settings that take every field from the last layer that sets it, and its default if none does. -/
def Settings.ofLayers (layers : List Layer) : Settings where
  cache :=
    { enabled := (cacheEnabled.latest layers).getD true
      lifetimeMillis := (cacheLifetime.latest layers).getD 60000
      maxEntries := (cacheEntries.latest layers).getD 10000
      sweepMillis := (cacheSweep.latest layers).getD 30000 }
  refresh :=
    { enabled := (refreshEnabled.latest layers).getD true
      delayMillis := (refreshDelay.latest layers).getD 0
      periodMillis := (refreshPeriod.latest layers).getD 60000 }
  notifier :=
    { workers := (notifierWorkers.latest layers).getD 4
      queueCapacity := (notifierQueue.latest layers).getD 1024
      timeoutMillis := (notifierTimeout.latest layers).getD 5000 }
  evaluator :=
    { autoCreate := (evaluatorCreates.latest layers).getD false
      auditEnabled := (evaluatorAudits.latest layers).getD true }
  logging :=
    { level := (loggingLevel.latest layers).getD "info"
      json := (loggingJson.latest layers).getD false }

/-- **Layers laid over each other resolve field by field.** -/
theorem Layer.resolve_merged (layers : List Layer) :
    (layers.foldl Layer.merge {}).resolve = Settings.ofLayers layers := by
  unfold Settings.ofLayers
  simp only [← LayerField.read_merged]
  generalize layers.foldl Layer.merge {} = merged
  unfold Layer.resolve CacheLayer.resolve RefreshLayer.resolve NotifierLayer.resolve
    EvaluatorLayer.resolve LoggingLayer.resolve
  rcases merged with ⟨_ | _, _ | _, _ | _, _ | _, _ | _⟩ <;> rfl

/-! ### Rules -/

/-- Settings break a rule: there is no worker, no room in the queue, no time for a job or between two
refreshes, or no room in a cache that is used. -/
def Settings.Breaks (settings : Settings) : Prop :=
  settings.notifier.workers = 0 ∨ settings.notifier.queueCapacity = 0 ∨
    settings.notifier.timeoutMillis = 0 ∨ settings.refresh.periodMillis = 0 ∨
    (settings.cache.enabled = true ∧ settings.cache.maxEntries = 0)

instance (settings : Settings) : Decidable settings.Breaks :=
  inferInstanceAs (Decidable (_ ∨ _ ∨ _ ∨ _ ∨ (_ ∧ _)))

theorem Settings.brokenRule?_eq_none {settings : Settings} :
    settings.brokenRule? = none ↔ ¬settings.Breaks := by
  unfold brokenRule? Breaks
  repeat' split
  all_goals simp_all

/-- **A check finds a broken rule exactly if settings break one**, and otherwise gives them back. -/
theorem Settings.check_cases (settings : Settings) :
    (settings.Breaks ∧ ∃ rule, settings.check = .error (.broken rule)) ∨
      (¬settings.Breaks ∧ settings.check = .ok settings) := by
  unfold check
  cases broken : settings.brokenRule? with
  | none => exact .inr ⟨brokenRule?_eq_none.mp broken, rfl⟩
  | some rule =>
    refine .inl ⟨Decidable.byContradiction fun follows => ?_, rule, rfl⟩
    rw [brokenRule?_eq_none.mpr follows] at broken
    cases broken

end Switchboard
