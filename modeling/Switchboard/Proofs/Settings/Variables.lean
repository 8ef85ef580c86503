/-
**Settings in variables.**

Every field of a layer has a variable of its own.

* `SettingKind`, `SettingVariable` — what a field holds, and a variable with its field; `SettingVariable.all` — the
  fourteen of them, in the order in which they are read.
* `SettingKind.Spells` — the texts that spell a value; `Environment.Writes` — an environment in which every field that
  a layer sets is spelled, and no other; `Layer.written` — one of them.
* `SettingVariable.Misread` — a variable whose text is no number where there should be one.
* `SettingVariable.reading`, `SettingVariable.fault?` — what is read from one variable, and
  `Environment.layer_cases` — the layer of an environment in terms of them.
* `Environment.variables_set_their_own_fields` — the layer that is written is read back, a variable concerns its own
  field, and the first number that cannot be read is what is wrong.
-/

import Mathlib.Data.List.Nodup
import Switchboard.Proofs.Number.Digits
import Switchboard.Proofs.Settings.Fields
import Switchboard.Proofs.Text.Trimmed
import Switchboard.Settings.Environment

namespace Switchboard

/-! ### Variables -/

/-- What a field holds. -/
inductive SettingKind where
  | number (type : NumberType)
  | truth
  | text

/-- The values of a field. -/
abbrev SettingKind.Value : SettingKind → Type
  | number _ => UInt64
  | truth => Bool
  | text => String

/-- A variable and the field that it sets. -/
structure SettingVariable where
  name : String
  kind : SettingKind
  field : LayerField kind.Value

/-- The variables, in the order of the fields. -/
def SettingVariable.all : List SettingVariable :=
  [⟨"LATCH_CACHE_ENABLED", .truth, .cacheEnabled⟩,
    ⟨"LATCH_CACHE_DEFAULT_TTL_MS", .number .u64, .cacheLifetime⟩,
    ⟨"LATCH_CACHE_MAX_ENTRIES", .number .usize, .cacheEntries⟩,
    ⟨"LATCH_CACHE_SWEEP_INTERVAL_MS", .number .u64, .cacheSweep⟩,
    ⟨"LATCH_REFRESH_ENABLED", .truth, .refreshEnabled⟩,
    ⟨"LATCH_REFRESH_INITIAL_DELAY_MS", .number .u64, .refreshDelay⟩,
    ⟨"LATCH_REFRESH_PERIOD_MS", .number .u64, .refreshPeriod⟩,
    ⟨"LATCH_NOTIFIER_WORKERS", .number .usize, .notifierWorkers⟩,
    ⟨"LATCH_NOTIFIER_QUEUE_CAPACITY", .number .usize, .notifierQueue⟩,
    ⟨"LATCH_NOTIFIER_TASK_TIMEOUT_MS", .number .u64, .notifierTimeout⟩,
    ⟨"LATCH_EVALUATOR_AUTO_CREATE", .truth, .evaluatorCreates⟩,
    ⟨"LATCH_EVALUATOR_AUDIT_ENABLED", .truth, .evaluatorAudits⟩,
    ⟨"LATCH_LOG_LEVEL", .text, .loggingLevel⟩,
    ⟨"LATCH_LOG_JSON", .truth, .loggingJson⟩]

/-- A layer has all sections. -/
structure Layer.IsFull (layer : Layer) : Prop where
  cache : layer.cache.isSome
  refresh : layer.refresh.isSome
  notifier : layer.notifier.isSome
  evaluator : layer.evaluator.isSome
  logging : layer.logging.isSome

open LayerField in
/-- The layer with all sections and the fields of a layer. -/
def Layer.completed (layer : Layer) : Layer where
  cache := some
    { enabled := cacheEnabled.read layer
      lifetimeMillis := cacheLifetime.read layer
      maxEntries := cacheEntries.read layer
      sweepMillis := cacheSweep.read layer }
  refresh := some
    { enabled := refreshEnabled.read layer
      delayMillis := refreshDelay.read layer
      periodMillis := refreshPeriod.read layer }
  notifier := some
    { workers := notifierWorkers.read layer
      queueCapacity := notifierQueue.read layer
      timeoutMillis := notifierTimeout.read layer }
  evaluator := some
    { autoCreate := evaluatorCreates.read layer
      auditEnabled := evaluatorAudits.read layer }
  logging := some
    { level := loggingLevel.read layer
      json := loggingJson.read layer }

theorem Layer.IsFull.completed {layer : Layer} (full : layer.IsFull) : layer.completed = layer := by
  obtain ⟨cache, refresh, notifier, evaluator, logging⟩ := full
  rcases layer with ⟨_ | _, _ | _, _ | _, _ | _, _ | _⟩ <;> first | contradiction | rfl

/-- **A layer with all sections is given by its fields.** -/
theorem Layer.IsFull.ext {first second : Layer} (full : first.IsFull) (other : second.IsFull)
    (same : ∀ setting ∈ SettingVariable.all, setting.field.read first = setting.field.read second) :
    first = second := by
  simp only [SettingVariable.all, List.forall_mem_cons] at same
  calc first = first.completed := full.completed.symm
    _ = second.completed := by simp only [Layer.completed, same]
    _ = second := other.completed

/-! ### Texts -/

/-- The text of a value. -/
def SettingKind.write : (kind : SettingKind) → kind.Value → String
  | number _, value => Number.writeNat value.toNat
  | truth, value => if value then "true" else "false"
  | text, value => value

/-- A text spells a value: a number in its decimal digits, with or without blanks around them, and any other value as
it is written. An empty text spells nothing. -/
def SettingKind.Spells : (kind : SettingKind) → String → kind.Value → Prop
  | number type, spelling, value =>
    ∃ before after : List Char, (∀ c ∈ before, Text.isBlank c = true) ∧ (∀ c ∈ after, Text.isBlank c = true) ∧
      spelling.toList = before ++ (write (.number type) value).toList ++ after
  | truth, spelling, value => spelling = truth.write value
  | text, spelling, value => spelling = value ∧ value ≠ ""

/-- An environment spells the fields that a layer sets, and leaves the variables of the others empty or unset. -/
def Environment.Writes (environment : Environment) (layer : Layer) : Prop :=
  ∀ setting ∈ SettingVariable.all,
    match setting.field.read layer with
    | some value => ∃ spelling, environment setting.name = some spelling ∧ setting.kind.Spells spelling value
    | none => environment setting.name = none ∨ environment setting.name = some ""

/-- No two variables have the same name. -/
theorem SettingVariable.nodup_names : (SettingVariable.all.map SettingVariable.name).Nodup := by decide

/-- The environment in which the fields that a layer sets are written. -/
def Layer.written (layer : Layer) : Environment := fun name =>
  (SettingVariable.all.find? fun setting => setting.name = name).bind fun setting =>
    (setting.field.read layer).map setting.kind.write

theorem Layer.written_name (layer : Layer) {setting : SettingVariable} (listed : setting ∈ SettingVariable.all) :
    layer.written setting.name = (setting.field.read layer).map setting.kind.write := by
  unfold written
  cases found : SettingVariable.all.find? fun other => other.name = setting.name with
  | none => exact absurd (decide_eq_true rfl) (List.find?_eq_none.mp found setting listed)
  | some other =>
    have named := List.find?_some found
    have same : other.name = setting.name := of_decide_eq_true named
    cases List.inj_on_of_nodup_map SettingVariable.nodup_names (List.mem_of_find?_eq_some found) listed same
    rfl

theorem SettingKind.write_number_ne {type : NumberType} (value : UInt64) : (number type).write value ≠ "" := fun none =>
  Nat.toDigits_ne_nil ((Number.toList_writeNat value.toNat).symm.trans (congrArg String.toList none))

theorem SettingKind.write_truth_ne (value : Bool) : truth.write value ≠ "" := by
  cases value <;> decide

theorem SettingKind.spells_write {kind : SettingKind} {value : kind.Value} (some_text : kind.write value ≠ "") :
    kind.Spells (kind.write value) value := by
  cases kind with
  | number => exact ⟨[], [], nofun, nofun, (List.append_nil _).symm⟩
  | truth => rfl
  | text => exact ⟨rfl, some_text⟩

/-- **Every layer without an empty level can be written.** -/
theorem Layer.writes_written {layer : Layer} (level : LayerField.loggingLevel.read layer ≠ some "") :
    layer.written.Writes layer := by
  have texts : ∀ setting ∈ SettingVariable.all, ∀ value, setting.field.read layer = some value →
      setting.kind.write value ≠ "" := by
    have number {type : NumberType} (field : LayerField UInt64) : ∀ value, field.read layer = some value →
        (SettingKind.number type).write value ≠ "" := fun value _ => SettingKind.write_number_ne value
    have truth (field : LayerField Bool) : ∀ value, field.read layer = some value →
        SettingKind.truth.write value ≠ "" := fun value _ => SettingKind.write_truth_ne value
    simp only [SettingVariable.all, List.forall_mem_cons]
    exact ⟨truth _, number _, number _, number _, truth _, number _, number _, number _, number _, number _, truth _,
      truth _, fun _ set empty => level (set.trans (congrArg some empty)), truth _, nofun⟩
  intro setting listed
  have given := layer.written_name listed
  split
  next value set =>
    rw [set] at given
    exact ⟨_, given, SettingKind.spells_write (texts setting listed value set)⟩
  next unset =>
    rw [unset] at given
    exact .inl given

/-! ### What is read -/

/-- What a variable gives for a field. -/
def SettingKind.read (environment : Environment) (name : String) :
    (kind : SettingKind) → Except SettingsFault (Option kind.Value)
  | number type => environment.number type name
  | truth => .ok (environment.bool? name)
  | text => .ok (environment.text? name)

namespace SettingVariable

/-- What is wrong with a variable. -/
def fault? (environment : Environment) (setting : SettingVariable) : Option SettingsFault :=
  match setting.kind.read environment setting.name with
  | .error fault => some fault
  | .ok _ => none

end SettingVariable

section Chains

variable {environment : Environment} {settings : List SettingVariable} {reads : Layer → Prop} {name : String}

/-- The first variable that is wrong decides what a reading gives; if none is, it is a layer as it should be. -/
def Environment.Decides (environment : Environment) (settings : List SettingVariable) (reads : Layer → Prop)
    (reading : Except SettingsFault Layer) : Prop :=
  match settings.findSome? (SettingVariable.fault? environment) with
  | some fault => reading = .error fault
  | none => ∃ layer, reading = .ok layer ∧ reads layer

/-- A number is read before the others. -/
theorem Environment.Decides.number {type : NumberType} {field : LayerField UInt64}
    {next : Option UInt64 → Except SettingsFault Layer}
    (rest : ∀ value, environment.number type name = .ok value → environment.Decides settings reads (next value)) :
    environment.Decides (⟨name, .number type, field⟩ :: settings) reads (environment.number type name >>= next) := by
  unfold Decides
  rw [List.findSome?_cons]
  unfold SettingVariable.fault?
  cases given : environment.number type name with
  | error fault =>
    simp only [SettingKind.read, given]
    rfl
  | ok value =>
    simp only [SettingKind.read, given]
    exact rest value given

/-- What is not a number is never wrong. -/
theorem Environment.Decides.other {setting : SettingVariable} {value : Option setting.kind.Value}
    {reading : Except SettingsFault Layer} (given : setting.kind.read environment setting.name = .ok value)
    (rest : environment.Decides settings reads reading) :
    environment.Decides (setting :: settings) reads reading := by
  unfold Decides
  rw [List.findSome?_cons, SettingVariable.fault?, given]
  exact rest

end Chains

/-- **The layer of an environment**: the first variable that is wrong decides; if none is, the layer has all sections,
and every field is what its variable gives. -/
theorem Environment.layer_decided (environment : Environment) :
    environment.Decides SettingVariable.all
      (fun layer => layer.IsFull ∧ ∀ setting ∈ SettingVariable.all,
        setting.kind.read environment setting.name = .ok (setting.field.read layer))
      environment.layer := by
  refine .other rfl (.number fun lifetimeMillis lifetime => .number fun maxEntries entries =>
    .number fun sweepMillis sweep => .other rfl (.number fun delayMillis delay => .number fun periodMillis period =>
      .number fun workers pool => .number fun queueCapacity queue => .number fun timeoutMillis timeout =>
        .other rfl (.other rfl (.other rfl (.other rfl ⟨_, rfl, ⟨rfl, rfl, rfl, rfl, rfl⟩, ?_⟩)))))
  simp only [SettingVariable.all, List.forall_mem_cons]
  exact ⟨rfl, lifetime, entries, sweep, rfl, delay, period, pool, queue, timeout, rfl, rfl, rfl, rfl, nofun⟩

/-! ### What a variable gives -/

section Reading

variable {environment other : Environment} {name spelling : String}

theorem Environment.text?_eq_some :
    environment.text? name = some spelling ↔ environment name = some spelling ∧ spelling ≠ "" := by
  rw [text?, Option.filter_eq_some_iff, decide_eq_true_eq]

theorem Environment.text?_of_empty (unset : environment name = none ∨ environment name = some "") :
    environment.text? name = none := by
  unfold text?
  rcases unset with unset | unset <;> rw [unset] <;> rfl

/-- What is read from a variable depends on nothing but that variable. -/
theorem SettingKind.read_of_same (kind : SettingKind) (same : environment name = other name) :
    kind.read environment name = kind.read other name := by
  have text : environment.text? name = other.text? name := congrArg (Option.filter _) same
  cases kind <;> simp only [read, Environment.number, Environment.bool?, text]

theorem SettingKind.read_of_empty (kind : SettingKind)
    (unset : environment name = none ∨ environment name = some "") : kind.read environment name = .ok none := by
  have text := Environment.text?_of_empty unset
  cases kind <;> simp only [read, Environment.number, Environment.bool?, text, Option.map_none]

/-- **A number cannot be read exactly if the text of its variable writes none of 64 bits.** -/
theorem Environment.number_eq_error {type : NumberType} {fault : SettingsFault} :
    environment.number type name = .error fault ↔
      ∃ text, environment name = some text ∧ text ≠ "" ∧
        (∀ number : UInt64, ¬Number.Writes (Text.trim text).toList number.toNat) ∧
        fault = .invalidNumber name type text := by
  constructor
  · intro wrong
    unfold number at wrong
    cases given : environment.text? name with
    | none =>
      rw [given] at wrong
      cases wrong
    | some text =>
      rw [given] at wrong
      obtain ⟨set, some_text⟩ := text?_eq_some.mp given
      cases read : Number.readUnsigned (Text.trim text).toList with
      | ok number =>
        simp only [read] at wrong
        cases wrong
      | error problem =>
        simp only [read] at wrong
        refine ⟨text, set, some_text, fun number written => ?_, (Except.error.inj wrong).symm⟩
        cases read.symm.trans (Number.readUnsigned_eq_ok.mpr written)
  · rintro ⟨text, set, some_text, unwritten, rfl⟩
    unfold number
    rw [text?_eq_some.mpr ⟨set, some_text⟩]
    cases read : Number.readUnsigned (Text.trim text).toList with
    | ok number => exact absurd (Number.readUnsigned_eq_ok.mp read) (unwritten number)
    | error problem => simp only [read]

/-- **A value is read back from its spelling.** -/
theorem SettingKind.read_of_spelled {kind : SettingKind} {value : kind.Value}
    (given : environment name = some spelling) (spells : kind.Spells spelling value) :
    kind.read environment name = .ok (some value) := by
  cases kind with
  | number type =>
    obtain ⟨before, after, front, back, framed⟩ := spells
    rw [write, Number.toList_writeNat] at framed
    have solid : ∀ c ∈ Nat.toDigits 10 value.toNat, Text.isBlank c = false := fun _ listed =>
      Text.isBlank_of_isDigit (Number.isDigit_of_toDigits listed)
    have trimmed : (Text.trim spelling).toList = Nat.toDigits 10 value.toNat := by
      rw [Text.trim, String.toList_ofList, framed, Text.trimChars_of_framed front back Nat.toDigits_ne_nil solid]
    have some_text : spelling ≠ "" := by
      rintro rfl
      exact Nat.toDigits_ne_nil trimmed.symm
    have writes : Number.Writes (Nat.toDigits 10 value.toNat) value.toNat :=
      ⟨_, .inl rfl, Nat.toDigits_ne_nil, fun _ => Number.isDigit_of_toDigits, Nat.ofDigitChars_ten_toDigits⟩
    simp only [read, Environment.number, Environment.text?_eq_some.mpr ⟨given, some_text⟩, trimmed,
      Number.readUnsigned_eq_ok.mpr writes]
  | truth =>
    cases value <;> cases spells <;>
      simp only [read, Environment.bool?, Environment.text?_eq_some.mpr ⟨given, by decide⟩] <;> decide +kernel
  | text =>
    obtain ⟨rfl, some_text⟩ := spells
    exact congrArg Except.ok (Environment.text?_eq_some.mpr ⟨given, some_text⟩)

end Reading

namespace SettingVariable

variable {environment other : Environment} {setting : SettingVariable} {fault : SettingsFault}

/-- A variable is misread: there should be a number, and its text is not empty and writes none of 64 bits, not even
without the blanks around it. -/
def Misread (environment : Environment) (setting : SettingVariable) (fault : SettingsFault) : Prop :=
  ∃ type text, setting.kind = .number type ∧ environment setting.name = some text ∧ text ≠ "" ∧
    (∀ number : UInt64, ¬Number.Writes (Text.trim text).toList number.toNat) ∧
    fault = .invalidNumber setting.name type text

theorem misread_of_same (same : environment setting.name = other setting.name) :
    setting.Misread environment fault ↔ setting.Misread other fault := by
  unfold Misread
  rw [same]

theorem fault?_eq_some : setting.fault? environment = some fault ↔ setting.Misread environment fault := by
  obtain ⟨name, kind, field⟩ := setting
  cases kind with
  | truth => exact ⟨nofun, fun ⟨_, _, differs, _⟩ => nomatch differs⟩
  | text => exact ⟨nofun, fun ⟨_, _, differs, _⟩ => nomatch differs⟩
  | number type =>
    have wrong : SettingVariable.fault? environment ⟨name, .number type, field⟩ = some fault ↔
        environment.number type name = .error fault := by
      unfold fault?
      dsimp only [SettingKind.read]
      cases environment.number type name <;> simp
    rw [wrong, Environment.number_eq_error]
    constructor
    · rintro ⟨text, misread⟩
      exact ⟨type, text, rfl, misread⟩
    · rintro ⟨_, text, same, misread⟩
      cases same
      exact ⟨text, misread⟩

/-- A variable from which something is read is not misread. -/
theorem not_misread_of_read {value : Option setting.kind.Value}
    (read : setting.kind.read environment setting.name = .ok value) : ¬setting.Misread environment fault := by
  rw [← fault?_eq_some, fault?, read]
  exact nofun

end SettingVariable

/-! ### Layers of environments -/

namespace Environment

variable {environment other : Environment} {layer : Layer} {fault : SettingsFault}

/-- **Loading fails with what is wrong with the first variable that is misread.** -/
theorem layer_eq_error : environment.layer = .error fault ↔
    ∃ before setting after, SettingVariable.all = before ++ setting :: after ∧ setting.Misread environment fault ∧
      ∀ earlier ∈ before, ∀ wrong, ¬earlier.Misread environment wrong := by
  have first : environment.layer = .error fault ↔
      SettingVariable.all.findSome? (SettingVariable.fault? environment) = some fault := by
    have decided := environment.layer_decided
    unfold Decides at decided
    split at decided
    next wrong found =>
      rw [decided, found]
      simp
    next right =>
      obtain ⟨layer, loaded, _⟩ := decided
      rw [loaded, right]
      simp
  simp only [first, List.findSome?_eq_some_iff, SettingVariable.fault?_eq_some, Option.eq_none_iff_forall_not_mem,
    Option.mem_def]

/-- **A layer is loaded exactly if it has all sections and every field is what its variable gives.** -/
theorem layer_eq_ok : environment.layer = .ok layer ↔
    layer.IsFull ∧ ∀ setting ∈ SettingVariable.all,
      setting.kind.read environment setting.name = .ok (setting.field.read layer) := by
  have decided := environment.layer_decided
  unfold Decides at decided
  split at decided
  next first wrong =>
    obtain ⟨setting, listed, fails⟩ := List.exists_of_findSome?_eq_some wrong
    rw [decided]
    refine ⟨nofun, fun ⟨_, reads⟩ => ?_⟩
    rw [SettingVariable.fault?, reads setting listed] at fails
    cases fails
  next right =>
    obtain ⟨found, loaded, full, reads⟩ := decided
    rw [loaded, Except.ok.injEq]
    constructor
    · rintro rfl
      exact ⟨full, reads⟩
    · rintro ⟨whole, same⟩
      exact full.ext whole fun setting listed =>
        Except.ok.inj ((reads setting listed).symm.trans (same setting listed))

/-- **What a layer writes is read back.** -/
theorem layer_of_writes (full : layer.IsFull) (writes : environment.Writes layer) : environment.layer = .ok layer := by
  refine layer_eq_ok.mpr ⟨full, fun setting listed => ?_⟩
  have written := writes setting listed
  split at written
  next value set =>
    obtain ⟨spelling, given, spells⟩ := written
    rw [set]
    exact SettingKind.read_of_spelled given spells
  next unset =>
    rw [unset]
    exact SettingKind.read_of_empty setting.kind written

/-- Environments that give the same variables have the same layer. -/
theorem layer_of_same (same : ∀ setting ∈ SettingVariable.all, environment setting.name = other setting.name) :
    environment.layer = other.layer := by
  have reads : ∀ setting ∈ SettingVariable.all,
      setting.kind.read environment setting.name = setting.kind.read other setting.name :=
    fun setting listed => setting.kind.read_of_same (same setting listed)
  cases loaded : other.layer with
  | ok layer =>
    obtain ⟨full, given⟩ := layer_eq_ok.mp loaded
    exact layer_eq_ok.mpr ⟨full, fun setting listed => (reads setting listed).trans (given setting listed)⟩
  | error fault =>
    obtain ⟨before, setting, after, parts, misread, right⟩ := layer_eq_error.mp loaded
    have listed : ∀ earlier ∈ before ++ setting :: after, environment earlier.name = other earlier.name := parts ▸ same
    obtain ⟨front, here, _⟩ := List.forall_mem_append.mp listed |>.imp_right List.forall_mem_cons.mp
    refine layer_eq_error.mpr ⟨before, setting, after, parts, (SettingVariable.misread_of_same here).mpr misread, ?_⟩
    exact fun earlier member wrong misread =>
      right earlier member wrong ((SettingVariable.misread_of_same (front earlier member)).mp misread)

end Environment

/-- The environment with another text for a variable, or none. -/
def Environment.set (environment : Environment) (name : String) (text : Option String) : Environment := fun other =>
  if other = name then text else environment other

/-- **Every variable sets its own field.** A layer is read back from an environment that spells what it sets, and such
environments there are. When one variable changes, the layer is the same in every field but its own, or it is this
variable that is misread then; a variable of another name changes nothing. Loading fails exactly if a number is misread,
and then with what is wrong with the first one. -/
theorem Environment.variables_set_their_own_fields :
    (SettingVariable.all.map SettingVariable.name).Nodup ∧
    (∀ layer : Layer, layer.IsFull →
      (∀ environment : Environment, environment.Writes layer → environment.layer = .ok layer) ∧
      (LayerField.loggingLevel.read layer ≠ some "" → layer.written.Writes layer)) ∧
    (∀ (environment : Environment) (name : String) (text : Option String),
      let changed := environment.set name text
      (∀ before, environment.layer = .ok before → before.IsFull ∧
        (∀ after, changed.layer = .ok after → ∀ setting ∈ SettingVariable.all, setting.name ≠ name →
          setting.field.read after = setting.field.read before) ∧
        (∀ fault, changed.layer = .error fault →
          ∃ setting ∈ SettingVariable.all, setting.name = name ∧ setting.Misread changed fault)) ∧
      ((∀ setting ∈ SettingVariable.all, setting.name ≠ name) → changed.layer = environment.layer)) ∧
    ∀ environment : Environment,
      ((∃ fault, environment.layer = .error fault) ↔
        ∃ setting ∈ SettingVariable.all, ∃ fault, setting.Misread environment fault) ∧
      ∀ fault, environment.layer = .error fault ↔
        ∃ before setting after, SettingVariable.all = before ++ setting :: after ∧
          setting.Misread environment fault ∧ ∀ earlier ∈ before, ∀ wrong, ¬earlier.Misread environment wrong := by
  refine ⟨SettingVariable.nodup_names, fun layer full => ⟨fun environment => layer_of_writes full, Layer.writes_written⟩,
    fun environment name text => ?_, fun environment => ⟨?_, fun fault => layer_eq_error⟩⟩
  · have same : ∀ {other}, other ≠ name → environment.set name text other = environment other := fun differs =>
      if_neg differs
    refine ⟨fun before loaded => ?_, fun differs => layer_of_same fun setting listed => same (differs setting listed)⟩
    obtain ⟨full, reads⟩ := layer_eq_ok.mp loaded
    refine ⟨full, fun after loads setting listed differs => ?_, fun fault fails => ?_⟩
    · have given := (layer_eq_ok.mp loads).2 setting listed
      rw [setting.kind.read_of_same (same differs), reads setting listed] at given
      exact (Except.ok.inj given).symm
    · obtain ⟨before, setting, after, parts, misread, _⟩ := layer_eq_error.mp fails
      have listed : setting ∈ SettingVariable.all := parts ▸ List.mem_append_right _ List.mem_cons_self
      refine ⟨setting, listed, ?_, misread⟩
      by_contra differs
      exact SettingVariable.not_misread_of_read (reads setting listed)
        ((SettingVariable.misread_of_same (same differs)).mp misread)
  · constructor
    · rintro ⟨fault, fails⟩
      obtain ⟨before, setting, after, parts, misread, _⟩ := layer_eq_error.mp fails
      exact ⟨setting, parts ▸ List.mem_append_right _ List.mem_cons_self, fault, misread⟩
    · rintro ⟨setting, listed, fault, misread⟩
      cases loaded : environment.layer with
      | error first => exact ⟨first, rfl⟩
      | ok layer =>
        exact absurd misread (SettingVariable.not_misread_of_read ((layer_eq_ok.mp loaded).2 setting listed))

end Switchboard
