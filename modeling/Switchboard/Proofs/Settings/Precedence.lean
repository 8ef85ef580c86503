/-
**Settings by precedence.**

* `Source.ranked` — sources by precedence, those of one precedence in the order in which they were given;
  `Source.ordered_eq_ranked` — this is the order in which they are merged.
* `Source.firstFault?`, `Source.layers` — the fault of the first source that fails, and the layers of the others.
* `Source.merged_eq` — the first source that fails decides; if none does, the layers are laid over each other.
* `Settings.load_by_precedence` — what sources give together, and that the order of sources of different
  precedence does not matter.
-/

import Switchboard.Proofs.Settings.Fields
import Switchboard.Settings.Sources

namespace Switchboard

/-! ### The order of sources -/

namespace Source

/-- The sources of a precedence, in their order. -/
def ofPrecedence (precedence : Precedence) (sources : List Source) : List Source :=
  sources.filter fun source => source.precedence = precedence

/-- Sources by precedence, those of one precedence in their order. -/
def ranked (sources : List Source) : List Source :=
  ofPrecedence .defaults sources ++ ofPrecedence .file sources ++ ofPrecedence .environment sources

/-- A source counts at most as much as another one. -/
def noHigher (left right : Source) : Bool := left.precedence.rank ≤ right.precedence.rank

theorem noHigher_trans (first second third : Source) (early : noHigher first second)
    (late : noHigher second third) : noHigher first third := by
  simp only [noHigher, decide_eq_true_eq] at early late ⊢
  exact Nat.le_trans early late

theorem noHigher_total (left right : Source) : noHigher left right || noHigher right left := by
  simp only [noHigher, Bool.or_eq_true, decide_eq_true_eq]
  exact Nat.le_total _ _

theorem noHigher_of_eq {left right : Source} (same : left.precedence = right.precedence) :
    noHigher left right := by
  simp only [noHigher, same, decide_eq_true_eq]
  exact Nat.le_refl _

/-- Sorting keeps the sources of one precedence in their order. -/
theorem ofPrecedence_ordered (precedence : Precedence) (sources : List Source) :
    ofPrecedence precedence (ordered sources) = ofPrecedence precedence sources := by
  have alike : (ofPrecedence precedence sources).Pairwise fun left right => noHigher left right :=
    List.pairwise_of_forall_mem_list fun left first right second => by
      have one := of_decide_eq_true (List.mem_filter.mp first).2
      have other := of_decide_eq_true (List.mem_filter.mp second).2
      exact noHigher_of_eq (one.trans other.symm)
  have kept : (ofPrecedence precedence sources).Sublist (ordered sources) :=
    List.sublist_mergeSort noHigher_trans noHigher_total alike List.filter_sublist
  have among : (ofPrecedence precedence sources).Sublist (ofPrecedence precedence (ordered sources)) := by
    have filtered := kept.filter fun source => decide (source.precedence = precedence)
    simpa only [ofPrecedence, List.filter_filter, Bool.and_self] using filtered
  have many : (ofPrecedence precedence (ordered sources)).length =
      (ofPrecedence precedence sources).length :=
    ((List.mergeSort_perm sources noHigher).filter _).length_eq
  exact (among.eq_of_length many.symm).symm

theorem ofPrecedence_cons_of_eq {precedence : Precedence} {first : Source} (same : first.precedence = precedence)
    (rest : List Source) :
    ofPrecedence precedence (first :: rest) = first :: ofPrecedence precedence rest := by
  simp [ofPrecedence, same]

theorem ofPrecedence_cons_of_ne {precedence : Precedence} {first : Source}
    (other : first.precedence ≠ precedence) (rest : List Source) :
    ofPrecedence precedence (first :: rest) = ofPrecedence precedence rest := by
  simp [ofPrecedence, other]

/-- Sources that count at least as much as a source have no lower precedence. -/
theorem ofPrecedence_of_lower (precedence : Precedence) {first : Source} {rest : List Source}
    (least : ∀ source ∈ rest, noHigher first source)
    (lower : precedence.rank < first.precedence.rank) : ofPrecedence precedence rest = [] := by
  refine List.filter_eq_nil_iff.mpr fun source listed same => ?_
  have higher : first.precedence.rank ≤ source.precedence.rank :=
    of_decide_eq_true (least source listed)
  rw [of_decide_eq_true same] at higher
  exact Nat.not_le.mpr lower higher

/-- Sorted sources are those of the lowest precedence, then the others. -/
theorem eq_ranked_of_sorted {sources : List Source}
    (sorted : sources.Pairwise fun left right => noHigher left right) : sources = ranked sources := by
  induction sources with
  | nil => rfl
  | cons first rest ih =>
    obtain ⟨least, sorted⟩ := List.pairwise_cons.mp sorted
    refine (congrArg (first :: ·) (ih sorted)).trans ?_
    unfold ranked
    cases rank : first.precedence with
    | defaults =>
      rw [ofPrecedence_cons_of_eq rank, ofPrecedence_cons_of_ne (by simp [rank]),
        ofPrecedence_cons_of_ne (by simp [rank])]
      rfl
    | file =>
      rw [ofPrecedence_cons_of_ne (by simp [rank]), ofPrecedence_cons_of_eq rank,
        ofPrecedence_cons_of_ne (by simp [rank]),
        ofPrecedence_of_lower .defaults least (by rw [rank]; decide)]
      rfl
    | environment =>
      rw [ofPrecedence_cons_of_ne (by simp [rank]), ofPrecedence_cons_of_ne (by simp [rank]),
        ofPrecedence_cons_of_eq rank,
        ofPrecedence_of_lower .defaults least (by rw [rank]; decide),
        ofPrecedence_of_lower .file least (by rw [rank]; decide)]
      rfl

/-- **Sources are merged by precedence**, those of one precedence in their order. -/
theorem ordered_eq_ranked (sources : List Source) : ordered sources = ranked sources := by
  have sorted := eq_ranked_of_sorted (List.pairwise_mergeSort noHigher_trans noHigher_total sources)
  rw [show sources.mergeSort noHigher = ordered sources from rfl] at sorted
  rw [sorted]
  unfold ranked
  simp only [ofPrecedence_ordered]

/-! ### What sources give -/

section Loading

variable (environment : Environment)

/-- The fault of the first source that fails. -/
def firstFault? (sources : List Source) : Option SettingsFault :=
  sources.findSome? fun source =>
    match source.load environment with
    | .ok _ => none
    | .error fault => some fault

/-- The layers of the sources that do not fail. -/
def layers (sources : List Source) : List Layer :=
  sources.filterMap fun source => (source.load environment).toOption

/-- Sources are merged over a layer: the first one that fails decides. -/
theorem foldlM_merge (sources : List Source) (base : Layer) :
    sources.foldlM (fun merged source => do pure (merged.merge (← source.load environment))) base =
      match firstFault? environment sources with
      | some fault => .error fault
      | none => .ok ((layers environment sources).foldl Layer.merge base) := by
  induction sources generalizing base with
  | nil => rfl
  | cons first rest ih =>
    rw [List.foldlM_cons]
    unfold firstFault? layers at ih ⊢
    cases loaded : first.load environment with
    | error fault =>
      rw [List.findSome?_cons, loaded]
      rfl
    | ok layer =>
      rw [List.findSome?_cons, List.filterMap_cons, loaded]
      exact ih (base.merge layer)

/-- **The first source that fails decides; if none does, the layers are laid over each other.** -/
theorem merged_eq (sources : List Source) :
    merged environment sources =
      match firstFault? environment sources with
      | some fault => .error fault
      | none => .ok ((layers environment sources).foldl Layer.merge {}) :=
  foldlM_merge environment sources {}

end Loading

end Source

/-! ### All of it -/

namespace Settings

variable {environment : Environment} {sources : List Source}

theorem load_of_fault {fault : SettingsFault}
    (first : Source.firstFault? environment (Source.ranked sources) = some fault) :
    load environment sources = .error fault := by
  unfold load
  rw [Source.ordered_eq_ranked, Source.merged_eq, first]
  rfl

theorem load_of_layers (sound : Source.firstFault? environment (Source.ranked sources) = none) :
    load environment sources =
      (ofLayers (Source.layers environment (Source.ranked sources))).check := by
  unfold load
  rw [Source.ordered_eq_ranked, Source.merged_eq, sound, ← Layer.resolve_merged]
  rfl

/-- Only the order among sources of one precedence matters. -/
theorem load_of_same_parts {others : List Source}
    (same : ∀ precedence, Source.ofPrecedence precedence others = Source.ofPrecedence precedence sources) :
    load environment others = load environment sources := by
  have ranked : Source.ranked others = Source.ranked sources := by
    unfold Source.ranked
    rw [same .defaults, same .file, same .environment]
  unfold load
  rw [Source.ordered_eq_ranked, Source.ordered_eq_ranked, ranked]

/-- **Sources resolve by precedence, field by field.** Sources are taken by precedence, those of one precedence
in the order of the list. (1) The first of them that fails decides. (2) If none fails, every field has the value
that the last of them gives it that sets it, and its default if none does; the settings are refused for a
broken rule exactly if these values break one, and they are what is given otherwise. (3) Lists that have the
same sources of every precedence in the same order give the same. -/
theorem load_by_precedence (environment : Environment) (sources : List Source) :
    let ranked := Source.ranked sources
    let resolved := ofLayers (Source.layers environment ranked)
    (∀ fault, Source.firstFault? environment ranked = some fault →
      load environment sources = .error fault) ∧
    (Source.firstFault? environment ranked = none →
      ((∃ rule, load environment sources = .error (.broken rule)) ↔ resolved.Breaks) ∧
      (¬resolved.Breaks → load environment sources = .ok resolved)) ∧
    ∀ others, (∀ precedence,
        Source.ofPrecedence precedence others = Source.ofPrecedence precedence sources) →
      load environment others = load environment sources := by
  intro ranked resolved
  refine ⟨fun fault first => load_of_fault first, fun sound => ?_, fun others same => load_of_same_parts same⟩
  have checked : load environment sources = resolved.check := load_of_layers sound
  rw [checked]
  rcases resolved.check_cases with ⟨breaks, rule, broken⟩ | ⟨follows, kept⟩
  · exact ⟨iff_of_true ⟨rule, broken⟩ breaks, fun follows => absurd breaks follows⟩
  · rw [kept]
    exact ⟨iff_of_false (fun ⟨rule, refused⟩ => nomatch refused) follows, fun _ => rfl⟩

/-- A source of a file and two of the environment resolve alike in two orders: the period of the file is hidden,
its delay is not, and a cache that is switched off needs no room. Of two sources that fail, the one of the lower
precedence decides. -/
theorem load_by_precedence_of_three :
    let environment : Environment := fun _ => none
    let period : Source := .fixed .environment { refresh := some { periodMillis := some 200 } }
    let noCache : Source :=
      .fixed .environment { cache := some { enabled := some false, maxEntries := some 0 } }
    let file : Source :=
      .fixed .file { refresh := some { delayMillis := some 7, periodMillis := some 5000 } }
    let sources := [period, noCache, file]
    let others := [file, period, noCache]
    let broken := [period, .failing .environment .malformedFile, .failing .defaults .unreadableFile]
    let resolved : Settings :=
      { Settings.default with cache := ⟨false, 60000, 0, 30000⟩, refresh := ⟨true, 7, 200⟩ }
    Source.firstFault? environment (Source.ranked sources) = none ∧ ¬resolved.Breaks ∧
      (∀ precedence, Source.ofPrecedence precedence others = Source.ofPrecedence precedence sources) ∧
      Source.firstFault? environment (Source.ranked broken) = some .unreadableFile ∧
      load environment sources = .ok resolved ∧ load environment others = .ok resolved ∧
      load environment broken = .error .unreadableFile := by
  intro environment period noCache file sources others broken resolved
  have sound : Source.firstFault? environment (Source.ranked sources) = none := rfl
  have follows : ¬resolved.Breaks := by decide
  have same : ∀ precedence,
      Source.ofPrecedence precedence others = Source.ofPrecedence precedence sources := by
    intro precedence
    cases precedence <;> rfl
  have first : Source.firstFault? environment (Source.ranked broken) = some .unreadableFile := rfl
  obtain ⟨_, given, permuted⟩ := load_by_precedence environment sources
  have loaded : load environment sources = .ok resolved := (given sound).2 follows
  exact ⟨sound, follows, same, first, loaded, (permuted others same).trans loaded,
    (load_by_precedence environment broken).1 _ first⟩

end Settings

end Switchboard
