/-
**Where settings come from.**

Every source gives a layer. Layers are merged in the order of precedence of their sources: defaults
first, then files, then the environment; of sources of one precedence the later one wins. The first
source that fails decides the outcome.

* `Source.load` — the layer of a source.
* `Settings.load` — the settings that sources give together.
-/

import Switchboard.Settings.Environment
import Switchboard.Toml.Reader
import Switchboard.Wire.Settings

namespace Switchboard

/-- How much a source counts. -/
inductive Precedence where
  | defaults
  | file
  | environment
  deriving DecidableEq, Repr

/-- The rank of a precedence; a higher one wins. -/
def Precedence.rank : Precedence → Nat
  | .defaults => 10
  | .file => 20
  | .environment => 50

/-- What is found where a file is looked for. -/
inductive FileContent where
  | missing
  | unreadable
  | bytes (content : ByteArray)

/-- The layer of a file: none of its fields is set if the file is missing. -/
def FileContent.layer : FileContent → Except SettingsFault Layer
  | .missing => .ok {}
  | .unreadable => .error .unreadableFile
  | .bytes content =>
    match String.fromUTF8? content with
    | none => .error .unreadableFile
    | some text =>
      match (Toml.read? text).bind fun document => Layer.ofJsonWith? true document.toJson with
      | some layer => .ok layer
      | none => .error .malformedFile

/-- Where a layer comes from. A source of one's own has a precedence and gives a layer or fails. -/
inductive Source where
  | defaults
  | environment
  | file (content : FileContent)
  | fixed (precedence : Precedence) (layer : Layer)
  | failing (precedence : Precedence) (fault : SettingsFault)

/-- How much a source counts. -/
def Source.precedence : Source → Precedence
  | .defaults => .defaults
  | .environment => .environment
  | .file _ => .file
  | .fixed precedence _ | .failing precedence _ => precedence

/-- The layer of a source. -/
def Source.load (environment : Environment) : Source → Except SettingsFault Layer
  | .defaults => .ok {}
  | .environment => environment.layer
  | .file content => content.layer
  | .fixed _ layer => .ok layer
  | .failing _ fault => .error fault

/-- Sources in the order of their precedence; those of one precedence keep their order. -/
def Source.ordered (sources : List Source) : List Source :=
  sources.mergeSort fun left right => left.precedence.rank ≤ right.precedence.rank

/-- The merged layer of sources in their order. -/
def Source.merged (environment : Environment) (sources : List Source) : Except SettingsFault Layer :=
  sources.foldlM (fun merged source => do pure (merged.merge (← source.load environment))) {}

namespace Settings

/-- The settings that sources give together, if they follow the rules. -/
def load (environment : Environment) (sources : List Source) : Except SettingsFault Settings := do
  (← Source.merged environment (Source.ordered sources)).finalize

/-- The settings of a file, under the environment. -/
def ofFile (environment : Environment) (content : FileContent) : Except SettingsFault Settings :=
  load environment [.defaults, .file content, .environment]

/-- The settings of the environment. -/
def ofEnvironment (environment : Environment) : Except SettingsFault Settings :=
  load environment [.environment]

end Settings

end Switchboard
