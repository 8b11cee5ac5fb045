import Playbook.Settings.Codec
import Playbook.Toml.Document

/-!
Settings as a document of TOML: one table a section. A section may also be written as an array of
its values in the order of its fields, where values beyond the last field count for nothing.
-/
namespace Playbook.Settings

open Toml (Table)

/-- The sections and their fields. -/
def sections : List (String × List String) := [
  ("execution", ["parallel_hard_limit", "retry_backoff_multiplier", "retry_backoff_max_ms"]),
  ("expressions", ["max_length", "max_depth"]),
  ("recorder", ["max_retained_runs", "trace_file", "event_buffer"]),
  ("knowledge", ["limit", "threshold"]),
  ("http", ["timeout_seconds", "user_agent", "max_response_bytes"]),
  ("logging", ["level", "format"])]

/-- The name of a choice that is written as a table with nothing under that name. -/
def plainChoice : Toml.Value → Toml.Value
  | .table _ [(name, .table _ [])] | .table _ [(name, .array [])] => .text name
  | v => v

/-- A section with its values under the names of its fields. -/
def plainSection (name : String) (v : Toml.Value) : Toml.Value :=
  match v with
  | .array items =>
    .table .closed (Keyed.ofList (((sections.lookup name).getD []).zip items))
  | v => v

/-- The sections of a document with values where the settings expect them. -/
def plainSections (t : Table) : Table :=
  t.map fun (name, v) => (name,
    match plainSection name v with
    | .table form entries => .table form <| entries.map fun (field, v) =>
        (field, if name = "logging" && field = "format" then plainChoice v else v)
    | v => v)

/-- The settings of a document, none when the text is no document or does not describe settings. -/
def parse? (text : String) : Option Settings := do
  let t ← Toml.parse? text
  decode? (.object (Toml.Value.entriesToJson (plainSections t)))

end Playbook.Settings
