/-
# Configuration

How booleans are decoded, and how extractions and batches are run.  A configuration is kept as
TOML text with one section each; a setting or section that is missing has its default, and one
that is not known is ignored.
-/
import GridRecords.Leaf.Kind
import GridRecords.Report.Failure
import GridRecords.Toml.Reader

namespace GridRecords

/-- Settings of decoding. -/
structure DecodeSettings where
  booleanPolicy : BooleanPolicy := .strict
deriving DecidableEq, Repr

/-- Settings of extraction. -/
structure ExtractSettings where
  /-- whether each branch may be walked on its own -/
  parallel : Bool := true
deriving DecidableEq, Repr

/-- Settings of batches. -/
structure BatchSettings where
  /-- whether rows may be mapped on several threads -/
  parallel : Bool := true
  /-- whether the first bad row stops the batch -/
  failFast : Bool := false
  /-- number of threads, zero for as many as there are processors -/
  threads : Nat := 0
deriving DecidableEq, Repr

/-- All settings. -/
structure Config where
  decode : DecodeSettings := {}
  extract : ExtractSettings := {}
  batch : BatchSettings := {}
deriving DecidableEq, Repr

/-- Name of a policy. -/
def BooleanPolicy.name : BooleanPolicy → String
  | .strict => "strict"
  | .lenient => "lenient"

/-- The policy of a name. -/
def BooleanPolicy.ofName? (name : String) : Option BooleanPolicy :=
  [strict, lenient].find? (·.name = name)

/-! ## Reading -/

namespace Toml

/-- A truth value. -/
def boolean? : Toml → Option Bool
  | boolean b => some b
  | _ => none

/-- A whole number from zero on. -/
def natural? : Toml → Option Nat
  | integer n => if 0 ≤ n then some n.toNat else none
  | _ => none

/-- The boolean policy of a name, which may also be the only key of a table over an empty table. -/
def policy? : Toml → Option BooleanPolicy
  | string s => BooleanPolicy.ofName? s
  | table _ [(name, table _ [])] => BooleanPolicy.ofName? name
  | _ => none

/-- The settings of a section.  An array gives them by position, and a point in time has none. -/
def settings? (names : List String) : Toml → Option Entries
  | table _ entries => some entries
  | array items => some (names.zip items)
  | tables elements => some (names.zip (elements.map (table .header)))
  | moment => some []
  | _ => none

/-- A setting, `default` if it is missing. -/
def setting {α : Type} (settings : Entries) (name : String) (read : Toml → Option α)
    (default : α) : Option α :=
  match settings.lookup name with
  | some value => read value
  | none => some default

end Toml

/-- Reads the section of decoding. -/
def DecodeSettings.ofToml? (t : Toml) : Option DecodeSettings := do
  let settings ← t.settings? ["boolean_policy"]
  some { booleanPolicy := ← Toml.setting settings "boolean_policy" Toml.policy? .strict }

/-- Reads the section of extraction. -/
def ExtractSettings.ofToml? (t : Toml) : Option ExtractSettings := do
  let settings ← t.settings? ["parallel"]
  some { parallel := ← Toml.setting settings "parallel" Toml.boolean? true }

/-- Reads the section of batches. -/
def BatchSettings.ofToml? (t : Toml) : Option BatchSettings := do
  let settings ← t.settings? ["parallel", "fail_fast", "threads"]
  some { parallel := ← Toml.setting settings "parallel" Toml.boolean? true
         failFast := ← Toml.setting settings "fail_fast" Toml.boolean? false
         threads := ← Toml.setting settings "threads" Toml.natural? 0 }

namespace Config

/-- Reads a configuration from the entries of a document. -/
def ofEntries? (entries : Toml.Entries) : Option Config := do
  some { decode := ← Toml.setting entries "decode" DecodeSettings.ofToml? {}
         extract := ← Toml.setting entries "extract" ExtractSettings.ofToml? {}
         batch := ← Toml.setting entries "batch" BatchSettings.ofToml? {} }

/-- Reads a configuration. -/
def read (text : String) : Except Failure Config :=
  match Toml.ofText? text.toList with
  | none => .error (.config "malformed TOML")
  | some entries =>
    match ofEntries? entries with
    | none => .error (.config "malformed setting")
    | some config => .ok config

/-! ## Writing -/

/-- A configuration as text, all settings written out. -/
def text (c : Config) : String :=
  s!"[decode]\nboolean_policy = \"{c.decode.booleanPolicy.name}\"\n\n"
    ++ s!"[extract]\nparallel = {c.extract.parallel}\n\n"
    ++ s!"[batch]\nparallel = {c.batch.parallel}\nfail_fast = {c.batch.failFast}\n"
    ++ s!"threads = {c.batch.threads}\n"

end Config

end GridRecords
