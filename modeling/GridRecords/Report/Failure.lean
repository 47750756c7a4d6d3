/-
# Failures

Every way in which decoding, flattening and extraction can fail.  Most failures concern one
record.  A configuration failure concerns the setup and stops a whole batch.
-/
import GridRecords.Model.Kind
import GridRecords.Text.Quoted

namespace GridRecords

/-- A failure of the mapping between records and entities. -/
inductive Failure where
  /-- a field's text is malformed -/
  | parsing (target raw reason : String)
  /-- nothing decodes a type -/
  | missingStrategy (target : String)
  /-- no constructor signature, or more than one, fits the fields of a record -/
  | noMatchingSignature (kind : EntityKind) (supplied : List String)
      (candidates : List (List String)) (found : Nat)
  /-- an entity cannot be built from its arguments -/
  | construction (kind : EntityKind) (reason : String) (arguments : List (String × String))
  /-- a field of a kind has no unit to be written in -/
  | unrecognizedQuantityField (kind : EntityKind) (field value : String)
  /-- a field cannot be written -/
  | flatten (kind : EntityKind) (field value reason : String)
  /-- an entity that must depend on others does not -/
  | extractionConfiguration (entity reason : String)
  /-- a domain rule is broken -/
  | validation (reason : String)
  /-- the configuration cannot be used -/
  | config (reason : String)
  /-- a file cannot be read or written -/
  | io (reason : String)
deriving DecidableEq, Repr

namespace Failure

/-- Code of a failure, the same for all failures of one cause. -/
def code : Failure → String
  | parsing .. => "parsing"
  | missingStrategy .. => "missing-strategy"
  | noMatchingSignature .. => "no-matching-signature"
  | construction .. => "construction"
  | unrecognizedQuantityField .. => "unrecognized-quantity-field"
  | flatten .. => "flatten"
  | extractionConfiguration .. => "extraction-configuration"
  | validation .. => "validation"
  | config .. => "config"
  | io .. => "io"

/-- Whether a failure concerns the setup and not one record. -/
def isConfiguration : Failure → Bool
  | missingStrategy .. | extractionConfiguration .. | config .. | io .. => true
  | _ => false

/-- Wording of a failure. -/
def message : Failure → String
  | parsing target raw reason => s!"cannot parse '{raw}' as {target}: {reason}"
  | missingStrategy target => s!"no strategy available for {target}"
  | noMatchingSignature kind supplied candidates found =>
    let known := "[" ++ ", ".intercalate (candidates.map Text.quotedList) ++ "]"
    kind.name ++ ": supplied fields " ++ Text.quotedList supplied ++ " match "
      ++ toString found ++ " of the known signatures " ++ known
  | construction kind reason arguments =>
    "cannot construct " ++ kind.name ++ " from " ++ Text.quotedTable arguments ++ ": " ++ reason
  | unrecognizedQuantityField kind field value =>
    s!"no unit declared for quantity field {kind.name}.{field} (value {value})"
  | flatten kind field value reason =>
    s!"cannot flatten {kind.name}.{field} = {value}: {reason}"
  | extractionConfiguration entity reason =>
    s!"extraction misconfigured for {entity}: {reason}"
  | validation reason => s!"Validation error: {reason}"
  | config reason => s!"Configuration error: {reason}"
  | io reason => s!"I/O error: {reason}"

end Failure

end GridRecords
