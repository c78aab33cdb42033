import CongeriesCore.Dict
import CongeriesCore.WorkflowModel

/-! # Schema validation

The registry of the validators of registered schemas. -/

namespace CongeriesCore

/-- The registered schemas, each with the check of its values. What a check raises of a subclass of
`ValueError` or of `TypeError` counts as one of these two. -/
structure SchemaRegistry where
  validators : Dict SchemaRef (JsonValue → Except Raised Unit)

/-- `except (TypeError, ValueError)`. -/
def Raised.isTypeOrValueError : Raised → Bool
  | .value _ => true
  | .other name => name == "TypeError"
  | _ => false

def schemaValidationFailed (cause : String) : Raised :=
  .core ⟨.protocolFailure, "schema_validation_failed",
    "value does not conform to its declared schema", false, some cause, [], by decide⟩

namespace SchemaRegistry

def contains (schemas : SchemaRegistry) (schema : SchemaRef) : Bool :=
  schemas.validators.contains schema

def validate (schemas : SchemaRegistry) (schema : SchemaRef) (value : JsonValue) :
    Except Raised Unit :=
  match schemas.validators.get? schema with
  | none => .error (coreError .versionMismatch "schema_not_registered" "schema is not registered")
  | some validator =>
    match validator value with
    | .ok () => .ok ()
    | .error error =>
      if error.isTypeOrValueError then .error (schemaValidationFailed error.typeName)
      else .error error

end SchemaRegistry

end CongeriesCore
