import CongeriesCore.ContextModel

/-! # Model contracts

The requests, the responses and the stream events of a model provider. -/

namespace CongeriesCore

inductive ContentKind
  | text
  | json
  | reference
  deriving DecidableEq, Repr

structure ContentBlock where
  kind : ContentKind
  value : JsonValue
  name : Option String
  mediaType : Option String
  valid : (kind = .json ∨ ∃ text, value = .str text) ∧
    (∀ text ∈ name, isTrimmed text = true) ∧ ∀ text ∈ mediaType, isTrimmed text = true

structure ModelSelector where
  providerId : ProviderId
  modelId : ModelId
  deriving DecidableEq, Repr

inductive ModelOperation
  | generate
  | stream
  deriving DecidableEq, Repr

def ModelOperation.value : ModelOperation → String
  | .generate => "generate"
  | .stream => "stream"

structure ModelBudget where
  maxInputUnits : Option ℕ
  maxOutputUnits : Option ℕ
  positive : maxInputUnits.all (1 ≤ ·) = true ∧ maxOutputUnits.all (1 ≤ ·) = true
  deriving Repr

/-- What a budget is compared by. -/
theorem ModelBudget.fields_injective : Function.Injective fun value : ModelBudget =>
    (value.maxInputUnits, value.maxOutputUnits) := by
  intro first second same
  cases first
  cases second
  simpa using same

instance : DecidableEq ModelBudget := ModelBudget.fields_injective.decidableEq

/-- The constructor call: raises what `__post_init__` raises. -/
theorem ModelBudget.both_positive {maxInputUnits maxOutputUnits : Option ℕ}
    (input : maxInputUnits.all (1 ≤ ·) = true) (output : maxOutputUnits.all (1 ≤ ·) = true) :
    maxInputUnits.all (1 ≤ ·) = true ∧ maxOutputUnits.all (1 ≤ ·) = true := ⟨input, output⟩

def ModelBudget.make (maxInputUnits maxOutputUnits : Option ℕ) : Except Raised ModelBudget :=
  if input : maxInputUnits.all (1 ≤ ·) = true then
    if output : maxOutputUnits.all (1 ≤ ·) = true then
      .ok ⟨maxInputUnits, maxOutputUnits, ModelBudget.both_positive input output⟩
    else .error (.value "model max_output_units must be positive")
  else .error (.value "model max_input_units must be positive")

structure ModelUsage where
  inputUnits : ℕ
  outputUnits : ℕ
  unit : String
  trimmed : isTrimmed unit = true
  deriving Repr

/-- What a usage is compared by. -/
theorem ModelUsage.fields_injective : Function.Injective fun value : ModelUsage =>
    (value.inputUnits, value.outputUnits, value.unit) := by
  intro first second same
  cases first
  cases second
  simpa using same

instance : DecidableEq ModelUsage := ModelUsage.fields_injective.decidableEq

structure ModelRequestPolicy where
  allowPartial : Bool
  allowToolRequests : Bool
  deriving DecidableEq, Repr

structure ToolCallProposal where
  callId : String
  tool : ResourceRef
  arguments : JsonValue
  trimmed : isTrimmed callId = true

structure ModelRequest where
  selector : ModelSelector
  input : List ContentBlock
  instructions : List ContentBlock
  contextEntries : List ContextEntry
  tools : List ResourceRef
  outputSchema : Option SchemaRef
  policy : ModelRequestPolicy
  budget : ModelBudget
  valid : input ≠ [] ∧ (tools.map (·.key)).Nodup

inductive ModelFinishReason
  | stop
  | length
  | toolRequest
  | filtered
  | partial_
  deriving DecidableEq, Repr

def ModelFinishReason.value : ModelFinishReason → String
  | .stop => "stop"
  | .length => "length"
  | .toolRequest => "tool_request"
  | .filtered => "filtered"
  | .partial_ => "partial"

/-- `structuredOutput` is `null` where the source has `None`. -/
structure ModelResponse where
  output : List ContentBlock
  finishReason : ModelFinishReason
  usage : ModelUsage
  providerId : ProviderId
  modelId : ModelId
  structuredOutput : JsonValue
  toolRequests : List ToolCallProposal
  warnings : List String
  provenance : List String
  valid : (output ≠ [] ∨ structuredOutput ≠ .null ∨ toolRequests ≠ []) ∧
    (∀ text ∈ warnings ++ provenance, isTrimmed text = true)

/-- An event has the payload of its type, and no other. -/
inductive ModelEvent
  | start
  | contentDelta (content : ContentBlock)
  | structuredDelta (delta : JsonValue) (given : delta ≠ .null)
  | toolRequest (proposal : ToolCallProposal)
  | usageUpdate (usage : ModelUsage)
  | completion (response : ModelResponse)
  | failure (error : ErrorDetail)

namespace ModelEvent

def terminal : ModelEvent → Bool
  | .completion _ | .failure _ => true
  | _ => false

def isStart : ModelEvent → Bool
  | .start => true
  | _ => false

end ModelEvent

end CongeriesCore
