import PyWorkflowKit.Serialization.Mapping

/-!
# The boundary wire codec

Canonical versioned JSON for boundary values: size and nesting limits, version
checks and the registered upcasters.
-/

namespace PyWorkflowKit.Serialization

open PyWorkflowKit.Core PyWorkflowKit.Domain

/-- The qualified contracts. -/
inductive BoundaryContract where
  | correlationContext
  | diagnostic
  | externalRunRef
  | failureEvidence
  | workflowExecutionReference
deriving DecidableEq, Repr

namespace BoundaryContract

/-- `descriptor.contract`. -/
def contract : BoundaryContract → Text
  | correlationContext => .lit "pykit.correlation_context"
  | diagnostic => .lit "pyworkflowkit.diagnostic"
  | externalRunRef => .lit "pyworkflowkit.external_run_ref"
  | failureEvidence => .lit "pykit.failure_evidence"
  | workflowExecutionReference => .lit "pyworkflowkit.workflow_execution_reference"

/-- `descriptor.contract_version`. -/
def contractVersion : BoundaryContract → Text
  | _ => .lit "1"

/-- `_SPECS_BY_CONTRACT`. -/
def ofName? (name : Text) : Option BoundaryContract :=
  [correlationContext, diagnostic, externalRunRef, failureEvidence,
    workflowExecutionReference].find? fun spec => spec.contract = name

end BoundaryContract

namespace BoundaryValue

/-- `_SPECS_BY_TYPE`. -/
def spec : BoundaryValue → BoundaryContract
  | correlationContext _ => .correlationContext
  | workflowExecutionReference _ => .workflowExecutionReference
  | externalRunRef _ => .externalRunRef
  | failureEvidence _ => .failureEvidence
  | diagnostic _ => .diagnostic

/-- `getattr(value, "contract_version", spec.descriptor.contract_version)`. -/
def declaredVersion : BoundaryValue → Text
  | correlationContext _ => BoundaryContract.correlationContext.contractVersion
  | workflowExecutionReference value => value.contractVersion
  | externalRunRef value => value.contractVersion
  | failureEvidence value => value.evidence.contractVersion
  | diagnostic _ => BoundaryContract.diagnostic.contractVersion

end BoundaryValue

/-- A migration hook: it raises, returns no mapping, or returns one. -/
abbrev Upcaster := Body → Except WireError (Option Body)

/-- One registered migration step. -/
structure UpcasterStep where
  contract : String
  fromVersion : String
  toVersion : String
  upcaster : Upcaster

/-- `BoundaryUpcasterRegistry._steps`. -/
abbrev BoundaryUpcasterRegistry :=
  Table (fun step : UpcasterStep => (step.contract, step.fromVersion))

namespace BoundaryUpcasterRegistry

/-- `register`. -/
def register (registry : BoundaryUpcasterRegistry) (step : UpcasterStep) :
    Except WireError BoundaryUpcasterRegistry :=
  if isBlank step.contract then .error (.valueError "contract must not be blank")
  else if isBlank step.fromVersion then
    .error (.valueError "from_version must not be blank")
  else if isBlank step.toVersion then .error (.valueError "to_version must not be blank")
  else if step.fromVersion = step.toVersion then
    .error (.valueError "upcaster source and target versions must differ")
  else if (registry.find? (step.contract, step.fromVersion)).isSome then
    .error (.valueError ("upcaster already registered for " ++
      PyError.quoted step.contract ++ " version " ++ PyError.quoted step.fromVersion))
  else .ok (registry.set step)

/-- The loop of `upcast`, with the number of steps it may still take. -/
def upcastFrom (registry : BoundaryUpcasterRegistry) (contract toVersion : String) :
    Nat → List String → String → Body → Except WireError Body
  | 0, _, _, _ =>
      .error (.wireContract ("upcaster chain for contract " ++ PyError.quoted contract ++
        " exceeds 32 steps"))
  | fuel + 1, seen, current, payload =>
      if current = toVersion then .ok payload
      else if current ∈ seen then
        .error (.wireContract ("upcaster cycle detected for contract " ++
          PyError.quoted contract))
      else
        match registry.find? (contract, current) with
        | none =>
            .error (.wireContract ("no upcaster from " ++ PyError.quoted contract ++
              " version " ++ PyError.quoted current ++ " to " ++ PyError.quoted toVersion))
        | some step =>
            match step.upcaster payload with
            | .error error => .error error
            | .ok none => .error (.wireContract "upcaster must return a mapping")
            | .ok (some migrated) =>
                upcastFrom registry contract toVersion fuel (current :: seen)
                  step.toVersion migrated

/-- `upcast`. -/
def upcast (registry : BoundaryUpcasterRegistry) (contract fromVersion toVersion : String)
    (payload : Body) : Except WireError Body :=
  registry.upcastFrom contract toVersion 32 [] fromVersion payload

end BoundaryUpcasterRegistry

mutual

/-- No value of a tree lies deeper than the limit. -/
def withinNesting (maxDepth : Nat) : Nat → JsonValue → Bool
  | depth, .mapping members => depth ≤ maxDepth && membersWithin maxDepth (depth + 1) members
  | depth, .tuple items => depth ≤ maxDepth && itemsWithin maxDepth (depth + 1) items
  | depth, .null => depth ≤ maxDepth
  | depth, .bool _ => depth ≤ maxDepth
  | depth, .int _ => depth ≤ maxDepth
  | depth, .float _ => depth ≤ maxDepth
  | depth, .str _ => depth ≤ maxDepth

def itemsWithin (maxDepth : Nat) : Nat → List JsonValue → Bool
  | _, [] => true
  | depth, item :: rest => withinNesting maxDepth depth item && itemsWithin maxDepth depth rest

def membersWithin (maxDepth : Nat) : Nat → List (String × JsonValue) → Bool
  | _, [] => true
  | depth, (_, value) :: rest =>
      withinNesting maxDepth depth value && membersWithin maxDepth depth rest

end

/-- A codec with its limits and its registry. -/
structure BoundaryWireCodec where
  maxPayloadBytes : Nat
  maxNestingDepth : Nat
  upcasters : BoundaryUpcasterRegistry
  bytesPositive : 1 ≤ maxPayloadBytes
  depthPositive : 1 ≤ maxNestingDepth

/-- What `decode` takes. -/
inductive WirePayload where
  | text (value : String)
  | bytes (value : ByteArray)

/-- `_to_utf8_bytes`, as the text that the bytes encode. -/
def WirePayload.decoded : WirePayload → Except WireError String
  | .text value => .ok value
  | .bytes value =>
      match String.fromUTF8? value with
      | some decoded => .ok decoded
      | none => .error (.wireContract "wire payload must be valid UTF-8")

/-- `_strict_json_loads`. -/
def strictJsonLoads (readers : Readers) (text : String) : Except WireError JsonValue :=
  match readCanonical text with
  | some value => .ok value
  | none => readers.otherJson text

/-- `spec.schema_type.model_validate`. -/
def validateBody (readers : Readers) (body : Body) :
    BoundaryContract → Except ValidationError BoundarySchema
  | .correlationContext => (CorrelationContextSchema.validate body).map .correlationContext
  | .diagnostic => (DiagnosticSchema.validate body).map .diagnostic
  | .externalRunRef => (ExternalRunRefSchema.validate body).map .externalRunRef
  | .failureEvidence => (FailureEvidenceSchema.validate readers body).map .failureEvidence
  | .workflowExecutionReference =>
      (WorkflowExecutionReferenceSchema.validate readers body).map .workflowExecutionReference

namespace BoundaryWireCodec

variable (codec : BoundaryWireCodec) (readers : Readers)

/-- `_validate_nesting`. -/
def validateNesting (value : JsonValue) : Except WireError Unit :=
  if withinNesting codec.maxNestingDepth 1 value then .ok ()
  else
    .error (.wireContract ("wire payload exceeds maximum nesting depth " ++
      toString codec.maxNestingDepth))

/-- `_validate_size`. -/
def validateSize (text : String) : Except WireError Unit :=
  if text.utf8ByteSize ≤ codec.maxPayloadBytes then .ok ()
  else
    .error (.wireContract ("wire payload exceeds " ++ toString codec.maxPayloadBytes ++
      " byte limit"))

/-- The envelope of a validated schema. -/
def envelope (spec : BoundaryContract) (schema : BoundarySchema) : JsonValue :=
  WireEnvelope.json ⟨spec.contract, spec.contractVersion, schema.body⟩

/-- `encode`. -/
def encode (value : BoundaryValue) : Except WireError String :=
  let spec := value.spec
  if value.declaredVersion ≠ spec.contractVersion then
    .error (.wireContract (PyError.quoted spec.contract.value ++
      " value declares contract_version " ++ PyError.quoted value.declaredVersion.value ++
      "; expected " ++ PyError.quoted spec.contractVersion.value))
  else do
    let schema ← schemaForValue readers value
    let plain := envelope spec schema
    codec.validateNesting plain
    let encoded := canonicalJsonText plain
    codec.validateSize encoded
    return encoded

/-- The body of an envelope, brought to the qualified version. -/
def currentBody (spec : BoundaryContract) (envelope : WireEnvelope) : Except WireError Body :=
  if envelope.contractVersion ≠ spec.contractVersion then do
    let body ← codec.upcasters.upcast envelope.contract.value envelope.contractVersion.value
      spec.contractVersion.value envelope.payload
    codec.validateNesting (.mapping body)
    return body
  else .ok envelope.payload

/-- The contract and the current body of a payload. -/
def opened (payload : WirePayload) : Except WireError (BoundaryContract × Body) := do
  let text ← payload.decoded
  codec.validateSize text
  let parsed ← strictJsonLoads readers text
  codec.validateNesting parsed
  match WireEnvelope.validate parsed with
  | .error error => .error (.wireContract ("invalid wire envelope: " ++ error.text))
  | .ok envelope =>
      match BoundaryContract.ofName? envelope.contract with
      | none =>
          .error (.wireContract ("unknown boundary contract " ++
            PyError.quoted envelope.contract.value))
      | some spec => do
          let body ← codec.currentBody spec envelope
          return (spec, body)

/-- `decode`. -/
def decode (payload : WirePayload) : Except WireError BoundaryValue := do
  let (spec, body) ← codec.opened readers payload
  match validateBody readers body spec with
  | .error error =>
      .error (.wireContract ("invalid " ++ PyError.quoted spec.contract.value ++
        " payload: " ++ error.text))
  | .ok schema => do
      let value ← valueFromSchema readers schema
      if value.declaredVersion ≠ spec.contractVersion then
        .error (.wireContract ("decoded " ++ PyError.quoted spec.contract.value ++
          " payload declares contract_version " ++
          PyError.quoted value.declaredVersion.value ++ "; expected " ++
          PyError.quoted spec.contractVersion.value))
      else .ok value

/-- `canonicalize`. -/
def canonicalize (payload : WirePayload) : Except WireError String := do
  codec.encode readers (← codec.decode readers payload)

end BoundaryWireCodec

end PyWorkflowKit.Serialization
