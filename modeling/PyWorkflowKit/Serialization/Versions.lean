import PyWorkflowKit.Serialization.RoundTrip

/-!
# Versions on the wire

The codec checks the version that the outer value declares.  The version of an
external run inside a failure is whatever the payload or the value says.
-/

namespace PyWorkflowKit.Serialization

open PyWorkflowKit.Core PyWorkflowKit.Domain

/-- The versioned values in a boundary value, with the versions they declare. -/
def BoundaryValue.versions : BoundaryValue → List (BoundaryContract × Text)
  | .correlationContext _ => []
  | .workflowExecutionReference value => [(.workflowExecutionReference, value.contractVersion)]
  | .externalRunRef value => [(.externalRunRef, value.contractVersion)]
  | .failureEvidence value =>
      (.failureEvidence, value.evidence.contractVersion) ::
        value.evidence.externalRun.toList.map fun run => (.externalRunRef, run.contractVersion)
  | .diagnostic _ => []

/-- Every versioned value declares the qualified version. -/
def BoundaryValue.Qualified (value : BoundaryValue) : Prop :=
  ∀ version ∈ value.versions, version.2 = version.1.contractVersion

instance (value : BoundaryValue) : Decidable value.Qualified := by
  unfold BoundaryValue.Qualified
  infer_instance

/-- The external run inside a failure declares the qualified version. -/
def BoundaryValue.NestedQualified : BoundaryValue → Prop
  | .failureEvidence value =>
      ∀ run, value.evidence.externalRun = some run →
        run.contractVersion = BoundaryContract.externalRunRef.contractVersion
  | _ => True

/-- An object declares the qualified version of external runs, or none at all. -/
def DeclaresQualified (members : Body) : Prop :=
  members.lookup "contract_version" = none ∨
    members.lookup "contract_version" =
      some (.str BoundaryContract.externalRunRef.contractVersion.value)

/-- The payload of a failure carries no external run, or a qualified one. -/
def BoundaryWireCodec.CarriesQualified (codec : BoundaryWireCodec) (readers : Readers)
    (payload : WirePayload) : Prop :=
  ∀ body, codec.opened readers payload = .ok (.failureEvidence, body) →
    ∀ members, body.lookup "external_run" = some (.mapping members) →
      DeclaresQualified members

/-- What the codec accepts and emits declares the qualified versions throughout. -/
structure VersionsClosed (codec : BoundaryWireCodec) (readers : Readers) : Prop where
  decoded : ∀ payload value, codec.decode readers payload = .ok value → value.Qualified
  encoded : ∀ value text, codec.encode readers value = .ok text → value.Qualified

theorem qualified_iff {value : BoundaryValue}
    (hdeclared : value.declaredVersion = value.spec.contractVersion) :
    value.Qualified ↔ value.NestedQualified := by
  cases value with
  | correlationContext value => simp [BoundaryValue.Qualified, BoundaryValue.versions,
      BoundaryValue.NestedQualified]
  | workflowExecutionReference value =>
      have hversion : value.contractVersion =
        BoundaryContract.workflowExecutionReference.contractVersion := hdeclared
      simp [BoundaryValue.Qualified, BoundaryValue.versions, BoundaryValue.NestedQualified,
        hversion]
  | externalRunRef value =>
      have hversion : value.contractVersion =
        BoundaryContract.externalRunRef.contractVersion := hdeclared
      simp [BoundaryValue.Qualified, BoundaryValue.versions, BoundaryValue.NestedQualified,
        hversion]
  | failureEvidence value =>
      have hversion : value.evidence.contractVersion =
        BoundaryContract.failureEvidence.contractVersion := hdeclared
      simp [BoundaryValue.Qualified, BoundaryValue.versions, BoundaryValue.NestedQualified,
        hversion]
  | diagnostic value => simp [BoundaryValue.Qualified, BoundaryValue.versions,
      BoundaryValue.NestedQualified]

section Payloads

/-- A text field takes its default exactly if it is absent or says so. -/
theorem defaultText_eq_default_iff {body : Body} {field message : String} {default text : Text}
    (htext : defaultText body field message default = .ok text) :
    text = default ↔
      body.lookup field = none ∨ body.lookup field = some (.str default.value) := by
  unfold defaultText requiredText at htext
  cases hlookup : body.lookup field with
  | none =>
      rw [hlookup] at htext
      cases htext
      simp
  | some value =>
      rw [hlookup] at htext
      cases value with
      | str held =>
          simp only at htext
          cases hparsed : Text.ofString? held with
          | none =>
              rw [hparsed] at htext
              cases htext
          | some parsed =>
              rw [hparsed] at htext
              cases htext
              have hvalue := Text.value_of_ofString? hparsed
              subst hvalue
              simp [Text.ext_iff]
      | _ => cases htext

theorem contractVersion_of_validate {members : Body} {schema : ExternalRunRefSchema}
    (hvalid : ExternalRunRefSchema.validate members = .ok schema) :
    defaultText members "contract_version" ExternalRunRefSchema.blank (.lit "1") =
      .ok schema.contractVersion := by
  unfold ExternalRunRefSchema.validate at hvalid
  obtain ⟨_, -, hvalid⟩ := bind_eq_ok hvalid
  obtain ⟨_, -, hvalid⟩ := bind_eq_ok hvalid
  obtain ⟨_, -, hvalid⟩ := bind_eq_ok hvalid
  obtain ⟨_, -, hvalid⟩ := bind_eq_ok hvalid
  obtain ⟨_, -, hvalid⟩ := bind_eq_ok hvalid
  obtain ⟨_, -, hvalid⟩ := bind_eq_ok hvalid
  obtain ⟨_, -, hvalid⟩ := bind_eq_ok hvalid
  obtain ⟨_, -, hvalid⟩ := bind_eq_ok hvalid
  obtain ⟨_, -, hvalid⟩ := bind_eq_ok hvalid
  obtain ⟨_, -, hvalid⟩ := bind_eq_ok hvalid
  obtain ⟨version, hversion, hvalid⟩ := bind_eq_ok hvalid
  cases hvalid
  exact hversion

theorem externalRun_of_validate {readers : Readers} {body : Body}
    {schema : FailureEvidenceSchema}
    (hvalid : FailureEvidenceSchema.validate readers body = .ok schema) :
    optionalExternalRun body "external_run" = .ok schema.externalRun := by
  unfold FailureEvidenceSchema.validate at hvalid
  obtain ⟨_, -, hvalid⟩ := bind_eq_ok hvalid
  obtain ⟨_, -, hvalid⟩ := bind_eq_ok hvalid
  obtain ⟨_, -, hvalid⟩ := bind_eq_ok hvalid
  obtain ⟨_, -, hvalid⟩ := bind_eq_ok hvalid
  obtain ⟨_, -, hvalid⟩ := bind_eq_ok hvalid
  obtain ⟨_, -, hvalid⟩ := bind_eq_ok hvalid
  obtain ⟨_, -, hvalid⟩ := bind_eq_ok hvalid
  obtain ⟨_, -, hvalid⟩ := bind_eq_ok hvalid
  obtain ⟨_, -, hvalid⟩ := bind_eq_ok hvalid
  obtain ⟨_, -, hvalid⟩ := bind_eq_ok hvalid
  obtain ⟨run, hrun, hvalid⟩ := bind_eq_ok hvalid
  obtain ⟨_, -, hvalid⟩ := bind_eq_ok hvalid
  obtain ⟨_, -, hvalid⟩ := bind_eq_ok hvalid
  obtain ⟨_, -, hvalid⟩ := bind_eq_ok hvalid
  obtain ⟨_, -, hvalid⟩ := bind_eq_ok hvalid
  obtain ⟨_, -, hvalid⟩ := bind_eq_ok hvalid
  obtain ⟨_, -, hvalid⟩ := bind_eq_ok hvalid
  cases hvalid
  exact hrun

/-- The external run of a validated failure is qualified exactly if its object is. -/
theorem externalRun_qualified_iff {body : Body} {run : Option ExternalRunRefSchema}
    (hrun : optionalExternalRun body "external_run" = .ok run) :
    (∀ held, run = some held →
        held.contractVersion = BoundaryContract.externalRunRef.contractVersion) ↔
      ∀ members, body.lookup "external_run" = some (.mapping members) →
        DeclaresQualified members := by
  unfold optionalExternalRun at hrun
  split at hrun
  · next hlookup =>
    cases hrun
    simp [hlookup]
  · next hlookup =>
    cases hrun
    simp [hlookup]
  · next members hlookup =>
    split at hrun
    · next schema hvalid =>
      cases hrun
      have hversion := defaultText_eq_default_iff (contractVersion_of_validate hvalid)
      simp only [Option.some.injEq, forall_eq', hlookup, JsonValue.mapping.injEq]
      exact hversion
    · cases hrun
  · cases hrun

variable {codec : BoundaryWireCodec} {readers : Readers}

/-- What it takes for `decode` to return. -/
theorem decode_eq_ok {payload : WirePayload} {value : BoundaryValue}
    (hdecode : codec.decode readers payload = .ok value) :
    ∃ spec body schema, codec.opened readers payload = .ok (spec, body) ∧
      validateBody readers body spec = .ok schema ∧
      valueFromSchema readers schema = .ok value ∧
      value.declaredVersion = spec.contractVersion := by
  unfold BoundaryWireCodec.decode at hdecode
  obtain ⟨⟨spec, body⟩, hopened, hdecode⟩ := bind_eq_ok hdecode
  simp only at hdecode
  split at hdecode
  · cases hdecode
  · next schema hvalid =>
    obtain ⟨found, hfound, hdecode⟩ := bind_eq_ok hdecode
    split at hdecode
    · cases hdecode
    · next hversion =>
      cases hdecode
      exact ⟨spec, body, schema, hopened, hvalid, hfound, not_not.mp hversion⟩

/-- A validated schema is of the contract it was validated for, and so is its value. -/
theorem spec_of_decoded {spec : BoundaryContract} {body : Body} {schema : BoundarySchema}
    {value : BoundaryValue} (hvalid : validateBody readers body spec = .ok schema)
    (hvalue : valueFromSchema readers schema = .ok value) : value.spec = spec := by
  cases spec with
  | correlationContext =>
      obtain ⟨inner, -, rfl⟩ := map_eq_ok hvalid
      cases hvalue
      rfl
  | diagnostic =>
      obtain ⟨inner, -, rfl⟩ := map_eq_ok hvalid
      cases hvalue
      rfl
  | externalRunRef =>
      obtain ⟨inner, -, rfl⟩ := map_eq_ok hvalid
      cases hvalue
      rfl
  | failureEvidence =>
      obtain ⟨inner, -, rfl⟩ := map_eq_ok hvalid
      obtain ⟨occurredAt, -, hvalue⟩ := bind_eq_ok hvalue
      cases hvalue
      rfl
  | workflowExecutionReference =>
      obtain ⟨inner, -, rfl⟩ := map_eq_ok hvalid
      obtain ⟨startedAt, -, hvalue⟩ := bind_eq_ok hvalue
      cases hvalue
      rfl

/-- A decoded value is qualified exactly if the payload is. -/
theorem qualified_decoded_iff {payload : WirePayload} {value : BoundaryValue}
    (hdecode : codec.decode readers payload = .ok value) :
    value.Qualified ↔ codec.CarriesQualified readers payload := by
  obtain ⟨spec, body, schema, hopened, hvalid, hvalue, hversion⟩ := decode_eq_ok hdecode
  obtain rfl : value.spec = spec := spec_of_decoded hvalid hvalue
  rw [qualified_iff hversion]
  unfold BoundaryWireCodec.CarriesQualified
  rw [hopened]
  cases value with
  | failureEvidence value =>
      obtain ⟨inner, hinner, rfl⟩ := map_eq_ok hvalid
      obtain ⟨occurredAt, -, hvalue⟩ := bind_eq_ok hvalue
      cases hvalue
      have hnested := externalRun_qualified_iff (externalRun_of_validate hinner)
      simp only [BoundaryValue.NestedQualified, Option.map_eq_some_iff, forall_exists_index,
        and_imp]
      constructor
      · intro hqualified opened hbody
        cases hbody
        rw [← hnested]
        exact fun held hheld => hqualified _ held hheld rfl
      · rintro hcarried run held hheld rfl
        exact hnested.mpr (hcarried body rfl) held hheld
  | correlationContext value => simp [BoundaryValue.NestedQualified, BoundaryValue.spec]
  | workflowExecutionReference value =>
      simp [BoundaryValue.NestedQualified, BoundaryValue.spec]
  | externalRunRef value => simp [BoundaryValue.NestedQualified, BoundaryValue.spec]
  | diagnostic value => simp [BoundaryValue.NestedQualified, BoundaryValue.spec]

end Payloads

/-- What the codec accepts or emits is qualified exactly if the external run
inside a failure is. -/
theorem qualified_iff_nested (codec : BoundaryWireCodec) (readers : Readers) :
    (∀ payload value, codec.decode readers payload = .ok value →
      (value.Qualified ↔ codec.CarriesQualified readers payload)) ∧
    ∀ value text, codec.encode readers value = .ok text →
      (value.Qualified ↔ value.NestedQualified) :=
  ⟨fun _ _ hdecode => qualified_decoded_iff hdecode, fun value text hencode =>
    qualified_iff ((BoundaryWireCodec.encode_eq_ok_iff value text).mp hencode).1⟩

/-- A failure whose external run declares version 2. -/
def nestedFailure : BoundaryValue :=
  .failureEvidence {
    evidence := {
      errorCode := .lit "provider_failed"
      category := .externalProvider
      retryability := .nonRetryable
      uncertainty := .known
      correlationId := ⟨.lit "correlation-1"⟩
      sourceFramework := .lit "pyworkflowkit"
      workflowRunId := none
      taskRunId := none
      taskAttemptId := none
      externalRun := some {
        provider := .lit "airflow"
        externalRunId := .lit "dag-run-1"
        kind := .lit "dag_run"
        statusHint := none
        statusLocator := none
        correlationId := none
        causationId := none
        metadata := []
        nameSpace := .lit "pyworkflowkit.external_run"
        contractVersion := .lit "2" }
      sourceComponent := none
      providerCode := none
      messageSummary := none
      occurredAt := .first
      details := []
      contractVersion := .lit "1" }
    occurredAt := ⟨0, 0, DateTime.localRange_zero, DateTime.offsetRange_zero⟩
    denotes := rfl }

/-- A nested version passes unchecked both ways. -/
theorem nestedFailure_unchecked :
    ¬ ∀ codec readers, VersionsClosed codec readers := by
  intro hclosed
  have hencoded : (defaultCodec.encode strictReaders nestedFailure).isOk = true := by
    decide +kernel
  cases hencode : defaultCodec.encode strictReaders nestedFailure with
  | error error =>
      rw [hencode] at hencoded
      cases hencoded
  | ok text =>
      have hqualified := (hclosed defaultCodec strictReaders).decoded _ _
        (BoundaryWireCodec.decode_encoded hencode)
      revert hqualified
      decide +kernel

end PyWorkflowKit.Serialization
