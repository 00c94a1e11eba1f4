import Mathlib
import PyWorkflowKit.Serialization.Bodies

/-!
# The wire round trip

Canonical forms of boundary values, and the law that encoding and decoding are
inverse on them.
-/

namespace PyWorkflowKit.Serialization

open PyWorkflowKit.Core PyWorkflowKit.Domain

/-- `astimezone(UTC)`, where it does not overflow. -/
def toUtc (at_ : DateTime) : DateTime := at_.toUtc?.getD at_

/-- String pairs sorted by key. -/
def sortedPairs (pairs : Pairs) : Pairs := sortBy Prod.fst pairs

theorem instant_of_toUtc? {at_ utc : DateTime} (hutc : at_.toUtc? = some utc) :
    utc.instant = at_.instant ∧ utc.offsetMicros = 0 := by
  unfold DateTime.toUtc? at hutc
  split at hutc
  · cases hutc
    refine ⟨?_, rfl⟩
    ext
    simp [DateTime.instant]
  · cases hutc

theorem instant_toUtc (at_ : DateTime) : (toUtc at_).instant = at_.instant := by
  unfold toUtc
  cases hutc : at_.toUtc? with
  | none => rfl
  | some utc => exact (instant_of_toUtc? hutc).1

def canonicalExternalRun (run : ExternalRunRef) : ExternalRunRef :=
  { run with metadata := sortedPairs run.metadata }

/-- The canonical form of a boundary value. -/
def BoundaryValue.canonical : BoundaryValue → BoundaryValue
  | .correlationContext value => .correlationContext value
  | .workflowExecutionReference value =>
      .workflowExecutionReference { value with startedAt := value.startedAt.map toUtc }
  | .externalRunRef value => .externalRunRef (canonicalExternalRun value)
  | .failureEvidence value =>
      .failureEvidence {
        evidence := { value.evidence with
          externalRun := value.evidence.externalRun.map canonicalExternalRun
          details := sortedPairs value.evidence.details }
        occurredAt := toUtc value.occurredAt
        denotes := (instant_toUtc value.occurredAt).trans value.denotes }
  | .diagnostic value => .diagnostic { value with details := sortedPairs value.details }

theorem BoundaryValue.spec_canonical (value : BoundaryValue) :
    value.canonical.spec = value.spec := by
  cases value <;> rfl

theorem BoundaryValue.declaredVersion_canonical (value : BoundaryValue) :
    value.canonical.declaredVersion = value.declaredVersion := by
  cases value <;> rfl

section Datetimes

/-- The characters of a UTC datetime end in the offset that the wire writes as `Z`. -/
theorem toList_isoformat_utc {utc : DateTime} (hutc : utc.offsetMicros = 0) :
    utc.isoformat.toList = readingChars utc.localMicros.toNat ++ "+00:00".toList := by
  rw [DateTime.isoformat, hutc, String.toList_ofList]
  rfl

/-- What `_format_required_wire_datetime` writes. -/
theorem formatRequiredWireDatetime_eq_ok {at_ : DateTime} {text : String}
    (hformat : formatRequiredWireDatetime at_ = .ok text) :
    ∃ utc, at_.toUtc? = some utc ∧
      text = String.ofList (readingChars utc.localMicros.toNat ++ ['Z']) := by
  unfold formatRequiredWireDatetime at hformat
  split at hformat
  · cases hformat
  · next utc hutc =>
    have hchars := toList_isoformat_utc (instant_of_toUtc? hutc).2
    have hlength : (readingChars utc.localMicros.toNat ++ "+00:00".toList).length - 6 =
        (readingChars utc.localMicros.toNat).length := by simp
    simp only [hchars, hlength, List.drop_left, List.take_left, if_true] at hformat
    cases hformat
    exact ⟨utc, hutc, rfl⟩

/-- What was written is parsed back, as the UTC datetime. -/
theorem parseWireDatetime_format (readers : Readers) (fieldName : String) {at_ utc : DateTime}
    (hutc : at_.toUtc? = some utc) :
    parseWireDatetime readers fieldName
        (String.ofList (readingChars utc.localMicros.toNat ++ ['Z'])) = .ok utc := by
  have hoffset := (instant_of_toUtc? hutc).2
  have hnotBlank : isBlank (String.ofList (readingChars utc.localMicros.toNat ++ ['Z'])) =
      false := by
    simp [isBlank, isSpace]
  have hread := fromisoformat_isoformat readers.otherDateTimes hoffset
  have hnormal : String.ofList (readingChars utc.localMicros.toNat ++ "+00:00".toList) =
      utc.isoformat := by
    rw [← toList_isoformat_utc hoffset, String.ofList_toList]
  unfold parseWireDatetime
  simp only [hnotBlank, String.toList_ofList, List.getLast?_concat, List.dropLast_concat, if_true,
    hnormal, hread]
  rfl

/-- A written datetime passes its field validator. -/
theorem checkedTime_format (readers : Readers) (field : String) {at_ : DateTime} {text : String}
    (hformat : formatRequiredWireDatetime at_ = .ok text) :
    checkedTime readers field text = .ok text := by
  obtain ⟨utc, hutc, rfl⟩ := formatRequiredWireDatetime_eq_ok hformat
  simp only [checkedTime, parseWireDatetime_format readers field hutc]

theorem constructedTime_format (readers : Readers) (field : String) {at_ : DateTime}
    {text : String} (hformat : formatRequiredWireDatetime at_ = .ok text) :
    constructedTime readers field text = .ok text := by
  simp only [constructedTime, checkedTime_format readers field hformat]

theorem parse_of_format (readers : Readers) (field : String) {at_ : DateTime} {text : String}
    (hformat : formatRequiredWireDatetime at_ = .ok text) :
    parseWireDatetime readers field text = .ok (toUtc at_) := by
  obtain ⟨utc, hutc, rfl⟩ := formatRequiredWireDatetime_eq_ok hformat
  rw [parseWireDatetime_format readers field hutc, toUtc, hutc]
  rfl

/-- Converting to UTC twice is converting once. -/
theorem format_toUtc {at_ : DateTime} {text : String}
    (hformat : formatRequiredWireDatetime at_ = .ok text) :
    formatRequiredWireDatetime (toUtc at_) = .ok text := by
  have hagain : (toUtc at_).toUtc? = at_.toUtc? := by
    unfold DateTime.toUtc?
    rw [instant_toUtc]
  rw [← hformat]
  unfold formatRequiredWireDatetime
  rw [hagain]

end Datetimes

section StringPairs

theorem firstRepeated_eq_none_iff (seen keys : List String) :
    firstRepeated seen keys = none ↔ keys.Nodup ∧ ∀ key ∈ keys, key ∉ seen := by
  induction keys generalizing seen with
  | nil => simp [firstRepeated]
  | cons key rest ih =>
      rw [firstRepeated]
      by_cases hseen : key ∈ seen
      · simp [hseen]
      · rw [if_neg hseen, ih, List.nodup_cons, List.forall_mem_cons]
        constructor
        · rintro ⟨hnodup, hfresh⟩
          exact ⟨⟨fun hmem => hfresh key hmem List.mem_cons_self, hnodup⟩, hseen,
            fun other hother hmem => hfresh other hother (List.mem_cons_of_mem _ hmem)⟩
        · rintro ⟨⟨habsent, hnodup⟩, -, hfresh⟩
          refine ⟨hnodup, fun other hother hmem => ?_⟩
          rcases List.mem_cons.mp hmem with rfl | hmem
          · exact habsent hother
          · exact hfresh other hother hmem

/-- Pairs make a dictionary exactly if their keys are distinct. -/
theorem pairsToDict_eq_ok_iff (values : Pairs) (fieldName : String) (dict : Baggage) :
    pairsToDict values fieldName = .ok dict ↔
      (values.map Prod.fst).Nodup ∧ dict.members = sortedPairs values := by
  have hrepeated := firstRepeated_eq_none_iff [] (values.map Prod.fst)
  unfold pairsToDict
  cases hfirst : firstRepeated [] (values.map Prod.fst) with
  | some key =>
      have hnodup : ¬ (values.map Prod.fst).Nodup := by
        intro hnodup
        rw [hfirst] at hrepeated
        exact absurd (hrepeated.mpr ⟨hnodup, by simp⟩) (by simp)
      simp [hnodup]
  | none =>
      have hnodup := (hrepeated.mp hfirst).1
      have hself : dictOf values = values := by
        simpa [dictOf] using foldl_assignRow_eq_append values [] (by simpa using hnodup)
      have hmembers : (pairsDict values).members = sortedPairs values := by
        change sortBy Prod.fst (dictOf values) = _
        rw [hself, sortedPairs]
      simp only [Except.ok.injEq, hnodup, true_and]
      constructor
      · rintro rfl
        exact hmembers
      · intro hdict
        obtain ⟨members, hsorted⟩ := dict
        change members = _ at hdict
        rw [← hmembers] at hdict
        subst hdict
        rfl

/-- Sorted pairs make the same dictionary. -/
theorem pairsToDict_sortedPairs {values : Pairs} {fieldName : String} {dict : Baggage}
    (hdict : pairsToDict values fieldName = .ok dict) :
    pairsToDict (sortedPairs values) fieldName = .ok dict := by
  rw [pairsToDict_eq_ok_iff] at hdict ⊢
  refine ⟨?_, hdict.2.trans (sortBy_sortBy Prod.fst values).symm⟩
  exact ((sortBy_perm Prod.fst values).map Prod.fst).nodup_iff.mpr hdict.1

end StringPairs

/-- The members of a schema instance as `json.dumps` orders them. -/
def BoundarySchema.wireBody (schema : BoundarySchema) : Body :=
  sortBy Prod.fst (membersInKeyOrder schema.body)

/-- The value, the schema made of it, the dumped body and the canonical form
agree. -/
structure Maps (readers : Readers) (value : BoundaryValue) (schema : BoundarySchema) : Prop where
  canonical : schemaForValue readers value.canonical = .ok schema
  decoded : valueFromSchema readers schema = .ok value.canonical
  valid : validateBody readers schema.wireBody value.spec = .ok schema

section Mappings

variable {readers : Readers}

theorem externalRunRefSchema_eq_ok {value : ExternalRunRef} {schema : ExternalRunRefSchema}
    (hschema : externalRunRefSchema value = .ok schema) :
    externalRunRefSchema (canonicalExternalRun value) = .ok schema ∧
      externalRunRefValue schema = canonicalExternalRun value := by
  unfold externalRunRefSchema at hschema ⊢
  cases hdict : pairsToDict value.metadata "metadata" with
  | error error =>
      rw [hdict] at hschema
      cases hschema
  | ok dict =>
      rw [hdict] at hschema
      cases hschema
      have hagain := pairsToDict_sortedPairs hdict
      have hmembers := ((pairsToDict_eq_ok_iff _ _ _).mp hdict).2
      constructor
      · change (do
          let metadata ← pairsToDict (sortedPairs value.metadata) "metadata"
          return _) = _
        rw [hagain]
        rfl
      · obtain ⟨provider, runId, kind, hint, locator, correlation, causation, metadata, nameSpace,
          version⟩ := value
        change (⟨provider, runId, kind, hint, locator, (correlation.map _).map _, causation,
          dict.members, nameSpace, version⟩ : ExternalRunRef) = _
        rw [hmembers]
        cases correlation <;> rfl

theorem maps_correlationContext (value : CorrelationContext) :
    Maps readers (.correlationContext value)
      (.correlationContext (correlationContextSchema value)) where
  canonical := rfl
  decoded := by
    have hbaggage : (if value.baggage.members = [] then none else some value.baggage).getD
        Baggage.empty = value.baggage := by
      generalize value.baggage = baggage
      obtain ⟨members, hsorted⟩ := baggage
      cases members <;> rfl
    simp only [valueFromSchema, correlationContextSchema, hbaggage]
    rfl
  valid := congrArg (Except.map BoundarySchema.correlationContext)
    (CorrelationContextSchema.validate_served
      (serves_present (CorrelationContextSchema.sound_dump _).nodup))

theorem maps_externalRunRef {value : ExternalRunRef} {schema : BoundarySchema}
    (hschema : schemaForValue readers (.externalRunRef value) = .ok schema) :
    Maps readers (.externalRunRef value) schema := by
  obtain ⟨inner, hinner, rfl⟩ := map_eq_ok hschema
  obtain ⟨hcanonical, hvalue⟩ := externalRunRefSchema_eq_ok hinner
  constructor
  · change (externalRunRefSchema (canonicalExternalRun value)).map _ = _
    rw [hcanonical]
    rfl
  · change Except.ok (BoundaryValue.externalRunRef (externalRunRefValue inner)) = _
    rw [hvalue]
    rfl
  · exact congrArg (Except.map BoundarySchema.externalRunRef)
      (ExternalRunRefSchema.validate_served (serves_present inner.sound_dump.nodup))

theorem maps_diagnostic {value : Diagnostic} {schema : BoundarySchema}
    (hschema : schemaForValue readers (.diagnostic value) = .ok schema) :
    Maps readers (.diagnostic value) schema := by
  obtain ⟨inner, hinner, rfl⟩ := map_eq_ok hschema
  unfold diagnosticSchema at hinner
  cases hdict : pairsToDict value.details "details" with
  | error error =>
      rw [hdict] at hinner
      cases hinner
  | ok dict =>
      rw [hdict] at hinner
      cases hinner
      have hagain := pairsToDict_sortedPairs hdict
      have hmembers := ((pairsToDict_eq_ok_iff _ _ _).mp hdict).2
      obtain ⟨code, severity, summary, details, run, task, attempt, correlation, component,
        decision, policy, framework⟩ := value
      constructor
      · simp only [BoundaryValue.canonical, schemaForValue, diagnosticSchema, hagain]
        rfl
      · simp only [BoundaryValue.canonical, valueFromSchema, hmembers]
        cases correlation <;> rfl
      · exact congrArg (Except.map BoundarySchema.diagnostic)
          (DiagnosticSchema.validate_served
            (serves_present (DiagnosticSchema.sound_dump _).nodup))

theorem maps_workflowExecutionReference {value : WorkflowExecutionReference}
    {schema : BoundarySchema}
    (hschema : schemaForValue readers (.workflowExecutionReference value) = .ok schema) :
    Maps readers (.workflowExecutionReference value) schema := by
  obtain ⟨inner, hinner, rfl⟩ := map_eq_ok hschema
  obtain ⟨run, definition, status, startedAt, owner, nameSpace, version⟩ := value
  unfold workflowExecutionReferenceSchema formatWireDatetime at hinner
  cases startedAt with
  | none =>
      cases hinner
      refine ⟨rfl, rfl, congrArg (Except.map BoundarySchema.workflowExecutionReference)
        (WorkflowExecutionReferenceSchema.validate_served
          (serves_present (WorkflowExecutionReferenceSchema.sound_dump _).nodup) ?_)⟩
      rintro held ⟨⟩
  | some at_ =>
      cases hformat : formatRequiredWireDatetime at_ with
      | error error =>
          simp only [hformat] at hinner
          cases hinner
      | ok text =>
          have hconstructed := constructedTime_format readers "started_at" hformat
          have hschema : inner = ⟨run.value, definition, status, some text, owner, nameSpace,
              version⟩ := by
            simp only [hformat, Except.map, Option.mapM] at hinner
            change (some <$> constructedTime readers "started_at" text >>= fun startedAt =>
              pure _) = _ at hinner
            rw [hconstructed] at hinner
            exact (Except.ok.inj hinner).symm
          subst hschema
          constructor
          · simp only [BoundaryValue.canonical, schemaForValue, workflowExecutionReferenceSchema,
              formatWireDatetime, Option.map_some, format_toUtc hformat, Except.map, Option.mapM]
            change (do
              let startedAt ← (do
                let text ← constructedTime readers "started_at" text
                pure (some text))
              return _ : Except WireError WorkflowExecutionReferenceSchema).map _ = _
            rw [hconstructed]
            rfl
          · simp only [valueFromSchema, Option.mapM, parse_of_format readers "started_at" hformat]
            rfl
          · refine congrArg (Except.map BoundarySchema.workflowExecutionReference)
              (WorkflowExecutionReferenceSchema.validate_served
                (serves_present (WorkflowExecutionReferenceSchema.sound_dump _).nodup) ?_)
            rintro held ⟨⟩
            exact checkedTime_format readers "started_at" hformat

theorem mapM_externalRunRefSchema {run : Option ExternalRunRef}
    {schema : Option ExternalRunRefSchema}
    (hschema : run.mapM externalRunRefSchema = .ok schema) :
    (run.map canonicalExternalRun).mapM externalRunRefSchema = .ok schema ∧
      schema.map externalRunRefValue = run.map canonicalExternalRun := by
  cases run with
  | none =>
      cases hschema
      exact ⟨rfl, rfl⟩
  | some held =>
      obtain ⟨inner, hinner, rfl⟩ := map_eq_ok hschema
      obtain ⟨hcanonical, hvalue⟩ := externalRunRefSchema_eq_ok hinner
      constructor
      · change (externalRunRefSchema (canonicalExternalRun held)).map some = _
        rw [hcanonical]
        rfl
      · rw [Option.map_some, Option.map_some, hvalue]

theorem maps_failureEvidence {value : DatedFailure} {schema : BoundarySchema}
    (hschema : schemaForValue readers (.failureEvidence value) = .ok schema) :
    Maps readers (.failureEvidence value) schema := by
  obtain ⟨inner, hinner, rfl⟩ := map_eq_ok hschema
  unfold failureEvidenceSchema at hinner
  obtain ⟨run, hrun, hinner⟩ := bind_eq_ok hinner
  obtain ⟨text, hformat, hinner⟩ := bind_eq_ok hinner
  obtain ⟨dict, hdict, hinner⟩ := bind_eq_ok hinner
  rw [constructedTime_format readers "occurred_at" hformat] at hinner
  have hchecked : checkedTime readers "occurred_at" inner.occurredAt =
      .ok inner.occurredAt := by
    rw [← Except.ok.inj hinner]
    exact checkedTime_format readers "occurred_at" hformat
  have hvalid := FailureEvidenceSchema.validate_served
    (serves_present inner.sound_dump.nodup) hchecked
  cases hinner
  obtain ⟨hcanonical, hvalue⟩ := mapM_externalRunRefSchema hrun
  have hagain := pairsToDict_sortedPairs hdict
  have hmembers := ((pairsToDict_eq_ok_iff _ _ _).mp hdict).2
  constructor
  · simp only [BoundaryValue.canonical, schemaForValue, failureEvidenceSchema, hcanonical,
      format_toUtc hformat, hagain]
    change (constructedTime readers "occurred_at" text >>= fun occurredAt => pure _).map _ = _
    rw [constructedTime_format readers "occurred_at" hformat]
    rfl
  · simp only [valueFromSchema, parse_of_format readers "occurred_at" hformat, hvalue, hmembers]
    obtain ⟨evidence, occurredAt, hdenotes⟩ := value
    simp only [BoundaryValue.canonical]
    change Except.ok (BoundaryValue.failureEvidence _) = Except.ok (BoundaryValue.failureEvidence _)
    congr 3
    rw [instant_toUtc, hdenotes]
  · exact congrArg (Except.map BoundarySchema.failureEvidence) hvalid

/-- A value that has a schema is mapped back to its canonical form. -/
theorem maps_of_schemaForValue {value : BoundaryValue} {schema : BoundarySchema}
    (hschema : schemaForValue readers value = .ok schema) : Maps readers value schema := by
  cases value with
  | correlationContext value =>
      cases hschema
      exact maps_correlationContext value
  | workflowExecutionReference value => exact maps_workflowExecutionReference hschema
  | externalRunRef value => exact maps_externalRunRef hschema
  | failureEvidence value => exact maps_failureEvidence hschema
  | diagnostic value => exact maps_diagnostic hschema

end Mappings

section Envelopes

theorem BoundaryContract.ofName?_contract (spec : BoundaryContract) :
    BoundaryContract.ofName? spec.contract = some spec := by
  cases spec <;> decide

/-- Whatever the schema, its body is textual in key order. -/
theorem textual_body (schema : BoundarySchema) : (inKeyOrder (.mapping schema.body)).Textual := by
  cases schema with
  | correlationContext schema => exact schema.sound_dump.textual
  | workflowExecutionReference schema => exact schema.sound_dump.textual
  | externalRunRef schema => exact schema.sound_dump.textual
  | failureEvidence schema => exact schema.sound_dump.textual
  | diagnostic schema => exact schema.sound_dump.textual

theorem textual_envelope (spec : BoundaryContract) (schema : BoundarySchema) :
    (inKeyOrder (BoundaryWireCodec.envelope spec schema)).Textual := by
  apply textual_mapping
  · change ["contract", "contract_version", "payload"].Nodup
    decide
  · simp only [List.forall_mem_cons, List.not_mem_nil, false_implies, implies_true, and_true]
    exact ⟨trivial, trivial, textual_body schema⟩

/-- The envelope as `json.dumps` orders it. -/
theorem inKeyOrder_envelope (spec : BoundaryContract) (schema : BoundarySchema) :
    inKeyOrder (BoundaryWireCodec.envelope spec schema) =
      WireEnvelope.json ⟨spec.contract, spec.contractVersion, schema.wireBody⟩ := by
  unfold BoundaryWireCodec.envelope WireEnvelope.json
  rw [inKeyOrder, membersInKeyOrder_eq_map]
  congr 1
  apply sortBy_eq_self
  simp only [List.map_cons, List.map_nil, List.pairwise_cons, List.mem_cons, List.not_mem_nil,
    or_false, forall_eq_or_imp, forall_eq, List.Pairwise.nil, and_true, false_implies,
    implies_true]
  decide

/-- An envelope is read back. -/
theorem validate_json (envelope : WireEnvelope) :
    WireEnvelope.validate envelope.json = .ok envelope := by
  have hextra : forbidExtra [("contract", textJson envelope.contract),
      ("contract_version", textJson envelope.contractVersion),
      ("payload", .mapping envelope.payload)] ["contract", "contract_version", "payload"] =
      .ok () := by
    apply forbidExtra_of_keys
    simp
  unfold WireEnvelope.json WireEnvelope.validate
  simp only [hextra]
  rw [requiredText_of_lookup _ (by rfl), requiredText_of_lookup _ (by rfl)]
  rfl

end Envelopes

namespace BoundaryWireCodec

variable {codec : BoundaryWireCodec} {readers : Readers}

/-- What it takes for `encode` to return. -/
theorem encode_eq_ok_iff (value : BoundaryValue) (text : String) :
    codec.encode readers value = .ok text ↔
      value.declaredVersion = value.spec.contractVersion ∧
      ∃ schema, schemaForValue readers value = .ok schema ∧
        withinNesting codec.maxNestingDepth 1 (envelope value.spec schema) = true ∧
        (canonicalJsonText (envelope value.spec schema)).utf8ByteSize ≤
          codec.maxPayloadBytes ∧
        canonicalJsonText (envelope value.spec schema) = text := by
  unfold encode
  by_cases hversion : value.declaredVersion = value.spec.contractVersion
  · rw [if_neg (not_not.mpr hversion)]
    constructor
    · intro hencode
      obtain ⟨schema, hschema, hencode⟩ := bind_eq_ok hencode
      obtain ⟨_, hnesting, hencode⟩ := bind_eq_ok hencode
      obtain ⟨_, hsize, hencode⟩ := bind_eq_ok hencode
      refine ⟨hversion, schema, hschema, ?_, ?_, Except.ok.inj hencode⟩
      · unfold validateNesting at hnesting
        split at hnesting
        · assumption
        · cases hnesting
      · unfold validateSize at hsize
        split at hsize
        · assumption
        · cases hsize
    · rintro ⟨-, schema, hschema, hnesting, hsize, rfl⟩
      rw [hschema]
      change (codec.validateNesting _ >>= fun _ => codec.validateSize _ >>= fun _ =>
        pure _) = _
      unfold validateNesting validateSize
      rw [if_pos hnesting, if_pos hsize]
      rfl
  · rw [if_pos hversion]
    simp [hversion]

/-- The text of an encoded value is opened to its contract and body. -/
theorem opened_encoded {value : BoundaryValue} {schema : BoundarySchema}
    (hnesting : withinNesting codec.maxNestingDepth 1 (envelope value.spec schema) = true)
    (hsize : (canonicalJsonText (envelope value.spec schema)).utf8ByteSize ≤
      codec.maxPayloadBytes) :
    codec.opened readers (.text (canonicalJsonText (envelope value.spec schema))) =
      .ok (value.spec, schema.wireBody) := by
  have hloads : strictJsonLoads readers (canonicalJsonText (envelope value.spec schema)) =
      .ok (inKeyOrder (envelope value.spec schema)) := by
    unfold strictJsonLoads
    rw [← canonicalJsonText_inKeyOrder, readCanonical_canonical (textual_envelope _ _)]
  have hsizes : codec.validateSize (canonicalJsonText (envelope value.spec schema)) = .ok () :=
    if_pos hsize
  have hdepths : codec.validateNesting (inKeyOrder (envelope value.spec schema)) = .ok () := by
    apply if_pos
    rw [withinNesting_inKeyOrder]
    exact hnesting
  have hcurrent : codec.currentBody value.spec
      ⟨value.spec.contract, value.spec.contractVersion, schema.wireBody⟩ =
      .ok schema.wireBody := if_neg (not_not.mpr rfl)
  unfold opened
  change (codec.validateSize _ >>= fun _ => strictJsonLoads readers _ >>= fun parsed => _) = _
  rw [hsizes, hloads]
  change (codec.validateNesting _ >>= fun _ => _) = _
  rw [hdepths, inKeyOrder_envelope]
  simp only [bind, Except.bind, validate_json, BoundaryContract.ofName?_contract, hcurrent]
  rfl

/-- What `encode` writes, `decode` reads back as the canonical form. -/
theorem decode_encoded {value : BoundaryValue} {text : String}
    (hencode : codec.encode readers value = .ok text) :
    codec.decode readers (.text text) = .ok value.canonical := by
  obtain ⟨hversion, schema, hschema, hnesting, hsize, rfl⟩ :=
    (encode_eq_ok_iff value text).mp hencode
  obtain ⟨-, hvalue, hvalid⟩ := maps_of_schemaForValue hschema
  unfold decode
  rw [opened_encoded hnesting hsize]
  simp only [bind, Except.bind, hvalid]
  change (valueFromSchema readers schema >>= fun value => _) = _
  rw [hvalue]
  change (if _ then _ else _) = _
  rw [if_neg]
  rw [value.declaredVersion_canonical]
  exact not_not.mpr hversion

/-- The canonical form is encoded as the value is. -/
theorem encode_canonical {value : BoundaryValue} {text : String}
    (hencode : codec.encode readers value = .ok text) :
    codec.encode readers value.canonical = .ok text := by
  rw [encode_eq_ok_iff] at hencode ⊢
  obtain ⟨hversion, schema, hschema, hrest⟩ := hencode
  rw [value.declaredVersion_canonical, value.spec_canonical]
  exact ⟨hversion, schema, (maps_of_schemaForValue hschema).canonical, hrest⟩

end BoundaryWireCodec

/-- The laws of the wire codec. -/
structure WireLaws (codec : BoundaryWireCodec) (readers : Readers) : Prop where
  decodes : ∀ value text, codec.encode readers value = .ok text →
    codec.decode readers (.text text) = .ok value.canonical
  encodesAgain : ∀ value text, codec.encode readers value = .ok text →
    ∃ decoded, codec.decode readers (.text text) = .ok decoded ∧
      codec.encode readers decoded = .ok text
  sameText : ∀ left right leftText rightText,
    codec.encode readers left = .ok leftText → codec.encode readers right = .ok rightText →
      (leftText = rightText ↔ left.spec = right.spec ∧ left.canonical = right.canonical)
  idempotent : ∀ payload text, codec.canonicalize readers payload = .ok text →
    codec.canonicalize readers (.text text) = .ok text

/-- A codec with the default limits and no upcasters. -/
def defaultCodec : BoundaryWireCodec where
  maxPayloadBytes := 1048576
  maxNestingDepth := 32
  upcasters := .empty
  bytesPositive := by decide
  depthPositive := by decide

/-- A standard library that reads nothing but what it writes. -/
def strictReaders : Readers where
  otherDateTimes := fun _ => none
  otherJson := fun _ => .error (.wireContract "invalid canonical JSON")

open BoundaryWireCodec in
/-- Encoding and decoding are inverse up to canonical form, for every codec. -/
theorem wireLaws (codec : BoundaryWireCodec) (readers : Readers) : WireLaws codec readers where
  decodes _ _ hencode := decode_encoded hencode
  encodesAgain value _ hencode :=
    ⟨value.canonical, decode_encoded hencode, encode_canonical hencode⟩
  sameText left right leftText rightText hleft hright := by
    constructor
    · rintro rfl
      have hsame : left.canonical = right.canonical :=
        Except.ok.inj ((decode_encoded hleft).symm.trans (decode_encoded hright))
      refine ⟨?_, hsame⟩
      rw [← left.spec_canonical, hsame, right.spec_canonical]
    · rintro ⟨-, hsame⟩
      have hagain := encode_canonical hleft
      rw [hsame, encode_canonical hright] at hagain
      exact (Except.ok.inj hagain).symm
  idempotent payload text hcanonical := by
    obtain ⟨value, -, hencode⟩ := bind_eq_ok hcanonical
    unfold canonicalize
    rw [decode_encoded hencode]
    exact encode_canonical hencode

-- The golden text of an execution reference, from a local reading at UTC+02:00.
example : defaultCodec.encode strictReaders (.workflowExecutionReference {
      workflowRunId := ⟨.lit "W-42"⟩
      workflowDefinitionId := .lit "orders"
      status := some (.lit "RUNNING")
      startedAt := some ⟨63926622930000000, 7200000000, by decide, by decide⟩
      owner := .lit "pyworkflowkit"
      nameSpace := .lit "pyworkflowkit.workflow_execution"
      contractVersion := .lit "1" }) =
    .ok ("\x7b\"contract\":\"pyworkflowkit.workflow_execution_reference\"," ++
      "\"contract_version\":\"1\",\"payload\":\x7b\"contract_version\":\"1\"," ++
      "\"namespace\":\"pyworkflowkit.workflow_execution\",\"owner\":\"pyworkflowkit\"," ++
      "\"started_at\":\"2026-10-03T09:15:30.000000Z\",\"status\":\"RUNNING\"," ++
      "\"workflow_definition_id\":\"orders\",\"workflow_run_id\":\"W-42\"\x7d\x7d") := by
  decide +kernel

end PyWorkflowKit.Serialization
