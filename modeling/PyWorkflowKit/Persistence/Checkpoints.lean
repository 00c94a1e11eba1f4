import PyWorkflowKit.Domain.KeyOrder
import PyWorkflowKit.Persistence.Contracts

/-!
# JSON of stored checkpoints

What a stored checkpoint may pass through without losing its output or its digest.
-/

namespace PyWorkflowKit.Persistence

open PyWorkflowKit.Core PyWorkflowKit.Domain

/-- A checkpoint is read back from its plain JSON, whatever order its keys stand in. -/
theorem TaskOutputCheckpoint.new_of_reordered (checkpoint : TaskOutputCheckpoint)
    {output : PyValue} (hsame : (plainJsonValue checkpoint.output).Reordered output) :
    TaskOutputCheckpoint.new checkpoint.taskRunId output checkpoint.recordedAt
      checkpoint.digest = .ok checkpoint := by
  have hnormalize := normalize_of_reordered "output" checkpoint.output output
    checkpoint.sorted hsame
  have hplain := normalize_plain "output" checkpoint.output checkpoint.sorted
  have hstored := checkpoint.new_plain
  rw [TaskOutputCheckpoint.new] at hstored ⊢
  split
  · next error herror => exact absurd (hnormalize.symm.trans herror) nofun
  next normalized hok =>
  split at hstored
  · cases hstored
  next stored hstoredOk =>
  cases hnormalize.symm.trans hok
  cases hplain.symm.trans hstoredOk
  exact hstored

/-- Normalisation is idempotent and keeps plain JSON up to key order, the digest does not depend
on the order of keys, and a stored checkpoint is read back from its plain JSON. -/
theorem json_laws :
    (∀ (path other : String) (value : PyValue) (json : JsonValue),
      normalizeJsonValue path value = .ok json →
        normalizeJsonValue other json.object = .ok json) ∧
    (∀ (path : String) (value : PyValue), value.PlainJson → ∃ json,
      normalizeJsonValue path value = .ok json ∧ (plainJsonValue json).Reordered value) ∧
    (∀ left right : JsonValue, left.DistinctKeys → left.Reordered right →
      canonicalJsonDigest left = canonicalJsonDigest right) ∧
    ∀ checkpoint : TaskOutputCheckpoint,
      TaskOutputCheckpoint.new checkpoint.taskRunId (plainJsonValue checkpoint.output)
        checkpoint.recordedAt checkpoint.digest = .ok checkpoint ∧
      ∀ output, (plainJsonValue checkpoint.output).Reordered output →
        TaskOutputCheckpoint.new checkpoint.taskRunId output checkpoint.recordedAt
          checkpoint.digest = .ok checkpoint := by
  refine ⟨fun path other value json hnormalize => ?_, exists_normalize_of_plain,
    fun left right hdistinct hsame => ?_, fun checkpoint =>
      ⟨checkpoint.new_plain, fun output => checkpoint.new_of_reordered⟩⟩
  · exact normalize_object other (sorted_of_normalize path value hnormalize)
  · rw [canonicalJsonDigest, canonicalJsonDigest, canonicalJsonText_of_reordered hsame hdistinct]

/-- Two keys in either order. -/
theorem json_laws_swapped :
    canonicalJsonDigest (.mapping [("rows", .int 3), ("path", .str "out")]) =
      canonicalJsonDigest (.mapping [("path", .str "out"), ("rows", .int 3)]) :=
  json_laws.2.2.1 _ _ ⟨by decide, trivial, trivial, trivial⟩
    ⟨[("rows", .int 3), ("path", .str "out")], ⟨⟨rfl, rfl⟩, ⟨rfl, rfl⟩, trivial⟩,
      List.Perm.swap _ _ _⟩

end PyWorkflowKit.Persistence
