import PyWorkflowKit.Core.Chains
import PyWorkflowKit.Serialization.RoundTrip

/-!
# Chains of upcasters

What an upcaster registry makes of a payload, compared with the composition of the steps
that are registered, and which dictionaries it touches.
-/

namespace PyWorkflowKit.Serialization

open PyWorkflowKit.Core PyWorkflowKit.Domain

/-- The upcasters of a chain, one after the other. -/
def composition : List Upcaster → Body → Except WireError Body
  | [], payload => .ok payload
  | upcaster :: rest, payload =>
      match upcaster payload with
      | .error error => .error error
      | .ok none => .error (.wireContract "upcaster must return a mapping")
      | .ok (some migrated) => composition rest migrated

/-- The error is a `WireContractError`. -/
def WireError.IsContract (error : WireError) : Prop := ∃ message, error = .wireContract message

/-- The dictionaries that exist; a reference is a position. -/
abbrev Dicts := List Body

namespace BoundaryUpcasterRegistry

variable (registry : BoundaryUpcasterRegistry) (contract : String)

/-- The registered step from a version. -/
def next (version : String) : Option (Upcaster × String) :=
  (registry.find? (contract, version)).map fun step => (step.upcaster, step.toVersion)

/-- The loop of `upcast` on references: `payload` refers to the current payload, and every
`dict(...)` is a new dictionary. -/
def upcastDictsFrom (toVersion : String) :
    Nat → List String → String → Nat → Dicts → Except WireError Nat × Dicts
  | 0, _, _, _, dicts =>
      (.error (.wireContract ("upcaster chain for contract " ++ PyError.quoted contract ++
        " exceeds 32 steps")), dicts)
  | fuel + 1, seen, current, payload, dicts =>
      if current = toVersion then (.ok payload, dicts)
      else if current ∈ seen then
        (.error (.wireContract ("upcaster cycle detected for contract " ++
          PyError.quoted contract)), dicts)
      else
        match registry.find? (contract, current) with
        | none =>
            (.error (.wireContract ("no upcaster from " ++ PyError.quoted contract ++
              " version " ++ PyError.quoted current ++ " to " ++
              PyError.quoted toVersion)), dicts)
        | some step =>
            let view := dicts.getD payload []
            match step.upcaster view with
            | .error error => (.error error, dicts ++ [view])
            | .ok none =>
                (.error (.wireContract "upcaster must return a mapping"), dicts ++ [view])
            | .ok (some migrated) =>
                upcastDictsFrom toVersion fuel (current :: seen) step.toVersion
                  (dicts.length + 1) (dicts ++ [view, migrated])

/-- `upcast` on references. -/
def upcastDicts (fromVersion toVersion : String) (payload : Nat) (dicts : Dicts) :
    Except WireError Nat × Dicts :=
  registry.upcastDictsFrom contract toVersion 32 [] fromVersion dicts.length
    (dicts ++ [dicts.getD payload []])

/-- A chain of registered steps leads to the version without repeating one. -/
def Reaches (fromVersion toVersion : String) (upcasters : List Upcaster) : Prop :=
  ∃ sources, Leads (registry.next contract) fromVersion upcasters sources toVersion ∧
    Fresh [] toVersion sources

/-- A chain of registered steps that has not come to the version, nor back to one. -/
def Walks (fromVersion toVersion : String) (upcasters : List Upcaster) : Prop :=
  ∃ sources last, Leads (registry.next contract) fromVersion upcasters sources last ∧
    Fresh [] toVersion sources

/-- An upcast composes the chain that is registered, refuses where there is none of at most
32 steps, and leaves every dictionary as it is. -/
structure UpcastsAsRegistered (fromVersion toVersion : String) (payload : Body) : Prop where
  composed : ∀ upcasters, registry.Reaches contract fromVersion toVersion upcasters →
    upcasters.length ≤ 32 →
      registry.upcast contract fromVersion toVersion payload = composition upcasters payload
  refused : (∀ upcasters, registry.Reaches contract fromVersion toVersion upcasters →
      32 < upcasters.length) →
    ∃ error, registry.upcast contract fromVersion toVersion payload = .error error ∧
      error.IsContract
  unchanged : ∀ (dicts : Dicts) (reference : Nat), dicts[reference]? = some payload →
    dicts <+: (registry.upcastDicts contract fromVersion toVersion reference dicts).2

/-- A chain of exactly 32 steps breaks off, and where no chain leads to the version no
upcaster on the way raises another exception than a `WireContractError`. -/
structure ChainFits (fromVersion toVersion : String) (payload : Body) : Prop where
  short : ∀ upcasters, registry.Reaches contract fromVersion toVersion upcasters →
    upcasters.length = 32 → ∀ body, composition upcasters payload ≠ .ok body
  docile : (∀ upcasters, registry.Reaches contract fromVersion toVersion upcasters →
      32 < upcasters.length) →
    ∀ upcasters, registry.Walks contract fromVersion toVersion upcasters →
      upcasters.length ≤ 32 →
        ∀ error, composition upcasters payload = .error error → error.IsContract

end BoundaryUpcasterRegistry

section Chains

variable {registry : BoundaryUpcasterRegistry} {contract fromVersion toVersion : String}
  {payload : Body}

/-- A chain that breaks off ends every longer one. -/
theorem composition_of_prefix {first whole : List Upcaster} {error : WireError}
    (hleading : first <+: whole) (hraised : composition first payload = .error error) :
    composition whole payload = .error error := by
  obtain ⟨rest, rfl⟩ := hleading
  induction first generalizing payload with
  | nil => cases hraised
  | cons upcaster others ih =>
      simp only [List.cons_append, composition] at hraised ⊢
      cases hupcaster : upcaster payload with
      | error thrown =>
          rw [hupcaster] at hraised
          exact hraised
      | ok migrated =>
          cases migrated with
          | none =>
              rw [hupcaster] at hraised
              exact hraised
          | some migrated =>
              rw [hupcaster] at hraised
              exact ih hraised

/-- The loop composes the steps of its trail, and refuses what it does not follow to its
end. -/
theorem upcastFrom_eq (fuel : Nat) (seen : List String) (current : String) (payload : Body) :
    ∃ message, registry.upcastFrom contract toVersion fuel seen current payload =
      match composition (trail (registry.next contract) toVersion fuel seen current).1
        payload with
      | .error error => .error error
      | .ok body =>
          if (trail (registry.next contract) toVersion fuel seen current).2 then .ok body
          else .error (.wireContract message) := by
  induction fuel generalizing seen current payload with
  | zero => exact ⟨_, rfl⟩
  | succ fuel ih =>
      simp only [BoundaryUpcasterRegistry.upcastFrom, trail, BoundaryUpcasterRegistry.next]
      split
      · exact ⟨"", rfl⟩
      · split
        · exact ⟨_, rfl⟩
        · cases hstep : registry.find? (contract, current) with
          | none => exact ⟨_, rfl⟩
          | some step =>
              simp only [Option.map_some, composition]
              cases step.upcaster payload with
              | error error => exact ⟨"", rfl⟩
              | ok migrated =>
                  cases migrated with
                  | none => exact ⟨"", rfl⟩
                  | some migrated => exact ih (current :: seen) step.toVersion migrated

/-- Every dictionary stays what it was. -/
theorem prefix_upcastDictsFrom (fuel : Nat) (seen : List String) (current : String)
    (reference : Nat) (dicts : Dicts) :
    dicts <+: (registry.upcastDictsFrom contract toVersion fuel seen current reference
      dicts).2 := by
  induction fuel generalizing seen current reference dicts with
  | zero => exact List.prefix_refl _
  | succ fuel ih =>
      simp only [BoundaryUpcasterRegistry.upcastDictsFrom]
      split
      · exact List.prefix_refl _
      · split
        · exact List.prefix_refl _
        · split
          · exact List.prefix_refl _
          · split
            · exact List.prefix_append _ _
            · exact List.prefix_append _ _
            · exact (List.prefix_append _ _).trans (ih _ _ _ _)

/-- On references the loop returns what it returns on values. -/
theorem upcastDictsFrom_eq (fuel : Nat) (seen : List String) (current : String)
    (reference : Nat) (dicts : Dicts) :
    (registry.upcastDictsFrom contract toVersion fuel seen current reference dicts).1.map
        (fun result => (registry.upcastDictsFrom contract toVersion fuel seen current reference
          dicts).2.getD result []) =
      registry.upcastFrom contract toVersion fuel seen current (dicts.getD reference []) := by
  induction fuel generalizing seen current reference dicts with
  | zero => rfl
  | succ fuel ih =>
      simp only [BoundaryUpcasterRegistry.upcastDictsFrom, BoundaryUpcasterRegistry.upcastFrom]
      split
      · rfl
      · split
        · rfl
        · cases registry.find? (contract, current) with
          | none => rfl
          | some step =>
              simp only
              cases hupcaster : step.upcaster (dicts.getD reference []) with
              | error error => rfl
              | ok migrated =>
                  cases migrated with
                  | none => rfl
                  | some migrated =>
                      simp only
                      rw [ih]
                      congr 1
                      simp [List.getD_eq_getElem?_getD]

/-- An upcast of a dictionary is the upcast of what it holds. -/
theorem upcastDicts_eq (fromVersion toVersion : String) {reference : Nat} {dicts : Dicts}
    (hreference : dicts[reference]? = some payload) :
    (registry.upcastDicts contract fromVersion toVersion reference dicts).1.map
        (fun result => (registry.upcastDicts contract fromVersion toVersion reference
          dicts).2.getD result []) =
      registry.upcast contract fromVersion toVersion payload := by
  unfold BoundaryUpcasterRegistry.upcastDicts BoundaryUpcasterRegistry.upcast
  rw [upcastDictsFrom_eq]
  congr 1
  simp [List.getD_eq_getElem?_getD, hreference]

/-- The target is reached within 31 steps, or the upcast refuses. -/
theorem upcast_cases (registry : BoundaryUpcasterRegistry)
    (contract fromVersion toVersion : String) (payload : Body) :
    (∃ upcasters, registry.Reaches contract fromVersion toVersion upcasters ∧
        upcasters.length < 32 ∧
        registry.upcast contract fromVersion toVersion payload =
          composition upcasters payload) ∨
      ∃ upcasters message, registry.Walks contract fromVersion toVersion upcasters ∧
        upcasters.length ≤ 32 ∧
        (∀ others, registry.Walks contract fromVersion toVersion others →
          others.length ≤ 32 → others <+: upcasters) ∧
        (∀ others, registry.Reaches contract fromVersion toVersion others →
          32 ≤ others.length) ∧
        registry.upcast contract fromVersion toVersion payload =
          (composition upcasters payload >>= fun _ => .error (.wireContract message)) := by
  obtain ⟨sources, last, hleads, hfresh, hlength, harrives⟩ :=
    @leads_trail _ _ (registry.next contract) _ toVersion 32 [] fromVersion
  obtain ⟨message, hupcast⟩ := @upcastFrom_eq registry contract toVersion 32 [] fromVersion
    payload
  change registry.upcast contract fromVersion toVersion payload = _ at hupcast
  cases hend : (trail (registry.next contract) toVersion 32 [] fromVersion).2 with
  | true =>
      obtain ⟨rfl, hshorter⟩ := harrives hend
      refine Or.inl ⟨_, ⟨sources, hleads, hfresh⟩, hshorter, ?_⟩
      rw [hupcast]
      simp only [hend, if_true]
      cases composition _ payload <;> rfl
  | false =>
      refine Or.inr ⟨_, message, ⟨sources, last, hleads, hfresh⟩, hlength, ?_, ?_, ?_⟩
      · rintro others ⟨otherSources, otherLast, hother, hotherFresh⟩ hshort
        exact prefix_trail hother hotherFresh hshort
      · rintro others ⟨otherSources, hother, hotherFresh⟩
        by_contra hshort
        have htrail := trail_of_leads hother rfl hotherFresh (not_le.mp hshort)
        rw [htrail] at hend
        cases hend
      · rw [hupcast]
        simp only [hend, Bool.false_eq_true, if_false]
        cases composition _ payload <;> rfl

/-- The version after a number of steps. -/
def versionAfter (steps : Nat) : String := String.ofList (List.replicate (steps + 1) 'v')

/-- A registry that leads through a number of versions and leaves the payload as it is. -/
def staircase (contract : String) (steps : Nat) : BoundaryUpcasterRegistry :=
  .ofList ((List.range steps).map fun step =>
    ⟨contract, versionAfter step, versionAfter (step + 1), fun payload => .ok (some payload)⟩)

end Chains

end PyWorkflowKit.Serialization
