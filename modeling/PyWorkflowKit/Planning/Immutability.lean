import PyWorkflowKit.Planning.LiveView

/-!
# Immutability of definitions and plans

A definition and the plans compiled from it stay what they are exactly as long as no
flow operator adds a new dependency to one of the tasks they hold.
-/

namespace PyWorkflowKit.Planning

open PyWorkflowKit.Core PyWorkflowKit.Domain PyWorkflowKit.Authoring

variable {Object : Type} [DecidableEq Object] [Fintype Object]

/-- A definition constructed in a session, and a plan that is compiled from it after
some more applications. -/
structure Compilation (Object : Type) [DecidableEq Object] [Fintype Object] where
  session : Session Object
  frozen : Object → Except PyError (List (String × JsonValue))
  header : Header
  members : Members Object
  workflow : WorkflowDefinition
  earlier : List (Application Object)
  planned : WorkflowDefinition
  fingerprint : Text
  plan : ExecutionPlan
  defines : header.define (members.own.map session.task) = .ok workflow
  defined : header.define (members.own.map (session.run earlier).task) = .ok planned
  fingerprints : header.fingerprint (members.payloads frozen (session.run earlier)) =
    .ok fingerprint.value
  compiles : compile (fun _ => fingerprint) planned = .ok plan

namespace Compilation

variable (compilation : Compilation Object)

/-- The session in which the plan is compiled. -/
def compiled : Session Object := compilation.session.run compilation.earlier

/-- The payloads of the tasks of the definition in a session. -/
def payloads (session : Session Object) : List (Text × Except PyError JsonValue) :=
  compilation.members.payloads compilation.frozen session

/-- What is promised of the definition and the plan once `later` was applied. -/
structure Immutable (later : List (Application Object)) : Prop where
  relation : ∀ object ∈ compilation.members.all, ∀ dependency,
    dependency ∈ ((compilation.compiled.run later).task object).dependencies ↔
      dependency ∈ (compilation.session.task object).dependencies
  valid : validateTasks
    (compilation.members.own.map (compilation.compiled.run later).task) = .ok ()
  definition : compilation.header.fingerprint
      (compilation.payloads (compilation.compiled.run later)) =
    compilation.header.fingerprint (compilation.payloads compilation.session)
  plan : compilation.plan.fingerprint
      (compilation.payloads (compilation.compiled.run later)) =
    compilation.plan.fingerprint (compilation.payloads compilation.compiled)
  entries : compilation.plan.liveTasks (compilation.compiled.run later)
    compilation.members = compilation.plan.tasks
  topological : DependenciesFirst []
    (compilation.plan.liveTasks (compilation.compiled.run later) compilation.members)

/-- No application adds an edge that its task does not declare already into a task of
the definition or of its sub-workflows. -/
def Untouched (later : List (Application Object)) : Prop :=
  ∀ before application after,
    compilation.earlier ++ later = before ++ application :: after →
      ∀ edge ∈ (compilation.session.run before).accepted application.edges,
        edge.2 ∈ compilation.members.all → (compilation.session.run before).Declared edge

variable {compilation}

/-- Untouched tasks are the same objects with the same fields. -/
theorem Untouched.task {later : List (Application Object)}
    (huntouched : compilation.Untouched later) {object : Object}
    (hobject : object ∈ compilation.members.all) (before : List (Application Object)) :
    ∀ after, compilation.earlier ++ later = before ++ after →
      (compilation.session.run before).task object = compilation.session.task object := by
  induction before using List.reverseRecOn with
  | nil => exact fun _ _ => rfl
  | append_singleton before application ih =>
      intro after hsplit
      have hsplit' : compilation.earlier ++ later = before ++ application :: after := by
        simpa using hsplit
      calc
        (compilation.session.run (before ++ [application])).task object =
            (((compilation.session.run before).apply application).1).task object := by
          rw [Session.run_append]
          rfl
        _ = (compilation.session.run before).task object := by
          rw [Session.state_apply]
          apply Session.task_addEdges_of_declared
          intro edge hedge hinto
          exact huntouched before application after hsplit' edge hedge (hinto ▸ hobject)
        _ = compilation.session.task object := ih (application :: after) hsplit'

/-- The live entries of a plan, when its tasks are as they were compiled. -/
theorem liveTasks_eq {session : Session Object}
    (hsame : ∀ object ∈ compilation.members.own,
      session.task object = compilation.compiled.task object) :
    compilation.plan.liveTasks session compilation.members = compilation.plan.tasks := by
  have hmap : compilation.members.own.map session.task = compilation.planned.tasks := by
    rw [Header.tasks_of_define compilation.defined]
    exact List.map_congr_left hsame
  have hentry : ∀ entry ∈ compilation.plan.tasks,
      { entry with
        task := (compilation.members.find? session entry.key).getD entry.task } = entry := by
    intro entry hentry
    have hfound := find?_of_compile compilation.compiles entry hentry
    unfold Members.find?
    rw [hmap, hfound, Option.getD_some]
  calc
    compilation.plan.liveTasks session compilation.members =
        compilation.plan.tasks.map id := List.map_congr_left hentry
    _ = compilation.plan.tasks := List.map_id _

/-- A definition and its plan are immutable through a run exactly when the run adds no
new dependency to a task that they hold. -/
theorem immutable_iff (compilation : Compilation Object) (later : List (Application Object)) :
    compilation.Immutable later ↔ compilation.Untouched later := by
  constructor
  · intro himmutable before application after hsplit edge hedge hinto
    have hfinal : compilation.compiled.run later =
        ((compilation.session.run before).apply application).1.run after := by
      unfold compiled
      rw [← Session.run_append, hsplit, Session.run_append]
      rfl
    have hadded : (compilation.session.run before).key edge.1 ∈
        (((compilation.session.run before).apply application).1.task edge.2).dependencies := by
      rw [Session.state_apply, Session.mem_dependencies_addEdges]
      exact Or.inr ⟨edge, hedge, rfl, rfl⟩
    have hlast := Session.dependencies_run after _ edge.2 hadded
    rw [← hfinal, himmutable.relation edge.2 hinto] at hlast
    exact Session.dependencies_run before _ edge.2 hlast
  · intro huntouched
    have hlater : ∀ object ∈ compilation.members.all,
        (compilation.compiled.run later).task object = compilation.session.task object := by
      intro object hobject
      unfold compiled
      rw [← Session.run_append]
      exact huntouched.task hobject _ [] (List.append_nil _).symm
    have hcompiled : ∀ object ∈ compilation.members.all,
        compilation.compiled.task object = compilation.session.task object :=
      fun object hobject => huntouched.task hobject _ later rfl
    have hown : ∀ object ∈ compilation.members.own,
        (compilation.compiled.run later).task object = compilation.compiled.task object := by
      intro object hobject
      have hall := compilation.members.own_subset_all hobject
      rw [hlater object hall, hcompiled object hall]
    have hlive := liveTasks_eq hown
    exact {
      relation := fun object hobject dependency => by rw [hlater object hobject]
      valid := by
        have hmap : compilation.members.own.map (compilation.compiled.run later).task =
            compilation.planned.tasks := by
          rw [Header.tasks_of_define compilation.defined]
          exact List.map_congr_left hown
        rw [hmap]
        exact compilation.planned.valid
      definition := by
        unfold payloads
        rw [(compilation.members.payloads_congr compilation.frozen hlater).2]
      plan := by
        unfold payloads
        rw [(compilation.members.payloads_congr compilation.frozen fun object hobject =>
          (hlater object hobject).trans (hcompiled object hobject).symm).2]
      entries := hlive
      topological := by
        rw [hlive]
        exact dependenciesFirst_of_compile compilation.compiles }

section Orders

open Session

/-! The definition of `extract` and `load`, and an edge that makes it a cycle. -/

def ordersHeader : Header := ⟨.lit "orders", .lit "1", .failFast, .mapping []⟩

def ordersMembers : Members Bool := .task false (.task true .nil)

def ordersWorkflow : WorkflowDefinition where
  name := .lit "orders"
  tasks := [extractTask, loadTask]
  version := .lit "1"
  failurePolicy := .failFast
  nonempty := by simp
  distinct := by decide
  valid := by decide +kernel

theorem compile_ordersWorkflow (fingerprint : Text) :
    ∃ plan, compile (fun _ => fingerprint) ordersWorkflow = .ok plan := by
  have hok : (compile (fun _ => fingerprint) ordersWorkflow).isOk = true := rfl
  cases hplan : compile (fun _ => fingerprint) ordersWorkflow with
  | error error =>
      rw [hplan] at hok
      cases hok
  | ok plan => exact ⟨plan, rfl⟩

theorem exists_ordersCompilation : ∃ compilation : Compilation Bool,
    compilation.session = fresh declaredTasks ∧ compilation.members = ordersMembers ∧
      compilation.earlier = [] := by
  have hpayloads : (gather ((sortBy (fun payload => payload.1.value)
      (ordersMembers.payloads (fun _ => .ok []) (fresh declaredTasks))).map
        Prod.snd)).isOk = true := by decide +kernel
  obtain ⟨fingerprint, hfingerprint⟩ := ordersHeader.exists_fingerprint hpayloads
  obtain ⟨plan, hplan⟩ := compile_ordersWorkflow fingerprint
  exact ⟨{
    session := fresh declaredTasks
    frozen := fun _ => .ok []
    header := ordersHeader
    members := ordersMembers
    workflow := ordersWorkflow
    earlier := []
    planned := ordersWorkflow
    fingerprint := fingerprint
    plan := plan
    defines := rfl
    defined := rfl
    fingerprints := hfingerprint
    compiles := hplan }, rfl, rfl, rfl⟩

/-- `load >> extract` makes the definition of `extract` and `load` a cycle. -/
theorem definition_rewired :
    ¬ ∀ (compilation : Compilation Bool) later, compilation.Immutable later := by
  intro himmutable
  obtain ⟨compilation, hsession, hmembers, hearlier⟩ := exists_ordersCompilation
  have hrelation := (himmutable compilation [backwards]).relation false
    (by rw [hmembers]; decide) loadTask.key
  unfold compiled at hrelation
  rw [hsession, hearlier] at hrelation
  have hafter : loadTask.key ∈ ((((fresh declaredTasks).run []).run [backwards]).task
      false).dependencies := by decide +kernel
  have hbefore : loadTask.key ∉ ((fresh declaredTasks).task false).dependencies :=
    List.not_mem_nil
  exact hbefore (hrelation.mp hafter)

end Orders

end Compilation

end PyWorkflowKit.Planning
