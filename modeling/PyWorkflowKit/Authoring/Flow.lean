import PyWorkflowKit.Authoring.Definitions
import PyWorkflowKit.Core.Paths

/-!
# Flow operators

Task definitions are objects: the flow operators change the dependencies of a task in
place and remember the edges they added by the identity of the tasks.
-/

namespace PyWorkflowKit.Authoring

open Relation
open PyWorkflowKit.Core PyWorkflowKit.Domain

/-- `tuple(sorted(set(dependencies + (key,))))`, for a key that is not there yet. -/
def TaskDefinition.dependOn (task : TaskDefinition) (upstream : Text)
    (hother : upstream ≠ task.key) : TaskDefinition :=
  if upstream ∈ task.dependencies then task
  else
    { task with
      dependencies := sortBy Text.value (task.dependencies ++ [upstream]).dedup
      distinct := nodup_sortBy _ (List.nodup_dedup _)
      notSelf := by
        simpa [mem_sortBy, List.mem_dedup] using ⟨task.notSelf, hother.symm⟩ }

@[simp]
theorem TaskDefinition.key_dependOn (task : TaskDefinition) (upstream : Text)
    (hother : upstream ≠ task.key) : (task.dependOn upstream hother).key = task.key := by
  unfold TaskDefinition.dependOn
  split <;> rfl

theorem TaskDefinition.dependOn_of_mem (task : TaskDefinition) {upstream : Text}
    (hother : upstream ≠ task.key) (hmem : upstream ∈ task.dependencies) :
    task.dependOn upstream hother = task :=
  if_pos hmem

@[simp]
theorem TaskDefinition.mem_dependOn (task : TaskDefinition) (upstream : Text)
    (hother : upstream ≠ task.key) (dependency : Text) :
    dependency ∈ (task.dependOn upstream hother).dependencies ↔
      dependency ∈ task.dependencies ∨ dependency = upstream := by
  unfold TaskDefinition.dependOn
  split
  · next hmem =>
    constructor
    · exact Or.inl
    · rintro (hold | rfl)
      · exact hold
      · exact hmem
  · simp

/-- The tasks of a session by identity, and `_UPSTREAM_MAP`. -/
structure Session (Object : Type) where
  task : Object → TaskDefinition
  upstreams : Object → List Object

/-- The operands of the flow operators. -/
inductive Operand (Object : Type) where
  | task (object : Object)
  | sequence (items : List Object)
  | list (items : List Object)
deriving DecidableEq, Repr

inductive FlowOperator where
  | rshift
  | lshift
deriving DecidableEq, Repr

def FlowOperator.symbol : FlowOperator → String
  | rshift => ">>"
  | lshift => "<<"

/-- One application of a flow operator. -/
structure Application (Object : Type) where
  left : Operand Object
  operator : FlowOperator
  right : Operand Object
deriving DecidableEq, Repr

variable {Object : Type}

/-- The edges that an application adds in turn, upstream task first; a list on the left
needs the reflected operator of a task. -/
def Application.edges? (application : Application Object) : Option (List (Object × Object)) :=
  match application.operator, application.left, application.right with
  | .rshift, .task self, .task other => some [(self, other)]
  | .rshift, .task self, .sequence items | .rshift, .task self, .list items =>
      some (items.map fun item => (self, item))
  | .rshift, .sequence tasks, .task other => some (tasks.map fun task => (task, other))
  | .rshift, .sequence tasks, .sequence items | .rshift, .sequence tasks, .list items =>
      some (tasks.flatMap fun task => items.map fun item => (task, item))
  | .rshift, .list items, .task self => some (items.map fun item => (item, self))
  | .lshift, .task self, .task other => some [(other, self)]
  | .lshift, .task self, .sequence items | .lshift, .task self, .list items =>
      some (items.map fun item => (item, self))
  | .lshift, .sequence tasks, .task other => some (tasks.map fun task => (other, task))
  | .lshift, .sequence tasks, .sequence items | .lshift, .sequence tasks, .list items =>
      some (items.flatMap fun item => tasks.map fun task => (item, task))
  | .lshift, .list items, .task self => some (items.map fun item => (self, item))
  | _, .list _, _ => none

/-- The edges that an application adds, if its operands have the operator. -/
def Application.edges (application : Application Object) :
    List (Object × Object) :=
  application.edges?.getD []

/-- What an application that ends well gives back. -/
def Application.answer (application : Application Object) : Operand Object :=
  match application.operator, application.left, application.right with
  | .rshift, .list _, right => right
  | .rshift, _, .task other => .task other
  | .rshift, _, .sequence items | .rshift, _, .list items => .sequence items
  | .lshift, .list items, _ => .sequence items
  | .lshift, left, _ => left

def Operand.typeName : Operand Object → String
  | task _ => "TaskDefinition"
  | sequence _ => "TaskSequence"
  | list _ => "list"

namespace Session

/-- Tasks that no flow operator was applied to. -/
def fresh (task : Object → TaskDefinition) : Session Object := ⟨task, fun _ => []⟩

/-- The key of a task, which never changes. -/
def key (session : Session Object) (object : Object) : Text := (session.task object).key

/-- The dependency that an edge stands for is declared already. -/
def Declared (session : Session Object) (edge : Object × Object) : Prop :=
  session.key edge.1 ∈ (session.task edge.2).dependencies

variable [DecidableEq Object]

/-- Let one task depend on another of a different key. -/
def link (session : Session Object) (upstream downstream : Object)
    (hother : session.key upstream ≠ session.key downstream) : Session Object where
  task := Function.update session.task downstream
    ((session.task downstream).dependOn (session.key upstream) hother)
  upstreams := Function.update session.upstreams downstream
    ((session.upstreams downstream).insert upstream)

theorem task_link_self (session : Session Object) {upstream downstream : Object}
    (hother : session.key upstream ≠ session.key downstream) :
    (session.link upstream downstream hother).task downstream =
      (session.task downstream).dependOn (session.key upstream) hother :=
  Function.update_self ..

theorem task_link_of_ne (session : Session Object) {upstream downstream object : Object}
    (hother : session.key upstream ≠ session.key downstream) (hne : object ≠ downstream) :
    (session.link upstream downstream hother).task object = session.task object :=
  Function.update_of_ne hne ..

@[simp]
theorem key_link (session : Session Object) {upstream downstream : Object}
    (hother : session.key upstream ≠ session.key downstream) (object : Object) :
    (session.link upstream downstream hother).key object = session.key object := by
  by_cases heq : object = downstream
  · subst heq
    rw [key, task_link_self]
    exact TaskDefinition.key_dependOn ..
  · rw [key, task_link_of_ne session hother heq, key]

theorem mem_dependencies_link (session : Session Object) {upstream downstream : Object}
    (hother : session.key upstream ≠ session.key downstream) (object : Object)
    (dependency : Text) :
    dependency ∈ ((session.link upstream downstream hother).task object).dependencies ↔
      dependency ∈ (session.task object).dependencies ∨
        object = downstream ∧ dependency = session.key upstream := by
  by_cases heq : object = downstream
  · subst heq
    rw [task_link_self]
    simpa using TaskDefinition.mem_dependOn _ _ hother dependency
  · rw [task_link_of_ne session hother heq]
    simp [heq]

theorem mem_upstreams_link (session : Session Object) {upstream downstream : Object}
    (hother : session.key upstream ≠ session.key downstream) (object other : Object) :
    other ∈ (session.link upstream downstream hother).upstreams object ↔
      other ∈ session.upstreams object ∨ object = downstream ∧ other = upstream := by
  by_cases heq : object = downstream
  · subst heq
    simp [link, or_comm]
  · simp [link, heq]

/-- A link that a task declares already leaves its tasks as they are. -/
theorem task_link_of_declared (session : Session Object) {upstream downstream : Object}
    (hother : session.key upstream ≠ session.key downstream)
    (hdeclared : session.key upstream ∈ (session.task downstream).dependencies) :
    (session.link upstream downstream hother).task = session.task := by
  funext object
  by_cases heq : object = downstream
  · subst heq
    rw [task_link_self]
    exact TaskDefinition.dependOn_of_mem _ hother hdeclared
  · rw [task_link_of_ne session hother heq]

variable [Fintype Object]

/-- `add_authoring_dependency`. -/
def addAuthoringDependency (session : Session Object) (upstream downstream : Object) :
    Except PyError (Session Object) :=
  if hsame : session.key upstream = session.key downstream then
    .error (.circularDependency
      [(session.key upstream).value, (session.key downstream).value])
  else
    match findPath session.upstreams (Fintype.card Object + 1) upstream downstream with
    | some path =>
        .error (.circularDependency
          (path.reverse.map (fun object => (session.key object).value) ++
            [(session.key downstream).value]))
    | none => .ok (session.link upstream downstream hsame)

/-- What the check of one edge sees: one key twice, or a way along the flow edges from
the upstream task to the downstream one. -/
def Refuses (session : Session Object) (edge : Object × Object) : Prop :=
  session.key edge.1 = session.key edge.2 ∨
    ReflTransGen (fun task upstream => upstream ∈ session.upstreams task) edge.1 edge.2

/-- One edge is refused with the cycle error, or it is linked. -/
theorem addAuthoringDependency_cases (session : Session Object) (edge : Object × Object) :
    (session.Refuses edge ∧ ∃ cyclePath,
      session.addAuthoringDependency edge.1 edge.2 = .error (.circularDependency cyclePath)) ∨
    (¬ session.Refuses edge ∧ ∃ hother, session.addAuthoringDependency edge.1 edge.2 =
      .ok (session.link edge.1 edge.2 hother)) := by
  unfold addAuthoringDependency Refuses
  by_cases hsame : session.key edge.1 = session.key edge.2
  · rw [dif_pos hsame]
    exact Or.inl ⟨Or.inl hsame, _, rfl⟩
  · rw [dif_neg hsame]
    have hfound : (findPath session.upstreams (Fintype.card Object + 1) edge.1
        edge.2).isSome ↔ ReflTransGen (fun task upstream => upstream ∈ session.upstreams task)
          edge.1 edge.2 := isSome_findPath_iff
    cases hpath : findPath session.upstreams (Fintype.card Object + 1) edge.1 edge.2 with
    | some path =>
        rw [hpath] at hfound
        exact Or.inl ⟨Or.inr (hfound.mp rfl), _, rfl⟩
    | none =>
        rw [hpath] at hfound
        have hopen : ¬ (session.key edge.1 = session.key edge.2 ∨ ReflTransGen
            (fun task upstream => upstream ∈ session.upstreams task) edge.1 edge.2) := by
          rintro (habsurd | hreach)
          · exact hsame habsurd
          · cases hfound.mpr hreach
        exact Or.inr ⟨hopen, hsame, rfl⟩

/-- The loops of the operators: the first refused edge ends them. -/
def addEdges (session : Session Object) :
    List (Object × Object) → Session Object × Except PyError Unit
  | [] => (session, .ok ())
  | edge :: rest =>
      match session.addAuthoringDependency edge.1 edge.2 with
      | .error error => (session, .error error)
      | .ok after => after.addEdges rest

/-- The edges of a loop that are not refused. -/
def accepted (session : Session Object) :
    List (Object × Object) → List (Object × Object)
  | [] => []
  | edge :: rest =>
      match session.addAuthoringDependency edge.1 edge.2 with
      | .error _ => []
      | .ok after => edge :: after.accepted rest

/-- Apply a flow operator. -/
def apply (session : Session Object) (application : Application Object) :
    Session Object × Except PyError (Operand Object) :=
  match application.edges? with
  | none =>
      (session, .error (.typeError ("unsupported operand type(s) for " ++
        application.operator.symbol ++ ": '" ++ application.left.typeName ++ "' and '" ++
          application.right.typeName ++ "'")))
  | some edges =>
      let added := session.addEdges edges
      (added.1, added.2.map fun _ => application.answer)

/-- The session that a sequence of applications leaves. -/
def run (session : Session Object) (applications : List (Application Object)) :
    Session Object :=
  applications.foldl (fun current application => (current.apply application).1) session

section Changes

variable {session : Session Object}

/-- What adding edges does: nothing when the first is refused, else the rest follows. -/
theorem addEdges_cons (session : Session Object) (edge : Object × Object)
    (rest : List (Object × Object)) :
    (session.Refuses edge ∧ session.accepted (edge :: rest) = [] ∧ ∃ cyclePath,
      session.addEdges (edge :: rest) = (session, .error (.circularDependency cyclePath))) ∨
    (¬ session.Refuses edge ∧ ∃ hother,
      session.accepted (edge :: rest) =
        edge :: (session.link edge.1 edge.2 hother).accepted rest ∧
      ∀ others, session.addEdges (edge :: others) =
        (session.link edge.1 edge.2 hother).addEdges others) := by
  rcases session.addAuthoringDependency_cases edge with
    ⟨hrefuses, cyclePath, hadd⟩ | ⟨hopen, hother, hadd⟩
  · apply Or.inl
    refine ⟨hrefuses, ?_, cyclePath, ?_⟩
    · rw [accepted, hadd]
    · rw [addEdges, hadd]
  · apply Or.inr
    refine ⟨hopen, hother, ?_, fun others => ?_⟩
    · rw [accepted, hadd]
    · rw [addEdges, hadd]

@[simp]
theorem key_addEdges (edges : List (Object × Object)) :
    ∀ (session : Session Object) (object : Object),
      (session.addEdges edges).1.key object = session.key object := by
  induction edges with
  | nil => exact fun _ _ => rfl
  | cons first rest ih =>
      intro session object
      rcases session.addEdges_cons first rest with ⟨_, _, cyclePath, hadd⟩ | ⟨_, hother, _, hadd⟩
      · rw [hadd]
      · rw [hadd rest, ih, key_link]

/-- The tasks depend on what they depended on and on the accepted edges. -/
theorem mem_dependencies_addEdges (edges : List (Object × Object)) :
    ∀ (session : Session Object) (object : Object) (dependency : Text),
      dependency ∈ ((session.addEdges edges).1.task object).dependencies ↔
        dependency ∈ (session.task object).dependencies ∨
          ∃ edge ∈ session.accepted edges, object = edge.2 ∧
            dependency = session.key edge.1 := by
  induction edges with
  | nil => simp [addEdges, accepted]
  | cons first rest ih =>
      intro session object dependency
      rcases session.addEdges_cons first rest with
        ⟨_, haccepted, cyclePath, hadd⟩ | ⟨_, hother, haccepted, hadd⟩
      · simp [hadd, haccepted]
      · rw [hadd rest, haccepted, ih, mem_dependencies_link]
        simp only [key_link, List.exists_mem_cons_iff, or_assoc]

/-- Without a refused edge every edge is accepted. -/
theorem accepted_eq (edges : List (Object × Object)) :
    ∀ {session : Session Object}, (session.addEdges edges).2 = .ok () →
      session.accepted edges = edges := by
  induction edges with
  | nil => exact fun _ => rfl
  | cons first rest ih =>
      intro session hok
      rcases session.addEdges_cons first rest with
        ⟨_, _, cyclePath, hadd⟩ | ⟨_, hother, haccepted, hadd⟩
      · rw [hadd] at hok
        cases hok
      · rw [haccepted, ih]
        rw [← hadd rest]
        exact hok

/-- A task into which every accepted edge was declared stays as it is. -/
theorem task_addEdges_of_declared (object : Object) (edges : List (Object × Object)) :
    ∀ {session : Session Object},
      (∀ edge ∈ session.accepted edges, edge.2 = object → session.Declared edge) →
      (session.addEdges edges).1.task object = session.task object := by
  induction edges with
  | nil => exact fun _ => rfl
  | cons first rest ih =>
      intro session hdeclared
      rcases session.addEdges_cons first rest with
        ⟨_, _, cyclePath, hadd⟩ | ⟨_, hother, haccepted, hadd⟩
      · rw [hadd]
      · rw [haccepted] at hdeclared
        have hsame : (session.link first.1 first.2 hother).task object =
            session.task object := by
          by_cases heq : object = first.2
          · subst heq
            rw [task_link_of_declared session hother
              (hdeclared first List.mem_cons_self rfl)]
          · exact task_link_of_ne session hother heq
        rw [hadd rest, ih, hsame]
        intro edge hedge hinto
        have hold := hdeclared edge (List.mem_cons_of_mem _ hedge) hinto
        subst hinto
        unfold Declared at hold ⊢
        rw [key_link, hsame]
        exact hold

theorem state_apply (session : Session Object) (application : Application Object) :
    (session.apply application).1 = (session.addEdges application.edges).1 := by
  unfold apply Application.edges
  cases application.edges? with
  | none => rfl
  | some edges => rfl

@[simp]
theorem key_run (applications : List (Application Object)) :
    ∀ (session : Session Object) (object : Object),
      (session.run applications).key object = session.key object := by
  induction applications with
  | nil => exact fun _ _ => rfl
  | cons first rest ih =>
      intro session object
      calc
        (session.run (first :: rest)).key object =
            ((session.apply first).1.run rest).key object := rfl
        _ = (session.apply first).1.key object := ih _ object
        _ = session.key object := by rw [state_apply, key_addEdges]

theorem run_append (session : Session Object) (first second : List (Application Object)) :
    session.run (first ++ second) = (session.run first).run second :=
  List.foldl_append

/-- A task keeps its dependencies through a run. -/
theorem dependencies_run (applications : List (Application Object)) :
    ∀ (session : Session Object) (object : Object),
      (session.task object).dependencies ⊆
        ((session.run applications).task object).dependencies := by
  induction applications with
  | nil => exact fun _ _ => List.Subset.refl _
  | cons first rest ih =>
      intro session object dependency hdependency
      apply ih (session.apply first).1 object
      rw [state_apply, mem_dependencies_addEdges]
      exact Or.inl hdependency

end Changes

end Session

end PyWorkflowKit.Authoring
