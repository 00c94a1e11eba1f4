import PyWorkflowKit.Authoring.Flow

/-!
# Cycle detection of the flow operators

The check follows the flow edges only.  An application meets its contract when the
cycles it would close run along flow edges and nothing new was added before them.
-/

namespace PyWorkflowKit.Authoring

namespace Session

open Relation
open PyWorkflowKit.Core PyWorkflowKit.Domain

variable {Object : Type}

/-- The declared dependency relation: a task of the first key depends on the second. -/
def Declares (session : Session Object) (taskKey dependency : Text) : Prop :=
  ∃ object, session.key object = taskKey ∧
    dependency ∈ (session.task object).dependencies

/-- The declared relation once some edges are added. -/
def DeclaresWith (session : Session Object) (added : List (Object × Object))
    (taskKey dependency : Text) : Prop :=
  session.Declares taskKey dependency ∨
    ∃ edge ∈ added, taskKey = session.key edge.2 ∧ dependency = session.key edge.1

/-- The flow edges once some are added. -/
def FlowsWith (session : Session Object) (added : List (Object × Object))
    (task upstream : Object) : Prop :=
  upstream ∈ session.upstreams task ∨ (upstream, task) ∈ added

/-- Some edge closes a cycle of declared dependencies, those before it included. -/
def ClosesCycle (session : Session Object) (edges : List (Object × Object)) : Prop :=
  ∃ before edge after, edges = before ++ edge :: after ∧
    ReflTransGen (session.DeclaresWith before) (session.key edge.1) (session.key edge.2)

/-- An edge joins two tasks of one key or closes a cycle of flow edges. -/
def ClosesFlow (session : Session Object) (before : List (Object × Object))
    (edge : Object × Object) : Prop :=
  session.key edge.1 = session.key edge.2 ∨
    ReflTransGen (session.FlowsWith before) edge.1 edge.2

/-- If some edge closes a cycle, one does along flow edges, after edges that are
declared already. -/
def CyclesVisible (session : Session Object) (edges : List (Object × Object)) : Prop :=
  session.ClosesCycle edges →
    ∃ before edge after, edges = before ++ edge :: after ∧
      session.ClosesFlow before edge ∧ ∀ earlier ∈ before, session.Declared earlier

/-- Every flow edge is a declared dependency. -/
def Recorded (session : Session Object) : Prop :=
  ∀ object, ∀ upstream ∈ session.upstreams object,
    session.key upstream ∈ (session.task object).dependencies

theorem refuses_iff (session : Session Object) (edge : Object × Object) :
    session.Refuses edge ↔ session.ClosesFlow [] edge := by
  unfold Refuses ClosesFlow FlowsWith
  simp

theorem recorded_fresh (task : Object → TaskDefinition) : (fresh task).Recorded := by
  intro object upstream hflow
  cases hflow

/-- A cycle of flow edges is one of declared dependencies. -/
theorem Recorded.closesDeclared {session : Session Object} (hrecorded : session.Recorded)
    {before : List (Object × Object)} {edge : Object × Object}
    (hcloses : session.ClosesFlow before edge) :
    ReflTransGen (session.DeclaresWith before) (session.key edge.1) (session.key edge.2) := by
  rcases hcloses with hsame | hreach
  · rw [hsame]
  · apply hreach.lift session.key
    rintro task upstream (hflow | hadded)
    · exact Or.inl ⟨task, rfl, hrecorded task upstream hflow⟩
    · exact Or.inr ⟨_, hadded, rfl, rfl⟩

/-- Edges none of which closes a cycle leave an acyclic relation acyclic. -/
theorem acyclic_declaresWith {session : Session Object}
    (hacyclic : Acyclic session.Declares) (edges : List (Object × Object))
    (hopen : ¬ session.ClosesCycle edges) : Acyclic (session.DeclaresWith edges) := by
  induction edges using List.reverseRecOn with
  | nil =>
      have hsame : session.DeclaresWith [] = session.Declares := by
        funext taskKey dependency
        simp [DeclaresWith]
      rw [hsame]
      exact hacyclic
  | append_singleton edges edge ih =>
      have hpair : session.DeclaresWith (edges ++ [edge]) =
          withPair (session.DeclaresWith edges) (session.key edge.2) (session.key edge.1) := by
        funext taskKey dependency
        apply propext
        unfold DeclaresWith withPair
        simp only [List.mem_append, List.mem_singleton, or_and_right, exists_or,
          exists_eq_left, or_assoc]
      rw [hpair]
      apply Acyclic.withPair
      · apply ih
        rintro ⟨before, first, after, rfl, hreach⟩
        exact hopen ⟨before, first, after ++ [edge], by simp, hreach⟩
      · exact fun hreach => hopen ⟨edges, edge, [], rfl, hreach⟩

variable [DecidableEq Object]

section Links

variable (session : Session Object) {upstream downstream : Object}
variable (hother : session.key upstream ≠ session.key downstream)

theorem flowsWith_link (added : List (Object × Object)) :
    (session.link upstream downstream hother).FlowsWith added =
      session.FlowsWith ((upstream, downstream) :: added) := by
  funext task other
  apply propext
  unfold FlowsWith
  rw [mem_upstreams_link, List.mem_cons, Prod.mk.injEq]
  tauto

theorem closesFlow_link (before : List (Object × Object)) (edge : Object × Object) :
    (session.link upstream downstream hother).ClosesFlow before edge ↔
      session.ClosesFlow ((upstream, downstream) :: before) edge := by
  unfold ClosesFlow
  rw [flowsWith_link, key_link, key_link]

theorem Recorded.link {session : Session Object} (hrecorded : session.Recorded)
    (hother : session.key upstream ≠ session.key downstream) :
    (session.link upstream downstream hother).Recorded := by
  intro object other hflow
  rw [key_link, mem_dependencies_link]
  rcases (mem_upstreams_link session hother object other).mp hflow with hold | ⟨rfl, rfl⟩
  · exact Or.inl (hrecorded object other hold)
  · exact Or.inr ⟨rfl, rfl⟩

end Links

section Edges

variable [Fintype Object]

/-- The loop of an operator ends well when no edge closes a cycle of flow edges, and
with the cycle error at the first edge that does. -/
theorem addEdges_cases (edges : List (Object × Object)) : ∀ session : Session Object,
    ((session.addEdges edges).2 = .ok () ∧
      ∀ before edge after, edges = before ++ edge :: after →
        ¬ session.ClosesFlow before edge) ∨
    ∃ before edge after, edges = before ++ edge :: after ∧ session.ClosesFlow before edge ∧
      (session.addEdges before).2 = .ok () ∧
      (session.addEdges edges).1 = (session.addEdges before).1 ∧
      ∃ cyclePath, (session.addEdges edges).2 = .error (.circularDependency cyclePath) := by
  induction edges with
  | nil =>
      intro session
      apply Or.inl
      apply And.intro rfl
      intro before edge after hedges
      simp at hedges
  | cons first rest ih =>
      intro session
      rcases session.addEdges_cons first rest with
        ⟨hrefuses, _, cyclePath, hadd⟩ | ⟨hopen, hother, _, hadd⟩
      · apply Or.inr
        refine ⟨[], first, rest, rfl, (session.refuses_iff first).mp hrefuses, rfl, ?_, ?_⟩
        · rw [hadd, addEdges]
        · exact ⟨cyclePath, congrArg Prod.snd hadd⟩
      · rcases ih (session.link first.1 first.2 hother) with
          ⟨hok, hnone⟩ | ⟨before, edge, after, hrest, hcloses, hok, hsame, hraises⟩
        · apply Or.inl
          apply And.intro ((congrArg Prod.snd (hadd rest)).trans hok)
          intro before edge after hedges
          cases before with
          | nil =>
              cases hedges
              exact fun hcloses => hopen ((session.refuses_iff _).mpr hcloses)
          | cons head before =>
              cases hedges
              rw [← closesFlow_link session hother]
              exact hnone before edge after rfl
        · apply Or.inr
          refine ⟨first :: before, edge, after, by rw [hrest, List.cons_append], ?_, ?_, ?_, ?_⟩
          · exact (closesFlow_link session hother before edge).mp hcloses
          · rw [hadd before]
            exact hok
          · rw [hadd rest, hadd before]
            exact hsame
          · rw [hadd rest]
            exact hraises

theorem declares_addEdges {session : Session Object} {edges : List (Object × Object)}
    (hok : (session.addEdges edges).2 = .ok ()) :
    (session.addEdges edges).1.Declares = session.DeclaresWith edges := by
  funext taskKey dependency
  apply propext
  unfold DeclaresWith Declares
  simp only [key_addEdges, mem_dependencies_addEdges, accepted_eq edges hok]
  constructor
  · rintro ⟨object, hkey, hold | ⟨edge, hedge, rfl, hdependency⟩⟩
    · exact Or.inl ⟨object, hkey, hold⟩
    · exact Or.inr ⟨edge, hedge, hkey.symm, hdependency⟩
  · rintro (⟨object, hkey, hold⟩ | ⟨edge, hedge, hkey, hdependency⟩)
    · exact ⟨object, hkey, Or.inl hold⟩
    · exact ⟨edge.2, hkey.symm, Or.inr ⟨edge, hedge, rfl, hdependency⟩⟩

/-- Accepted edges leave the tasks as they are exactly when they were declared. -/
theorem task_addEdges_iff {session : Session Object} {edges : List (Object × Object)}
    (hok : (session.addEdges edges).2 = .ok ()) :
    (session.addEdges edges).1.task = session.task ↔
      ∀ edge ∈ edges, session.Declared edge := by
  have haccepted := accepted_eq edges hok
  constructor
  · intro hsame edge hedge
    have hdepends := (mem_dependencies_addEdges edges session edge.2 (session.key edge.1)).mpr
      (Or.inr ⟨edge, haccepted.symm ▸ hedge, rfl, rfl⟩)
    rw [hsame] at hdepends
    exact hdepends
  · intro hdeclared
    funext object
    apply task_addEdges_of_declared
    intro edge hedge _
    exact hdeclared edge (haccepted ▸ hedge)

theorem Recorded.addEdges (edges : List (Object × Object)) :
    ∀ {session : Session Object}, session.Recorded →
      (session.addEdges edges).1.Recorded := by
  induction edges with
  | nil => exact fun hrecorded => hrecorded
  | cons first rest ih =>
      intro session hrecorded
      rcases session.addEdges_cons first rest with ⟨_, _, cyclePath, hadd⟩ | ⟨_, hother, _, hadd⟩
      · rw [hadd]
        exact hrecorded
      · rw [hadd rest]
        exact ih (hrecorded.link hother)

end Edges

section Applications

variable [Fintype Object] {session : Session Object}

/-- The operator raises the cycle error. -/
def RaisesCycle (session : Session Object) (application : Application Object) : Prop :=
  ∃ cyclePath, (session.apply application).2 = .error (.circularDependency cyclePath)

/-- One application raises the cycle error exactly when one of its edges closes a cycle,
and adds none when it raises. -/
structure Guarded (session : Session Object) (application : Application Object) : Prop where
  raises_iff : session.RaisesCycle application ↔ session.ClosesCycle application.edges
  unchanged : session.RaisesCycle application →
    (session.apply application).1.task = session.task

theorem raisesCycle_iff (session : Session Object) (application : Application Object) :
    session.RaisesCycle application ↔ ∃ cyclePath,
      (session.addEdges application.edges).2 = .error (.circularDependency cyclePath) := by
  unfold RaisesCycle apply Application.edges
  cases application.edges? with
  | none => simp [addEdges]
  | some edges =>
      rw [Option.getD_some]
      cases hadded : (session.addEdges edges).2 <;> simp [hadded, Except.map]

/-- An application either raises at its first edge that closes a cycle of flow edges,
or adds all its edges. -/
theorem apply_cases (session : Session Object) (application : Application Object) :
    (¬ session.RaisesCycle application ∧
      (session.addEdges application.edges).2 = .ok () ∧
      ∀ before edge after, application.edges = before ++ edge :: after →
        ¬ session.ClosesFlow before edge) ∨
    (session.RaisesCycle application ∧ ∃ before edge after,
      application.edges = before ++ edge :: after ∧ session.ClosesFlow before edge ∧
      (session.addEdges before).2 = .ok () ∧
      (session.apply application).1.task = (session.addEdges before).1.task) := by
  rw [raisesCycle_iff, state_apply]
  rcases addEdges_cases application.edges session with
    ⟨hok, hnone⟩ | ⟨before, edge, after, hedges, hcloses, hok, hsame, hraises⟩
  · apply Or.inl
    refine ⟨?_, hok, hnone⟩
    rw [hok]
    rintro ⟨_, habsurd⟩
    cases habsurd
  · exact Or.inr ⟨hraises, before, edge, after, hedges, hcloses, hok, by rw [hsame]⟩

/-- Accepted edges come before every edge that closes a cycle of flow edges. -/
theorem prefix_of_accepted {before before' after after' : List (Object × Object)}
    {edge edge' : Object × Object} (hok : (session.addEdges before).2 = .ok ())
    (hcloses : session.ClosesFlow before' edge')
    (hedges : before ++ edge :: after = before' ++ edge' :: after') : before <+: before' := by
  rcases List.append_eq_append_iff.mp hedges with
    ⟨between, hbetween, _⟩ | ⟨between, hbetween, hrest⟩
  · exact ⟨between, hbetween.symm⟩
  · cases between with
    | nil =>
        rw [hbetween, List.append_nil]
    | cons head between =>
        cases hrest
        rcases addEdges_cases before session with ⟨_, hnone⟩ | ⟨_, _, _, _, _, _, _, _, hraises⟩
        · exact absurd hcloses (hnone before' edge' between hbetween)
        · rw [hok] at hraises
          cases hraises

/-- One application is guarded exactly when the cycles it closes are visible to it. -/
theorem guarded_iff (hrecorded : session.Recorded) (application : Application Object) :
    session.Guarded application ↔ session.CyclesVisible application.edges := by
  constructor
  · intro hguarded hcloses
    rcases session.apply_cases application with
      ⟨hquiet, _⟩ | ⟨hraises, before, edge, after, hedges, hflow, hok, hsame⟩
    · exact absurd (hguarded.raises_iff.mpr hcloses) hquiet
    · have hunchanged : (session.addEdges before).1.task = session.task :=
        hsame.symm.trans (hguarded.unchanged hraises)
      exact ⟨before, edge, after, hedges, hflow, (task_addEdges_iff hok).mp hunchanged⟩
  · intro hvisible
    rcases session.apply_cases application with
      ⟨hquiet, hok, hnone⟩ | ⟨hraises, before, edge, after, hedges, hflow, hok, hsame⟩
    · have hopen : ¬ session.ClosesCycle application.edges := by
        intro hcloses
        obtain ⟨before, edge, after, hedges, hflow, _⟩ := hvisible hcloses
        exact hnone before edge after hedges hflow
      exact {
        raises_iff := iff_of_false hquiet hopen
        unchanged := fun hraises => absurd hraises hquiet }
    · have hcloses : session.ClosesCycle application.edges :=
        ⟨before, edge, after, hedges, hrecorded.closesDeclared hflow⟩
      obtain ⟨before', edge', after', hedges', hflow', hdeclared⟩ := hvisible hcloses
      have hleading := prefix_of_accepted hok hflow' (hedges.symm.trans hedges')
      exact {
        raises_iff := iff_of_true hraises hcloses
        unchanged := by
          intro _
          rw [hsame]
          exact (task_addEdges_iff hok).mpr fun earlier hearlier =>
            hdeclared earlier (hleading.subset hearlier) }

/-- A guarded application keeps the declared relation acyclic. -/
theorem Guarded.acyclic {application : Application Object}
    (hguarded : session.Guarded application) (hacyclic : Acyclic session.Declares) :
    Acyclic (session.apply application).1.Declares := by
  rcases session.apply_cases application with ⟨hquiet, hok, _⟩ | ⟨hraises, _⟩
  · rw [state_apply, declares_addEdges hok]
    exact acyclic_declaresWith hacyclic _ fun hcloses =>
      hquiet (hguarded.raises_iff.mpr hcloses)
  · have hsame : (session.apply application).1.Declares = session.Declares := by
      unfold Declares key
      rw [hguarded.unchanged hraises]
    rw [hsame]
    exact hacyclic

theorem Recorded.apply (hrecorded : session.Recorded) (application : Application Object) :
    (session.apply application).1.Recorded := by
  rw [state_apply]
  exact Recorded.addEdges _ hrecorded

theorem Recorded.run (applications : List (Application Object)) :
    ∀ {session : Session Object}, session.Recorded → (session.run applications).Recorded := by
  induction applications with
  | nil => exact fun hrecorded => hrecorded
  | cons first rest ih => exact fun hrecorded => ih (hrecorded.apply first)

/-- Every application of a run is guarded, and acyclic declarations stay acyclic. -/
structure RunGuarded (task : Object → TaskDefinition)
    (applications : List (Application Object)) : Prop where
  guarded : ∀ before application after, applications = before ++ application :: after →
    ((fresh task).run before).Guarded application
  acyclic : Acyclic (fresh task).Declares → ∀ before after, applications = before ++ after →
    Acyclic ((fresh task).run before).Declares

/-- The flow operators guard a run exactly when, at each application that closes a cycle
of declared dependencies, an edge closes a cycle of flow edges after edges that were
declared already. -/
theorem runGuarded_iff (task : Object → TaskDefinition)
    (applications : List (Application Object)) :
    RunGuarded task applications ↔
      ∀ before application after, applications = before ++ application :: after →
        ((fresh task).run before).CyclesVisible application.edges := by
  have hrecorded : ∀ before, ((fresh task).run before).Recorded :=
    fun before => Recorded.run before (recorded_fresh task)
  constructor
  · intro hrun before application after hsplit
    exact (guarded_iff (hrecorded before) application).mp
      (hrun.guarded before application after hsplit)
  · intro hvisible
    have hguarded : ∀ before application after, applications = before ++ application :: after →
        ((fresh task).run before).Guarded application :=
      fun before application after hsplit =>
        (guarded_iff (hrecorded before) application).mpr
          (hvisible before application after hsplit)
    refine ⟨hguarded, fun hacyclic before => ?_⟩
    induction before using List.reverseRecOn with
    | nil => exact fun _ _ => hacyclic
    | append_singleton before application ih =>
        intro after hsplit
        have hsplit' : applications = before ++ application :: after := by simpa using hsplit
        have hbefore := ih (application :: after) hsplit'
        rw [run_append]
        exact (hguarded before application after hsplit').acyclic hbefore

end Applications

section Constructors

/-! A cycle through a dependency that a constructor declared. -/

theorem not_mem_extractTask : Text.lit "extract" ∉ ([] : List Text) :=
  List.not_mem_nil

def extractTask : TaskDefinition where
  key := .lit "extract"
  workload := .localCallable (some "orders") (some "extract")
  dependencies := []
  retryPolicy := .default
  timeoutPolicy := .none
  triggerRule := .allSuccess
  isDeterministic := true
  distinct := List.nodup_nil
  notSelf := not_mem_extractTask

def loadTask : TaskDefinition where
  key := .lit "load"
  workload := .localCallable (some "orders") (some "load")
  dependencies := [.lit "extract"]
  retryPolicy := .default
  timeoutPolicy := .none
  triggerRule := .allSuccess
  isDeterministic := true
  distinct := List.nodup_singleton _
  notSelf := by decide

/-- `load` declares in its constructor that it follows `extract`. -/
def declaredTasks : Bool → TaskDefinition
  | false => extractTask
  | true => loadTask

/-- `load >> extract`. -/
def backwards : Application Bool := ⟨.task true, .rshift, .task false⟩

/-- The edge back closes a cycle, and the operator accepts it. -/
theorem constructorCycle_accepted : ¬ RunGuarded declaredTasks [backwards] := by
  intro hrun
  have hguarded := hrun.guarded [] backwards [] rfl
  have hcloses : (fresh declaredTasks).ClosesCycle backwards.edges := by
    refine ⟨[], (true, false), [], rfl, .single (Or.inl ⟨true, rfl, ?_⟩)⟩
    exact List.mem_singleton.mpr rfl
  obtain ⟨cyclePath, hraises⟩ := hguarded.raises_iff.mpr hcloses
  have haccepted : ((fresh declaredTasks).apply backwards).2.isOk = true := by decide +kernel
  rw [show (fresh declaredTasks).apply backwards = ((fresh declaredTasks).run []).apply
    backwards from rfl, hraises] at haccepted
  cases haccepted

end Constructors

end Session

end PyWorkflowKit.Authoring
