import PyWorkflowKit.Core.Action

/-!
# Two actions in lockstep

A relation between the runs of two actions over different states: both succeed
with related results, or both fail, in the same way, without effect.
-/

namespace PyWorkflowKit.Core

variable {ε σ τ α β γ δ : Type}

/-- The two actions agree at the two states: they succeed together with results
that satisfy `post`, or fail together with related errors and no effect. -/
def Agree (same : ε → ε → Prop) (left : Action ε σ α) (right : Action ε τ β)
    (post : α → σ → β → τ → Prop) (s : σ) (t : τ) : Prop :=
  match left.run s, right.run t with
  | (.ok value, s'), (.ok other, t') => post value s' other t'
  | (.error error, s'), (.error thrown, t') => same error thrown ∧ s' = s ∧ t' = t
  | _, _ => False

namespace Agree

open Action

variable {same : ε → ε → Prop} {post : α → σ → β → τ → Prop} {s s' : σ} {t t' : τ}

theorem of_ok {left : Action ε σ α} {right : Action ε τ β} {value : α} {other : β}
    (hleft : left.run s = (.ok value, s')) (hright : right.run t = (.ok other, t'))
    (hpost : post value s' other t') : Agree same left right post s t := by
  simp only [Agree, hleft, hright]
  exact hpost

theorem of_error {left : Action ε σ α} {right : Action ε τ β} {error thrown : ε}
    (hleft : left.run s = (.error error, s)) (hright : right.run t = (.error thrown, t))
    (hsame : same error thrown) : Agree same left right post s t := by
  simp only [Agree, hleft, hright]
  exact ⟨hsame, trivial, trivial⟩

theorem run_left {left left' : Action ε σ α} {right : Action ε τ β}
    (hrun : left.run s = left'.run s) (hagree : Agree same left' right post s t) :
    Agree same left right post s t := by
  simpa only [Agree, hrun] using hagree

theorem run_right {left : Action ε σ α} {right right' : Action ε τ β}
    (hrun : right.run t = right'.run t) (hagree : Agree same left right' post s t) :
    Agree same left right post s t := by
  simpa only [Agree, hrun] using hagree

/-- Making the second action a transaction changes nothing, since a failure has
no effect already. -/
theorem transaction {left : Action ε σ α} {right : Action ε τ β}
    (hagree : Agree same left right post s t) :
    Agree same left right.transaction post s t := by
  refine run_right ?_ hagree
  cases hright : right.run t with
  | mk result after =>
      cases result with
      | ok value => exact run_transaction_of_ok hright
      | error error =>
          rw [run_transaction_of_error hright]
          cases hleft : left.run s with
          | mk outcome before =>
              cases outcome with
              | ok value => simp only [Agree, hleft, hright] at hagree
              | error thrown =>
                  simp only [Agree, hleft, hright] at hagree
                  rw [hagree.2.2]

/-- Both actions check a condition first, and the conditions are equivalent. -/
theorem require_bind {p q : Prop} [Decidable p] [Decidable q] {error thrown : ε}
    {left : Unit → Action ε σ α} {right : Unit → Action ε τ β}
    (hcondition : p ↔ q) (hsame : same error thrown)
    (hnext : p → Agree same (left ()) (right ()) post s t) :
    Agree same (require p error >>= left) (require q thrown >>= right) post s t := by
  by_cases hp : p
  · exact run_left (run_bind_of_ok (run_require_of hp _ _) _)
      (run_right (run_bind_of_ok (run_require_of (hcondition.mp hp) _ _) _) (hnext hp))
  · have hq : ¬ q := fun hq => hp (hcondition.mpr hq)
    exact of_error (run_bind_of_error (run_require_of_not hp _ _) _)
      (run_bind_of_error (run_require_of_not hq _ _) _) hsame

/-- The second action checks a condition that holds. -/
theorem require_right {q : Prop} [Decidable q] {thrown : ε} {left : Action ε σ α}
    {right : Unit → Action ε τ β} (hq : q)
    (hnext : Agree same left (right ()) post s t) :
    Agree same left (require q thrown >>= right) post s t :=
  run_right (run_bind_of_ok (run_require_of hq _ _) _) hnext

theorem get_bind {left : σ → Action ε σ α} {right : τ → Action ε τ β}
    (hnext : Agree same (left s) (right t) post s t) :
    Agree same (get >>= left) (get >>= right) post s t :=
  run_left (run_bind_of_ok (run_get s) _)
    (run_right (run_bind_of_ok (run_get t) _) hnext)

/-- The first action reads its state where the second one does not. -/
theorem get_left {left : σ → Action ε σ α} {right : Action ε τ β}
    (hnext : Agree same (left s) right post s t) :
    Agree same (get >>= left) right post s t :=
  run_left (run_bind_of_ok (run_get s) _) hnext

theorem get_right {left : Action ε σ α} {right : τ → Action ε τ β}
    (hnext : Agree same left (right t) post s t) :
    Agree same left (get >>= right) post s t :=
  run_right (run_bind_of_ok (run_get t) _) hnext

/-- Both actions start with queries that agree. -/
theorem query_bind {first : Action ε σ γ} {second : Action ε τ δ}
    {left : γ → Action ε σ α} {right : δ → Action ε τ β}
    {middle : γ → δ → Prop}
    (hfirst : Agree same first second
      (fun value s' other t' => s' = s ∧ t' = t ∧ middle value other) s t)
    (hnext : ∀ value other, middle value other →
      Agree same (left value) (right other) post s t) :
    Agree same (first >>= left) (second >>= right) post s t := by
  cases hleft : first.run s with
  | mk result after =>
      cases hright : second.run t with
      | mk outcome before =>
          cases result with
          | ok value =>
              cases outcome with
              | ok other =>
                  simp only [Agree, hleft, hright] at hfirst
                  obtain ⟨rfl, rfl, hmiddle⟩ := hfirst
                  exact run_left (run_bind_of_ok hleft _)
                    (run_right (run_bind_of_ok hright _)
                      (hnext value other hmiddle))
              | error thrown => simp only [Agree, hleft, hright] at hfirst
          | error error =>
              cases outcome with
              | ok other => simp only [Agree, hleft, hright] at hfirst
              | error thrown =>
                  simp only [Agree, hleft, hright] at hfirst
                  obtain ⟨hsame, rfl, rfl⟩ := hfirst
                  exact of_error (run_bind_of_error hleft _)
                    (run_bind_of_error hright _) hsame

/-- A query alone against a query that is followed by a pure conversion. -/
theorem query_convert {first : Action ε σ α} {second : Action ε τ δ}
    {convert : δ → Except ε β} {middle : α → δ → Prop}
    (hfirst : Agree same first second
      (fun value s' other t' => s' = s ∧ t' = t ∧ middle value other) s t)
    (hconvert : ∀ value other, middle value other →
      ∃ result, convert other = .ok result ∧ post value s result t) :
    Agree same first (second >>= fun other => ofExcept (convert other)) post s t := by
  have hbind : Agree same (first >>= fun value => pure value)
      (second >>= fun other => ofExcept (convert other)) post s t := by
    refine query_bind hfirst fun value other hmiddle => ?_
    obtain ⟨result, hresult, hpost⟩ := hconvert value other hmiddle
    exact of_ok (run_pure value s) (by rw [run_ofExcept, hresult]) hpost
  refine run_left ?_ hbind
  rw [run_bind]
  cases hrun : first.run s with
  | mk result after => cases result <;> rfl

theorem imp {left : Action ε σ α} {right : Action ε τ β}
    {other : α → σ → β → τ → Prop} (hagree : Agree same left right post s t)
    (himp : ∀ value s' result t', post value s' result t' → other value s' result t') :
    Agree same left right other s t := by
  cases hleft : left.run s with
  | mk result after =>
      cases hright : right.run t with
      | mk outcome before =>
          cases result <;> cases outcome <;>
            simp only [Agree, hleft, hright] at hagree ⊢
          · exact hagree
          · exact himp _ _ _ _ hagree

/-- Both actions update their states and then succeed. -/
theorem modify_bind {f : σ → σ} {g : τ → τ} {left : Unit → Action ε σ α}
    {right : Unit → Action ε τ β}
    (hnext : ∃ value s' other t', (left ()).run (f s) = (.ok value, s') ∧
      (right ()).run (g t) = (.ok other, t') ∧ post value s' other t') :
    Agree same (modify f >>= left) (modify g >>= right) post s t := by
  obtain ⟨value, s', other, t', hleft, hright, hpost⟩ := hnext
  exact of_ok ((run_bind_of_ok (run_modify f s) _).trans hleft)
    ((run_bind_of_ok (run_modify g t) _).trans hright) hpost

/-- Both actions are queries that succeed together or fail together. -/
theorem readExcept {left : σ → Except ε α} {right : τ → Except ε β}
    (hquery : match left s, right t with
      | .ok value, .ok other => post value s other t
      | .error error, .error thrown => same error thrown
      | _, _ => False) :
    Agree same (Action.readExcept left) (Action.readExcept right) post s t := by
  cases hleft : left s <;> cases hright : right t <;>
    simp only [hleft, hright] at hquery
  · exact of_error (by simp [hleft]) (by simp [hright]) hquery
  · exact of_ok (by simp [hleft]) (by simp [hright]) hquery

/-- Actions that return equal values still do after the same function. -/
theorem returning {left : Action ε σ α} {right : Action ε τ α} {after : σ → τ → Prop}
    (hagree : Agree same left right
      (fun value s' other t' => value = other ∧ after s' t') s t) (f : α → γ) :
    Agree same (left >>= fun value => pure (f value))
      (right >>= fun value => pure (f value))
      (fun value s' other t' => value = other ∧ after s' t') s t := by
  cases hleft : left.run s with
  | mk result afterLeft =>
      cases hright : right.run t with
      | mk outcome afterRight =>
          cases result <;> cases outcome <;>
            simp only [Agree, hleft, hright] at hagree
          · obtain ⟨hsame, rfl, rfl⟩ := hagree
            exact of_error (run_bind_of_error hleft _) (run_bind_of_error hright _)
              hsame
          · exact of_ok (run_bind_of_ok hleft _) (run_bind_of_ok hright _)
              ⟨congrArg f hagree.1, hagree.2⟩

end Agree

end PyWorkflowKit.Core
