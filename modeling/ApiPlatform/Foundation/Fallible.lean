import Mathlib

/-!
# Functions that may fail

A Go function that returns an error is a computation in `Except`.  The lemmas
say what is known when such a computation has succeeded.
-/

namespace ApiPlatform.Foundation

section Steps

variable {Error Error' Value Result : Type}

theorem bind_eq_ok {action : Except Error Value} {next : Value → Except Error Result}
    {result : Result} :
    (action >>= next) = .ok result ↔ ∃ value, action = .ok value ∧ next value = .ok result := by
  cases action with
  | error problem | ok value => simp [bind, Except.bind]

theorem mapError_eq_ok {action : Except Error Value} {wrap : Error → Error'} {value : Value} :
    action.mapError wrap = .ok value ↔ action = .ok value := by
  cases action with
  | error problem | ok found => simp [Except.mapError]

theorem map_eq_ok {action : Except Error Value} {convert : Value → Result} {result : Result} :
    action.map convert = .ok result ↔ ∃ value, action = .ok value ∧ convert value = result := by
  cases action with
  | error problem | ok value => simp [Except.map]

theorem exists_ok_of_isOk {action : Except Error Value} (hok : action.isOk = true) :
    ∃ value, action = .ok value := by
  cases action with
  | error problem => cases hok
  | ok value => exact ⟨value, rfl⟩

/-- A result that passes an evaluated test has every property that the test leads to. -/
theorem exists_ok_of_any {action : Except Error Value} {test other : Value → Prop}
    [DecidablePred test] (htest : action.toOption.any (fun value => decide (test value)) = true)
    (hother : ∀ value, action = .ok value → test value → other value) :
    ∃ value, action = .ok value ∧ test value ∧ other value := by
  cases action with
  | error problem => cases htest
  | ok value =>
    have hvalue : test value := of_decide_eq_true htest
    exact ⟨value, rfl, hvalue, hother value rfl hvalue⟩

end Steps

/-! ## Loops -/

/-- The invariant rule of a loop that stops at the first error: what holds of the
items done so far and the state holds, at the end, of all items. -/
theorem foldlM_ok_induction {State Item Error : Type} {step : State → Item → Except Error State}
    {items : List Item} {start final : State} (motive : List Item → State → Prop)
    (hstart : motive [] start)
    (hstep : ∀ done item state next, motive done state → step state item = .ok next →
      motive (done ++ [item]) next)
    (hrun : items.foldlM step start = .ok final) : motive items final := by
  induction items using List.reverseRecOn generalizing final with
  | nil =>
    cases hrun
    exact hstart
  | append_singleton items item ih =>
    rw [List.foldlM_append] at hrun
    obtain ⟨middle, hmiddle, hrun⟩ := bind_eq_ok.mp hrun
    obtain ⟨last, hlast, hrun⟩ := bind_eq_ok.mp hrun
    cases hrun
    exact hstep items item middle _ (ih hmiddle) hlast

theorem foldlM_ok_invariant {State Item Error : Type} {step : State → Item → Except Error State}
    {items : List Item} {start final : State} (holds : State → Prop)
    (hstep : ∀ item ∈ items, ∀ state next, step state item = .ok next → holds state → holds next)
    (hstart : holds start) (hrun : items.foldlM step start = .ok final) : holds final := by
  induction items generalizing start with
  | nil =>
    cases hrun
    exact hstart
  | cons item rest ih =>
    obtain ⟨hitem, hrest⟩ := List.forall_mem_cons.mp hstep
    obtain ⟨next, hnext, hrun⟩ := bind_eq_ok.mp hrun
    exact ih hrest (hitem start next hnext hstart) hrun

theorem exists_foldlM_ok {State Item Error : Type} {step : State → Item → Except Error State}
    {items : List Item} {start : State} (motive : List Item → State → Prop)
    (hstart : motive [] start)
    (hstep : ∀ before item state, before ++ [item] <+: items → motive before state →
      ∃ next, step state item = .ok next ∧ motive (before ++ [item]) next) :
    ∃ final, items.foldlM step start = .ok final ∧ motive items final := by
  induction items using List.reverseRecOn with
  | nil => exact ⟨start, rfl, hstart⟩
  | append_singleton items item ih =>
    obtain ⟨middle, hmiddle, hitems⟩ := ih fun before other state hbefore =>
      hstep before other state (hbefore.trans (List.prefix_append _ _))
    obtain ⟨final, hfinal, hall⟩ := hstep items item middle (List.prefix_refl _) hitems
    refine ⟨final, ?_, hall⟩
    rw [List.foldlM_append, hmiddle]
    exact bind_eq_ok.mpr ⟨middle, rfl, bind_eq_ok.mpr ⟨final, hfinal, rfl⟩⟩

theorem foldlM_eq_ok {State Item Error : Type} {step : State → Item → Except Error State}
    {next : State → Item → State} {items : List Item}
    (hstep : ∀ state, ∀ item ∈ items, step state item = .ok (next state item)) (start : State) :
    items.foldlM step start = .ok (items.foldl next start) := by
  induction items generalizing start with
  | nil => rfl
  | cons item rest ih =>
    rw [List.foldlM_cons, hstep start item List.mem_cons_self]
    exact ih (fun state other hother => hstep state other (List.mem_cons_of_mem _ hother)) _

theorem forall₂_of_mapM {Item Error Result : Type} {convert : Item → Except Error Result}
    {items : List Item} : ∀ {results : List Result}, items.mapM convert = .ok results →
      List.Forall₂ (fun item result => convert item = .ok result) items results := by
  induction items with
  | nil =>
    intro results hrun
    obtain rfl : [] = results := by simpa [pure, Except.pure] using hrun
    exact .nil
  | cons item rest ih =>
    intro results hrun
    rw [List.mapM_cons] at hrun
    obtain ⟨result, hitem, hrun⟩ := bind_eq_ok.mp hrun
    obtain ⟨others, hrest, hrun⟩ := bind_eq_ok.mp hrun
    obtain rfl := Except.ok.inj hrun
    exact .cons hitem (ih hrest)

end ApiPlatform.Foundation
