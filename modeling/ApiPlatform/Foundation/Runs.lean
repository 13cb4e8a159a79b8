import Mathlib

/-!
# Runs of a state machine

A machine takes one input after the other.  A run conforms to a condition when
every input meets it in the state in which it arrives; what conforming steps
preserve holds after every conforming run.
-/

namespace ApiPlatform.Foundation

section Runs

variable {State Input : Type} (step : State → Input → State)

def run (start : State) (inputs : List Input) : State :=
  inputs.foldl step start

def Conforms (allows : State → Input → Prop) : State → List Input → Prop
  | _, [] => True
  | state, input :: rest => allows state input ∧ Conforms allows (step state input) rest

instance Conforms.decidable (allows : State → Input → Prop)
    [∀ state input, Decidable (allows state input)] :
    ∀ start inputs, Decidable (Conforms step allows start inputs)
  | _, [] => isTrue trivial
  | start, input :: rest =>
    haveI := Conforms.decidable allows (step start input) rest
    inferInstanceAs (Decidable (allows start input ∧ Conforms step allows (step start input) rest))

variable {step}

@[simp] theorem run_nil (start : State) : run step start [] = start :=
  rfl

@[simp] theorem run_cons (start : State) (input : Input) (rest : List Input) :
    run step start (input :: rest) = run step (step start input) rest :=
  rfl

theorem run_append (start : State) (first second : List Input) :
    run step start (first ++ second) = run step (run step start first) second :=
  List.foldl_append

theorem conforms_append {allows : State → Input → Prop} {start : State}
    {first second : List Input} : Conforms step allows start (first ++ second) ↔
      Conforms step allows start first ∧ Conforms step allows (run step start first) second := by
  induction first generalizing start with
  | nil => simp [Conforms]
  | cons input rest ih => simp [Conforms, ih, and_assoc]

theorem Conforms.allowed {allows : State → Input → Prop} {input : Input} {pre post : List Input}
    {start : State} (hconforms : Conforms step allows start (pre ++ input :: post)) :
    allows (run step start pre) input :=
  (conforms_append.mp hconforms).2.1

theorem Conforms.of_append {allows : State → Input → Prop} {pre post : List Input} {start : State}
    (hconforms : Conforms step allows start (pre ++ post)) : Conforms step allows start pre :=
  (conforms_append.mp hconforms).1

theorem Conforms.invariant {allows : State → Input → Prop} {holds : State → Prop}
    (hstep : ∀ state input, holds state → allows state input → holds (step state input)) :
    ∀ {inputs : List Input} {start : State}, holds start → Conforms step allows start inputs →
      holds (run step start inputs) := by
  intro inputs
  induction inputs with
  | nil => exact fun hstart _ => hstart
  | cons input rest ih =>
    intro start hstart hconforms
    exact ih (hstep start input hstart hconforms.1) hconforms.2

/-- When what holds of the inputs so far and the state stays true exactly by allowed steps, the
conforming runs are those in which it holds throughout. -/
theorem conforms_iff_forall_history {allows : State → Input → Prop}
    {possible : List Input → State → Input → Prop} {holds : List Input → State → Prop}
    (hstep : ∀ seen state input, possible seen state input → holds seen state →
      (allows state input ↔ holds (seen ++ [input]) (step state input)))
    {inputs : List Input} {start : State}
    (hpossible : ∀ pre input, pre ++ [input] <+: inputs → possible pre (run step start pre) input)
    (hstart : holds [] start) :
    Conforms step allows start inputs ↔
      ∀ pre, pre <+: inputs → holds pre (run step start pre) := by
  induction inputs using List.reverseRecOn with
  | nil => simpa [Conforms] using hstart
  | append_singleton inputs input ih =>
    have hinit := ih fun pre next hpre => hpossible pre next (hpre.trans (List.prefix_append _ _))
    have hlast := hpossible inputs input (List.prefix_refl _)
    rw [conforms_append, hinit]
    simp only [Conforms, and_true, List.prefix_concat_iff]
    constructor
    · rintro ⟨hall, hallowed⟩ pre (rfl | hpre)
      · rw [run_append]
        exact (hstep _ _ input hlast (hall inputs (List.prefix_refl _))).mp hallowed
      · exact hall pre hpre
    · intro hall
      have hbefore := hall inputs (.inr (List.prefix_refl _))
      have hafter := hall _ (.inl rfl)
      rw [run_append] at hafter
      exact ⟨fun pre hpre => hall pre (.inr hpre), (hstep _ _ input hlast hbefore).mpr hafter⟩

theorem run_invariant {valid : State → Prop}
    (hvalid : ∀ state input, valid state → valid (step state input)) {start : State}
    (hstart : valid start) (inputs : List Input) : valid (run step start inputs) := by
  induction inputs generalizing start with
  | nil => exact hstart
  | cons input rest ih => exact ih (hvalid start input hstart)

/-- When a good state stays good exactly by allowed steps, the conforming runs are those that
pass through good states only. -/
theorem conforms_iff_forall_prefix {allows : State → Input → Prop} {valid holds : State → Prop}
    (hvalid : ∀ state input, valid state → valid (step state input))
    (hstep : ∀ state input, valid state → holds state →
      (allows state input ↔ holds (step state input)))
    {inputs : List Input} {start : State} (hvalidStart : valid start) (hstart : holds start) :
    Conforms step allows start inputs ↔
      ∀ pre, pre <+: inputs → holds (run step start pre) := by
  have hhistory : ∀ (seen : List Input) (state : State) (input : Input), valid state →
      holds state → (allows state input ↔ holds (step state input)) :=
    fun _ state input => hstep state input
  exact conforms_iff_forall_history hhistory
    (fun pre _ _ => run_invariant hvalid hvalidStart pre) hstart

end Runs

/-! ## Outputs -/

section Traces

variable {State Input Output Item : Type} (react : State → Input → Output) (next : Output → State)
  (ends : Output → Bool)

/-- The outputs of a run; no input is taken after an output that ends it. -/
def trace : State → List Input → List Output
  | _, [] => []
  | state, input :: rest =>
    react state input ::
      if ends (react state input) then [] else trace (next (react state input)) rest

variable {react next ends}

theorem trace_forall (holds : State → Prop) (shows : Output → Prop)
    (hstep : ∀ state input, holds state →
      shows (react state input) ∧ holds (next (react state input))) :
    ∀ {inputs : List Input} {start : State}, holds start →
      ∀ output ∈ trace react next ends start inputs, shows output := by
  intro inputs
  induction inputs with
  | nil => simp [trace]
  | cons input rest ih =>
    intro start hstart
    obtain ⟨hshows, hnext⟩ := hstep start input hstart
    refine List.forall_mem_cons.mpr ⟨hshows, ?_⟩
    split
    · exact nofun
    · exact ih hnext

theorem trace_map {Mark : Type} {holds : State → Prop} {good : Output → Prop}
    {shown : Output → Mark} {mark : Input → Mark}
    (hstep : ∀ state input, holds state → good (react state input) →
      shown (react state input) = mark input ∧ holds (next (react state input))) :
    ∀ {inputs : List Input} {start : State}, holds start →
      (∀ output ∈ trace react next ends start inputs, good output) →
      (trace react next ends start inputs).map shown =
        (inputs.take (trace react next ends start inputs).length).map mark := by
  intro inputs
  induction inputs with
  | nil => exact fun _ _ => rfl
  | cons input rest ih =>
    intro start hstart hgood
    simp only [trace] at hgood ⊢
    obtain ⟨hhead, htail⟩ := List.forall_mem_cons.mp hgood
    obtain ⟨hshown, hnext⟩ := hstep start input hstart hhead
    simp only [List.map_cons, List.length_cons, List.take_succ_cons, hshown, List.cons.injEq,
      true_and]
    split
    · simp
    · next hgoes =>
      rw [if_neg hgoes] at htail
      exact ih hnext htail

theorem length_trace_le (inputs : List Input) :
    ∀ start : State, (trace react next ends start inputs).length ≤ inputs.length := by
  induction inputs with
  | nil => exact fun _ => Nat.le_refl _
  | cons input rest ih =>
    intro start
    rw [trace, List.length_cons, List.length_cons]
    split
    · simp
    · exact Nat.succ_le_succ (ih _)

theorem getLast?_trace_of_ends {output : Output} {inputs : List Input} :
    ∀ {start : State}, output ∈ trace react next ends start inputs → ends output = true →
      (trace react next ends start inputs).getLast? = some output := by
  induction inputs with
  | nil => exact fun hmem => nomatch hmem
  | cons input rest ih =>
    intro start hmem hends
    rw [trace] at hmem ⊢
    split at hmem
    · next hlast =>
      rw [if_pos hlast, List.mem_singleton.mp hmem]
      rfl
    · next hgoes =>
      rw [if_neg hgoes, List.getLast?_cons]
      rcases List.mem_cons.mp hmem with rfl | hrest
      · exact absurd hends hgoes
      · rw [ih hrest hends]
        rfl

section Unended

variable {holds : State → Prop} {good : Output → Prop}
  (hgoes : ∀ output, good output → ends output = false)
include hgoes

theorem trace_cons_of_good {start : State} {input : Input} {rest : List Input}
    (hgood : ∀ output ∈ trace react next ends start (input :: rest), good output) :
    good (react start input) ∧
      trace react next ends start (input :: rest) =
        react start input :: trace react next ends (next (react start input)) rest ∧
      ∀ output ∈ trace react next ends (next (react start input)) rest, good output := by
  have hhead := hgood _ List.mem_cons_self
  have hcons : trace react next ends start (input :: rest) =
      react start input :: trace react next ends (next (react start input)) rest := by
    rw [trace, hgoes _ hhead]
    rfl
  exact ⟨hhead, hcons, fun output hmem => hgood output (hcons ▸ List.mem_cons_of_mem _ hmem)⟩

theorem trace_append {first second : List Input} :
    ∀ {start : State}, (∀ output ∈ trace react next ends start (first ++ second), good output) →
      trace react next ends start (first ++ second) =
        trace react next ends start first ++ trace react next ends
          (run (fun state input => next (react state input)) start first) second := by
  induction first with
  | nil => exact fun _ => rfl
  | cons input rest ih =>
    intro start hgood
    rw [List.cons_append] at hgood ⊢
    obtain ⟨hhead, hcons, htail⟩ := trace_cons_of_good hgoes hgood
    rw [hcons, ih htail, trace, hgoes _ hhead]
    rfl

variable (holds) in
theorem trace_holds
    (hstep : ∀ state input, holds state → good (react state input) →
      holds (next (react state input))) {inputs : List Input} :
    ∀ {start : State}, holds start →
      (∀ output ∈ trace react next ends start inputs, good output) →
      holds (run (fun state input => next (react state input)) start inputs) := by
  induction inputs with
  | nil => exact fun hstart _ => hstart
  | cons input rest ih =>
    intro start hstart hgood
    obtain ⟨hhead, -, htail⟩ := trace_cons_of_good hgoes hgood
    exact ih (hstep start input hstart hhead) htail

theorem length_trace {inputs : List Input} :
    ∀ {start : State}, (∀ output ∈ trace react next ends start inputs, good output) →
      (trace react next ends start inputs).length = inputs.length := by
  induction inputs with
  | nil => exact fun _ => rfl
  | cons input rest ih =>
    intro start hgood
    obtain ⟨-, hcons, htail⟩ := trace_cons_of_good hgoes hgood
    rw [hcons, List.length_cons, List.length_cons, ih htail]

/-- Conservation: when every step sends out what it takes in, up to what it keeps in a
buffer, then so does the whole run. -/
theorem trace_conserves {payload : Input → List Item} {sent : Output → List Item}
    {buffer : State → List Item}
    (hstep : ∀ state input, holds state → good (react state input) →
      sent (react state input) ++ buffer (next (react state input)) =
        buffer state ++ payload input ∧ holds (next (react state input))) {inputs : List Input} :
    ∀ {start : State}, holds start →
      (∀ output ∈ trace react next ends start inputs, good output) →
      (trace react next ends start inputs).flatMap sent ++
          buffer (run (fun state input => next (react state input)) start inputs) =
        buffer start ++ inputs.flatMap payload := by
  induction inputs with
  | nil => simp [trace]
  | cons input rest ih =>
    intro start hstart hgood
    obtain ⟨hhead, hcons, htail⟩ := trace_cons_of_good hgoes hgood
    obtain ⟨hsent, hnext⟩ := hstep start input hstart hhead
    have hrest := ih hnext htail
    rw [hcons, List.flatMap_cons, List.flatMap_cons, run_cons, List.append_assoc, hrest,
      ← List.append_assoc, hsent, List.append_assoc]

end Unended

end Traces

def EndsOnce (flags : List Bool) : Prop :=
  ∃ count, flags = List.replicate count false ++ [true]

theorem EndsOnce.exists_last {Item : Type} {flag : Item → Bool} {items : List Item}
    (hends : EndsOnce (items.map flag)) :
    ∃ init last, items = init ++ [last] ∧ flag last = true ∧ ∀ item ∈ init, flag item = false := by
  obtain ⟨count, hflags⟩ := hends
  obtain ⟨init, tail, rfl, hinit, htail⟩ := List.map_eq_append_iff.mp hflags
  obtain ⟨last, rfl, hlast⟩ := List.map_eq_singleton_iff.mp htail
  refine ⟨init, last, rfl, hlast, ?_⟩
  intro item hitem
  have hmem : flag item ∈ List.replicate count false := hinit ▸ List.mem_map_of_mem hitem
  exact List.eq_of_mem_replicate hmem

/-! ## Loops seen from above -/

/-! ## Flags of a loop -/

section Flags

variable {State Item : Type} {step : State → Item → State} (flag : State → Bool)
  (test : Item → Bool)

theorem foldl_or (hstep : ∀ state item, flag (step state item) = (flag state || test item))
    (start : State) (items : List Item) :
    flag (items.foldl step start) = (flag start || items.any test) := by
  induction items generalizing start with
  | nil => simp
  | cons item rest ih => simp [ih, hstep, Bool.or_assoc]

theorem foldl_and (hstep : ∀ state item, flag (step state item) = (flag state && test item))
    (start : State) (items : List Item) :
    flag (items.foldl step start) = (flag start && items.all test) := by
  induction items generalizing start with
  | nil => simp
  | cons item rest ih => simp [ih, hstep, Bool.and_assoc]

end Flags

theorem foldl_exists {State Item : Type} {step : State → Item → State} (holds : State → Prop)
    (brings : Item → Prop) {items : List Item}
    (hstep : ∀ state, ∀ item ∈ items, holds (step state item) ↔ holds state ∨ brings item)
    (start : State) :
    holds (items.foldl step start) ↔ holds start ∨ ∃ item ∈ items, brings item := by
  induction items generalizing start with
  | nil => simp
  | cons item rest ih =>
    rw [List.foldl_cons, ih fun state other hother => hstep state other
      (List.mem_cons_of_mem _ hother), hstep start item List.mem_cons_self]
    simp [or_assoc]

/-! ## Chains of steps -/

/-- The state after one step for each item, each step as the relation allows. -/
inductive Steps {State Item : Type} (step : State → Item → State → Prop) :
    State → List Item → State → Prop where
  | nil (state : State) : Steps step state [] state
  | cons {state next final : State} {item : Item} {rest : List Item}
      (hstep : step state item next) (hrest : Steps step next rest final) :
      Steps step state (item :: rest) final

section Chains

variable {State Item : Type} {step : State → Item → State → Prop} {start middle final : State}

theorem Steps.append {first second : List Item} (hfirst : Steps step start first middle)
    (hsecond : Steps step middle second final) : Steps step start (first ++ second) final := by
  induction hfirst with
  | nil state => exact hsecond
  | cons hstep _ ih => exact .cons hstep (ih hsecond)

theorem Steps.flatten {groups : List (List Item)}
    (hsteps : Steps (fun state group next => Steps step state group next) start groups final) :
    Steps step start groups.flatten final := by
  induction hsteps with
  | nil state => exact .nil state
  | cons hgroup _ ih => exact hgroup.append ih

theorem steps_of_foldl {next : State → Item → State} (good : State → Prop)
    (hgood : ∀ state item, good (next state item) → good state)
    (hstep : ∀ state item, good (next state item) → step state item (next state item))
    (items : List Item) :
    ∀ {start : State}, good (items.foldl next start) →
      good start ∧ Steps step start items (items.foldl next start) := by
  induction items with
  | nil => exact fun hend => ⟨hend, .nil _⟩
  | cons item rest ih =>
    intro start hend
    obtain ⟨hnext, hsteps⟩ := ih hend
    exact ⟨hgood start item hnext, .cons (hstep start item hnext) hsteps⟩

theorem steps_of_foldlM {next : State → Item → Option State} {items : List Item}
    (hrun : items.foldlM next start = some final) :
    Steps (fun state item after => next state item = some after) start items final := by
  induction items generalizing start with
  | nil =>
    obtain rfl := Option.some.inj hrun
    exact .nil _
  | cons item rest ih =>
    obtain ⟨after, hafter, hrest⟩ := Option.bind_eq_some_iff.mp hrun
    exact .cons hafter (ih hrest)

theorem Steps.mono {other : State → Item → State → Prop} {items : List Item}
    (hsteps : Steps step start items final)
    (himp : ∀ state item next, step state item next → other state item next) :
    Steps other start items final := by
  induction hsteps with
  | nil state => exact .nil state
  | cons hfirst _ ih => exact .cons (himp _ _ _ hfirst) ih

theorem Steps.invariant (holds : State → Prop) {items : List Item}
    (hsteps : Steps step start items final)
    (hstep : ∀ state, ∀ item ∈ items, ∀ next, step state item next → holds state → holds next)
    (hstart : holds start) : holds final := by
  induction hsteps with
  | nil state => exact hstart
  | cons hfirst _ ih =>
    refine ih (fun state item hitem => hstep state item (List.mem_cons_of_mem _ hitem)) ?_
    exact hstep _ _ List.mem_cons_self _ hfirst hstart

/-- When each step works on the entry under its item's key and the keys differ, then every step
meets the entry as it was at the start and leaves it as it is at the end. -/
theorem Steps.keyed {Key Value : Type} (key : Item → Key) (entry : State → Key → Value)
    (ready : Item → Value → Prop) (written : Item → Value → Value → Prop) {items : List Item}
    (hsteps : Steps step start items final)
    (hstep : ∀ state item next, step state item next → ready item (entry state (key item)) →
      (∀ other, other ≠ key item → entry next other = entry state other) ∧
        written item (entry state (key item)) (entry next (key item)))
    (hkeys : (items.map key).Nodup)
    (hready : ∀ item ∈ items, ready item (entry start (key item))) :
    (∀ other, other ∉ items.map key → entry final other = entry start other) ∧
      ∀ item ∈ items, written item (entry start (key item)) (entry final (key item)) := by
  induction hsteps with
  | nil state => simp
  | @cons state next final item rest hfirst _ ih =>
    rw [List.map_cons, List.nodup_cons] at hkeys
    obtain ⟨hframe, hwritten⟩ := hstep state item next hfirst (hready item List.mem_cons_self)
    have hkept : ∀ later ∈ rest, entry next (key later) = entry state (key later) := by
      intro later hlater
      refine hframe _ fun heq => hkeys.1 ?_
      rw [← heq]
      exact List.mem_map_of_mem hlater
    have hreadyRest : ∀ later ∈ rest, ready later (entry next (key later)) := by
      intro later hlater
      rw [hkept later hlater]
      exact hready later (List.mem_cons_of_mem _ hlater)
    obtain ⟨hframeRest, hwrittenRest⟩ := ih hkeys.2 hreadyRest
    constructor
    · intro other hother
      rw [List.map_cons, List.mem_cons, not_or] at hother
      rw [hframeRest other hother.2, hframe other hother.1]
    · intro later hlater
      rcases List.mem_cons.mp hlater with rfl | hlater
      · rw [hframeRest _ hkeys.1]
        exact hwritten
      · rw [← hkept later hlater]
        exact hwrittenRest later hlater

end Chains

end ApiPlatform.Foundation
