import ApiPlatform.Foundation.Runs
import ApiPlatform.EventGateway.Runtime

/-!
# Chains of active bindings

The policy engine should hold the chains of the active bindings and no others.
Additions register chains under route keys; a removal unregisters the keys that
the hub has kept with the binding, which are all keys of a WebSub API and one of
the keys of a WebBroker API.
-/

namespace ApiPlatform.EventGateway

open Foundation

inductive ApiBinding where
  | webSub (wsb : WebSubApiBinding)
  | webBroker (wbb : WebBrokerApiBinding)
  deriving DecidableEq

variable (cfg : RuntimeConfig)

def ApiBinding.addition : ApiBinding → Addition
  | .webSub wsb => wsb.addition cfg
  | .webBroker wbb => wbb.addition

def ApiBinding.chains (api : ApiBinding) : GoMap String (List PolicySpec) :=
  insertAll ∅ (registeredChains (api.addition cfg).chains)

/-! ## Calls that succeed -/

inductive BindingCall where
  | add (world : AddWorld) (api : ApiBinding)
  | removeWebSub (name : String)
  | removeWebBroker (name : String)

def BindingCall.Succeeds : BindingCall → Prop
  | .add world api =>
    (∀ chain ∈ registeredChains (api.addition cfg).chains,
      world.buildChain chain.1 chain.2 = none) ∧
      world.createBrokerDriver = none ∧ world.createReceiver = none ∧ world.startReceiver = none
  | .removeWebSub _ => True
  | .removeWebBroker _ => True

abbrev SuccessfulCall := { call : BindingCall // call.Succeeds cfg }

theorem buildChains_succeeds {world : AddWorld} {builds : List ChainBuild}
    (hworld : ∀ chain ∈ registeredChains builds, world.buildChain chain.1 chain.2 = none) :
    ∀ chains, (buildChains world chains builds).2 = none := by
  induction builds with
  | nil => exact fun _ => rfl
  | cons build rest ih =>
    intro chains
    rw [registeredChains_cons] at hworld
    have hok : ∃ next, buildChain world chains build = .ok next := by
      unfold buildChain
      split_ifs with hkey hspecs
      · exact ⟨_, rfl⟩
      · exact ⟨_, rfl⟩
      · have hbuild := hworld (build.routeKey, build.specs)
          (List.mem_append_left _ (by simp [registeredChains, hkey, hspecs]))
        rw [hbuild]
        exact ⟨_, rfl⟩
    obtain ⟨next, hnext⟩ := hok
    rw [buildChains, hnext]
    exact ih (fun chain hchain => hworld chain (List.mem_append_right _ hchain)) next

variable {cfg} in
theorem add_of_succeeds {world : AddWorld} {api : ApiBinding}
    (hsucceeds : (BindingCall.add world api).Succeeds cfg) (runtime : Runtime) :
    runtime.add world (api.addition cfg) = (runtime.installed (api.addition cfg), none) := by
  obtain ⟨hbuilds, hdriver, hreceiver, hstart⟩ := hsucceeds
  have hok : (runtime.add world (api.addition cfg)).2 = none := by
    have hchains := buildChains_succeeds hbuilds runtime.chains
    unfold Runtime.add
    revert hchains
    obtain ⟨chains, problem⟩ := buildChains world runtime.chains (api.addition cfg).chains
    rintro rfl
    rw [hdriver, hreceiver, hstart]
  rw [← Runtime.add_ok hok, ← hok]

/-! ## The active bindings -/

/-- The runtime, and the binding that was last added under each name since its removal. -/
structure ActiveBindings where
  runtime : Runtime
  active : GoMap String ApiBinding

namespace ActiveBindings

def start : ActiveBindings :=
  ⟨.empty, ∅⟩

def step (bindings : ActiveBindings) (call : SuccessfulCall cfg) : ActiveBindings :=
  match call.1 with
  | .add world api =>
    ⟨(bindings.runtime.add world (api.addition cfg)).1,
      bindings.active.insert (api.addition cfg).name api⟩
  | .removeWebSub name =>
    ⟨removeWebSubApiBinding bindings.runtime name, bindings.active.erase name⟩
  | .removeWebBroker name =>
    ⟨removeWebBrokerApiBinding bindings.runtime name, bindings.active.erase name⟩

variable (bindings : ActiveBindings)

def Exact : Prop :=
  ∀ key specs, bindings.runtime.chains.lookup key = some specs ↔
    ∃ name api, bindings.active.lookup name = some api ∧ (api.chains cfg).lookup key = some specs

def Registered : Prop :=
  ∀ name, bindings.runtime.bindings.lookup name =
    (bindings.active.lookup name).map fun api => (api.addition cfg).binding

def UsedElsewhere (name key : String) : Prop :=
  ∃ other api, other ≠ name ∧ bindings.active.lookup other = some api ∧ key ∈ api.chains cfg

/-- A binding of another name has no other chain under a key of the new binding, and the chains of
the binding that is replaced are written over or used by others. -/
def AdditionCovers (api : ApiBinding) : Prop :=
  (∀ other found, other ≠ (api.addition cfg).name → bindings.active.lookup other = some found →
    ∀ key, key ∈ api.chains cfg → key ∈ found.chains cfg →
      (found.chains cfg).lookup key = (api.chains cfg).lookup key) ∧
  ∀ replaced, bindings.active.lookup (api.addition cfg).name = some replaced →
    ∀ key, key ∈ replaced.chains cfg → key ∈ api.chains cfg ∨
      bindings.UsedElsewhere cfg (api.addition cfg).name key

/-- The keys kept by the hub are used by no other binding, and the chains under other keys are. -/
def RemovalCovers (name : String) : Prop :=
  ∀ removed, bindings.active.lookup name = some removed →
    (∀ key ∈ (removed.addition cfg).binding.keys, ¬ bindings.UsedElsewhere cfg name key) ∧
    ∀ key, key ∈ removed.chains cfg → key ∈ (removed.addition cfg).binding.keys ∨
      bindings.UsedElsewhere cfg name key

def Covers (call : SuccessfulCall cfg) : Prop :=
  match call.1 with
  | .add _ api => bindings.AdditionCovers cfg api
  | .removeWebSub name => bindings.RemovalCovers cfg name
  | .removeWebBroker name => bindings.RemovalCovers cfg name

/-! ## One call -/

variable {cfg} {bindings}

theorem Exact.lookup_of_active (hexact : bindings.Exact cfg) {name key : String} {api : ApiBinding}
    (hactive : bindings.active.lookup name = some api) (hkey : key ∈ api.chains cfg) :
    bindings.runtime.chains.lookup key = (api.chains cfg).lookup key := by
  obtain ⟨specs, hspecs⟩ := mem_iff_exists_lookup.mp hkey
  rw [hspecs, (hexact key specs).mpr ⟨name, api, hactive, hspecs⟩]

theorem Exact.exists_elsewhere (hexact : bindings.Exact cfg) {name key : String}
    {specs : List PolicySpec} (hspecs : bindings.runtime.chains.lookup key = some specs)
    (helsewhere : bindings.UsedElsewhere cfg name key) :
    ∃ other api, other ≠ name ∧ bindings.active.lookup other = some api ∧
      (api.chains cfg).lookup key = some specs := by
  obtain ⟨other, api, hne, hactive, hkey⟩ := helsewhere
  exact ⟨other, api, hne, hactive, by rw [← hexact.lookup_of_active hactive hkey, hspecs]⟩

/-- The binding of one name is replaced by another one or none, and with it the chains under the
keys that are written. -/
structure Replaced (before after : ActiveBindings) (cfg : RuntimeConfig) (name : String)
    (now : Option ApiBinding) (writes : String → Prop)
    (written : String → Option (List PolicySpec)) : Prop where
  active : ∀ other, after.active.lookup other =
    if other = name then now else before.active.lookup other
  chains : ∀ key, writes key → after.runtime.chains.lookup key = written key
  kept : ∀ key, ¬ writes key →
    after.runtime.chains.lookup key = before.runtime.chains.lookup key
  own : ∀ key specs, (∃ api, now = some api ∧ (api.chains cfg).lookup key = some specs) ↔
    writes key ∧ written key = some specs

theorem Replaced.exact_iff {after : ActiveBindings} {name : String} {now : Option ApiBinding}
    {writes : String → Prop} {written : String → Option (List PolicySpec)}
    (hreplaced : Replaced bindings after cfg name now writes written)
    (hexact : bindings.Exact cfg) :
    ((∀ other found, other ≠ name → bindings.active.lookup other = some found →
        ∀ key, writes key → key ∈ found.chains cfg → (found.chains cfg).lookup key = written key) ∧
      ∀ replaced, bindings.active.lookup name = some replaced →
        ∀ key, key ∈ replaced.chains cfg → writes key ∨ bindings.UsedElsewhere cfg name key) ↔
      after.Exact cfg := by
  have hother : ∀ {other}, other ≠ name →
      after.active.lookup other = bindings.active.lookup other := by
    intro other hne
    rw [hreplaced.active, if_neg hne]
  have hown : after.active.lookup name = now := by
    rw [hreplaced.active, if_pos rfl]
  constructor
  · rintro ⟨hagree, hcover⟩ key specs
    constructor
    · intro hlookup
      by_cases hkey : writes key
      · rw [hreplaced.chains key hkey] at hlookup
        obtain ⟨api, hnow, hspecs⟩ := (hreplaced.own key specs).mpr ⟨hkey, hlookup⟩
        exact ⟨name, api, hown.trans hnow, hspecs⟩
      · rw [hreplaced.kept key hkey] at hlookup
        obtain ⟨owner, found, hactive, hspecs⟩ := (hexact key specs).mp hlookup
        by_cases hname : owner = name
        · -- the chain belonged to the binding that is replaced
          have helsewhere :=
            (hcover found (hname ▸ hactive) key (mem_of_lookup hspecs)).resolve_left hkey
          obtain ⟨other, another, hne, hanother, hsame⟩ :=
            hexact.exists_elsewhere hlookup helsewhere
          exact ⟨other, another, (hother hne).trans hanother, hsame⟩
        · exact ⟨owner, found, (hother hname).trans hactive, hspecs⟩
    · rintro ⟨owner, found, hactive, hspecs⟩
      by_cases hname : owner = name
      · rw [hname, hown] at hactive
        obtain ⟨hkey, hwritten⟩ := (hreplaced.own key specs).mp ⟨found, hactive, hspecs⟩
        rw [hreplaced.chains key hkey, hwritten]
      · rw [hother hname] at hactive
        have hfound := mem_of_lookup hspecs
        by_cases hkey : writes key
        · rw [hreplaced.chains key hkey, ← hagree owner found hname hactive key hkey hfound, hspecs]
        · rw [hreplaced.kept key hkey, hexact.lookup_of_active hactive hfound, hspecs]
  · intro hafter
    constructor
    · intro other found hne hactive key hkey hfound
      rw [← hafter.lookup_of_active ((hother hne).trans hactive) hfound, hreplaced.chains key hkey]
    · intro replaced hactive key hmem
      by_contra hnot
      obtain ⟨hkey, hunused⟩ := not_or.mp hnot
      obtain ⟨specs, hspecs⟩ := mem_iff_exists_lookup.mp hmem
      have hlookup : after.runtime.chains.lookup key = some specs := by
        rw [hreplaced.kept key hkey, hexact.lookup_of_active hactive hmem, hspecs]
      obtain ⟨owner, found, hfound, hsame⟩ := (hafter key specs).mp hlookup
      by_cases hname : owner = name
      · rw [hname, hown] at hfound
        exact hkey ((hreplaced.own key specs).mp ⟨found, hfound, hsame⟩).1
      · exact hunused ⟨owner, found, hname, (hother hname).symm.trans hfound, mem_of_lookup hsame⟩

theorem Registered.bindingKeys (hregistered : bindings.Registered cfg) (name : String) :
    bindings.runtime.bindingKeys name =
      match bindings.active.lookup name with
      | some api => (api.addition cfg).binding.keys
      | none => [] := by
  rw [Runtime.bindingKeys, hregistered name]
  cases bindings.active.lookup name with
  | none | some api => rfl

theorem removalCovers_iff {after : ActiveBindings} {name : String}
    (hchains : ∀ key, after.runtime.chains.lookup key =
      if key ∈ bindings.runtime.bindingKeys name then none else bindings.runtime.chains.lookup key)
    (hactive : after.active = bindings.active.erase name)
    (hregistered : bindings.Registered cfg) (hexact : bindings.Exact cfg) :
    bindings.RemovalCovers cfg name ↔ after.Exact cfg := by
  have hreplaced : Replaced bindings after cfg name none
      (· ∈ bindings.runtime.bindingKeys name) fun _ => none := by
    refine ⟨fun other => ?_, fun key hkey => ?_, fun key hkey => ?_, by simp⟩
    · rw [hactive]
      exact lookup_erase_eq name
    · rw [hchains, if_pos hkey]
    · rw [hchains, if_neg hkey]
  rw [← hreplaced.exact_iff hexact, RemovalCovers, hregistered.bindingKeys name]
  cases bindings.active.lookup name with
  | none => simp
  | some removed =>
    simp only [Option.some.injEq, forall_eq', AList.lookup_eq_none]
    refine and_congr_left' ⟨?_, ?_⟩
    · intro hprivate other found hne hfound key hkey hmem
      exact absurd ⟨other, found, hne, hfound, hmem⟩ (hprivate key hkey)
    · rintro hagree key hkey ⟨other, found, hne, hfound, hmem⟩
      exact hagree other found hne hfound key hkey hmem hmem

theorem step_add {world : AddWorld} {api : ApiBinding}
    (hsucceeds : (BindingCall.add world api).Succeeds cfg) :
    bindings.step cfg ⟨.add world api, hsucceeds⟩ =
      ⟨bindings.runtime.installed (api.addition cfg),
        bindings.active.insert (api.addition cfg).name api⟩ := by
  have hadd := add_of_succeeds hsucceeds bindings.runtime
  simp only [step, hadd]

theorem step_replaced {world : AddWorld} {api : ApiBinding}
    (hsucceeds : (BindingCall.add world api).Succeeds cfg) :
    Replaced bindings (bindings.step cfg ⟨.add world api, hsucceeds⟩) cfg (api.addition cfg).name
      (some api) (· ∈ api.chains cfg) (api.chains cfg).lookup := by
  rw [step_add]
  have hchains : ∀ key, (bindings.runtime.installed (api.addition cfg)).chains.lookup key =
      ((api.chains cfg).lookup key).or (bindings.runtime.chains.lookup key) :=
    fun _ => lookup_insertAll_or
  refine ⟨fun other => ?_, fun key hkey => ?_, fun key hkey => ?_, fun key specs => ?_⟩
  · exact lookup_insert_eq _
  · obtain ⟨specs, hspecs⟩ := mem_iff_exists_lookup.mp hkey
    rw [hchains, hspecs, Option.some_or]
  · rw [hchains, AList.lookup_eq_none.mpr hkey, Option.none_or]
  · simpa using fun hspecs => mem_of_lookup hspecs

theorem step_exact_iff (call : SuccessfulCall cfg) (hregistered : bindings.Registered cfg)
    (hexact : bindings.Exact cfg) :
    bindings.Covers cfg call ↔ (bindings.step cfg call).Exact cfg := by
  obtain ⟨call, hsucceeds⟩ := call
  cases call with
  | add world api => exact (step_replaced hsucceeds).exact_iff hexact
  | removeWebSub name => exact removalCovers_iff (fun _ => lookup_eraseAll) rfl hregistered hexact
  | removeWebBroker name =>
    exact removalCovers_iff (fun _ => lookup_eraseAll) rfl hregistered hexact

theorem Registered.step (hregistered : bindings.Registered cfg) (call : SuccessfulCall cfg) :
    (bindings.step cfg call).Registered cfg := by
  obtain ⟨call, hsucceeds⟩ := call
  have herase : ∀ name other, (bindings.runtime.bindings.erase name).lookup other =
      ((bindings.active.erase name).lookup other).map fun api => (api.addition cfg).binding := by
    intro name other
    rw [lookup_erase_eq, lookup_erase_eq, hregistered]
    split <;> rfl
  cases call with
  | add world api =>
    intro name
    rw [step_add]
    show (bindings.runtime.bindings.insert _ _).lookup name =
      ((bindings.active.insert _ _).lookup name).map _
    rw [lookup_insert_eq, lookup_insert_eq, hregistered]
    split <;> rfl
  | removeWebSub name | removeWebBroker name => exact herase name

/-! ## Runs -/

variable (cfg)

theorem start_exact : start.Exact cfg := by
  intro key specs
  simp [start, Runtime.empty]

/-- Exactly the chains of the active bindings are registered after each call if and only if every
addition and every removal of the run covers the chains it makes stale. -/
theorem chains_exact_iff_covers (calls : List (SuccessfulCall cfg)) :
    (∀ pre, pre <+: calls → (run (step cfg) start pre).Exact cfg) ↔
      Conforms (step cfg) (Covers cfg) start calls := by
  have hvalid : ∀ (bindings : ActiveBindings) (call : SuccessfulCall cfg),
      bindings.Registered cfg → (bindings.step cfg call).Registered cfg :=
    fun _ call hregistered => hregistered.step call
  have hstep : ∀ (bindings : ActiveBindings) (call : SuccessfulCall cfg),
      bindings.Registered cfg → bindings.Exact cfg →
        (bindings.Covers cfg call ↔ (bindings.step cfg call).Exact cfg) :=
    fun _ call hregistered hexact => step_exact_iff call hregistered hexact
  apply Iff.symm
  exact conforms_iff_forall_prefix hvalid hstep (fun _ => rfl) (start_exact cfg)

end ActiveBindings

/-! ## A removed WebBroker API -/

def testConfig : RuntimeConfig :=
  ⟨id, ⟨[]⟩⟩

def quietAddition : AddWorld :=
  ⟨fun _ _ => none, none, none, none⟩

def chat (onProduce : List PolicyRef) : WebBrokerApiBinding where
  apiID := "c1"
  name := "chat"
  version := "v1"
  context := "/chat"
  vhost := ""
  receiverType := ""
  brokerDriver := ⟨"", ""⟩
  policies := { onProduce := onProduce }
  channels := ∅

def addChat (onProduce : List PolicyRef) : SuccessfulCall testConfig :=
  ⟨.add quietAddition (.webBroker (chat onProduce)), fun _ _ => rfl, rfl, rfl, rfl⟩

def removeChat : SuccessfulCall testConfig :=
  ⟨.removeWebBroker "chat", trivial⟩

/-- The chain for produced messages outlives its API and is run by the next API of the name, which
has no policies. -/
theorem produce_chain_outlives_api :
    let redeployed := run (ActiveBindings.step testConfig) .start
      [addChat [⟨"mask", "v1.0", ""⟩], removeChat, addChat []]
    redeployed.active.lookup "chat" = some (.webBroker (chat [])) ∧
      (ApiBinding.webBroker (chat [])).chains testConfig = ∅ ∧
      redeployed.runtime.chains.lookup "PRODUCE|/chat/v1|*" = some [⟨"mask", "v1", ""⟩] := by
  decide +kernel

end ApiPlatform.EventGateway
