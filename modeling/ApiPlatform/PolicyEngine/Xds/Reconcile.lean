import ApiPlatform.PolicyEngine.Xds.Builders

/-!
# Reconciliation of policy chains

Every snapshot carries the configuration of all routes.  `HandlePolicyChainUpdate`
(`internal/xdsclient/handler.go`) builds only the chains whose configuration has
changed: a route whose signature (`internal/xdsclient/signature.go`) is the one
applied last keeps its chain.

The result is the same as if every snapshot were built from scratch.
-/

namespace ApiPlatform.PolicyEngine.Xds

open Foundation

/-! ## Signatures -/

structure RouteSignatureView (Value : Type) where
  routeKey : String
  policies : Option (List (PolicyInstance Value))
  apiId : String
  apiName : String
  apiVersion : String
  deriving DecidableEq

structure Signing (Value Text Digest : Type) where
  marshal : RouteSignatureView Value → Except String Text
  sum256 : Text → Digest

section Signatures

variable {Value Text Digest : Type}

/-- Views of decoded configuration can be marshalled, and neither step confuses two of them: as
parameters are maps up to the order of their keys, views that differ in that order alone are one
view. -/
structure Signing.Faithful (signing : Signing Value Text Digest) : Prop where
  succeeds : ∀ view, ∃ text, signing.marshal view = .ok text
  marshal_inj : ∀ left right text,
    signing.marshal left = .ok text → signing.marshal right = .ok text → left = right
  sum256_inj : Function.Injective signing.sum256

def Signing.signatureOf (signing : Signing Value Text Digest) (view : RouteSignatureView Value) :
    Except String Digest :=
  (signing.marshal view).map signing.sum256

def signatureView (config : PolicyChainConfig Value) (md : Metadata) : RouteSignatureView Value :=
  { routeKey := config.routeKey
    policies := config.policies
    apiId := md.apiId
    apiName := md.apiName
    apiVersion := md.version }

def Signing.routeSignature (signing : Signing Value Text Digest)
    (config : PolicyChainConfig Value) (md : Metadata) : Except String Digest :=
  signing.signatureOf (signatureView config md)

theorem Signing.Faithful.signs {signing : Signing Value Text Digest} (hsigning : signing.Faithful)
    (config : PolicyChainConfig Value) (md : Metadata) :
    ∃ sig, signing.routeSignature config md = .ok sig := by
  obtain ⟨text, htext⟩ := hsigning.succeeds (signatureView config md)
  exact ⟨signing.sum256 text, map_eq_ok.mpr ⟨text, htext, rfl⟩⟩

theorem Signing.Faithful.view_eq {signing : Signing Value Text Digest} (hsigning : signing.Faithful)
    {config config' : PolicyChainConfig Value} {md md' : Metadata} {sig : Digest}
    (hleft : signing.routeSignature config md = .ok sig)
    (hright : signing.routeSignature config' md' = .ok sig) :
    signatureView config md = signatureView config' md' := by
  obtain ⟨text, htext, hsum⟩ := map_eq_ok.mp hleft
  obtain ⟨text', htext', hsum'⟩ := map_eq_ok.mp hright
  obtain rfl := hsigning.sum256_inj (hsum.trans hsum'.symm)
  exact hsigning.marshal_inj _ _ _ htext htext'

theorem buildPolicyChain_congr {World : Type} (registry : PolicyRegistry World Value)
    {config config' : PolicyChainConfig Value} {md md' : Metadata}
    (hview : signatureView config md = signatureView config' md') (routeKey : String) :
    registry.buildPolicyChain routeKey config md =
      registry.buildPolicyChain routeKey config' md' := by
  obtain ⟨-, hpolicies, hid, hname, hversion⟩ := RouteSignatureView.mk.inj hview
  simp only [PolicyRegistry.buildPolicyChain, PolicyRegistry.buildEntry, hpolicies, hid, hname,
    hversion]

end Signatures

/-! ## The handler -/

structure Resource where
  typeUrl : String
  value : Bytes

structure StoredPolicyConfig (Value : Type) where
  id : String
  routes : List (PolicyChainConfig Value)
  metadata : Metadata
  version : Int
  /-- The sensitive values of the transport metadata, when there is one. -/
  sensitiveValues : Option (List String)

structure Codec (Struct Value : Type) where
  unmarshalAny : Bytes → Except String Bytes
  unmarshalStruct : Bytes → Except String Struct
  marshalJSON : Struct → Except String String
  unmarshalStored : String → Except String (StoredPolicyConfig Value)

structure Environment (World Struct Value Text Digest : Type) where
  codec : Codec Struct Value
  registry : PolicyRegistry World Value
  signing : Signing Value Text Digest

structure AppliedRoute (World Value Digest : Type) where
  signature : Digest
  chain : PolicyChain World (Parameters Value)

structure Kernel (World Value : Type) where
  policyChains : GoMap String (PolicyChain World (Parameters Value))
  sensitiveValues : List String

structure ResourceHandler (World Value Digest : Type) where
  kernel : Kernel World Value
  lastApplied : GoMap String (AppliedRoute World Value Digest)

def newResourceHandler {World Value Digest : Type} : ResourceHandler World Value Digest :=
  { kernel := { policyChains := ∅, sensitiveValues := [] }, lastApplied := ∅ }

def deduplicateValues (values : List String) : List String :=
  values.foldl (fun unique value => if value ∈ unique then unique else unique ++ [value]) []

def policyChainTypeURL : String := "api-platform.wso2.org/v1.PolicyChainConfig"

section Handler

variable {World Struct Value Text Digest : Type}

def Kernel.applyWholeRoutesAndSensitiveValues (_ : Kernel World Value)
    (newRoutes : GoMap String (PolicyChain World (Parameters Value))) (values : List String) :
    Kernel World Value :=
  { policyChains := newRoutes, sensitiveValues := deduplicateValues values }

structure PolicyChainWithMetadata (Value : Type) where
  config : PolicyChainConfig Value
  metadata : Metadata

structure Snapshot (Value : Type) where
  configsWithMetadata : List (PolicyChainWithMetadata Value)
  allSensitiveValues : List String

def Codec.decode (codec : Codec Struct Value) (resource : Resource) :
    Except String (StoredPolicyConfig Value) := do
  let innerValue ← (codec.unmarshalAny resource.value).mapError
    ("failed to unmarshal inner Any from resource: " ++ ·)
  let policyStruct ← (codec.unmarshalStruct innerValue).mapError
    ("failed to unmarshal policy struct from inner Any: " ++ ·)
  let jsonBytes ← (codec.marshalJSON policyStruct).mapError
    ("failed to marshal policy struct to JSON: " ++ ·)
  (codec.unmarshalStored jsonBytes).mapError
    ("failed to unmarshal stored policy config from JSON: " ++ ·)

def validatePolicyInstance (registry : PolicyRegistry World Value) (index : Nat)
    (policyConfig : PolicyInstance Value) : Except String Unit :=
  let label := "policy[" ++ toString index ++ "]: "
  if policyConfig.name = "" then .error (label ++ "name is required")
  else if policyConfig.version = "" then .error (label ++ "version is required")
  else (registry.policyExists policyConfig.name policyConfig.version).mapError (label ++ ·)

def validatePolicyChainConfig (registry : PolicyRegistry World Value)
    (config : PolicyChainConfig Value) : Except String Unit := do
  if config.routeKey = "" then .error "route_key is required"
  else (config.policies.getD []).zipIdx.forM fun (policyConfig, index) =>
    validatePolicyInstance registry index policyConfig

namespace Environment

variable (env : Environment World Struct Value Text Digest)

def validRoutes (stored : StoredPolicyConfig Value) : List (PolicyChainWithMetadata Value) :=
  (stored.routes.filter fun config =>
    (validatePolicyChainConfig env.registry config).isOk).map fun config =>
      { config := config, metadata := stored.metadata }

def readResource (snapshot : Snapshot Value) (resource : Resource) :
    Except String (Snapshot Value) :=
  if resource.typeUrl ≠ policyChainTypeURL then .ok snapshot
  else do
    let stored ← env.codec.decode resource
    pure {
      configsWithMetadata := snapshot.configsWithMetadata ++ env.validRoutes stored
      allSensitiveValues := snapshot.allSensitiveValues ++ stored.sensitiveValues.getD [] }

def readResources (resources : List Resource) : Except String (Snapshot Value) :=
  resources.foldlM env.readResource { configsWithMetadata := [], allSensitiveValues := [] }

structure Reconciled (World Value Digest : Type) where
  chains : GoMap String (PolicyChain World (Parameters Value))
  nextApplied : GoMap String (AppliedRoute World Value Digest)

variable [DecidableEq Digest]

def rebuildRoute (state : Reconciled World Value Digest) (cwm : PolicyChainWithMetadata Value)
    (sig : Except String Digest) : Reconciled World Value Digest :=
  let routeKey := cwm.config.routeKey
  match env.registry.buildPolicyChain routeKey cwm.config cwm.metadata with
  | .error _ => state
  | .ok chain =>
    { chains := state.chains.insert routeKey chain
      nextApplied := match sig with
        | .ok sig => state.nextApplied.insert routeKey { signature := sig, chain := chain }
        | .error _ => state.nextApplied }

def reconcileRoute (lastApplied : GoMap String (AppliedRoute World Value Digest))
    (state : Reconciled World Value Digest) (cwm : PolicyChainWithMetadata Value) :
    Reconciled World Value Digest :=
  let routeKey := cwm.config.routeKey
  let sig := env.signing.routeSignature cwm.config cwm.metadata
  match sig, lastApplied.lookup routeKey with
  | .ok current, some prev =>
    if prev.signature = current then
      { chains := state.chains.insert routeKey prev.chain
        nextApplied := state.nextApplied.insert routeKey prev }
    else env.rebuildRoute state cwm sig
  | _, _ => env.rebuildRoute state cwm sig

def reconcile (lastApplied : GoMap String (AppliedRoute World Value Digest))
    (configs : List (PolicyChainWithMetadata Value)) : Reconciled World Value Digest :=
  configs.foldl (env.reconcileRoute lastApplied) { chains := ∅, nextApplied := ∅ }

def handlePolicyChainUpdate (h : ResourceHandler World Value Digest) (resources : List Resource) :
    ResourceHandler World Value Digest × Option String :=
  match env.readResources resources with
  | .error err => (h, some err)
  | .ok snapshot =>
    let reconciled := env.reconcile h.lastApplied snapshot.configsWithMetadata
    ({ kernel := h.kernel.applyWholeRoutesAndSensitiveValues reconciled.chains
         snapshot.allSensitiveValues
       lastApplied := reconciled.nextApplied }, none)

def nextHandler (h : ResourceHandler World Value Digest) (resources : List Resource) :
    ResourceHandler World Value Digest :=
  (env.handlePolicyChainUpdate h resources).1

/-! ## What is applied -/

/-- The chain is what the build gives for the configuration that was signed. -/
def Signed (key : String) (applied : AppliedRoute World Value Digest) : Prop :=
  ∃ config md, config.routeKey = key ∧
    env.signing.routeSignature config md = .ok applied.signature ∧
    env.registry.buildPolicyChain key config md = .ok applied.chain

structure Agrees (h : ResourceHandler World Value Digest) : Prop where
  chain_eq : ∀ key, h.kernel.policyChains.lookup key = (h.lastApplied.lookup key).map (·.chain)
  signed : ∀ key applied, h.lastApplied.lookup key = some applied → env.Signed key applied

structure Reconciled.Agrees (state : Reconciled World Value Digest) : Prop where
  chain_eq : ∀ key, state.chains.lookup key = (state.nextApplied.lookup key).map (·.chain)
  signed : ∀ key applied, state.nextApplied.lookup key = some applied → env.Signed key applied

variable {env}

theorem reconcileRoute_eq_rebuild (hsigning : env.signing.Faithful)
    {lastApplied : GoMap String (AppliedRoute World Value Digest)}
    (hsigned : ∀ key applied, lastApplied.lookup key = some applied → env.Signed key applied)
    (state : Reconciled World Value Digest) (cwm : PolicyChainWithMetadata Value) :
    env.reconcileRoute lastApplied state cwm =
      env.rebuildRoute state cwm (env.signing.routeSignature cwm.config cwm.metadata) := by
  unfold reconcileRoute
  dsimp only
  split
  next current prev hsig hlookup =>
    split
    next hcurrent =>
      obtain ⟨config, md, -, hprev, hbuild⟩ := hsigned _ _ hlookup
      rw [hcurrent] at hprev
      have hview := hsigning.view_eq hsig hprev
      rw [rebuildRoute, buildPolicyChain_congr env.registry hview, hbuild, hsig, ← hcurrent]
    · rfl
  · rfl

theorem reconcileRoute_fresh (state : Reconciled World Value Digest)
    (cwm : PolicyChainWithMetadata Value) :
    env.reconcileRoute ∅ state cwm =
      env.rebuildRoute state cwm (env.signing.routeSignature cwm.config cwm.metadata) := by
  unfold reconcileRoute
  cases env.signing.routeSignature cwm.config cwm.metadata <;> rfl

theorem reconcile_eq_fresh (hsigning : env.signing.Faithful)
    {lastApplied : GoMap String (AppliedRoute World Value Digest)}
    (hsigned : ∀ key applied, lastApplied.lookup key = some applied → env.Signed key applied)
    (configs : List (PolicyChainWithMetadata Value)) :
    env.reconcile lastApplied configs = env.reconcile ∅ configs := by
  have hroute : env.reconcileRoute lastApplied = env.reconcileRoute ∅ := by
    funext state cwm
    rw [reconcileRoute_eq_rebuild hsigning hsigned, reconcileRoute_fresh]
  rw [reconcile, hroute, reconcile]

omit [DecidableEq Digest] in
theorem Reconciled.Agrees.rebuildRoute (hsigning : env.signing.Faithful)
    {state : Reconciled World Value Digest} (hstate : state.Agrees env)
    (cwm : PolicyChainWithMetadata Value) :
    (env.rebuildRoute state cwm (env.signing.routeSignature cwm.config cwm.metadata)).Agrees
      env := by
  obtain ⟨sig, hsig⟩ := hsigning.signs cwm.config cwm.metadata
  rw [Environment.rebuildRoute, hsig]
  split
  · exact hstate
  next chain hbuild =>
    refine ⟨fun key => ?_, fun key applied hlookup => ?_⟩
    · rw [lookup_insert_eq, lookup_insert_eq, hstate.chain_eq]
      split <;> rfl
    · rcases lookup_insert_eq_some_iff.mp hlookup with ⟨rfl, rfl⟩ | ⟨-, hlookup⟩
      · exact ⟨cwm.config, cwm.metadata, rfl, hsig, hbuild⟩
      · exact hstate.signed key applied hlookup

theorem reconcile_agrees (hsigning : env.signing.Faithful)
    (configs : List (PolicyChainWithMetadata Value)) : (env.reconcile ∅ configs).Agrees env := by
  refine List.foldlRecOn configs _ ⟨fun _ => rfl, fun _ _ hlookup => ?_⟩ ?_
  · cases hlookup
  · intro state hstate cwm _
    rw [reconcileRoute_fresh]
    exact hstate.rebuildRoute hsigning cwm

/-! ## Updates -/

theorem handlePolicyChainUpdate_error {h : ResourceHandler World Value Digest}
    {resources : List Resource} (herror : (env.handlePolicyChainUpdate h resources).2 ≠ none) :
    env.nextHandler h resources = h := by
  unfold nextHandler handlePolicyChainUpdate at *
  split
  · rfl
  next hread =>
    rw [hread] at herror
    exact absurd rfl herror

theorem handlePolicyChainUpdate_eq_fresh (hsigning : env.signing.Faithful)
    {h : ResourceHandler World Value Digest} (hagrees : env.Agrees h) {resources : List Resource}
    (hok : (env.handlePolicyChainUpdate h resources).2 = none) :
    env.handlePolicyChainUpdate h resources =
        env.handlePolicyChainUpdate newResourceHandler resources ∧
      env.Agrees (env.nextHandler h resources) := by
  unfold nextHandler handlePolicyChainUpdate at *
  cases hread : env.readResources resources with
  | error err =>
    rw [hread] at hok
    cases hok
  | ok snapshot =>
    dsimp only
    have hfresh := reconcile_eq_fresh hsigning hagrees.signed snapshot.configsWithMetadata
    have hreconciled := reconcile_agrees hsigning snapshot.configsWithMetadata
    rw [hfresh]
    exact ⟨rfl, hreconciled.chain_eq, hreconciled.signed⟩

theorem agrees_run (hsigning : env.signing.Faithful) (history : List (List Resource)) :
    env.Agrees (run env.nextHandler newResourceHandler history) := by
  refine List.foldlRecOn history _ ⟨fun _ => rfl, fun _ _ hlookup => ?_⟩ ?_
  · cases hlookup
  · intro h hagrees resources _
    by_cases hok : (env.handlePolicyChainUpdate h resources).2 = none
    · exact (handlePolicyChainUpdate_eq_fresh hsigning hagrees hok).2
    · rwa [handlePolicyChainUpdate_error hok]

/-! ## The chains that are installed -/

/-- The flags of the chain are those of its policies. -/
def Flagged (chain : PolicyChain World (Parameters Value)) : Prop :=
  chain = .ofEntries chain.entries

omit [DecidableEq Digest] in
theorem flagged_of_build {key : String} {config : PolicyChainConfig Value} {md : Metadata}
    {chain : PolicyChain World (Parameters Value)}
    (hbuild : env.registry.buildPolicyChain key config md = .ok chain) : Flagged chain := by
  have hbuilt := env.registry.toOption_buildPolicyChain key config md
  rw [hbuild] at hbuilt
  obtain ⟨entries, -, rfl⟩ := Option.map_eq_some_iff.mp hbuilt.symm
  rw [Flagged, PolicyChain.entries_ofEntries]

structure Reconciled.AllFlagged (state : Reconciled World Value Digest) : Prop where
  chains : ∀ key chain, state.chains.lookup key = some chain → Flagged chain
  applied : ∀ key route, state.nextApplied.lookup key = some route → Flagged route.chain

theorem Reconciled.AllFlagged.reconcileRoute
    {lastApplied : GoMap String (AppliedRoute World Value Digest)}
    (hlast : ∀ key route, lastApplied.lookup key = some route → Flagged route.chain)
    {state : Reconciled World Value Digest} (hstate : state.AllFlagged)
    (cwm : PolicyChainWithMetadata Value) :
    (env.reconcileRoute lastApplied state cwm).AllFlagged := by
  have hchains : ∀ {chain}, Flagged chain → ∀ key stored,
      (state.chains.insert cwm.config.routeKey chain).lookup key = some stored →
        Flagged stored := by
    intro chain hchain key stored hlookup
    rcases lookup_insert_eq_some_iff.mp hlookup with ⟨-, rfl⟩ | ⟨-, hlookup⟩
    · exact hchain
    · exact hstate.chains key stored hlookup
  have happlied : ∀ {route : AppliedRoute World Value Digest}, Flagged route.chain →
      ∀ key stored, (state.nextApplied.insert cwm.config.routeKey route).lookup key = some stored →
        Flagged stored.chain := by
    intro route hroute key stored hlookup
    rcases lookup_insert_eq_some_iff.mp hlookup with ⟨-, rfl⟩ | ⟨-, hlookup⟩
    · exact hroute
    · exact hstate.applied key stored hlookup
  have hrebuild : ∀ sig, (env.rebuildRoute state cwm sig).AllFlagged := by
    intro sig
    unfold rebuildRoute
    dsimp only
    split
    · exact hstate
    next chain hbuild =>
      have hflagged := flagged_of_build hbuild
      cases sig with
      | ok sig => exact ⟨hchains hflagged, happlied hflagged⟩
      | error problem => exact ⟨hchains hflagged, hstate.applied⟩
  unfold Environment.reconcileRoute
  dsimp only
  split
  next hlookup =>
    have hprev := hlast _ _ hlookup
    split
    · exact ⟨hchains hprev, happlied hprev⟩
    · exact hrebuild _
  · exact hrebuild _

def ResourceHandler.AllFlagged (h : ResourceHandler World Value Digest) : Prop :=
  Reconciled.AllFlagged ⟨h.kernel.policyChains, h.lastApplied⟩

omit [DecidableEq Digest] in
theorem Reconciled.allFlagged_empty :
    Reconciled.AllFlagged (⟨∅, ∅⟩ : Reconciled World Value Digest) where
  chains _ _ hlookup := nomatch hlookup
  applied _ _ hlookup := nomatch hlookup

variable (env) in
/-- Whatever the signatures are, the flags of every chain that is installed or remembered are
those of its policies. -/
theorem allFlagged_run (history : List (List Resource)) :
    ResourceHandler.AllFlagged (run env.nextHandler newResourceHandler history) := by
  have hstart : ResourceHandler.AllFlagged
      (newResourceHandler : ResourceHandler World Value Digest) :=
    Reconciled.allFlagged_empty
  refine run_invariant (fun h resources hflagged => ?_) hstart history
  unfold nextHandler handlePolicyChainUpdate
  split
  · exact hflagged
  · next snapshot _ =>
    refine List.foldlRecOn snapshot.configsWithMetadata _ Reconciled.allFlagged_empty ?_
    exact fun state hstate cwm _ => hstate.reconcileRoute hflagged.applied cwm

/-- After any history, a successful update gives the chains, the signatures and the sensitive values
that the snapshot alone gives, and a failed update changes nothing. -/
theorem update_eq_fresh_build (hsigning : env.signing.Faithful) (history : List (List Resource))
    (resources : List Resource) :
    ((env.handlePolicyChainUpdate (run env.nextHandler newResourceHandler history) resources).2 =
        none →
      env.handlePolicyChainUpdate (run env.nextHandler newResourceHandler history) resources =
          env.handlePolicyChainUpdate newResourceHandler resources ∧
        env.Agrees (run env.nextHandler newResourceHandler (history ++ [resources]))) ∧
    ((env.handlePolicyChainUpdate (run env.nextHandler newResourceHandler history) resources).2 ≠
        none →
      run env.nextHandler newResourceHandler (history ++ [resources]) =
        run env.nextHandler newResourceHandler history) := by
  refine ⟨fun hok => ⟨?_, agrees_run hsigning _⟩, fun herror => ?_⟩
  · exact (handlePolicyChainUpdate_eq_fresh hsigning (agrees_run hsigning history) hok).1
  · rw [run_append]
    exact handlePolicyChainUpdate_error herror

end Environment

end Handler

/-! ## A route that changes and changes back -/

def sampleConfig (level : String) : StoredPolicyConfig String :=
  { id := "shop"
    routes := [{
      routeKey := "GET|/cart|localhost"
      policies := some [{
        name := "log", version := "v1", enabled := true, executionCondition := none
        parameters := some (Finmap.singleton "level" level) }] }]
    metadata := { createdAt := 0, updatedAt := 0, resourceVersion := 0, apiId := "1"
                  apiName := "shop", version := "v1", context := "/shop" }
    version := 1
    sensitiveValues := none }

/-- The members of an object, in the order of their keys. -/
def sortedMembers (parameters : Parameters String) : List (String × String) :=
  (parameters.entries.map fun member => toLex (member.1, member.2)).sort.map ofLex

theorem sortedMembers_injective : Function.Injective sortedMembers := by
  intro first second hsorted
  have hmembers := congrArg Multiset.ofList (List.map_injective_iff.mpr ofLex.injective hsorted)
  rw [Multiset.sort_eq, Multiset.sort_eq] at hmembers
  refine Finmap.ext (Multiset.map_injective ?_ hmembers)
  rintro ⟨name, value⟩ ⟨other, stored⟩ hmember
  obtain ⟨rfl, rfl⟩ := Prod.mk.inj (toLex.injective hmember)
  rfl

structure SortedPolicy where
  name : String
  version : String
  enabled : Bool
  executionCondition : Option String
  parameters : Option (List (String × String))
  deriving DecidableEq

def sortedPolicy (policy : PolicyInstance String) : SortedPolicy :=
  ⟨policy.name, policy.version, policy.enabled, policy.executionCondition,
    policy.parameters.map sortedMembers⟩

theorem sortedPolicy_injective : Function.Injective sortedPolicy := by
  rintro ⟨name, version, enabled, condition, parameters⟩ ⟨_, _, _, _, other⟩ hsorted
  simp only [sortedPolicy, SortedPolicy.mk.injEq] at hsorted
  obtain ⟨rfl, rfl, rfl, rfl, hparameters⟩ := hsorted
  rw [Option.map_injective sortedMembers_injective hparameters]

structure SortedView where
  routeKey : String
  policies : Option (List SortedPolicy)
  api : String × String × String
  deriving DecidableEq

def sortedView (view : RouteSignatureView String) : SortedView :=
  ⟨view.routeKey, view.policies.map (List.map sortedPolicy),
    (view.apiId, view.apiName, view.apiVersion)⟩

theorem sortedView_injective : Function.Injective sortedView := by
  rintro ⟨key, policies, id, name, version⟩ ⟨_, other, _, _, _⟩ hsorted
  simp only [sortedView, SortedView.mk.injEq, Prod.mk.injEq] at hsorted
  obtain ⟨rfl, hpolicies, rfl, rfl, rfl⟩ := hsorted
  rw [Option.map_injective (List.map_injective_iff.mpr sortedPolicy_injective) hpolicies]

def sampleSigning : Signing String SortedView SortedView :=
  { marshal := fun view => .ok (sortedView view), sum256 := id }

theorem sampleSigning_faithful : sampleSigning.Faithful where
  succeeds := fun view => ⟨sortedView view, rfl⟩
  marshal_inj := fun _ _ _ hleft hright =>
    sortedView_injective (Except.ok.inj (hleft.trans hright.symm))
  sum256_inj := Function.injective_id

def sampleEnvironment : Environment Unit Bytes String SortedView SortedView :=
  { codec :=
      { unmarshalAny := .ok
        unmarshalStruct := .ok
        marshalJSON := fun bytes => .ok (if bytes = [] then "info" else "debug")
        unmarshalStored := fun text => .ok (sampleConfig text) }
    registry :=
      { policies := AList.singleton "log:v1"
          { systemParameters := none
            factory := fun _ _ => .ok
              { mode := { requestHeaderMode := .skip, requestBodyMode := .skip
                          responseHeaderMode := .skip, responseBodyMode := .skip } } }
        configResolver := some .ok
        asString := some }
    signing := sampleSigning }

def sampleResource (value : Bytes) : Resource :=
  { typeUrl := policyChainTypeURL, value := value }

theorem sampleEnvironment_updated :
    ((sampleEnvironment.handlePolicyChainUpdate
      (run sampleEnvironment.nextHandler newResourceHandler
        [[sampleResource []], [sampleResource [1]]]) [sampleResource []] =
      sampleEnvironment.handlePolicyChainUpdate newResourceHandler [sampleResource []]) ∧
      sampleEnvironment.Agrees (run sampleEnvironment.nextHandler newResourceHandler
        ([[sampleResource []], [sampleResource [1]]] ++ [[sampleResource []]]))) ∧
    ((run sampleEnvironment.nextHandler newResourceHandler
      [[sampleResource []], [sampleResource [1]], [sampleResource []]]).kernel.policyChains.lookup
        "GET|/cart|localhost").isSome = true :=
  ⟨(Environment.update_eq_fresh_build sampleSigning_faithful
    [[sampleResource []], [sampleResource [1]]] [sampleResource []]).1 (by decide +kernel),
    by decide +kernel⟩

def sampleChain : Option (PolicyChain Unit (Parameters String)) :=
  (run sampleEnvironment.nextHandler newResourceHandler
    [[sampleResource []]]).kernel.policyChains.lookup "GET|/cart|localhost"

end ApiPlatform.PolicyEngine.Xds
