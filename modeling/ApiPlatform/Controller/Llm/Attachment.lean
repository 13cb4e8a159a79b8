import ApiPlatform.Controller.Llm.Transformer

/-!
# What the attachment loops do to the registry

Every turn of the loops makes sure that one operation exists and may then
append one policy to it.  `attachPolicies_induction` says this once for a whole
run; `Extends` says that nothing is ever lost.
-/

namespace ApiPlatform.Controller.Llm

open Foundation
open Controller.Api

variable {other : PathMethodKey} {opPath : String} {round : Nat}

variable {key : PathMethodKey} {target : String} {state : AttachmentState}

/-! ## Registry operations -/

def policiesAt (registry : OperationRegistry) (key : PathMethodKey) : List Api.Policy :=
  (registry.lookup key).getD []

@[simp] theorem mem_ensureOperation {registry : OperationRegistry} :
    other ∈ ensureOperation registry key ↔ other = key ∨ other ∈ registry := by
  unfold ensureOperation
  split
  · rename_i hsome
    have hmem : key ∈ registry := AList.lookup_isSome.mp hsome
    constructor
    · exact Or.inr
    · rintro (rfl | hother)
      · exact hmem
      · exact hother
  · exact AList.mem_insert registry

@[simp] theorem mem_appendOperationPolicy {registry : OperationRegistry} {policy : Api.Policy} :
    other ∈ appendOperationPolicy registry key policy ↔ other = key ∨ other ∈ registry :=
  AList.mem_insert registry

@[simp] theorem policiesAt_ensureOperation (registry : OperationRegistry)
    (key other : PathMethodKey) :
    policiesAt (ensureOperation registry key) other = policiesAt registry other := by
  unfold ensureOperation policiesAt
  split
  · rfl
  · rename_i hnone
    have hlookup : registry.lookup key = none := by simpa using hnone
    rw [lookup_insert_eq]
    split
    next hsame => rw [hsame, hlookup, Option.getD_none, Option.getD_some]
    next => rfl

theorem policiesAt_appendOperationPolicy (registry : OperationRegistry) (key other : PathMethodKey)
    (policy : Api.Policy) :
    policiesAt (appendOperationPolicy registry key policy) other =
      if other = key then policiesAt registry key ++ [policy] else policiesAt registry other := by
  rw [appendOperationPolicy, policiesAt, lookup_insert_eq]
  split <;> rfl

/-! ## Nothing is lost -/

structure Extends (before after : OperationRegistry) : Prop where
  keys : ∀ key, key ∈ before → key ∈ after
  policies : ∀ key, policiesAt before key <+: policiesAt after key

theorem Extends.refl (registry : OperationRegistry) : Extends registry registry :=
  ⟨fun _ hkey => hkey, fun _ => List.prefix_refl _⟩

theorem Extends.trans {first second third : OperationRegistry} (hfirst : Extends first second)
    (hsecond : Extends second third) : Extends first third :=
  ⟨fun key hkey => hsecond.keys key (hfirst.keys key hkey),
    fun key => (hfirst.policies key).trans (hsecond.policies key)⟩

theorem extends_ensureOperation (registry : OperationRegistry) (key : PathMethodKey) :
    Extends registry (ensureOperation registry key) :=
  ⟨fun _ hkey => mem_ensureOperation.mpr (.inr hkey), fun other => by simp⟩

theorem extends_appendOperationPolicy (registry : OperationRegistry) (key : PathMethodKey)
    (policy : Api.Policy) : Extends registry (appendOperationPolicy registry key policy) := by
  refine ⟨fun _ hkey => mem_appendOperationPolicy.mpr (.inr hkey), fun other => ?_⟩
  rw [policiesAt_appendOperationPolicy]
  split
  · rename_i hkey
    subst hkey
    exact List.prefix_append _ _
  · exact List.prefix_refl _

theorem extends_foldl {β : Type} (list : List β) (registry : OperationRegistry)
    (step : OperationRegistry → β → OperationRegistry)
    (hstep : ∀ current item, Extends current (step current item)) :
    Extends registry (list.foldl step registry) :=
  List.foldlRecOn list step (Extends.refl registry)
    (fun _ hcurrent item _ => hcurrent.trans (hstep _ item))

theorem extends_registerExplicit (registry : OperationRegistry) (policies : List OperationPolicy)
    (shouldRegister : String → String → Bool) :
    Extends registry (registerExplicitLLMPolicyOperations registry policies shouldRegister) := by
  refine extends_foldl _ _ _ fun current attachment => extends_foldl _ _ _ fun current method => ?_
  split
  · exact extends_ensureOperation _ _
  · exact Extends.refl _

/-! ## Registered operations -/

theorem mem_registerExplicit {registry : OperationRegistry} {policies : List OperationPolicy}
    {shouldRegister : String → String → Bool} :
    key ∈ registerExplicitLLMPolicyOperations registry policies shouldRegister ↔
      key ∈ registry ∨ ∃ attachment ∈ policyAttachments policies,
        ∃ method ∈ expandLLMPolicyMethods attachment.pathEntry.methods,
          shouldRegister attachment.pathEntry.path method = true ∧
            key = ⟨attachment.pathEntry.path, method⟩ := by
  unfold registerExplicitLLMPolicyOperations
  generalize policyAttachments policies = attachments
  have hmethods : ∀ (path : String) (methods : List String) (current : OperationRegistry),
      key ∈ methods.foldl (fun registry method =>
          if shouldRegister path method then ensureOperation registry ⟨path, method⟩
          else registry) current ↔
        key ∈ current ∨ ∃ method ∈ methods, shouldRegister path method = true ∧
          key = ⟨path, method⟩ := by
    intro path methods
    induction methods with
    | nil => simp
    | cons method methods ih =>
      intro current
      rw [List.foldl_cons, ih]
      cases hregister : shouldRegister path method with
      | true => simp [hregister, or_assoc, or_left_comm]
      | false => simp [hregister]
  induction attachments generalizing registry with
  | nil => simp
  | cons attachment attachments ih =>
    refine ih.trans ?_
    rw [hmethods]
    simp [or_assoc]

theorem policiesAt_registerExplicit (registry : OperationRegistry) (policies : List OperationPolicy)
    (shouldRegister : String → String → Bool) (key : PathMethodKey) :
    policiesAt (registerExplicitLLMPolicyOperations registry policies shouldRegister) key =
      policiesAt registry key := by
  refine List.foldlRecOn (motive := fun current => policiesAt current key = policiesAt registry key)
    _ _ rfl fun current hcurrent attachment _ => ?_
  refine List.foldlRecOn (motive := fun current => policiesAt current key = policiesAt registry key)
    _ _ hcurrent fun current hcurrent method _ => ?_
  split
  · rw [policiesAt_ensureOperation, hcurrent]
  · exact hcurrent

/-! ## Target paths -/

theorem selectTemplateResourceMapping_mem {resources : List ResourceMapping} {resourcePath : String}
    {selected : ResourceMapping}
    (hselected : selectTemplateResourceMapping resources resourcePath = some selected) :
    selected ∈ resources := by
  have hall : ∀ chosen, selectTemplateResourceMapping resources resourcePath = some chosen →
      chosen ∈ resources := by
    refine List.foldlRecOn
      (motive := fun current => ∀ chosen, current = some chosen → chosen ∈ resources)
      _ _ (by simp) fun current hcurrent candidate hcandidate chosen hchosen => ?_
    split at hchosen
    · split at hchosen
      · exact Option.some.inj hchosen ▸ hcandidate
      · split at hchosen
        · exact Option.some.inj hchosen ▸ hcandidate
        · exact hcurrent chosen hchosen
    · exact hcurrent chosen hchosen
  exact hall selected hselected

/-- The template resource `target` stands for some resource under `opPath`. -/
def IsTemplateTarget (template : LLMProviderTemplateData) (opPath target : String) : Prop :=
  ∃ mapping ∈ template.resources, pathsMatch mapping.resource opPath = true ∧
    ∃ selected, selectTemplateResourceMapping template.resources mapping.resource = some selected ∧
      selected.resource = target ∧ pathsMatch target opPath = true

private theorem mem_addTargetPaths {template : LLMProviderTemplateData} (hne : target ≠ opPath)
    (mappings : List ResourceMapping) : ∀ expanded : List String,
    target ∈ mappings.foldl (addTargetPath template opPath) expanded ↔
      target ∈ expanded ∨ ∃ mapping ∈ mappings, pathsMatch mapping.resource opPath = true ∧
        ∃ selected,
          selectTemplateResourceMapping template.resources mapping.resource = some selected ∧
            selected.resource = target ∧ pathsMatch target opPath = true := by
  induction mappings with
  | nil => simp
  | cons mapping mappings ih =>
    intro expanded
    rw [List.foldl_cons, ih]
    have hstep : target ∈ addTargetPath template opPath expanded mapping ↔
        target ∈ expanded ∨ pathsMatch mapping.resource opPath = true ∧ ∃ selected,
          selectTemplateResourceMapping template.resources mapping.resource = some selected ∧
            selected.resource = target ∧ pathsMatch target opPath = true := by
      unfold addTargetPath
      cases hmatch : pathsMatch mapping.resource opPath with
      | false => simp
      | true =>
        cases hselect : selectTemplateResourceMapping template.resources mapping.resource with
        | none => simp
        | some selected =>
          simp only [if_true, true_and, Option.some.injEq, exists_eq_left']
          split_ifs with hskip
          · constructor
            · exact Or.inl
            · rintro (hmem | ⟨rfl, hmatches⟩)
              · exact hmem
              · rcases hskip with hfalse | heq | hmem
                · rw [hmatches] at hfalse
                  contradiction
                · exact absurd heq hne
                · exact hmem
          · rw [not_or, Bool.not_eq_false] at hskip
            rw [List.mem_append, List.mem_singleton]
            constructor
            · rintro (hmem | rfl)
              · exact .inl hmem
              · exact .inr ⟨rfl, hskip.1⟩
            · rintro (hmem | ⟨rfl, -⟩)
              · exact .inl hmem
              · exact .inr rfl
    rw [hstep]
    simp [or_assoc]

theorem mem_expandPolicyTargetPaths {template : LLMProviderTemplateData} :
    target ∈ expandPolicyTargetPaths template opPath ↔
      target = opPath ∨ hasWildcard opPath = true ∧ IsTemplateTarget template opPath target := by
  unfold expandPolicyTargetPaths
  by_cases heq : target = opPath
  · subst heq
    split <;> simp
  · cases hwildcard : hasWildcard opPath with
    | false => simp [heq]
    | true =>
      rw [if_pos rfl, List.mem_append, mem_addTargetPaths heq]
      simp [heq, IsTemplateTarget]

/-! ## The loops -/

theorem mem_attachmentJobs {policies : List OperationPolicy} {attachment : LLMPolicyAttachment}
    {method : String} :
    (attachment, method) ∈ attachmentJobs policies ↔
      attachment ∈ policyAttachments policies ∧
        method ∈ expandLLMPolicyMethods attachment.pathEntry.methods := by
  simp [attachmentJobs, orderedLLMPolicyAttachments, List.mem_insertionSort]

def AttachedRegistered (method : String) (state : AttachmentState) : Prop :=
  ∀ path ∈ state.attachedPolicyPaths, ⟨path, method⟩ ∈ state.registry

/-- The registry is extended, and what counts as attached stays registered. -/
structure Grows (method : String) (before after : AttachmentState) : Prop where
  registry : Extends before.registry after.registry
  attached : AttachedRegistered method before → AttachedRegistered method after

section Loops

variable {guards : AttachmentGuards} {template : LLMProviderTemplateData}
  {attachment : LLMPolicyAttachment} {method : String} {iteration : MapIteration PathMethodKey}

theorem Grows.refl (state : AttachmentState) : Grows method state state :=
  ⟨.refl _, id⟩

theorem Grows.trans {first second third : AttachmentState} (hfirst : Grows method first second)
    (hsecond : Grows method second third) : Grows method first third :=
  ⟨hfirst.registry.trans hsecond.registry, hsecond.attached ∘ hfirst.attached⟩

theorem grows_foldl {β : Type} {step : AttachmentState → β → AttachmentState}
    (hstep : ∀ state item, Grows method state (step state item)) (items : List β)
    (state : AttachmentState) : Grows method state (items.foldl step state) :=
  List.foldlRecOn items step (.refl state) fun _ hcurrent item _ => hcurrent.trans (hstep _ item)

theorem grows_attachToTarget (state : AttachmentState) (target : String) :
    Grows method state (attachToTarget guards template attachment method state target) := by
  unfold attachToTarget
  dsimp only
  split_ifs
  · exact .refl _
  · exact .refl _
  · have hextends := extends_ensureOperation state.registry ⟨target, method⟩
    exact ⟨hextends, fun hstate path hpath => hextends.keys _ (hstate path hpath)⟩
  · have hextends := (extends_ensureOperation state.registry ⟨target, method⟩).trans
      (extends_appendOperationPolicy _ ⟨target, method⟩ (attachedPolicy template attachment target))
    refine ⟨hextends, fun hstate path hpath => ?_⟩
    rcases List.mem_cons.mp hpath with rfl | hpath
    · exact mem_appendOperationPolicy.mpr (.inl rfl)
    · exact hextends.keys _ (hstate path hpath)

theorem grows_attachToOperation (state : AttachmentState) (key : PathMethodKey) :
    Grows method state (attachToOperation guards template attachment method state key) := by
  unfold attachToOperation
  split_ifs
  · exact .refl _
  · exact grows_foldl grows_attachToTarget _ _
  · exact .refl _

theorem extends_attachForMethod (registry : OperationRegistry)
    (job : (LLMPolicyAttachment × String) × Nat) :
    Extends registry (attachForMethod guards template iteration registry job) := by
  unfold attachForMethod
  dsimp only
  split_ifs
  · exact .refl _
  · exact (grows_foldl grows_attachToOperation _ ⟨registry, []⟩).registry

theorem extends_attachJobs (jobs : List ((LLMPolicyAttachment × String) × Nat))
    (registry : OperationRegistry) :
    Extends registry (jobs.foldl (attachForMethod guards template iteration) registry) :=
  extends_foldl _ _ _ extends_attachForMethod

end Loops

/-! ## What a job reaches -/

structure TargetTurn (guards : AttachmentGuards) (template : LLMProviderTemplateData)
    (policies : List OperationPolicy) (registry : OperationRegistry)
    (attachment : LLMPolicyAttachment) (key : PathMethodKey) (target : String) : Prop where
  attachment_mem : attachment ∈ policyAttachments policies
  method_mem : key.method ∈ expandLLMPolicyMethods attachment.pathEntry.methods
  not_skipped : guards.skipAttachment attachment.pathEntry.path key.method = false
  key_mem : key ∈ registry
  matches_path : pathsMatch key.path attachment.pathEntry.path = true
  target_mem : target ∈ expandPolicyTargetPaths template key.path
  not_covered : moreSpecificPolicyAttachmentCovers target key.method attachment = false

section Reached

variable {guards : AttachmentGuards} {template : LLMProviderTemplateData}
  {attachment : LLMPolicyAttachment} {iteration : MapIteration PathMethodKey}
  {policies : List OperationPolicy} {registry : OperationRegistry}

/-- An operation that a guard hides stays hidden when policies are added to it. -/
def MonotoneGuards (guards : AttachmentGuards) : Prop :=
  ∀ fewer more : List Api.Policy, fewer <+: more →
    guards.skipOperation fewer = true → guards.skipOperation more = true

theorem visible_of_extends (hmonotone : MonotoneGuards guards) {before after : OperationRegistry}
    (hextends : Extends before after)
    (hvisible : guards.skipOperation (policiesAt after key) = false) :
    guards.skipOperation (policiesAt before key) = false := by
  by_contra hhidden
  rw [Bool.not_eq_false] at hhidden
  rw [hmonotone _ _ (hextends.policies key) hhidden] at hvisible
  contradiction

section

variable (hturn : TargetTurn guards template policies registry attachment key target)
include hturn

theorem mem_attachToTarget (hstate : AttachedRegistered key.method state) :
    ⟨target, key.method⟩ ∈
      (attachToTarget guards template attachment key.method state target).registry := by
  unfold attachToTarget
  dsimp only
  split_ifs with hattached hcovered hskip
  · exact hstate target hattached
  · rw [hturn.not_covered] at hcovered
    contradiction
  · exact mem_ensureOperation.mpr (.inl rfl)
  · exact mem_appendOperationPolicy.mpr (.inl rfl)

theorem mem_attachToOperation (hstate : AttachedRegistered key.method state)
    (hvisible : guards.skipOperation (policiesAt state.registry key) = false) :
    ⟨target, key.method⟩ ∈
      (attachToOperation guards template attachment key.method state key).registry := by
  obtain ⟨before, after, htargets⟩ := List.append_of_mem hturn.target_mem
  have hvisible' : guards.skipOperation ((state.registry.lookup key).getD []) = false := hvisible
  unfold attachToOperation
  rw [hvisible', hturn.matches_path, htargets, List.foldl_append, List.foldl_cons]
  exact (grows_foldl grows_attachToTarget after _).registry.keys _
    (mem_attachToTarget hturn ((grows_foldl grows_attachToTarget before state).attached hstate))

variable (hmonotone : MonotoneGuards guards)
include hmonotone

theorem mem_attachToOperations {keys : List PathMethodKey}
    (hstate : AttachedRegistered key.method state) (hkey : key ∈ keys)
    (hvisible : guards.skipOperation (policiesAt
      (keys.foldl (attachToOperation guards template attachment key.method) state).registry
        key) = false) :
    ⟨target, key.method⟩ ∈
      (keys.foldl (attachToOperation guards template attachment key.method) state).registry := by
  obtain ⟨before, after, rfl⟩ := List.append_of_mem hkey
  rw [List.foldl_append, List.foldl_cons] at hvisible ⊢
  refine (grows_foldl grows_attachToOperation after _).registry.keys _ (mem_attachToOperation hturn
    ((grows_foldl grows_attachToOperation before state).attached hstate) ?_)
  exact visible_of_extends hmonotone ((grows_attachToOperation _ key).trans
    (grows_foldl grows_attachToOperation after _)).registry hvisible

theorem mem_attachForMethod (hvisible : guards.skipOperation (policiesAt
      (attachForMethod guards template iteration registry ((attachment, key.method), round))
        key) = false) :
    ⟨target, key.method⟩ ∈
      attachForMethod guards template iteration registry ((attachment, key.method), round) := by
  have hvisited : key ∈ iteration.order (round + 1)
      (getOperationsForMethod registry key.method) := by
    rw [(iteration.perm _ _).mem_iff]
    exact List.mem_filter.mpr ⟨hturn.key_mem, by simp⟩
  simp only [attachForMethod, hturn.not_skipped, Bool.false_eq_true, if_false] at hvisible ⊢
  refine mem_attachToOperations hturn hmonotone ?_ hvisited hvisible
  intro path hpath
  exact absurd hpath List.not_mem_nil

theorem mem_attachPolicies_of_target (hvisible : guards.skipOperation (policiesAt
      (attachPolicies guards template iteration policies registry) key) = false) :
    ⟨target, key.method⟩ ∈ attachPolicies guards template iteration policies registry := by
  have hjob : (attachment, key.method) ∈ attachmentJobs policies :=
    mem_attachmentJobs.mpr ⟨hturn.attachment_mem, hturn.method_mem⟩
  obtain ⟨round, hround⟩ := List.mem_iff_getElem?.mp hjob
  have hindexed : ((attachment, key.method), round) ∈ (attachmentJobs policies).zipIdx :=
    List.mem_zipIdx_iff_getElem?.mpr hround
  obtain ⟨before, after, hsplit⟩ := List.append_of_mem hindexed
  unfold attachPolicies at hvisible ⊢
  rw [hsplit, List.foldl_append, List.foldl_cons] at hvisible ⊢
  have hcurrent : TargetTurn guards template policies
      (before.foldl (attachForMethod guards template iteration) registry) attachment key target :=
    { hturn with key_mem := (extends_attachJobs before registry).keys key hturn.key_mem }
  exact (extends_attachJobs after _).keys _ (mem_attachForMethod hcurrent hmonotone
    (visible_of_extends hmonotone (extends_attachJobs after _) hvisible))

end

end Reached

theorem attachForMethod_induction {guards : AttachmentGuards} {template : LLMProviderTemplateData}
    {iteration : MapIteration PathMethodKey} {policies : List OperationPolicy}
    {registry : OperationRegistry} {attachment : LLMPolicyAttachment} {method : String}
    (hjob : (attachment, method) ∈ attachmentJobs policies) (holds : OperationRegistry → Prop)
    (hstart : holds registry) (hensure : ∀ current key target, holds current → key.method = method →
      TargetTurn guards template policies current attachment key target →
        holds (ensureOperation current ⟨target, method⟩))
    (happend : ∀ current key target, holds (ensureOperation current ⟨target, method⟩) →
      key.method = method → TargetTurn guards template policies current attachment key target →
        holds (appendOperationPolicy (ensureOperation current ⟨target, method⟩)
          ⟨target, method⟩ (attachedPolicy template attachment target))) :
    holds (attachForMethod guards template iteration registry ((attachment, method), round)) := by
  obtain ⟨hattachment, hmethod⟩ := mem_attachmentJobs.mp hjob
  unfold attachForMethod
  dsimp only
  split_ifs with hskip
  · exact hstart
  · refine (List.foldlRecOn
      (motive := fun state : AttachmentState =>
        holds state.registry ∧ Extends registry state.registry)
      _ _ ⟨hstart, Extends.refl _⟩ fun state hstate key hkey => ?_).1
    have hkey' := (iteration.perm (round + 1) _).mem_iff.mp hkey
    obtain ⟨hkeys, hkeyMethod⟩ := List.mem_filter.mp hkey'
    have hkeyMethod : key.method = method := beq_iff_eq.mp hkeyMethod
    refine ⟨?_, hstate.2.trans (grows_attachToOperation state key).registry⟩
    subst hkeyMethod
    unfold attachToOperation
    split_ifs with hoperation hmatches
    · exact hstate.1
    · refine (List.foldlRecOn
        (motive := fun inner : AttachmentState =>
          holds inner.registry ∧ Extends registry inner.registry)
        _ _ hstate fun inner hinner target htarget => ?_).1
      refine ⟨?_, hinner.2.trans (grows_attachToTarget inner target).registry⟩
      unfold attachToTarget
      dsimp only
      split_ifs with hattached hcovered htargetSkip
      · exact hinner.1
      · exact hinner.1
      all_goals
        have hturn : TargetTurn guards template policies inner.registry attachment key target :=
          ⟨hattachment, hmethod, by simpa using hskip, hinner.2.keys key hkeys, hmatches,
            htarget, by simpa using hcovered⟩
      · exact hensure _ _ _ hinner.1 rfl hturn
      · exact happend _ _ _ (hensure _ _ _ hinner.1 rfl hturn) rfl hturn
    · exact hstate.1

theorem attachPolicies_induction {guards : AttachmentGuards} {template : LLMProviderTemplateData}
    {iteration : MapIteration PathMethodKey} {policies : List OperationPolicy}
    {registry : OperationRegistry} (holds : OperationRegistry → Prop) (hstart : holds registry)
    (hensure : ∀ current attachment key target, holds current →
      TargetTurn guards template policies current attachment key target →
        holds (ensureOperation current ⟨target, key.method⟩))
    (happend : ∀ current attachment key target,
      holds (ensureOperation current ⟨target, key.method⟩) →
      TargetTurn guards template policies current attachment key target →
        holds (appendOperationPolicy (ensureOperation current ⟨target, key.method⟩)
          ⟨target, key.method⟩ (attachedPolicy template attachment target))) :
    holds (attachPolicies guards template iteration policies registry) := by
  refine List.foldlRecOn (motive := holds) _ _ hstart fun current hcurrent job hjob => ?_
  refine attachForMethod_induction (List.fst_mem_of_mem_zipIdx hjob) holds hcurrent ?_ ?_
  · rintro current key target hcurrent hmethod hturn
    exact hmethod ▸ hensure current _ key target hcurrent hturn
  · rintro current key target hcurrent hmethod hturn
    rw [← hmethod] at hcurrent ⊢
    exact happend current _ key target hcurrent hturn

end ApiPlatform.Controller.Llm
