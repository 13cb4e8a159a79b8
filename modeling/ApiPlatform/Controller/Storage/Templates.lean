import ApiPlatform.Foundation.GoStrings
import ApiPlatform.Foundation.Indexes
import ApiPlatform.Foundation.Runs

/-!
# Templates of LLM providers

The store indexes a template by its handle without the surrounding spaces.  An addition
and an update trim the handle, a deletion does not.
-/

namespace ApiPlatform.Controller.Storage

open Foundation

structure StoredLLMProviderTemplate where
  uuid : String
  handle : String
  configuration : String
  deriving DecidableEq

def StoredLLMProviderTemplate.trimmedHandle (template : StoredLLMProviderTemplate) : String :=
  trimSpace template.handle

structure TemplateStore where
  templates : GoMap String StoredLLMProviderTemplate
  templateIdByHandle : GoMap String String

namespace TemplateStore

def empty : TemplateStore :=
  ⟨∅, ∅⟩

section Functions

variable (cs : TemplateStore)

def addTemplate (template : StoredLLMProviderTemplate) : Except String TemplateStore :=
  let uuid := trimSpace template.uuid
  let handle := trimSpace template.handle
  if uuid = "" ∨ handle = "" then .error "template UUID and handle is required"
  else if (cs.templates.lookup uuid).isSome then
    .error ("template with uuid '" ++ uuid ++ "' already exists")
  else if (cs.templateIdByHandle.lookup handle).isSome then
    .error ("template with handle '" ++ handle ++ "' already exists")
  else .ok ⟨cs.templates.insert uuid template, cs.templateIdByHandle.insert handle uuid⟩

/-- The index without the old handle, when that leads to the template. -/
def dropHandle (uuid oldName : String) : GoMap String String :=
  if cs.templateIdByHandle.lookup oldName = some uuid then cs.templateIdByHandle.erase oldName
  else cs.templateIdByHandle

def updateTemplate (template : StoredLLMProviderTemplate) : Except String TemplateStore :=
  let uuid := trimSpace template.uuid
  let newHandle := trimSpace template.handle
  if uuid = "" ∨ newHandle = "" then .error "template uuid and handle is required"
  else
    match cs.templates.lookup uuid with
    | none => .error ("template with uuid '" ++ uuid ++ "' not found")
    | some existing =>
      let oldName := trimSpace existing.handle
      if newHandle ≠ oldName then
        if cs.templateIdByHandle.lookup newHandle ∉ [none, some uuid] then
          .error ("template with given handle '" ++ newHandle ++ "' already exists")
        else
          .ok ⟨cs.templates.insert uuid template,
            (cs.dropHandle uuid oldName).insert newHandle uuid⟩
      else .ok ⟨cs.templates.insert uuid template, cs.templateIdByHandle.insert newHandle uuid⟩

def deleteTemplate (id : String) : Except String TemplateStore :=
  match cs.templates.lookup id with
  | none => .error ("template with ID '" ++ id ++ "' not found")
  | some template =>
    .ok ⟨cs.templates.erase id, cs.templateIdByHandle.erase template.handle⟩

def getTemplateByHandle (handle : String) : Except String (Option StoredLLMProviderTemplate) :=
  match cs.templateIdByHandle.lookup handle with
  | none => .error ("template with handle '" ++ handle ++ "' not found")
  | some templateId => .ok (cs.templates.lookup templateId)

end Functions

inductive TemplateCall where
  | add (template : StoredLLMProviderTemplate)
  | update (template : StoredLLMProviderTemplate)
  | delete (id : String)

def attempt (cs : TemplateStore) : TemplateCall → Except String TemplateStore
  | .add template => cs.addTemplate template
  | .update template => cs.updateTemplate template
  | .delete id => cs.deleteTemplate id

def step (cs : TemplateStore) (call : TemplateCall) : TemplateStore :=
  (cs.attempt call).toOption.getD cs

/-! ## The index -/

def Indexed (cs : TemplateStore) : Prop :=
  Indexes cs.templates cs.templateIdByHandle StoredLLMProviderTemplate.trimmedHandle

/-- What the index is for: a handle leads to its template, and one that no template has is free. -/
structure Sound (cs : TemplateStore) : Prop where
  indexed : cs.Indexed
  found : ∀ handle, cs.getTemplateByHandle handle ≠ .ok none
  reusable : ∀ template, trimSpace template.uuid ≠ "" → template.trimmedHandle ≠ "" →
    cs.templates.lookup (trimSpace template.uuid) = none →
    (∀ id stored, cs.templates.lookup id = some stored →
      stored.trimmedHandle ≠ template.trimmedHandle) →
    (cs.addTemplate template).isOk = true

def DeletesTrimmed (cs : TemplateStore) : TemplateCall → Prop
  | .delete id => ∀ template, cs.templates.lookup id = some template →
      trimSpace template.handle = template.handle
  | _ => True

variable {cs next : TemplateStore} {template : StoredLLMProviderTemplate}

theorem Indexed.sound (hindexed : cs.Indexed) : cs.Sound where
  indexed := hindexed
  found := by
    intro handle hnil
    unfold getTemplateByHandle at hnil
    split at hnil
    · cases hnil
    next id hid =>
      obtain ⟨stored, hstored, -⟩ := hindexed.current handle id hid
      rw [hstored] at hnil
      cases hnil
  reusable := by
    intro template huuid hhandle hnew hfree
    have hnone : cs.templateIdByHandle.lookup (trimSpace template.handle) = none := by
      by_contra hsome
      obtain ⟨id, hid⟩ := Option.ne_none_iff_exists'.mp hsome
      obtain ⟨stored, hstored, hkey⟩ := hindexed.current _ id hid
      exact hfree id stored hstored hkey
    simp [addTemplate, huuid, hnew, hnone, show trimSpace template.handle ≠ "" from hhandle,
      Except.isOk, Except.toBool]

theorem Indexed.add (hindexed : cs.Indexed) (hadd : cs.addTemplate template = .ok next) :
    next.Indexed := by
  unfold addTemplate at hadd
  dsimp only at hadd
  split_ifs at hadd with hblank hstored hused
  obtain rfl := Except.ok.inj hadd
  rw [Option.not_isSome_iff_eq_none] at hstored hused
  exact Indexes.insert hindexed hstored hused

theorem Indexed.update (hindexed : cs.Indexed) (hupdate : cs.updateTemplate template = .ok next) :
    next.Indexed := by
  unfold updateTemplate at hupdate
  dsimp only at hupdate
  split at hupdate
  · cases hupdate
  split at hupdate
  · cases hupdate
  next existing hexisting =>
    have hown := hindexed.found _ existing hexisting
    split_ifs at hupdate with hkeys hused
    · obtain rfl := Except.ok.inj hupdate
      have hdrop : cs.dropHandle (trimSpace template.uuid) (trimSpace existing.handle) =
          cs.templateIdByHandle.erase (trimSpace existing.handle) := if_pos hown
      have hfree := hindexed.lookup_eq_none hexisting (Ne.symm hkeys) hused
      rw [hdrop]
      exact Indexes.move hindexed hexisting (Ne.symm hkeys) hfree
    · obtain rfl := Except.ok.inj hupdate
      rw [not_not] at hkeys
      have hentry : cs.templateIdByHandle.lookup (trimSpace template.handle) =
          some (trimSpace template.uuid) := by rw [hkeys]; exact hown
      exact (Indexes.replace hindexed hexisting hkeys.symm).congr_index (lookup_insert_self hentry)

theorem delete_indexed_iff (hindexed : cs.Indexed) {id : String}
    (hstored : cs.templates.lookup id = some template) :
    Indexed ⟨cs.templates.erase id, cs.templateIdByHandle.erase template.handle⟩ ↔
      trimSpace template.handle = template.handle := by
  constructor
  · intro hafter
    by_contra huntrimmed
    have hentry : (cs.templateIdByHandle.erase template.handle).lookup template.trimmedHandle =
        some id :=
      lookup_erase_eq_some_iff.mpr ⟨huntrimmed, hindexed.found id template hstored⟩
    obtain ⟨stored, hgone, -⟩ := hafter.current _ _ hentry
    rw [AList.lookup_erase] at hgone
    cases hgone
  · intro htrimmed
    have hafter := Indexes.erase hindexed hstored
    rwa [StoredLLMProviderTemplate.trimmedHandle, htrimmed] at hafter

theorem step_indexed_iff (hindexed : cs.Indexed) (call : TemplateCall) :
    (cs.step call).Indexed ↔ cs.DeletesTrimmed call := by
  cases call with
  | add template =>
    refine iff_of_true ?_ trivial
    rw [step, attempt]
    cases hadd : cs.addTemplate template with
    | error err => exact hindexed
    | ok next => exact hindexed.add hadd
  | update template =>
    refine iff_of_true ?_ trivial
    rw [step, attempt]
    cases hupdate : cs.updateTemplate template with
    | error err => exact hindexed
    | ok next => exact hindexed.update hupdate
  | delete id =>
    simp only [step, attempt, DeletesTrimmed, deleteTemplate]
    cases hstored : cs.templates.lookup id with
    | none => simpa [Except.toOption] using hindexed
    | some template => simpa [Except.toOption] using delete_indexed_iff hindexed hstored

/-- The index of the handles is exact after every call, so that a handle leads to a template and a
free one can be used, if and only if no template with spaces around its handle is deleted. -/
theorem templates_sound_iff (calls : List TemplateCall) :
    (∀ pre, pre <+: calls → (run step empty pre).Sound) ↔
      Conforms step DeletesTrimmed empty calls := by
  have hstep : ∀ (cs : TemplateStore) (call : TemplateCall), True → cs.Sound →
      (cs.DeletesTrimmed call ↔ (cs.step call).Sound) := by
    intro cs call _ hsound
    rw [← step_indexed_iff hsound.indexed]
    exact ⟨fun hindexed => hindexed.sound, fun hafter => hafter.indexed⟩
  apply Iff.symm
  exact conforms_iff_forall_prefix (fun _ _ _ => trivial) hstep trivial
    (Indexed.sound Indexes.empty)

/-- After the deletion of a template whose handle ends with a space, the handle still leads to it
and cannot be used again. -/
theorem deleted_handle_stays :
    let deleted := run step empty [.add ⟨"t1", "gpt ", ""⟩, .delete "t1"]
    deleted.templates.lookup "t1" = none ∧ deleted.getTemplateByHandle "gpt" = .ok none ∧
      (deleted.addTemplate ⟨"t2", "gpt", ""⟩).isOk = false := by
  decide +kernel

end TemplateStore

end ApiPlatform.Controller.Storage
