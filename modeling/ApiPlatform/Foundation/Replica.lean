import Mathlib

/-!
# A replica behind its source

A source changes at once; a replica follows by the events of a queue, each of
which is handled some time after the change that it reports.  For one entry, an
event *adds* when its handling copies the entry from the source, and *removes*
when its handling drops the entry.  The entry is covered when it agrees with the
source, or an event that is still queued will repair it.
-/

namespace ApiPlatform.Foundation

section Replica

variable {Event Value : Type}

def EndsAdded (adds removes : Event → Prop) (queue : List Event) : Prop :=
  ∃ pre event post, queue = pre ++ event :: post ∧ adds event ∧ ∀ later ∈ post, ¬ removes later

def Covered (adds removes : Event → Prop) (wanted held : Option Value) (queue : List Event) :
    Prop :=
  match wanted with
  | some _ => (held = wanted ∧ ∀ event ∈ queue, ¬ removes event) ∨ EndsAdded adds removes queue
  | none => held = none ∨ ∃ event ∈ queue, removes event

variable {adds removes : Event → Prop} {wanted held next : Option Value} {event : Event}
  {queue : List Event}

theorem eq_of_covered_nil (hcovered : Covered adds removes wanted held []) : held = wanted := by
  cases wanted with
  | none =>
    rcases hcovered with hheld | ⟨_, hmem, _⟩
    · exact hheld
    · cases hmem
  | some value =>
    rcases hcovered with ⟨hheld, _⟩ | ⟨pre, event, post, hqueue, _⟩
    · exact hheld
    · simp at hqueue

/-! ## Changes of the source -/

theorem covered_of_added {value : Value} (hadds : adds event) :
    Covered adds removes (some value) held (queue ++ [event]) :=
  .inr ⟨queue, event, [], rfl, hadds, by simp⟩

theorem covered_of_removed (hremoves : removes event) :
    Covered adds removes none held (queue ++ [event]) :=
  .inr ⟨event, by simp, hremoves⟩

theorem Covered.enqueue (hcovered : Covered adds removes wanted held queue)
    (hkeeps : wanted.isSome → ¬ removes event) :
    Covered adds removes wanted held (queue ++ [event]) := by
  cases wanted with
  | none =>
    rcases hcovered with hheld | ⟨other, hmem, hremoves⟩
    · exact .inl hheld
    · exact .inr ⟨other, List.mem_append_left _ hmem, hremoves⟩
  | some value =>
    have hevent : ¬ removes event := hkeeps rfl
    rcases hcovered with ⟨hheld, hnone⟩ | ⟨pre, added, post, rfl, hadds, hnone⟩
    · refine .inl ⟨hheld, fun other hmem => ?_⟩
      rcases List.mem_append.mp hmem with hother | hother
      · exact hnone other hother
      · rwa [List.mem_singleton.mp hother]
    · refine .inr ⟨pre, added, post ++ [event], by simp, hadds, fun other hmem => ?_⟩
      rcases List.mem_append.mp hmem with hother | hother
      · exact hnone other hother
      · rwa [List.mem_singleton.mp hother]

/-! ## Handling the first event -/

theorem covered_some_of_handled {value : Value}
    (hcovered : Covered adds removes (some value) held (event :: queue))
    (hadded : adds event → next = some value)
    (hkept : ¬ removes event → next = held ∨ next = some value) :
    Covered adds removes (some value) next queue := by
  rcases hcovered with ⟨hheld, hnone⟩ | ⟨pre, added, post, hqueue, hadds, hnone⟩
  · have hevent : ¬ removes event := hnone event List.mem_cons_self
    refine .inl ⟨?_, fun other hother => hnone other (List.mem_cons_of_mem _ hother)⟩
    rcases hkept hevent with hnext | hnext
    · exact hnext.trans hheld
    · exact hnext
  · cases pre with
    | nil =>
      -- the event that adds is the one just handled, and none removes after it
      obtain ⟨rfl, rfl⟩ := List.cons.inj hqueue
      exact .inl ⟨hadded hadds, hnone⟩
    | cons first rest =>
      obtain ⟨rfl, rfl⟩ := List.cons.inj hqueue
      exact .inr ⟨rest, added, post, rfl, hadds, hnone⟩

theorem covered_none_of_handled (hcovered : Covered adds removes (none : Option Value) held
      (event :: queue))
    (hremoved : removes event → next = none ∨ ∃ later ∈ queue, removes later)
    (hkept : ¬ removes event → next = held ∨ next = none ∨ ∃ later ∈ queue, removes later) :
    Covered adds removes none next queue := by
  by_cases hevent : removes event
  · exact hremoved hevent
  · rcases hkept hevent with hnext | hdone
    · rcases hcovered with hheld | ⟨other, hmem, hother⟩
      · exact .inl (hnext.trans hheld)
      · rcases List.mem_cons.mp hmem with rfl | hlater
        · exact absurd hother hevent
        · exact .inr ⟨other, hlater, hother⟩
    · exact hdone

end Replica

end ApiPlatform.Foundation
