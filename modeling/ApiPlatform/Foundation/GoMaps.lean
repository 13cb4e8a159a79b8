import Mathlib

/-!
# Go maps

A Go map is an association list without duplicate keys.  A `range` over a map
visits its keys in an arbitrary order, which may be another one each time.
-/

namespace ApiPlatform.Foundation

abbrev GoMap (Key Value : Type) :=
  AList (fun _ : Key => Value)

instance {Key Value : Type} [DecidableEq Key] [DecidableEq Value] :
    DecidableEq (GoMap Key Value) := fun left right =>
  decidable_of_iff (left.entries = right.entries) AList.ext_iff.symm

structure MapIteration (Key : Type) where
  order : Nat → List Key → List Key
  perm : ∀ round keys, (order round keys).Perm keys

def storedOrder (Key : Type) : MapIteration Key where
  order := fun _ keys => keys
  perm := fun _ keys => List.Perm.refl keys

theorem MapIteration.mem_order {Key : Type} (iteration : MapIteration Key) {round : Nat}
    {keys : List Key} {key : Key} : key ∈ iteration.order round keys ↔ key ∈ keys :=
  (iteration.perm round keys).mem_iff

section Membership

variable {Key Value : Type} [DecidableEq Key] {map : GoMap Key Value} {key : Key} {value : Value}

theorem mem_iff_exists_lookup : key ∈ map ↔ ∃ value, map.lookup key = some value := by
  rw [← AList.lookup_isSome, Option.isSome_iff_exists]

theorem mem_of_lookup (hlookup : map.lookup key = some value) : key ∈ map :=
  mem_iff_exists_lookup.mpr ⟨value, hlookup⟩

theorem mem_keys_of_lookup (hlookup : map.lookup key = some value) : key ∈ map.keys :=
  AList.mem_keys.mp (mem_of_lookup hlookup)

theorem ne_of_lookup {absent : Key} (hlookup : map.lookup key = some value)
    (habsent : map.lookup absent = none) : key ≠ absent := by
  rintro rfl
  rw [habsent] at hlookup
  cases hlookup

theorem lookup_insert_eq (new : Key) : (map.insert new value).lookup key =
    if key = new then some value else map.lookup key := by
  by_cases hkey : key = new
  · rw [hkey, AList.lookup_insert, if_pos rfl]
  · rw [AList.lookup_insert_ne hkey, if_neg hkey]

theorem lookup_erase_eq (old : Key) :
    (map.erase old).lookup key = if key = old then none else map.lookup key := by
  by_cases hkey : key = old
  · rw [hkey, AList.lookup_erase, if_pos rfl]
  · rw [AList.lookup_erase_ne hkey, if_neg hkey]

theorem lookup_insert_eq_some_iff {new : Key} {stored : Value} :
    (map.insert new value).lookup key = some stored ↔
      key = new ∧ value = stored ∨ key ≠ new ∧ map.lookup key = some stored := by
  rw [lookup_insert_eq]
  split <;> simp_all

theorem lookup_insert_kept_iff {new : Key} {stored : Value} (hkept : map.lookup key = some stored) :
    (map.insert new value).lookup key = some stored ↔ (key = new → value = stored) := by
  rw [lookup_insert_eq]
  split <;> simp [*]

theorem lookup_insert_self (hentry : map.lookup key = some value) (other : Key) :
    (map.insert key value).lookup other = map.lookup other := by
  rw [lookup_insert_eq]
  split
  next hsame => rw [hsame, hentry]
  next => rfl

theorem lookup_erase_eq_some_iff {old : Key} :
    (map.erase old).lookup key = some value ↔ key ≠ old ∧ map.lookup key = some value := by
  rw [lookup_erase_eq]
  split <;> simp_all

end Membership

/-! ## Searching -/

section Search

variable {Key Value : Type} [DecidableEq Key]

/-- The first key whose value is accepted, in the order of a `range`. -/
def rangeFind (iteration : MapIteration Key) (round : Nat) (map : GoMap Key Value)
    (accepts : Value → Bool) : Option Key :=
  (iteration.order round map.keys).find? fun key => (map.lookup key).any accepts

variable {iteration : MapIteration Key} {round : Nat} {map : GoMap Key Value}
  {accepts : Value → Bool}

theorem exists_of_rangeFind {key : Key} (hfind : rangeFind iteration round map accepts = some key) :
    ∃ value, map.lookup key = some value ∧ accepts value = true := by
  have hany : (map.lookup key).any accepts = true := by simpa using List.find?_some hfind
  exact (Option.any_eq_true _ _).mp hany

theorem not_accepts_of_rangeFind {key : Key} {value : Value}
    (hfind : rangeFind iteration round map accepts = none) (hlookup : map.lookup key = some value) :
    accepts value = false := by
  have hkey : key ∈ iteration.order round map.keys :=
    iteration.mem_order.mpr (mem_keys_of_lookup hlookup)
  simpa [hlookup] using List.find?_eq_none.mp hfind key hkey

end Search

/-! ## Writing many entries -/

section Writes

variable {Key Value : Type} [DecidableEq Key]

/-- A loop that writes one entry after the other; a later write wins. -/
def insertAll (map : GoMap Key Value) (writes : List (Key × Value)) : GoMap Key Value :=
  writes.foldl (fun map write => map.insert write.1 write.2) map

theorem insertAll_append (map : GoMap Key Value) (first second : List (Key × Value)) :
    insertAll map (first ++ second) = insertAll (insertAll map first) second :=
  List.foldl_append

theorem mem_insertAll {writes : List (Key × Value)} {key : Key} :
    ∀ {map : GoMap Key Value},
      key ∈ insertAll map writes ↔ key ∈ map ∨ key ∈ writes.map Prod.fst := by
  induction writes with
  | nil => simp [insertAll]
  | cons write rest ih =>
    intro map
    have hstep : insertAll map (write :: rest) = insertAll (map.insert write.1 write.2) rest :=
      rfl
    rw [hstep, ih, AList.mem_insert, List.map_cons, List.mem_cons]
    tauto

theorem lookup_insertAll_of_not_mem {writes : List (Key × Value)} {key : Key} :
    ∀ {map : GoMap Key Value}, key ∉ writes.map Prod.fst →
      (insertAll map writes).lookup key = map.lookup key := by
  induction writes with
  | nil => exact fun _ => rfl
  | cons write rest ih =>
    intro map hkey
    rw [List.map_cons, List.mem_cons, not_or] at hkey
    calc (insertAll map (write :: rest)).lookup key
        = (map.insert write.1 write.2).lookup key := ih hkey.2
      _ = map.lookup key := AList.lookup_insert_ne hkey.1

theorem lookup_insertAll_or {writes : List (Key × Value)} {key : Key} :
    ∀ {map : GoMap Key Value}, (insertAll map writes).lookup key =
      ((insertAll ∅ writes).lookup key).or (map.lookup key) := by
  induction writes using List.reverseRecOn with
  | nil => simp [insertAll]
  | append_singleton rest write ih =>
    intro map
    have hlast : ∀ start : GoMap Key Value, insertAll start (rest ++ [write]) =
        (insertAll start rest).insert write.1 write.2 := fun start => insertAll_append _ _ _
    rw [hlast, hlast, lookup_insert_eq, lookup_insert_eq, ih]
    split <;> rfl

theorem lookup_insertAll_congr {first second : GoMap Key Value} {writes : List (Key × Value)}
    (hsame : ∀ key, first.lookup key = second.lookup key) (key : Key) :
    (insertAll first writes).lookup key = (insertAll second writes).lookup key := by
  rw [lookup_insertAll_or, hsame, ← lookup_insertAll_or]

theorem exists_lookup_insertAll {writes : List (Key × Value)} {key : Key} (holds : Value → Prop)
    (hall : ∀ write ∈ writes, write.1 = key → holds write.2) :
    ∀ {map : GoMap Key Value}, key ∈ writes.map Prod.fst →
      ∃ value, (insertAll map writes).lookup key = some value ∧ holds value := by
  induction writes with
  | nil => simp
  | cons write rest ih =>
    intro map hkey
    by_cases hrest : key ∈ rest.map Prod.fst
    · exact ih (fun other hother => hall other (List.mem_cons_of_mem _ hother)) hrest
    · -- the first write is the last one to this key
      have hfirst : write.1 = key := by
        rcases List.mem_cons.mp hkey with heq | hmem
        · exact heq.symm
        · exact absurd hmem hrest
      refine ⟨write.2, ?_, hall write List.mem_cons_self hfirst⟩
      calc (insertAll map (write :: rest)).lookup key
          = (map.insert write.1 write.2).lookup key := lookup_insertAll_of_not_mem hrest
        _ = some write.2 := by rw [← hfirst, AList.lookup_insert]

theorem lookup_insertAll_eq {writes : List (Key × Value)} {key : Key} {value : Value}
    {map : GoMap Key Value} (hall : ∀ write ∈ writes, write.1 = key → write.2 = value)
    (hkey : key ∈ writes.map Prod.fst) : (insertAll map writes).lookup key = some value := by
  obtain ⟨stored, hlookup, rfl⟩ := exists_lookup_insertAll (· = value) hall hkey
  exact hlookup

end Writes

/-! ## Erasing many entries -/

section Erasures

variable {Key Value : Type} [DecidableEq Key]

def eraseAll (map : GoMap Key Value) (keys : List Key) : GoMap Key Value :=
  keys.foldl (fun map key => map.erase key) map

theorem lookup_eraseAll {keys : List Key} {key : Key} :
    ∀ {map : GoMap Key Value},
      (eraseAll map keys).lookup key = if key ∈ keys then none else map.lookup key := by
  induction keys with
  | nil => simp [eraseAll]
  | cons first rest ih =>
    intro map
    have hstep : eraseAll map (first :: rest) = eraseAll (map.erase first) rest := rfl
    rw [hstep, ih, lookup_erase_eq]
    by_cases hfirst : key = first <;> simp [hfirst]

end Erasures

/-! ## Writes to a table -/

section Tables

variable {Key Value : Type} [DecidableEq Key]

def writeAll (table : Key → Value) (writes : List (Key × Value)) : Key → Value :=
  writes.foldl (fun table write => Function.update table write.1 write.2) table

theorem writeAll_append (table : Key → Value) (first second : List (Key × Value)) :
    writeAll table (first ++ second) = writeAll (writeAll table first) second :=
  List.foldl_append

theorem writeAll_of_not_written {writes : List (Key × Value)} {key : Key} :
    ∀ {table : Key → Value}, (∀ write ∈ writes, write.1 ≠ key) →
      writeAll table writes key = table key := by
  induction writes with
  | nil => exact fun _ => rfl
  | cons write rest ih =>
    intro table hwrites
    obtain ⟨hwrite, hrest⟩ := List.forall_mem_cons.mp hwrites
    calc writeAll table (write :: rest) key
        = Function.update table write.1 write.2 key := ih hrest
      _ = table key := Function.update_of_ne hwrite.symm _ _

theorem writeAll_eq_of_forall {writes : List (Key × Value)} {key : Key} {value : Value}
    (hall : ∀ write ∈ writes, write.1 = key → write.2 = value) :
    ∀ {table : Key → Value}, ((∀ write ∈ writes, write.1 ≠ key) → table key = value) →
      writeAll table writes key = value := by
  induction writes with
  | nil => exact fun hstart => hstart nofun
  | cons write rest ih =>
    intro table hstart
    obtain ⟨hwrite, hrest⟩ := List.forall_mem_cons.mp hall
    refine ih hrest fun hunwritten => ?_
    show Function.update table write.1 write.2 key = value
    by_cases hkey : write.1 = key
    · rw [hwrite hkey, hkey, Function.update_self]
    · rw [Function.update_of_ne (Ne.symm hkey)]
      exact hstart (List.forall_mem_cons.mpr ⟨hkey, hunwritten⟩)

end Tables

/-! ## Maps of maps -/

section Nested

variable {Key Inner Value : Type} [DecidableEq Key] [DecidableEq Inner]

/-- `map[outer][inner]`; a missing inner map reads as an empty one. -/
def lookupIn (map : GoMap Key (GoMap Inner Value)) (outer : Key) (inner : Inner) : Option Value :=
  (map.lookup outer).bind (·.lookup inner)

/-- `map[outer][inner] = value`, with the inner map made first if it is missing. -/
def insertIn (map : GoMap Key (GoMap Inner Value)) (outer : Key) (inner : Inner) (value : Value) :
    GoMap Key (GoMap Inner Value) :=
  map.insert outer (((map.lookup outer).getD ∅).insert inner value)

def eraseIn (map : GoMap Key (GoMap Inner Value)) (outer : Key) (inner : Inner) :
    GoMap Key (GoMap Inner Value) :=
  match map.lookup outer with
  | none => map
  | some entries => map.insert outer (entries.erase inner)

def dropEmpty (map : GoMap Key (GoMap Inner Value)) (outer : Key) : GoMap Key (GoMap Inner Value) :=
  if ((map.lookup outer).getD ∅).keys = [] then map.erase outer else map

variable {map : GoMap Key (GoMap Inner Value)} {outer outer' : Key} {inner inner' : Inner}

theorem lookup_inner : ((map.lookup outer).getD ∅).lookup inner = lookupIn map outer inner := by
  unfold lookupIn
  cases map.lookup outer <;> simp

theorem lookupIn_insertIn (value : Value) :
    lookupIn (insertIn map outer inner value) outer' inner' =
      if outer' = outer ∧ inner' = inner then some value else lookupIn map outer' inner' := by
  unfold lookupIn insertIn
  by_cases houter : outer' = outer
  · subst houter
    rw [AList.lookup_insert, Option.bind_some]
    by_cases hinner : inner' = inner
    · subst hinner
      simp
    · rw [AList.lookup_insert_ne hinner]
      cases hentries : map.lookup outer' <;> simp [hinner]
  · simp [houter, AList.lookup_insert_ne houter]

theorem lookupIn_eraseIn :
    lookupIn (eraseIn map outer inner) outer' inner' =
      if outer' = outer ∧ inner' = inner then none else lookupIn map outer' inner' := by
  unfold lookupIn eraseIn
  by_cases houter : outer' = outer
  · subst houter
    cases hentries : map.lookup outer' with
    | none => simp [hentries]
    | some entries =>
      by_cases hinner : inner' = inner
      · subst hinner
        simp
      · simp [hinner, AList.lookup_erase_ne]
  · cases hentries : map.lookup outer with
    | none => simp [houter]
    | some entries => simp [houter, AList.lookup_insert_ne houter]

theorem lookupIn_erase :
    lookupIn (map.erase outer) outer' inner' =
      if outer' = outer then none else lookupIn map outer' inner' := by
  unfold lookupIn
  by_cases houter : outer' = outer
  · subst houter
    simp
  · simp [houter, AList.lookup_erase_ne houter]

@[simp] theorem lookupIn_dropEmpty :
    lookupIn (dropEmpty map outer) outer' inner' = lookupIn map outer' inner' := by
  unfold dropEmpty
  split
  next hempty =>
    rw [lookupIn_erase]
    split
    next houter =>
      subst houter
      unfold lookupIn
      cases hentries : map.lookup outer' with
      | none => rfl
      | some entries =>
        rw [hentries] at hempty
        have hkey : inner' ∉ entries.keys := by
          rw [show entries.keys = [] from hempty]
          exact List.not_mem_nil
        exact (AList.lookup_eq_none.mpr hkey).symm
    next => rfl
  next => rfl

end Nested

end ApiPlatform.Foundation
