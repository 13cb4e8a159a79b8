import ApiPlatform.Foundation.GoMaps

/-!
# Unique indexes

An index of a table has, under the key of each row, the identifier of the row, and
nothing else.  Two rows of an indexed table never have the same key.
-/

namespace ApiPlatform.Foundation

variable {Id Key Row : Type} [DecidableEq Id] [DecidableEq Key]

structure Indexes (rows : GoMap Id Row) (index : GoMap Key Id) (keyOf : Row → Key) : Prop where
  found : ∀ id row, rows.lookup id = some row → index.lookup (keyOf row) = some id
  current : ∀ key id, index.lookup key = some id →
    ∃ row, rows.lookup id = some row ∧ keyOf row = key

namespace Indexes

variable {rows : GoMap Id Row} {index : GoMap Key Id} {keyOf : Row → Key} {id : Id} {row new : Row}

theorem empty : Indexes (∅ : GoMap Id Row) (∅ : GoMap Key Id) keyOf where
  found := by simp
  current := by simp

section

variable (hindexes : Indexes rows index keyOf)
include hindexes

theorem id_unique {id' : Id} {row' : Row}
    (hrow : rows.lookup id = some row) (hrow' : rows.lookup id' = some row')
    (hkey : keyOf row = keyOf row') : id = id' := by
  have hfound := hindexes.found id row hrow
  rw [hkey, hindexes.found id' row' hrow'] at hfound
  exact (Option.some.inj hfound).symm

theorem insert (hnew : rows.lookup id = none)
    (hfree : index.lookup (keyOf row) = none) :
    Indexes (rows.insert id row) (index.insert (keyOf row) id) keyOf where
  found := by
    intro other stored hstored
    rcases lookup_insert_eq_some_iff.mp hstored with ⟨rfl, rfl⟩ | ⟨-, hother⟩
    · exact AList.lookup_insert _
    · have hfound := hindexes.found other stored hother
      rw [AList.lookup_insert_ne (ne_of_lookup hfound hfree), hfound]
  current := by
    intro key other hentry
    rcases lookup_insert_eq_some_iff.mp hentry with ⟨rfl, rfl⟩ | ⟨-, hother⟩
    · exact ⟨row, AList.lookup_insert _, rfl⟩
    · obtain ⟨stored, hstored, hcurrent⟩ := hindexes.current key other hother
      exact ⟨stored, by rw [AList.lookup_insert_ne (ne_of_lookup hstored hnew), hstored], hcurrent⟩

theorem not_insert (hold : rows.lookup id = some row)
    (hfree : index.lookup (keyOf new) = none) :
    ¬ Indexes (rows.insert id new) (index.insert (keyOf new) id) keyOf := by
  intro hafter
  have hfound := hindexes.found id row hold
  have hkeys : keyOf row ≠ keyOf new := ne_of_lookup hfound hfree
  rw [← AList.lookup_insert_ne hkeys] at hfound
  obtain ⟨stored, hstored, hcurrent⟩ := hafter.current _ _ hfound
  rw [AList.lookup_insert] at hstored
  cases hstored
  exact hkeys hcurrent.symm

theorem replace (hold : rows.lookup id = some row)
    (hkey : keyOf row = keyOf new) : Indexes (rows.insert id new) index keyOf where
  found := by
    intro other stored hstored
    rcases lookup_insert_eq_some_iff.mp hstored with ⟨rfl, rfl⟩ | ⟨-, hother⟩
    · rw [← hkey]
      exact hindexes.found other row hold
    · exact hindexes.found other stored hother
  current := by
    intro key other hentry
    obtain ⟨stored, hstored, hcurrent⟩ := hindexes.current key other hentry
    by_cases hother : other = id
    · subst hother
      rw [hold] at hstored
      cases hstored
      exact ⟨new, AList.lookup_insert _, hkey ▸ hcurrent⟩
    · exact ⟨stored, by rw [AList.lookup_insert_ne hother, hstored], hcurrent⟩

theorem erase (hold : rows.lookup id = some row) :
    Indexes (rows.erase id) (index.erase (keyOf row)) keyOf where
  found := by
    intro other stored hstored
    obtain ⟨hother, hkept⟩ := lookup_erase_eq_some_iff.mp hstored
    rw [AList.lookup_erase_ne, hindexes.found other stored hkept]
    exact fun hkey => hother (hindexes.id_unique hkept hold hkey)
  current := by
    intro key other hentry
    obtain ⟨hkey, hkept⟩ := lookup_erase_eq_some_iff.mp hentry
    obtain ⟨stored, hstored, hcurrent⟩ := hindexes.current key other hkept
    refine ⟨stored, ?_, hcurrent⟩
    rw [AList.lookup_erase_ne, hstored]
    rintro rfl
    rw [hold] at hstored
    cases hstored
    exact hkey hcurrent.symm

theorem congr_index {index' : GoMap Key Id}
    (hsame : ∀ key, index'.lookup key = index.lookup key) : Indexes rows index' keyOf where
  found := fun id row hrow => (hsame _).trans (hindexes.found id row hrow)
  current := fun key id hentry => hindexes.current key id ((hsame key).symm.trans hentry)

theorem lookup_eq_none (hold : rows.lookup id = some row)
    (hkeys : keyOf row ≠ keyOf new) (hallowed : index.lookup (keyOf new) ∈ [none, some id]) :
    index.lookup (keyOf new) = none := by
  rcases List.mem_cons.mp hallowed with hnone | hown
  · exact hnone
  · obtain ⟨stored, hstored, hkey⟩ := hindexes.current _ _ (List.mem_singleton.mp hown)
    rw [hold] at hstored
    cases hstored
    exact absurd hkey hkeys

theorem move (hold : rows.lookup id = some row)
    (hkeys : keyOf row ≠ keyOf new) (hfree : index.lookup (keyOf new) = none) :
    Indexes (rows.insert id new) ((index.erase (keyOf row)).insert (keyOf new) id) keyOf := by
  have hafter := (hindexes.erase hold).insert (AList.lookup_erase _ _)
    ((AList.lookup_erase_ne hkeys.symm).trans hfree)
  have hrows : (rows.erase id).insert id new = rows.insert id new := by
    apply AList.ext
    have habsent := List.notMem_keys_kerase id rows.nodupKeys
    simp only [AList.entries_insert, AList.erase, List.kerase_of_notMem_keys habsent]
  rwa [hrows] at hafter

end

theorem not_move (hold : rows.lookup id = some row) (hkeys : keyOf row ≠ keyOf new) :
    ¬ Indexes rows ((index.erase (keyOf row)).insert (keyOf new) id) keyOf := by
  intro hafter
  have hfound := hafter.found id row hold
  rw [AList.lookup_insert_ne hkeys, AList.lookup_erase] at hfound
  cases hfound

end Indexes

end ApiPlatform.Foundation
