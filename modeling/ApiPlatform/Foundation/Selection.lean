import Mathlib

/-!
# Sorting and selecting

Picking the first accepted element of a list that is sorted by a relation: no
other accepted element comes strictly before it in the relation.  An exchange
sort, written as nested loops that swap in place, permutes its input.
-/

namespace ApiPlatform.Foundation

variable {α : Type} {r : α → α → Prop} {accepts : α → Bool}

theorem rel_of_find?_of_pairwise {list : List α} {picked other : α}
    (hrefl : ∀ a, r a a) (hsorted : list.Pairwise r)
    (hpicked : list.find? accepts = some picked) (hmem : other ∈ list)
    (haccepts : accepts other = true) : r picked other := by
  obtain ⟨-, before, after, rfl, hbefore⟩ := List.find?_eq_some_iff_append.mp hpicked
  rcases List.mem_append.mp hmem with hmem | hmem
  · have hrejects := hbefore other hmem
    rw [haccepts] at hrejects
    contradiction
  · rcases List.mem_cons.mp hmem with rfl | hmem
    · exact hrefl other
    · have htail := (List.pairwise_append.mp hsorted).2.1
      exact (List.pairwise_cons.mp htail).1 other hmem

theorem find?_eq_some_iff_of_unique {list : List α} {picked : α}
    (hunique : ∀ item ∈ list, ∀ other ∈ list, accepts item = true → accepts other = true →
      item = other) :
    list.find? accepts = some picked ↔ picked ∈ list ∧ accepts picked = true := by
  refine ⟨fun hfind => ⟨List.mem_of_find?_eq_some hfind, List.find?_some hfind⟩, ?_⟩
  rintro ⟨hmem, haccepts⟩
  obtain ⟨found, hfound⟩ :=
    Option.isSome_iff_exists.mp (List.find?_isSome.mpr ⟨picked, hmem, haccepts⟩)
  rw [hfound, hunique found (List.mem_of_find?_eq_some hfound) picked hmem (List.find?_some hfound)
    haccepts]

theorem perm_of_perm_map {β : Type} {convert : α → β} {left : List α} :
    ∀ {right : List α},
      (∀ item ∈ left, ∀ other ∈ right, convert item = convert other → item = other) →
      (left.map convert).Perm (right.map convert) → left.Perm right := by
  induction left with
  | nil =>
    intro right _ hperm
    rw [List.map_eq_nil_iff.mp hperm.symm.eq_nil]
  | cons item rest ih =>
    intro right hinj hperm
    have hmem : convert item ∈ right.map convert := hperm.mem_iff.mp List.mem_cons_self
    obtain ⟨other, hother, heq⟩ := List.mem_map.mp hmem
    obtain rfl := hinj item List.mem_cons_self other hother heq.symm
    obtain ⟨before, after, rfl⟩ := List.append_of_mem hother
    have hmiddle : (before ++ item :: after).Perm (item :: (before ++ after)) :=
      List.perm_middle
    have hrest : (rest.map convert).Perm ((before ++ after).map convert) :=
      (hperm.trans (hmiddle.map convert)).cons_inv
    refine ((ih (fun left hleft right hright => ?_) hrest).cons item).trans hmiddle.symm
    exact hinj left (List.mem_cons_of_mem _ hleft) right
      (hmiddle.symm.subset (List.mem_cons_of_mem _ hright))

theorem map_argmax_eq {key : α → Nat} {list : List α} {top : α} (hmem : top ∈ list)
    (hgreatest : ∀ item ∈ list, key item ≤ key top) :
    (list.argmax key).map key = some (key top) := by
  cases hargmax : list.argmax key with
  | none =>
    rw [List.argmax_eq_none.mp hargmax] at hmem
    cases hmem
  | some found =>
    have hle := List.le_of_mem_argmax hmem hargmax
    have hge := hgreatest found (List.argmax_mem hargmax)
    rw [Option.map_some, Nat.le_antisymm hge hle]

theorem not_mem_take_mergeSort {key : α → Nat} {list : List α} {top : α} {count : Nat}
    (hnodup : list.Nodup) (hgreatest : ∀ item ∈ list, item ≠ top → key item < key top)
    (hlonger : count < list.length) :
    top ∉ (list.mergeSort fun first second => decide (key first ≤ key second)).take count := by
  intro htop
  have hsorted : (list.mergeSort fun first second => decide (key first ≤ key second)).Pairwise
      fun first second => decide (key first ≤ key second) = true := by
    apply List.pairwise_mergeSort
    · intro first second third hfirst hsecond
      simp only [decide_eq_true_eq] at *
      omega
    · intro first second
      simp only [Bool.or_eq_true, decide_eq_true_eq]
      omega
  have hperm := List.mergeSort_perm list fun first second => decide (key first ≤ key second)
  have hunique := hperm.nodup_iff.mpr hnodup
  generalize list.mergeSort _ = sorted at *
  obtain ⟨last, hlast⟩ : ∃ last, last ∈ sorted.drop count := by
    refine List.exists_mem_of_ne_nil _ fun hnil => ?_
    rw [List.drop_eq_nil_iff, hperm.length_eq] at hnil
    omega
  rw [← List.take_append_drop count sorted] at hsorted hunique
  have hle := of_decide_eq_true ((List.pairwise_append.mp hsorted).2.2 top htop last hlast)
  obtain rfl : last = top := by
    by_contra hne
    have hlt := hgreatest last (hperm.mem_iff.mp (List.mem_of_mem_drop hlast)) hne
    omega
  exact List.disjoint_of_nodup_append hunique htop hlast

/-! ## The first item of each key -/

section Firsts

variable {Key : Type} [DecidableEq Key] (key : α → Key)

def addFirst (items : List α) (item : α) : List α :=
  if items.any (key · = key item) then items else items ++ [item]

def firsts (items : List α) : List α :=
  items.foldl (addFirst key) []

variable {key}

theorem firsts_append_singleton (items : List α) (item : α) :
    firsts key (items ++ [item]) = addFirst key (firsts key items) item := by
  rw [firsts, List.foldl_append]
  rfl

theorem any_firsts (items : List α) (wanted : Key) :
    (firsts key items).any (key · = wanted) = items.any (key · = wanted) := by
  induction items using List.reverseRecOn with
  | nil => rfl
  | append_singleton items item ih =>
    rw [firsts_append_singleton, addFirst, List.any_append, ← ih]
    by_cases hitem : key item = wanted
    · subst hitem
      cases hany : (firsts key items).any (key · = key item) <;> simp [hany]
    · split <;> simp [hitem]

theorem mem_of_mem_firsts {items : List α} {item : α} (hmem : item ∈ firsts key items) :
    item ∈ items := by
  induction items using List.reverseRecOn with
  | nil => cases hmem
  | append_singleton items last ih =>
    rw [firsts_append_singleton, addFirst] at hmem
    split at hmem
    · exact List.mem_append_left _ (ih hmem)
    · exact List.mem_append.mpr ((List.mem_append.mp hmem).imp_left ih)

theorem count_firsts [DecidableEq α] (items : List α) (item : α) :
    (firsts key items).count item =
      if items.find? (key · = key item) = some item then 1 else 0 := by
  induction items using List.reverseRecOn with
  | nil => rfl
  | append_singleton items last ih =>
    rw [firsts_append_singleton, addFirst, List.find?_append]
    by_cases hkey : key last = key item
    · rw [any_firsts, hkey]
      cases hfound : items.find? (key · = key item) with
      | none =>
        have hany : items.any (key · = key item) = false := by
          simpa [List.find?_eq_none] using hfound
        rw [hany, if_neg Bool.false_ne_true, List.count_append, ih, hfound]
        by_cases hlast : last = item <;> simp [hkey, hlast]
      | some found =>
        have hany : items.any (key · = key item) = true :=
          List.any_eq_true.mpr ⟨found, List.mem_of_find?_eq_some hfound,
            by simpa using List.find?_some hfound⟩
        rw [hany, if_pos rfl, ih, hfound, Option.some_or]
    · have hne : last ≠ item := fun hsame => hkey (congrArg key hsame)
      have hlast : [last].find? (key · = key item) = none := by simp [hkey]
      rw [hlast, Option.or_none]
      split
      · exact ih
      · rw [List.count_append, ih, List.count_singleton]
        simp [hne]

theorem indicator_eq_add_iff [DecidableEq α] {whole first second : Option α} :
    (∀ item, (if whole = some item then 1 else 0) =
      (if first = some item then 1 else 0) + (if second = some item then 1 else 0)) ↔
      first = none ∧ whole = second ∨ second = none ∧ whole = first := by
  constructor
  · intro hcount
    cases first with
    | none => exact .inl ⟨rfl, Option.ext fun item => by have := hcount item; grind⟩
    | some one =>
      cases second with
      | none => exact .inr ⟨rfl, Option.ext fun item => by have := hcount item; grind⟩
      | some other =>
        have hone := hcount one
        grind
  · rintro (⟨rfl, rfl⟩ | ⟨rfl, rfl⟩) item
    · simp
    · simp

end Firsts

theorem append_perm_append_iff {sort : α → Bool} {first second first' second' : List α}
    (hfirst : ∀ item ∈ first, sort item = true) (hsecond : ∀ item ∈ second, sort item = false)
    (hfirst' : ∀ item ∈ first', sort item = true) (hsecond' : ∀ item ∈ second', sort item = false) :
    (first ++ second).Perm (first' ++ second') ↔ first.Perm first' ∧ second.Perm second' := by
  have hsorted : ∀ {one two : List α}, (∀ item ∈ one, sort item = true) →
      (∀ item ∈ two, sort item = false) →
      (one ++ two).filter sort = one ∧ (one ++ two).filter (!sort ·) = two := by
    intro one two hone htwo
    rw [List.filter_append, List.filter_append, List.filter_eq_self.mpr hone,
      List.filter_eq_nil_iff.mpr (by simpa using htwo),
      List.filter_eq_nil_iff.mpr (by simpa using hone),
      List.filter_eq_self.mpr (by simpa using htwo)]
    simp
  constructor
  · intro hperm
    have hones := hperm.filter sort
    have htwos := hperm.filter (!sort ·)
    rw [(hsorted hfirst hsecond).1, (hsorted hfirst' hsecond').1] at hones
    rw [(hsorted hfirst hsecond).2, (hsorted hfirst' hsecond').2] at htwos
    exact ⟨hones, htwos⟩
  · exact fun ⟨hones, htwos⟩ => hones.append htwos

/-! ## Selecting with a partial function -/

section FilterMap

variable {β : Type} {choose other : α → Option β}

theorem length_filterMap_le {list : List α}
    (hsome : ∀ item ∈ list, (other item).isSome → (choose item).isSome) :
    (list.filterMap other).length ≤ (list.filterMap choose).length := by
  induction list with
  | nil => simp
  | cons item rest ih =>
    obtain ⟨hitem, hrest⟩ := List.forall_mem_cons.mp hsome
    have hlength := ih hrest
    cases hother : other item with
    | none =>
      rw [List.filterMap_cons_none hother]
      cases hchoose : choose item with
      | none => rwa [List.filterMap_cons_none hchoose]
      | some value =>
        rw [List.filterMap_cons_some hchoose, List.length_cons]
        omega
    | some value =>
      obtain ⟨chosen, hchoose⟩ := Option.isSome_iff_exists.mp (hitem (by simp [hother]))
      rw [List.filterMap_cons_some hother, List.filterMap_cons_some hchoose,
        List.length_cons, List.length_cons]
      omega

/-- Two selections from a list, one of which never drops what the other keeps, agree as lists
if and only if they agree on every item. -/
theorem filterMap_eq_filterMap_iff {list : List α}
    (hsome : ∀ item ∈ list, (other item).isSome → (choose item).isSome) :
    list.filterMap choose = list.filterMap other ↔ ∀ item ∈ list, choose item = other item := by
  refine ⟨?_, List.filterMap_congr⟩
  induction list with
  | nil => simp
  | cons item rest ih =>
    obtain ⟨hitem, hrest⟩ := List.forall_mem_cons.mp hsome
    intro heq
    refine List.forall_mem_cons.mpr ?_
    cases hother : other item with
    | none =>
      cases hchoose : choose item with
      | none =>
        rw [List.filterMap_cons_none hchoose, List.filterMap_cons_none hother] at heq
        exact ⟨rfl, ih hrest heq⟩
      | some value =>
        -- the other selection would be too long
        have hlength := length_filterMap_le hrest
        rw [List.filterMap_cons_some hchoose, List.filterMap_cons_none hother] at heq
        rw [← heq, List.length_cons] at hlength
        omega
    | some value =>
      obtain ⟨chosen, hchoose⟩ := Option.isSome_iff_exists.mp (hitem (by simp [hother]))
      rw [List.filterMap_cons_some hchoose, List.filterMap_cons_some hother] at heq
      obtain ⟨hhead, htail⟩ := List.cons.inj heq
      exact ⟨by rw [hchoose, hhead], ih hrest htail⟩

end FilterMap

/-! ## Exchange sort -/

/-- The inner loop: the element that ends up first, and the others. -/
def exchangePass (shouldSwap : α → α → Bool) (current : α) : List α → α × List α
  | [] => (current, [])
  | next :: rest =>
    if shouldSwap current next then
      let result := exchangePass shouldSwap next rest
      (result.1, current :: result.2)
    else
      let result := exchangePass shouldSwap current rest
      (result.1, next :: result.2)

def exchangeSort (shouldSwap : α → α → Bool) : Nat → List α → List α
  | 0, list => list
  | _ + 1, [] => []
  | length + 1, first :: rest =>
    let result := exchangePass shouldSwap first rest
    result.1 :: exchangeSort shouldSwap length result.2

theorem exchangePass_perm (shouldSwap : α → α → Bool) (rest : List α) : ∀ current : α,
    ((exchangePass shouldSwap current rest).1 ::
      (exchangePass shouldSwap current rest).2).Perm (current :: rest) := by
  induction rest with
  | nil =>
    intro current
    exact List.Perm.refl _
  | cons next rest ih =>
    intro current
    unfold exchangePass
    split
    · exact (List.Perm.swap _ _ _).trans ((ih next).cons current)
    · exact ((List.Perm.swap _ _ _).trans ((ih current).cons next)).trans
        (List.Perm.swap _ _ _)

theorem exchangeSort_perm (shouldSwap : α → α → Bool) (length : Nat) : ∀ list : List α,
    (exchangeSort shouldSwap length list).Perm list := by
  induction length with
  | zero =>
    intro list
    exact List.Perm.refl list
  | succ length ih =>
    intro list
    cases list with
    | nil => exact List.Perm.refl _
    | cons first rest =>
      exact ((ih _).cons _).trans (exchangePass_perm shouldSwap rest first)

/-! ## Groups -/

section Groups

variable {Item Label : Type} [DecidableEq Label]

/-- The items group by group, in the order of the labels; items of other labels are left out. -/
def grouped (labels : List Label) (label : Item → Label) (items : List Item) : List Item :=
  labels.flatMap fun wanted => items.filter fun item => label item == wanted

theorem mem_grouped {labels : List Label} {label : Item → Label} {items : List Item} {item : Item} :
    item ∈ grouped labels label items ↔ item ∈ items ∧ label item ∈ labels := by
  simp only [grouped, List.mem_flatMap, List.mem_filter, beq_iff_eq]
  constructor
  · rintro ⟨wanted, hwanted, hitem, rfl⟩
    exact ⟨hitem, hwanted⟩
  · rintro ⟨hitem, hlabel⟩
    exact ⟨label item, hlabel, hitem, rfl⟩

theorem grouped_range {label : Item → Nat} {count : Nat} : ∀ {items : List Item},
    items.Pairwise (label · ≤ label ·) → (∀ item ∈ items, label item < count) →
      grouped (List.range count) label items = items := by
  induction count with
  | zero =>
    intro items _ hlabels
    rw [List.eq_nil_iff_forall_not_mem.mpr fun item hmem => Nat.not_lt_zero _ (hlabels item hmem)]
    rfl
  | succ count ih =>
    intro items hsorted hlabels
    have hearly : grouped (List.range count) label items = items.filter (label · < count) := by
      rw [← ih (hsorted.filter _) fun item hmem => by simpa using (List.mem_filter.mp hmem).2]
      refine List.flatMap_congr fun wanted hwanted => ?_
      rw [List.filter_filter]
      grind
    have hsplit : ∀ list : List Item, list.Pairwise (label · ≤ label ·) →
        (∀ item ∈ list, label item < count + 1) →
        list.filter (label · < count) ++ list.filter (label · == count) = list := by
      intro list
      induction list with
      | nil => exact fun _ _ => rfl
      | cons first rest ihlist =>
        intro hpairs hbound
        obtain ⟨hfirst, hpairs⟩ := List.pairwise_cons.mp hpairs
        have hrest := ihlist hpairs fun item hmem => hbound item (List.mem_cons_of_mem _ hmem)
        by_cases hlt : label first < count
        · simpa [hlt, hlt.ne] using hrest
        · have heq : label first = count :=
            le_antisymm (Nat.le_of_lt_succ (hbound first List.mem_cons_self)) (not_lt.mp hlt)
          have hnone : rest.filter (label · < count) = [] := by
            refine List.filter_eq_nil_iff.mpr fun item hmem => ?_
            simpa [heq] using hfirst item hmem
          rw [hnone, List.nil_append] at hrest
          simp [heq, hnone, hrest]
    rw [grouped, List.range_succ, List.flatMap_append, List.flatMap_singleton]
    exact (congrArg (· ++ _) hearly).trans (hsplit items hsorted hlabels)

theorem nodup_grouped {labels : List Label} (hlabels : labels.Nodup) {label : Item → Label}
    {items : List Item} (hitems : items.Nodup) : (grouped labels label items).Nodup := by
  refine List.nodup_flatMap.mpr ⟨fun wanted _ => hitems.filter _, ?_⟩
  refine hlabels.imp fun {first second} hne => ?_
  intro item hfirst hsecond
  simp only [List.mem_filter, beq_iff_eq] at hfirst hsecond
  exact hne (hfirst.2.symm.trans hsecond.2)

theorem nodup_map_grouped {Key : Type} {labels : List Label} (hlabels : labels.Nodup)
    {label : Item → Label} {items : List Item} {key : Item → Key} (hkeys : (items.map key).Nodup) :
    ((grouped labels label items).map key).Nodup := by
  refine List.Nodup.map_on ?_ (nodup_grouped hlabels hkeys.of_map)
  intro left hleft right hright heq
  exact List.inj_on_of_nodup_map hkeys (mem_grouped.mp hleft).1 (mem_grouped.mp hright).1 heq

end Groups

/-! ## Batches -/

/-- The list cut into pieces of the given size; `fuel` bounds their number. -/
def batches {Item : Type} (size : Nat) : Nat → List Item → List (List Item)
  | 0, _ => []
  | fuel + 1, items =>
    if items.isEmpty then [] else items.take size :: batches size fuel (items.drop size)

theorem flatten_batches {Item : Type} {size : Nat} (hsize : 0 < size) {fuel : Nat} :
    ∀ {items : List Item}, items.length ≤ fuel → (batches size fuel items).flatten = items := by
  induction fuel with
  | zero =>
    intro items hlength
    rw [List.length_eq_zero_iff.mp (Nat.le_zero.mp hlength)]
    rfl
  | succ fuel ih =>
    intro items hlength
    cases items with
    | nil => rfl
    | cons item rest =>
      have hrest : ((item :: rest).drop size).length ≤ fuel := by
        rw [List.length_drop]
        omega
      simp only [batches, List.isEmpty_cons, Bool.false_eq_true, if_false, List.flatten_cons]
      rw [ih hrest, List.take_append_drop]

/-! ## Taking one item out -/

theorem label_ne_of_mem_eraseIdx {Item Label : Type} {label : Item → Label} {item : Item} :
    ∀ {items : List Item} {index : Nat},
      items.Pairwise (fun first second => label first ≠ label second) →
      items[index]? = some item → ∀ other ∈ items.eraseIdx index, label other ≠ label item := by
  intro items
  induction items with
  | nil => simp
  | cons first rest ih =>
    intro index hdistinct hitem other hother
    obtain ⟨hfirst, hrest⟩ := List.pairwise_cons.mp hdistinct
    cases index with
    | zero =>
      obtain rfl : first = item := by simpa using hitem
      exact (hfirst other hother).symm
    | succ index =>
      rcases List.mem_cons.mp hother with rfl | hother
      · exact hfirst item (List.mem_of_getElem? hitem)
      · exact ih hrest hitem other hother

theorem mem_dropLast_set {Item : Type} {items : List Item} {index : Nat} {item removed last : Item}
    (hlast : items.getLast? = some last) (hremoved : items[index]? = some removed)
    (hmem : item ∈ items) (hne : item ≠ removed) : item ∈ (items.set index last).dropLast := by
  obtain ⟨init, rfl⟩ := List.getLast?_eq_some_iff.mp hlast
  rcases Nat.lt_or_ge index init.length with hlt | hge
  · rw [List.set_append_left _ _ hlt, List.dropLast_concat]
    rcases List.mem_append.mp hmem with hinit | hitem
    · obtain ⟨position, hposition⟩ := List.mem_iff_getElem?.mp hinit
      have hother : index ≠ position := by
        rintro rfl
        rw [List.getElem?_append_left hlt, hposition] at hremoved
        exact hne (Option.some.inj hremoved)
      exact List.mem_iff_getElem?.mpr ⟨position, by rw [List.getElem?_set_ne hother, hposition]⟩
    · obtain rfl := List.mem_singleton.mp hitem
      exact List.mem_set hlt _
  · have hsame : removed = last := by
      rw [List.getElem?_append_right hge] at hremoved
      exact List.mem_singleton.mp (List.mem_of_getElem? hremoved)
    rw [List.set_append_right _ _ hge, List.dropLast_append_of_ne_nil (by simp)]
    refine List.mem_append_left _ ((List.mem_append.mp hmem).resolve_right fun hitem => hne ?_)
    exact (List.mem_singleton.mp hitem).trans hsame.symm

theorem length_le_one_iff_of_mem {Item : Type} {items : List Item} {item : Item}
    (hnodup : items.Nodup) (hmem : item ∈ items) :
    items.length ≤ 1 ↔ ∀ other ∈ items, other = item := by
  constructor
  · intro hle other hother
    have hone : items.length = 1 := le_antisymm hle (List.length_pos_of_mem hmem)
    obtain ⟨only, rfl⟩ := List.length_eq_one_iff.mp hone
    rw [List.mem_singleton] at hmem hother
    rw [hmem, hother]
  · intro hall
    match items, hnodup, hall with
    | [], _, _ => exact Nat.zero_le _
    | [_], _, _ => exact le_rfl
    | first :: second :: rest, hnodup, hall =>
      have hsame : first = second := (hall first (by simp)).trans (hall second (by simp)).symm
      exact absurd (hsame ▸ List.mem_cons_self) (List.nodup_cons.mp hnodup).1

theorem exists_of_mem_forall₂ {Item Result : Type} {related : Item → Result → Prop}
    {items : List Item} {results : List Result} (hpairs : List.Forall₂ related items results)
    {result : Result} (hmem : result ∈ results) : ∃ item ∈ items, related item result := by
  induction hpairs with
  | nil => cases hmem
  | @cons item first items results hrelated _ ih =>
    rcases List.mem_cons.mp hmem with rfl | hmem
    · exact ⟨item, List.mem_cons_self, hrelated⟩
    · obtain ⟨origin, horigin, hrelated⟩ := ih hmem
      exact ⟨origin, List.mem_cons_of_mem _ horigin, hrelated⟩

end ApiPlatform.Foundation
