import ApiPlatform.Operator.Attachment

/-!
# Hostnames

A hostname is a name, a wildcard above a name or nothing.  It matches hosts,
and two hostnames have a meet that matches what both match.  The string
functions of the operator are read on the texts of hostnames.
-/

namespace ApiPlatform.Operator

open Foundation

variable {char : Char}

/-! ## Names -/

def isLabelChar (char : Char) : Bool :=
  char.isLower || char.isDigit || char = '-'

def IsLabel (label : List Char) : Prop :=
  label ≠ [] ∧ label.head? ≠ some '-' ∧ label.getLast? ≠ some '-'

instance (label : List Char) : Decidable (IsLabel label) :=
  inferInstanceAs (Decidable (_ ∧ _ ∧ _))

structure Name where
  chars : List Char
  chars_valid : ∀ char ∈ chars, char = '.' ∨ isLabelChar char = true
  labels_valid : ∀ label ∈ chars.splitOn '.', IsLabel label
  deriving DecidableEq

variable {left right : Name}

@[ext] theorem Name.ext (hchars : left.chars = right.chars) : left = right := by
  cases left
  cases hchars
  rfl

theorem splitOn_append_cons (mark : Char) (left right : List Char) :
    (left ++ mark :: right).splitOn mark = left.splitOn mark ++ right.splitOn mark :=
  List.splitOnP_append_cons left right (by simp)

namespace Name

variable (name : Name)

theorem ne_nil : name.chars ≠ [] := by
  intro hnil
  refine (name.labels_valid [] ?_).1 rfl
  simp [hnil]

theorem not_mem (hdot : char ≠ '.') (hchar : isLabelChar char = false) : char ∉ name.chars := by
  intro hmem
  rcases name.chars_valid char hmem with heq | hvalid
  · exact hdot heq
  · rw [hchar] at hvalid
    cases hvalid

theorem before_dot_ne_nil {before after : List Char} (hname : name.chars = before ++ '.' :: after) :
    before ≠ [] := by
  rintro rfl
  refine (name.labels_valid [] ?_).1 rfl
  rw [hname, splitOn_append_cons]
  simp

/-- The name is below the other one: it has labels in front of it. -/
def IsUnder (parent : Name) : Prop :=
  '.' :: parent.chars <:+ name.chars

instance (parent : Name) : Decidable (name.IsUnder parent) :=
  inferInstanceAs (Decidable ('.' :: parent.chars <:+ name.chars))

def ofLabel (label : List Char) (hchars : label.all isLabelChar = true) (hlabel : IsLabel label) :
    Name where
  chars := label
  chars_valid := fun char hmem => .inr (List.all_eq_true.mp hchars char hmem)
  labels_valid := by
    have hdot : '.' ∉ label := fun hmem => absurd (List.all_eq_true.mp hchars '.' hmem) (by decide)
    rw [List.splitOn_eq_singleton hdot]
    exact List.forall_mem_singleton.mpr hlabel

def below (label : List Char) (hchars : label.all isLabelChar = true) (hlabel : IsLabel label) :
    Name where
  chars := label ++ '.' :: name.chars
  chars_valid := by
    intro char hmem
    rcases List.mem_append.mp hmem with hfirst | hrest
    · exact .inr (List.all_eq_true.mp hchars char hfirst)
    rcases List.mem_cons.mp hrest with hdot | hrest
    · exact .inl hdot
    · exact name.chars_valid char hrest
  labels_valid := by
    intro label' hmem
    rw [splitOn_append_cons] at hmem
    rcases List.mem_append.mp hmem with hfirst | hrest
    · exact (ofLabel label hchars hlabel).labels_valid label' hfirst
    · exact name.labels_valid label' hrest

def child : Name :=
  name.below ['a'] (by decide) (by decide)

def single (length : Nat) : Name :=
  ofLabel (List.replicate (length + 1) 'a')
    (List.all_eq_true.mpr fun char hmem => by
      obtain rfl := List.eq_of_mem_replicate hmem
      decide)
    (by
      refine ⟨by simp, fun hfirst => ?_, fun hlast => ?_⟩
      · exact absurd (List.eq_of_mem_replicate (List.mem_of_mem_head? hfirst)) (by decide)
      · exact absurd (List.eq_of_mem_replicate (List.mem_of_getLast? hlast)) (by decide))

theorem chars_single (length : Nat) : (single length).chars = List.replicate (length + 1) 'a' :=
  rfl

end Name

/-! ## Hostnames and what they match -/

inductive Hostname where
  | any
  | wildcard (parent : Name)
  | exact (name : Name)
  deriving DecidableEq

namespace Hostname

def text : Hostname → String
  | any => ""
  | wildcard parent => String.ofList ('*' :: '.' :: parent.chars)
  | exact name => String.ofList name.chars

/-- A wildcard matches the hosts with one or more labels in front of its parent. -/
def Matches : Hostname → Name → Prop
  | any, _ => True
  | wildcard parent, host => ∃ labels, labels ≠ [] ∧ host.chars = labels ++ '.' :: parent.chars
  | exact name, host => host = name

variable {parent host : Name}

theorem matches_wildcard :
    (wildcard parent).Matches host ↔ host.IsUnder parent := by
  constructor
  · rintro ⟨labels, -, hhost⟩
    exact ⟨labels, hhost.symm⟩
  · rintro ⟨labels, hhost⟩
    exact ⟨labels, host.before_dot_ne_nil hhost.symm, hhost.symm⟩

theorem exists_matches (hostname : Hostname) : ∃ host, hostname.Matches host := by
  cases hostname with
  | any => exact ⟨Name.single 0, trivial⟩
  | wildcard parent => exact ⟨parent.child, matches_wildcard.mpr (List.suffix_append _ _)⟩
  | exact name => exact ⟨name, rfl⟩

def meet : Hostname → Hostname → Option Hostname
  | any, other => some other
  | hostname, any => some hostname
  | exact name, exact other => if name = other then some (exact name) else none
  | exact name, wildcard parent => if name.IsUnder parent then some (exact name) else none
  | wildcard parent, exact name => if name.IsUnder parent then some (exact name) else none
  | wildcard parent, wildcard other =>
    if parent = other ∨ parent.IsUnder other then some (wildcard parent)
    else if other.IsUnder parent then some (wildcard other)
    else none

theorem under_trans {name : Name} (hhost : host.IsUnder name) (hname : name.IsUnder parent) :
    host.IsUnder parent :=
  (hname.trans (List.suffix_cons _ _)).trans hhost

theorem under_total (hleft : host.IsUnder left) (hright : host.IsUnder right) :
    left = right ∨ left.IsUnder right ∨ right.IsUnder left := by
  have hcompare : ∀ {shorter longer : Name}, host.IsUnder shorter → host.IsUnder longer →
      shorter.chars.length ≤ longer.chars.length → shorter = longer ∨ longer.IsUnder shorter := by
    intro shorter longer hshorter hlonger hle
    have hsuffix : '.' :: shorter.chars <:+ '.' :: longer.chars :=
      List.suffix_of_suffix_length_le hshorter hlonger (by simpa using hle)
    rcases List.suffix_cons_iff.mp hsuffix with heq | hunder
    · exact .inl (Name.ext (List.cons.inj heq).2)
    · exact .inr hunder
  rcases Nat.le_total left.chars.length right.chars.length with hle | hle
  · rcases hcompare hleft hright hle with heq | hunder
    · exact .inl heq
    · exact .inr (.inr hunder)
  · rcases hcompare hright hleft hle with heq | hunder
    · exact .inl heq.symm
    · exact .inr (.inl hunder)

theorem matches_meet_exact (name parent host : Name) :
    (∃ both, (exact name).meet (wildcard parent) = some both ∧ both.Matches host) ↔
      (exact name).Matches host ∧ (wildcard parent).Matches host := by
  rw [matches_wildcard]
  by_cases hunder : name.IsUnder parent
  · simp only [meet, if_pos hunder, Option.some.injEq, exists_eq_left']
    exact ⟨fun hhost => ⟨hhost, hhost ▸ hunder⟩, fun h => h.1⟩
  · simp only [meet, if_neg hunder, reduceCtorEq, false_and, exists_false, false_iff]
    rintro ⟨rfl, hhost⟩
    exact hunder hhost

theorem matches_meet (left right : Hostname) (host : Name) :
    (∃ both, left.meet right = some both ∧ both.Matches host) ↔
      left.Matches host ∧ right.Matches host := by
  cases left with
  | any => cases right <;> simp [meet, Matches]
  | exact name =>
    cases right with
    | any => simp [meet, Matches]
    | exact other =>
      by_cases heq : name = other
      · simp [meet, Matches, heq]
      · simp only [meet, if_neg heq, reduceCtorEq, false_and, exists_false, false_iff]
        rintro ⟨rfl, rfl⟩
        exact heq rfl
    | wildcard parent => exact matches_meet_exact name parent host
  | wildcard parent =>
    cases right with
    | any => simp [meet, Matches]
    | exact name => exact (matches_meet_exact name parent host).trans and_comm
    | wildcard other =>
      rw [matches_wildcard, matches_wildcard]
      by_cases hfirst : parent = other ∨ parent.IsUnder other
      · simp only [meet, if_pos hfirst, Option.some.injEq, exists_eq_left', matches_wildcard]
        refine ⟨fun hhost => ⟨hhost, ?_⟩, fun h => h.1⟩
        rcases hfirst with rfl | hunder
        · exact hhost
        · exact under_trans hhost hunder
      by_cases hsecond : other.IsUnder parent
      · simp only [meet, if_neg hfirst, if_pos hsecond, Option.some.injEq, exists_eq_left',
          matches_wildcard]
        exact ⟨fun hhost => ⟨under_trans hhost hsecond, hhost⟩, fun h => h.2⟩
      · simp only [meet, if_neg hfirst, if_neg hsecond, reduceCtorEq, false_and, exists_false,
          false_iff]
        rintro ⟨hleft, hright⟩
        rcases under_total hleft hright with heq | hunder | hunder
        · exact hfirst (.inl heq)
        · exact hfirst (.inr hunder)
        · exact hsecond hunder

/-- The pairs that the listener check lets through: equal hostnames, or a wildcard and a name
with exactly one more label. -/
def Pairs : Hostname → Hostname → Prop
  | any, any => True
  | exact name, exact other => name = other
  | wildcard parent, wildcard other => parent = other
  | exact name, wildcard parent | wildcard parent, exact name =>
    ∃ label, label ≠ [] ∧ '.' ∉ label ∧ name.chars = label ++ '.' :: parent.chars
  | _, _ => False

theorem pairs_refl (hostname : Hostname) : hostname.Pairs hostname := by
  cases hostname <;> simp [Pairs]

/-! ## Texts -/

@[simp] theorem toList_text_any : any.text.toList = [] :=
  rfl

@[simp] theorem toList_text_wildcard (parent : Name) :
    (wildcard parent).text.toList = '*' :: '.' :: parent.chars :=
  String.toList_ofList

@[simp] theorem toList_text_exact (name : Name) : (exact name).text.toList = name.chars :=
  String.toList_ofList

theorem star_not_mem (name : Name) : '*' ∉ name.chars :=
  name.not_mem (by decide) (by decide)

theorem text_wildcard_ne (parent name : Name) : (wildcard parent).text ≠ (exact name).text := by
  intro heq
  have hlist := congrArg String.toList heq
  rw [toList_text_wildcard, toList_text_exact] at hlist
  exact star_not_mem name (hlist ▸ List.mem_cons_self)

theorem text_inj {left right : Hostname} (heq : left.text = right.text) : left = right := by
  have hlist : left.text.toList = right.text.toList := by rw [heq]
  cases left with
  | any =>
    cases right with
    | any => rfl
    | wildcard parent => simp at hlist
    | exact name => exact absurd hlist.symm (by simpa using name.ne_nil)
  | wildcard parent =>
    cases right with
    | any => simp at hlist
    | wildcard other =>
      have hchars : parent.chars = other.chars := by simpa using hlist
      rw [Name.ext hchars]
    | exact name => exact absurd heq (text_wildcard_ne parent name)
  | exact name =>
    cases right with
    | any => exact absurd hlist (by simpa using name.ne_nil)
    | wildcard parent => exact absurd heq.symm (text_wildcard_ne parent name)
    | exact other =>
      have hchars : name.chars = other.chars := by simpa using hlist
      rw [Name.ext hchars]

variable {hostname : Hostname}

theorem text_eq_empty : hostname.text = "" ↔ hostname = any :=
  ⟨fun hempty => text_inj hempty, fun hany => hany ▸ rfl⟩

theorem hasPrefix_star (hostname : Hostname) :
    hasPrefix hostname.text "*." = true ↔ ∃ parent, hostname = wildcard parent := by
  rw [hasPrefix_iff]
  cases hostname with
  | any | wildcard parent => simp
  | exact name =>
    simp only [toList_text_exact, reduceCtorEq, exists_false, iff_false]
    intro hstarts
    exact star_not_mem name (hstarts.subset (by simp))

/-! ## Normalization -/

def isHostChar (char : Char) : Bool :=
  isLabelChar char || char = '.' || char = '*'

theorem isHostChar_of_mem (hmem : char ∈ hostname.text.toList) : isHostChar char = true := by
  have hname : ∀ name : Name, char ∈ name.chars → isHostChar char = true := by
    intro name hchar
    rcases name.chars_valid char hchar with rfl | hvalid
    · decide
    · simp [isHostChar, hvalid]
  cases hostname with
  | any => simp at hmem
  | wildcard parent =>
    rw [toList_text_wildcard] at hmem
    rcases List.mem_cons.mp hmem with rfl | hmem
    · decide
    rcases List.mem_cons.mp hmem with rfl | hmem
    · decide
    · exact hname parent hmem
  | exact name =>
    rw [toList_text_exact] at hmem
    exact hname name hmem

theorem kept_of_isHostChar (hchar : isHostChar char = true) :
    char.toLower = char ∧ isSpace char = false ∧ char ≠ ':' := by
  have hspaces : ∀ space ∈ spaces, isHostChar space = false := by
    simp [spaces, isHostChar, isLabelChar, Char.isLower, Char.isDigit]
  refine ⟨Char.toLower_eq_of_not_isUpper fun hupper => ?_, isSpace_eq_false hchar hspaces, ?_⟩
  · have hupper : 65 ≤ char.val.toNat ∧ char.val.toNat ≤ 90 := by
      simpa [Char.isUpper, UInt32.le_iff_toNat_le] using hupper
    have hcode : 97 ≤ char.val.toNat ∧ char.val.toNat ≤ 122 ∨
        48 ≤ char.val.toNat ∧ char.val.toNat ≤ 57 ∨ char = '-' ∨ char = '.' ∨ char = '*' := by
      simpa [isHostChar, isLabelChar, Char.isLower, Char.isDigit, or_assoc,
        UInt32.le_iff_toNat_le] using hchar
    rcases hcode with hlower | hdigit | rfl | rfl | rfl
    · omega
    · omega
    all_goals revert hupper; decide
  · rintro rfl
    revert hchar
    decide

theorem normalizeHostname_text (hostname : Hostname) :
    normalizeHostname hostname.text = hostname.text := by
  have hkept : ∀ char ∈ hostname.text.toList,
      char.toLower = char ∧ isSpace char = false ∧ char ≠ ':' :=
    fun char hmem => kept_of_isHostChar (isHostChar_of_mem hmem)
  have htrim : trimSpace hostname.text = hostname.text :=
    trimSpace_eq_self fun char hmem => (hkept char hmem).2.1
  have hlower : toLower hostname.text = hostname.text := by
    have hmap : hostname.text.toList.map Char.toLower = hostname.text.toList :=
      (List.map_congr_left fun char hmem => (hkept char hmem).1).trans (List.map_id _)
    rw [toLower, hmap, String.ofList_toList]
  have hcolon : indexOf [':'] hostname.text.toList = none :=
    indexOf_eq_none_of_not_mem ':' List.mem_cons_self fun hmem => (hkept ':' hmem).2.2 rfl
  unfold normalizeHostname
  rw [htrim, hlower]
  simp only [hcolon]

/-! ## The listener check -/

theorem contains_dot_iff (text : String) : contains text "." = true ↔ '.' ∈ text.toList :=
  indexOf_singleton_isSome '.' text.toList

theorem hostnameWildcardMatch_iff (parent : Name) (host : String) :
    hostnameWildcardMatch (wildcard parent).text host = true ↔
      ∃ label, label ≠ [] ∧ '.' ∉ label ∧ host.toList = label ++ '.' :: parent.chars := by
  have hsuffix : String.ofList ((wildcard parent).text.toList.drop 1) =
      String.ofList ('.' :: parent.chars) := by
    rw [toList_text_wildcard, List.drop_one, List.tail_cons]
  have hlist : (String.ofList ('.' :: parent.chars)).toList = '.' :: parent.chars :=
    String.toList_ofList
  have hgate : (String.ofList ('.' :: parent.chars) = "" ||
      !hasPrefix (String.ofList ('.' :: parent.chars)) ".") = false := by
    simp [hasPrefix]
  unfold hostnameWildcardMatch
  rw [hsuffix]
  generalize String.ofList ('.' :: parent.chars) = suffix at hlist hgate
  simp only [hgate, Bool.false_eq_true, if_false]
  by_cases hends : hasSuffix host suffix = true
  · obtain ⟨start, hhost⟩ := (hasSuffix_iff _ _).mp hends
    have htrim : trimSuffix host suffix = String.ofList start := trimSuffix_of_append hhost.symm
    rw [hlist] at hhost
    have hstart : ∀ label, host.toList = label ++ '.' :: parent.chars ↔ label = start := by
      intro label
      rw [← hhost, List.append_cancel_right_eq, eq_comm]
    have hdot : contains (String.ofList start) "." = true ↔ '.' ∈ start := by
      rw [contains_dot_iff, String.toList_ofList]
    simp [hends, htrim, hstart, ← hdot]
  · have hno : ∀ label, host.toList ≠ label ++ '.' :: parent.chars := by
      intro label hhost
      exact hends ((hasSuffix_iff _ _).mpr ⟨label, by rw [hlist, hhost]⟩)
    simp [hends, hno]

theorem pairs_wildcard_iff {other : Hostname} (hne : wildcard parent ≠ other) :
    (∃ label, label ≠ [] ∧ '.' ∉ label ∧ other.text.toList = label ++ '.' :: parent.chars) ↔
      (wildcard parent).Pairs other := by
  cases other with
  | any | exact name => simp [Pairs]
  | wildcard below =>
    have hparent : parent ≠ below := fun heq => hne (heq ▸ rfl)
    simp only [Pairs, hparent, iff_false]
    rintro ⟨label, hlabel, hdot, htext⟩
    rw [toList_text_wildcard] at htext
    cases label with
    | nil => exact hlabel rfl
    | cons first rest =>
      have htext := (List.cons.inj htext).2
      cases rest with
      | nil => exact hparent (Name.ext (List.cons.inj htext).2.symm)
      | cons second tail =>
        have hsecond : '.' = second := (List.cons.inj htext).1
        exact hdot (hsecond ▸ List.mem_cons_of_mem _ List.mem_cons_self)

theorem pairs_comm {left right : Hostname} : left.Pairs right ↔ right.Pairs left := by
  cases left <;> cases right <;> simp [Pairs, eq_comm]

theorem hostnamePairMatch_iff (left right : Hostname) :
    hostnamePairMatch left.text right.text = true ↔ left.Pairs right := by
  unfold hostnamePairMatch
  by_cases heq : left = right
  · simp [heq, pairs_refl]
  have htext : left.text ≠ right.text := fun h => heq (text_inj h)
  rw [if_neg htext]
  by_cases hleft : ∃ parent, left = wildcard parent
  · rw [if_pos ((hasPrefix_star left).mpr hleft)]
    obtain ⟨parent, rfl⟩ := hleft
    rw [hostnameWildcardMatch_iff, pairs_wildcard_iff heq]
  rw [if_neg fun h => hleft ((hasPrefix_star left).mp h)]
  by_cases hright : ∃ parent, right = wildcard parent
  · rw [if_pos ((hasPrefix_star right).mpr hright)]
    obtain ⟨parent, rfl⟩ := hright
    rw [hostnameWildcardMatch_iff, pairs_wildcard_iff (Ne.symm heq), pairs_comm]
  rw [if_neg fun h => hright ((hasPrefix_star right).mp h)]
  simp only [Bool.false_eq_true, false_iff]
  cases left with
  | wildcard parent => exact absurd ⟨parent, rfl⟩ hleft
  | any =>
    cases right with
    | wildcard parent => exact absurd ⟨parent, rfl⟩ hright
    | any => exact absurd rfl heq
    | exact name => exact id
  | exact name =>
    cases right with
    | wildcard parent => exact absurd ⟨parent, rfl⟩ hright
    | any => exact id
    | exact other => exact fun hname => heq (congrArg exact hname)

/-! ## The intersection of hostnames -/

theorem drop_one_wildcard (parent : Name) :
    (String.ofList ((wildcard parent).text.toList.drop 1)).toList = '.' :: parent.chars := by
  rw [String.toList_ofList, toList_text_wildcard, List.drop_one, List.tail_cons]

theorem hostnameMatchesWildcard_iff (name parent : Name) :
    hostnameMatchesWildcard (exact name).text (wildcard parent).text = true ↔
      name.IsUnder parent := by
  have hlist := drop_one_wildcard parent
  unfold hostnameMatchesWildcard
  generalize String.ofList ((wildcard parent).text.toList.drop 1) = suffix at hlist
  rw [Bool.and_eq_true, hasSuffix_iff, hlist, toList_text_exact, decide_eq_true_eq]
  refine ⟨fun h => h.1, fun hunder => ⟨hunder, ?_⟩⟩
  obtain ⟨labels, hname⟩ := hunder
  have hlabels : labels ≠ [] := name.before_dot_ne_nil hname.symm
  have htext : (exact name).text = String.ofList labels ++ suffix := by
    rw [← String.toList_inj, String.toList_append, String.toList_ofList, hlist, toList_text_exact,
      hname]
  have hpos : 0 < len (String.ofList labels) := by
    refine Nat.pos_of_ne_zero fun hzero => hlabels ?_
    simpa using String.utf8ByteSize_eq_zero_iff.mp hzero
  rw [htext, len, String.utf8ByteSize_append]
  exact Nat.lt_add_of_pos_left hpos

theorem hasSuffix_wildcards_iff (name parent : Name) :
    hasSuffix (wildcard name).text (String.ofList ((wildcard parent).text.toList.drop 1)) = true ↔
      name = parent ∨ name.IsUnder parent := by
  rw [hasSuffix_iff, drop_one_wildcard, toList_text_wildcard, List.suffix_cons_iff,
    List.suffix_cons_iff]
  simp [Name.IsUnder, Name.ext_iff, eq_comm]

theorem hasPrefix_star_eq_false (hexact : ∀ parent, hostname ≠ wildcard parent) :
    hasPrefix hostname.text "*." = false := by
  rw [Bool.eq_false_iff]
  intro hstar
  obtain ⟨parent, hwildcard⟩ := (hasPrefix_star hostname).mp hstar
  exact hexact parent hwildcard

theorem intersectHostname_eq (routeHost listenerHost : Hostname) :
    intersectHostname routeHost.text listenerHost.text =
      (routeHost.meet listenerHost).map text := by
  have hwild : ∀ parent, hasPrefix (wildcard parent).text "*." = true :=
    fun parent => (hasPrefix_star _).mpr ⟨parent, rfl⟩
  have hname : ∀ name, hasPrefix (exact name).text "*." = false :=
    fun name => hasPrefix_star_eq_false fun parent h => by cases h
  have hlen : ∀ {hostname : Hostname}, hostname ≠ any → hostname.text ≠ "" :=
    fun hne hempty => hne (text_eq_empty.mp hempty)
  have hdiffer : ∀ {left right : Hostname}, left ≠ any → left ≠ right →
      ¬ (left.text = "" ∨ left.text = right.text) :=
    fun hany hne h => h.elim (hlen hany) (hne ∘ text_inj)
  have hunder : ∀ name parent, (if hostnameMatchesWildcard (exact name).text (wildcard parent).text
      then some (exact name).text else none) = ((exact name).meet (wildcard parent)).map text := by
    intro name parent
    by_cases hunder : name.IsUnder parent
    · simp [meet, hostnameMatchesWildcard_iff, hunder]
    · simp [meet, hostnameMatchesWildcard_iff, hunder]
  unfold intersectHostname
  cases listenerHost with
  | any => cases routeHost <;> rfl
  | wildcard parent =>
    rw [if_neg (hlen (by simp))]
    cases routeHost with
    | any => rfl
    | wildcard other =>
      by_cases heq : other = parent
      · rw [if_pos (.inr (congrArg _ (congrArg wildcard heq)))]
        simp [meet, heq]
      · rw [if_neg (hdiffer (by simp) (by simp [heq])), hwild, hwild]
        simp only [hasSuffix_wildcards_iff, meet]
        by_cases hunder : other = parent ∨ other.IsUnder parent
        · simp [hunder]
        · have hother : ¬ (parent = other) := fun h => heq h.symm
          by_cases habove : parent.IsUnder other
          · simp [hunder, habove]
          · simp [hunder, habove, hother]
    | exact name =>
      rw [if_neg (hdiffer (by simp) (by simp)), hwild, hname]
      exact hunder name parent
  | exact name =>
    rw [if_neg (hlen (by simp))]
    cases routeHost with
    | any => rfl
    | wildcard parent =>
      rw [if_neg (hdiffer (by simp) (by simp)), hwild, hname]
      exact hunder name parent
    | exact other =>
      by_cases heq : other = name
      · rw [if_pos (.inr (congrArg _ (congrArg exact heq)))]
        simp [meet, heq]
      · rw [if_neg (hdiffer (by simp) (by simp [heq])), hname, hname]
        simp [meet, heq]

end Hostname

end ApiPlatform.Operator
