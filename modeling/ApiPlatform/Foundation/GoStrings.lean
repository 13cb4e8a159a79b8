import Mathlib

/-!
# Go string operations

The functions of Go's `strings` and `regexp` packages that work on the text of
a path, a header or a key.  A Go string is a Lean `String`; its content is read
through `String.toList`, and Go's `len` is the number of UTF-8 bytes.
-/

namespace ApiPlatform.Foundation

variable {text : String} {mark char : Char} {post left right : List Char}

/-! ## Searching -/

def indexOf (needle : List Char) : List Char → Option Nat
  | [] => if needle.isEmpty then some 0 else none
  | char :: rest =>
    if needle.isPrefixOf (char :: rest) then some 0
    else (indexOf needle rest).map (· + 1)

def len (text : String) : Nat :=
  text.utf8ByteSize

def hasPrefix (text start : String) : Bool :=
  start.toList.isPrefixOf text.toList

def hasSuffix (text suffix : String) : Bool :=
  suffix.toList.isSuffixOf text.toList

def contains (text needle : String) : Bool :=
  (indexOf needle.toList text.toList).isSome

def trimSuffix (text suffix : String) : String :=
  if hasSuffix text suffix then
    String.ofList (text.toList.take (text.toList.length - suffix.toList.length))
  else text

def trimPrefix (text start : String) : String :=
  if hasPrefix text start then String.ofList (text.toList.drop start.toList.length) else text

def split (mark : Char) (text : String) : List String :=
  (text.toList.splitOn mark).map String.ofList

theorem length_splitOn (mark : Char) (chars : List Char) :
    (chars.splitOn mark).length = chars.count mark + 1 := by
  induction chars with
  | nil => simp
  | cons char rest ih =>
    by_cases hchar : char = mark
    · simp [List.splitOn, List.splitOnP_cons_eq_if_modifyHead, hchar] at ih ⊢
      omega
    · simp [List.splitOn, List.splitOnP_cons_eq_if_modifyHead, hchar] at ih ⊢
      omega

theorem length_split (mark : Char) (text : String) :
    (split mark text).length = text.toList.count mark + 1 := by
  rw [split, List.length_map, length_splitOn]

def replaceFrom (old new : List Char) : Nat → List Char → List Char
  | _, [] => []
  | skip + 1, _ :: rest => replaceFrom old new skip rest
  | 0, char :: rest =>
    if old.isPrefixOf (char :: rest) then new ++ replaceFrom old new (old.length - 1) rest
    else char :: replaceFrom old new 0 rest

def replaceAll (text old new : String) : String :=
  String.ofList (replaceFrom old.toList new.toList 0 text.toList)

theorem replaceFrom_char (old new : Char) (text : List Char) :
    replaceFrom [old] [new] 0 text = text.map fun char => if char = old then new else char := by
  induction text with
  | nil => rfl
  | cons char rest ih =>
    by_cases hchar : old = char
    · subst hchar
      simp [replaceFrom, List.isPrefixOf, ih]
    · simp [replaceFrom, List.isPrefixOf, hchar, Ne.symm hchar, ih]

theorem hasPrefix_iff (text start : String) :
    hasPrefix text start = true ↔ start.toList <+: text.toList :=
  List.isPrefixOf_iff_prefix

theorem hasSuffix_iff (text suffix : String) :
    hasSuffix text suffix = true ↔ suffix.toList <:+ text.toList :=
  List.isSuffixOf_iff_suffix

theorem trimSuffix_of_append {suffix : String} {start : List Char}
    (htext : text.toList = start ++ suffix.toList) :
    trimSuffix text suffix = String.ofList start := by
  have hsuffix : hasSuffix text suffix = true :=
    (hasSuffix_iff text suffix).mpr ⟨start, htext.symm⟩
  rw [trimSuffix, if_pos hsuffix, htext]
  simp

theorem indexOf_eq_none_of_not_mem (char : Char) {needle : List Char} (hneedle : char ∈ needle) :
    ∀ {text : List Char}, char ∉ text → indexOf needle text = none
  | [], _ => by
    have hne : needle ≠ [] := List.ne_nil_of_mem hneedle
    simp [indexOf, hne]
  | first :: rest, htext => by
    have hrest : char ∉ rest := fun hmem => htext (List.mem_cons_of_mem _ hmem)
    have hstart : needle.isPrefixOf (first :: rest) = false := by
      rw [Bool.eq_false_iff]
      intro hstarts
      exact htext ((List.isPrefixOf_iff_prefix.mp hstarts).mem hneedle)
    simp [indexOf, hstart, indexOf_eq_none_of_not_mem char hneedle hrest]

theorem indexOf_pair (hne : mark ≠ char) (post : List Char) :
    ∀ {pre : List Char}, char ∉ pre →
      indexOf [mark, char] (pre ++ mark :: char :: post) = some pre.length
  | [], _ => by simp [indexOf]
  | first :: rest, hpre => by
    have hrest : char ∉ rest := fun hmem => hpre (List.mem_cons_of_mem _ hmem)
    have hstart :
        [mark, char].isPrefixOf (first :: (rest ++ mark :: char :: post)) = false := by
      cases rest with
      | nil => simp [List.isPrefixOf, Ne.symm hne]
      | cons second rest =>
        have hsecond : char ≠ second := fun heq => hrest (heq ▸ List.mem_cons_self)
        simp [List.isPrefixOf, hsecond]
    simp [indexOf, hstart, indexOf_pair hne post hrest]

theorem indexOf_pair_ge :
    ∀ {pre : List Char} {position : Nat}, char ∉ pre →
      indexOf [mark, char] (pre ++ post) = some position → pre.length ≤ position + 1
  | [], _, _, _ => by simp
  | [_], position, _, _ => by simp
  | first :: second :: rest, position, hpre, hindex => by
    have hsecond : char ≠ second := fun heq => hpre (by simp [heq])
    have hrest : char ∉ second :: rest := fun hmem => hpre (List.mem_cons_of_mem _ hmem)
    have hstart :
        [mark, char].isPrefixOf (first :: (second :: rest ++ post)) = false := by
      simp [List.isPrefixOf, hsecond]
    rw [List.cons_append, indexOf, hstart] at hindex
    obtain ⟨previous, hprevious, rfl⟩ := Option.map_eq_some_iff.mp hindex
    have hle := indexOf_pair_ge hrest hprevious
    simp only [List.length_cons] at hle ⊢
    omega

theorem indexOf_singleton_isSome (char : Char) (text : List Char) :
    (indexOf [char] text).isSome = true ↔ char ∈ text := by
  induction text with
  | nil => simp [indexOf]
  | cons first rest ih =>
    by_cases hchar : char = first
    · simp [indexOf, List.isPrefixOf, hchar]
    · simp [indexOf, List.isPrefixOf, hchar, ih]

theorem append_mark_inj {Symbol : Type*} {mark : Symbol} {left right : List Symbol} :
    ∀ {left' right' : List Symbol}, mark ∉ left → mark ∉ left' →
      (left ++ mark :: right = left' ++ mark :: right' ↔ left = left' ∧ right = right') := by
  induction left with
  | nil =>
    intro left' right' _ hright
    cases left' with
    | nil => simp
    | cons first rest =>
      have hfirst : mark ≠ first := fun heq => hright (heq ▸ List.mem_cons_self)
      simp [hfirst]
  | cons char chars ih =>
    intro left' right' hleft hright
    cases left' with
    | nil =>
      have hchar : char ≠ mark := fun heq => hleft (heq ▸ List.mem_cons_self)
      simp [hchar]
    | cons first rest =>
      have hchars : mark ∉ chars := fun hmem => hleft (List.mem_cons_of_mem _ hmem)
      have hrest : mark ∉ rest := fun hmem => hright (List.mem_cons_of_mem _ hmem)
      simp [ih hchars hrest, and_assoc]

theorem intercalate_inj {separator : String} (hseparator : separator.toList = [mark])
    {left right : List String} (hleft : ∀ part ∈ left, mark ∉ part.toList)
    (hright : ∀ part ∈ right, mark ∉ part.toList) (hleftNe : left ≠ []) (hrightNe : right ≠ [])
    (heq : separator.intercalate left = separator.intercalate right) : left = right := by
  have hparts : ∀ parts : List String, (∀ part ∈ parts, mark ∉ part.toList) → parts ≠ [] →
      (separator.intercalate parts).toList.splitOn mark = parts.map String.toList := by
    intro parts hparts hne
    rw [String.toList_intercalate, hseparator]
    refine List.splitOn_intercalate mark ?_ (by simpa using hne)
    intro chars hchars
    obtain ⟨part, hpart, rfl⟩ := List.mem_map.mp hchars
    exact hparts part hpart
  have hlists := hparts left hleft hleftNe
  rw [heq, hparts right hright hrightNe] at hlists
  exact List.map_injective_iff.mpr (fun _ _ => String.toList_inj.mp) hlists.symm

/-- The text before the last occurrence of a character, as cut by
`strings.LastIndex`; only read when the character occurs. -/
def beforeLast (mark : Char) (text : List Char) : List Char :=
  ((text.reverse.dropWhile (· != mark)).drop 1).reverse

def afterLast (mark : Char) (text : List Char) : List Char :=
  (text.reverse.takeWhile (· != mark)).reverse

theorem beforeLast_append_cons (hpost : mark ∉ post) (pre : List Char) :
    beforeLast mark (pre ++ mark :: post) = pre := by
  have hall : ∀ char ∈ post.reverse, (char != mark) = true := by
    intro char hchar
    simpa using fun heq : char = mark => hpost (heq ▸ List.mem_reverse.mp hchar)
  simp [beforeLast, List.dropWhile_append_of_pos hall]

@[simp] theorem beforeLast_append (mark : Char) (pre : List Char) :
    beforeLast mark (pre ++ [mark]) = pre :=
  beforeLast_append_cons List.not_mem_nil pre

theorem afterLast_append_cons (hpost : mark ∉ post) (pre : List Char) :
    afterLast mark (pre ++ mark :: post) = post := by
  have hall : ∀ char ∈ post.reverse, (char != mark) = true := by
    intro char hchar
    simpa using fun heq : char = mark => hpost (heq ▸ List.mem_reverse.mp hchar)
  simp [afterLast, List.takeWhile_append_of_pos hall]

theorem utf8Len_le_of_isPrefix (hstarts : left <+: right) :
    String.utf8Len left ≤ String.utf8Len right := by
  obtain ⟨rest, rfl⟩ := hstarts
  rw [String.utf8Len_append]
  omega

theorem prefix_of_prefix_of_utf8Len_le {text : List Char} (hleft : left <+: text)
    (hright : right <+: text) (hle : String.utf8Len left ≤ String.utf8Len right) :
    left <+: right := by
  rcases List.prefix_or_prefix_of_prefix hleft hright with hstarts | ⟨rest, rfl⟩
  · exact hstarts
  · rw [String.utf8Len_append] at hle
    cases rest with
    | nil => simp
    | cons char rest =>
      have hchar := Char.utf8Size_pos char
      simp only [String.utf8Len] at hle
      omega

/-! ## Trimming and case -/

/-- The characters with the Unicode property White_Space. -/
def spaces : List Char :=
  [' ', '\t', '\n', '\r', '\x0b', '\x0c', '\x85', '\xa0', '\u1680', '\u2000', '\u2001', '\u2002',
    '\u2003', '\u2004', '\u2005', '\u2006', '\u2007', '\u2008', '\u2009', '\u200a', '\u2028',
    '\u2029', '\u202f', '\u205f', '\u3000']

def isSpace (char : Char) : Bool :=
  spaces.contains char

/-- What holds of no space only holds of other characters. -/
theorem isSpace_eq_false {char : Char} {accepts : Char → Bool} (haccepts : accepts char = true)
    (hspaces : ∀ space ∈ spaces, accepts space = false) : isSpace char = false := by
  refine Bool.eq_false_iff.mpr fun hspace => ?_
  rw [hspaces char (List.contains_iff_mem.mp hspace)] at haccepts
  cases haccepts

def trimSpace (text : String) : String :=
  String.ofList
    (((text.toList.dropWhile isSpace).reverse.dropWhile isSpace).reverse)

theorem trimSpace_eq_self (hspace : ∀ char ∈ text.toList, isSpace char = false) :
    trimSpace text = text := by
  have hkeeps : ∀ {chars : List Char}, (∀ char ∈ chars, isSpace char = false) →
      chars.dropWhile isSpace = chars := by
    intro chars hchars
    cases chars with
    | nil => rfl
    | cons char rest => rw [List.dropWhile_cons_of_neg (by simp [hchars char])]
  rw [trimSpace, hkeeps hspace, hkeeps fun char hmem => hspace char (List.mem_reverse.mp hmem),
    List.reverse_reverse, String.ofList_toList]

def toLower (text : String) : String :=
  String.ofList (text.toList.map Char.toLower)

theorem char_toLower_toLower (char : Char) : char.toLower.toLower = char.toLower := by
  unfold Char.toLower
  split
  · next hupper =>
      rw [dif_neg]
      rintro ⟨-, hle⟩
      simp only [UInt32.le_iff_toNat_le, ge_iff_le] at hupper hle
      simp at hupper hle
      omega
  · rfl

theorem toLower_toLower (text : String) : toLower (toLower text) = toLower text := by
  rw [toLower, toLower, String.toList_ofList, List.map_map]
  exact congrArg String.ofList (List.map_congr_left fun char _ => char_toLower_toLower char)

def toUpper (text : String) : String :=
  String.ofList (text.toList.map Char.toUpper)

def equalFold (left right : String) : Bool :=
  toLower left == toLower right

/-! ## Numbers -/

def isDigits (chars : List Char) : Bool :=
  !chars.isEmpty && chars.all Char.isDigit

def atoi (text : String) : Option Int :=
  let (negative, digits) :=
    match text.toList with
    | '-' :: rest => (true, rest)
    | '+' :: rest => (false, rest)
    | chars => (false, chars)
  let magnitude : Int := digits.foldl (fun value char => value * 10 + (char.toNat - 48)) 0
  let value := if negative then -magnitude else magnitude
  if isDigits digits ∧ -(2 ^ 63) ≤ value ∧ value < 2 ^ 63 then some value else none

/-! ## Escaping for regular expressions -/

def isMeta (char : Char) : Bool :=
  ['\\', '.', '+', '*', '?', '(', ')', '|', '[', ']', '\x7b', '\x7d', '^', '$'].contains char

def quoteChar (char : Char) : List Char :=
  if isMeta char then ['\\', char] else [char]

def quoteChars (text : List Char) : List Char :=
  text.flatMap quoteChar

def quoteMeta (text : String) : String :=
  String.ofList (quoteChars text.toList)

@[simp] theorem quoteChars_nil : quoteChars [] = [] := rfl

@[simp] theorem quoteChars_cons (char : Char) (rest : List Char) :
    quoteChars (char :: rest) = quoteChar char ++ quoteChars rest := rfl

theorem quoteChars_append (left right : List Char) :
    quoteChars (left ++ right) = quoteChars left ++ quoteChars right := by
  simp [quoteChars]

theorem mem_quoteChars_iff (char : Char) (hchar : char ≠ '\\') (text : List Char) :
    char ∈ quoteChars text ↔ char ∈ text := by
  induction text with
  | nil => simp
  | cons first rest ih =>
    have hfirst : char ∈ quoteChar first ↔ char = first := by
      unfold quoteChar
      split <;> simp [hchar]
    simp [hfirst, ih]

theorem length_le_length_quoteChars (text : List Char) :
    text.length ≤ (quoteChars text).length := by
  induction text with
  | nil => simp
  | cons char rest ih =>
    have hchar : 1 ≤ (quoteChar char).length := by
      unfold quoteChar
      split <;> simp
    simp only [quoteChars_cons, List.length_cons, List.length_append]
    omega

def quotedSize (text : List Char) : Nat :=
  (text.map fun char => char.utf8Size + if isMeta char then 1 else 0).sum

theorem utf8Len_quoteChar (char : Char) :
    String.utf8Len (quoteChar char) = char.utf8Size + if isMeta char then 1 else 0 := by
  unfold quoteChar
  split <;> simp [String.utf8Len, show Char.utf8Size '\\' = 1 from rfl]

theorem utf8Len_quoteChars (text : List Char) :
    String.utf8Len (quoteChars text) = quotedSize text := by
  induction text with
  | nil => rfl
  | cons char rest ih =>
    rw [quoteChars_cons, String.utf8Len_append, ih, utf8Len_quoteChar]
    rfl

theorem len_ofList (chars : List Char) : len (String.ofList chars) = String.utf8Len chars :=
  String.utf8ByteSize_ofList chars

theorem len_quoteMeta (text : String) : len (quoteMeta text) = quotedSize text.toList := by
  rw [quoteMeta, len_ofList, utf8Len_quoteChars]

@[simp] theorem len_append (left right : String) : len (left ++ right) = len left + len right :=
  String.utf8ByteSize_append

/-! ## Words in the gaps of texts -/

def textSize (chars : List Char) : ℕ ×ₗ List Char :=
  toLex (chars.length, chars)

theorem append_lt_append (back : List Char) :
    ∀ {right : List Char}, left.length = right.length → left < right →
      left ++ back < right ++ back := by
  induction left with
  | nil =>
    intro right hlength hlt
    rw [List.length_eq_zero_iff.mp hlength.symm] at hlt
    exact absurd hlt (lt_irrefl _)
  | cons char chars ih =>
    intro right hlength hlt
    cases right with
    | nil => cases hlength
    | cons first rest =>
      rw [List.cons_append, List.cons_append, List.cons_lt_cons_iff]
      rcases List.cons_lt_cons_iff.mp hlt with hchar | ⟨hchar, hchars⟩
      · exact .inl hchar
      · exact .inr ⟨hchar, ih (by simpa using hlength) hchars⟩

theorem textSize_lt_of_lt (hlt : textSize left < textSize right) (front back : List Char) :
    textSize (front ++ (left ++ back)) < textSize (front ++ (right ++ back)) := by
  simp only [textSize, Prod.Lex.toLex_lt_toLex, List.length_append] at hlt ⊢
  rcases hlt with hlength | ⟨hlength, hchars⟩
  · left
    omega
  · right
    refine ⟨by omega, ?_⟩
    have happend := append_lt_append back hlength hchars
    induction front with
    | nil => exact happend
    | cons char chars ih => exact List.cons_lt_cons_iff.mpr (.inr ⟨rfl, ih⟩)

/-- Filling the gaps of some texts with one word does not give the same texts as filling them
with another: the least or the greatest of the former is none of the latter. -/
theorem exists_filled_not_mem {Job : Type} {jobs : List Job} (hjobs : jobs ≠ [])
    (front back : Job → List Char) (hne : left ≠ right) :
    ∃ job ∈ jobs, ∀ other ∈ jobs,
      front job ++ (left ++ back job) ≠ front other ++ (right ++ back other) := by
  classical
  let filled := fun job => textSize (front job ++ (right ++ back job))
  have hnonempty : jobs.toFinset.Nonempty := List.toFinset_nonempty_iff jobs |>.mpr hjobs
  have hsizes : textSize left ≠ textSize right := by
    intro heq
    exact hne (congrArg (fun size => (ofLex size).2) heq)
  rcases lt_or_gt_of_ne hsizes with hlt | hgt
  · obtain ⟨job, hjob, hleast⟩ := Finset.exists_min_image jobs.toFinset filled hnonempty
    refine ⟨job, List.mem_toFinset.mp hjob, fun other hother heq => ?_⟩
    have hless := textSize_lt_of_lt hlt (front job) (back job)
    rw [heq] at hless
    exact absurd hless (not_lt.mpr (hleast other (List.mem_toFinset.mpr hother)))
  · obtain ⟨job, hjob, hgreatest⟩ := Finset.exists_max_image jobs.toFinset filled hnonempty
    refine ⟨job, List.mem_toFinset.mp hjob, fun other hother heq => ?_⟩
    have hless := textSize_lt_of_lt hgt (front job) (back job)
    rw [heq] at hless
    exact absurd hless (not_lt.mpr (hgreatest other (List.mem_toFinset.mpr hother)))

/-! ## Slash-separated paths -/

/-- One element of a path, added to the elements before it (the last one first). -/
def cleanElement (rooted : Bool) (before : List String) (element : String) : List String :=
  if element = "" ∨ element = "." then before
  else if element = ".." then
    match before with
    | last :: rest => if last = ".." then ".." :: before else rest
    | [] => if rooted then [] else [".."]
  else element :: before

def cleanPath (path : String) : String :=
  let rooted := hasPrefix path "/"
  let elements := ((split '/' path).foldl (cleanElement rooted) []).reverse
  let cleaned := (if rooted then "/" else "") ++ "/".intercalate elements
  if cleaned = "" then "." else cleaned

def joinPath (first second : String) : String :=
  if first = "" ∧ second = "" then ""
  else if first = "" then cleanPath second
  else cleanPath (first ++ "/" ++ second)

example : cleanPath "/repos//./v1/../v2/" = "/repos/v2" ∧ joinPath "" "v1" = "v1" ∧
    joinPath "/" "v1" = "/v1" := by
  decide +kernel

end ApiPlatform.Foundation
