import ApiPlatform.Foundation.GoStrings

/-!
# Regular expressions

The part of the RE2 syntax that path patterns are written in: literals and
escaped literals, `.`, negated classes, non-capturing groups and the postfix
operators `*`, `+` and `?`, with `^` first and `$` last.  `fullMatch` decides
by derivatives whether a pattern matches a whole text.
-/

namespace ApiPlatform.Foundation

inductive Regex where
  | fail
  | empty
  | literal (char : Char)
  | any
  | noneOf (chars : List Char)
  | seq (first second : Regex)
  | alt (left right : Regex)
  | star (body : Regex)
  deriving DecidableEq

namespace Regex

def optional (body : Regex) : Regex :=
  .alt .empty body

def plus (body : Regex) : Regex :=
  .seq body (.star body)

/-! ## Matching -/

def nullable : Regex → Bool
  | .fail => false
  | .empty => true
  | .literal _ => false
  | .any => false
  | .noneOf _ => false
  | .seq first second => nullable first && nullable second
  | .alt left right => nullable left || nullable right
  | .star _ => true

def derive (char : Char) : Regex → Regex
  | .fail => .fail
  | .empty => .fail
  | .literal expected => if char = expected then .empty else .fail
  | .any => if char = '\n' then .fail else .empty
  | .noneOf chars => if chars.contains char then .fail else .empty
  | .seq first second =>
    if nullable first then .alt (.seq (derive char first) second) (derive char second)
    else .seq (derive char first) second
  | .alt left right => .alt (derive char left) (derive char right)
  | .star body => .seq (derive char body) (.star body)

def accepts : Regex → List Char → Bool
  | regex, [] => nullable regex
  | regex, char :: rest => accepts (derive char regex) rest

/-! ## Reading a pattern -/

def applyPostfix (atom : Regex) : List Char → Regex × List Char
  | '*' :: rest => (.star atom, rest)
  | '+' :: rest => (plus atom, rest)
  | '?' :: rest => (optional atom, rest)
  | rest => (atom, rest)

/-- A sequence of items up to the end of the text or an unmatched `)`. -/
def parseItems : Nat → List Char → Option (Regex × List Char)
  | 0, _ => none
  | _ + 1, [] => some (.empty, [])
  | _ + 1, ['$'] => some (.empty, [])
  | _ + 1, ')' :: rest => some (.empty, ')' :: rest)
  | fuel + 1, first :: rest => do
    let (atom, afterAtom) ←
      match first, rest with
      | '\\', escaped :: rest => some (.literal escaped, rest)
      | '.', rest => some (.any, rest)
      | '[', '^' :: rest =>
        match rest.span (· != ']') with
        | (chars, ']' :: rest) => some (.noneOf chars, rest)
        | _ => none
      | '(', '?' :: ':' :: rest =>
        match parseItems fuel rest with
        | some (group, ')' :: rest) => some (group, rest)
        | _ => none
      | char, rest => if isMeta char then none else some (.literal char, rest)
    let (item, afterItem) := applyPostfix atom afterAtom
    let (items, remaining) ← parseItems fuel afterItem
    some (.seq item items, remaining)

def parse (pattern : String) : Option Regex :=
  let body :=
    match pattern.toList with
    | '^' :: rest => rest
    | chars => chars
  match parseItems (body.length + 1) body with
  | some (regex, []) => some regex
  | _ => none

def fullMatch (pattern text : String) : Bool :=
  match parse pattern with
  | some regex => accepts regex text.toList
  | none => false

end Regex

end ApiPlatform.Foundation
