import DirectoryLogin.Failure
/-!
# Pattern Lists

Names of users may follow one of several patterns. They are written as one bare pattern, as a sequence of
patterns in parentheses, or as such a sequence inside `(|` … `)`. A parenthesis after a backslash belongs to
the pattern around it.

The reader goes through the text once, and is either between patterns or inside one.
-/

namespace DirectoryLogin.PatternList

mutual

/-- Read on between patterns; `previous` is the character before. -/
def outside (previous : Option Char) : List Char → Option (List String)
  | [] => some []
  | c :: rest =>
    -- the parenthesis of the enclosing `(|` begins no pattern
    if c == '(' && !(previous == some '\\' || rest.head? == some '|') then inside '(' [] rest
    else outside (some c) rest

/-- Read on inside a pattern; `body` is what it holds so far, last character first. -/
def inside (previous : Char) (body : List Char) : List Char → Option (List String)
  | [] => none
  | c :: rest =>
    if c == ')' && previous != '\\' then
      (outside (some c) rest).map (String.ofList body.reverse :: ·)
    else inside c (c :: body) rest

end

/-- The patterns of a text; a text without any parenthesis that opens is one pattern. -/
def parse (raw : String) : Except Failure (List String) :=
  if raw.toList.contains '(' then
    match outside none raw.toList with
    | some patterns => .ok patterns
    | none => .error (.configuration (.userPattern raw))
  else .ok [raw]

/-- The patterns of a text that may be absent. -/
def parse? : Option String → Except Failure (Option (List String))
  | some raw => (parse raw).map some
  | none => .ok none

end DirectoryLogin.PatternList
