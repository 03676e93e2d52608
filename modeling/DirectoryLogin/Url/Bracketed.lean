import DirectoryLogin.Text.Digit
/-!
# Hosts in Brackets

A host between square brackets is an address: eight groups of hexadecimal digits, of which one run of zeros may
be left out, possibly with a dotted address at the end and a zone; or an address of a later version.
-/

namespace DirectoryLogin.Url

/-- The parts of a text between the occurrences of a mark. -/
def splitAtMark (mark : Char) : List Char → List (List Char)
  | [] => [[]]
  | c :: rest =>
    match splitAtMark mark rest with
    | [] => [[c]]
    | part :: parts => if c == mark then [] :: part :: parts else (c :: part) :: parts

/-- A number from 0 to 255 of at most three digits, without zeros in front. -/
def isOctet (part : List Char) : Bool :=
  !part.isEmpty && part.length ≤ 3 && part.all (fun c => (Text.asciiDigit? c).isSome)
    && (part.length == 1 || part.head? != some '0')
    && part.foldl (fun n c => 10 * n + (Text.asciiDigit? c).getD 0) 0 ≤ 255

/-- Four octets separated by points. -/
def isDottedAddress (host : List Char) : Bool :=
  let parts := splitAtMark '.' host
  parts.length == 4 && parts.all isOctet

/-- One to four hexadecimal digits. -/
def isGroup (part : List Char) : Bool :=
  !part.isEmpty && part.length ≤ 4 && part.all fun c => (Text.hexDigit? c).isSome

/-- The positions of the empty parts that are neither first nor last. -/
def innerGaps (parts : List (List Char)) : List Nat :=
  (List.range parts.length).filter fun i =>
    0 < i && i + 1 < parts.length && (parts[i]?.any (·.isEmpty))

/-- The parts of an address that are separated by colons make up eight groups. -/
def areGroups (parts : List (List Char)) : Bool :=
  match innerGaps parts with
  | [] => parts.length == 8 && parts.all isGroup
  | [gap] =>
    let before := parts.take gap
    let after := parts.drop (gap + 1)
    let before' := if before.head?.any (·.isEmpty) then before.drop 1 else before
    let after' := if after.getLast?.any (·.isEmpty) then after.dropLast else after
    (before'.length == before.length || before'.isEmpty) && (after'.length == after.length || after'.isEmpty)
      && before'.length + after'.length < 8 && before'.all isGroup && after'.all isGroup
  | _ => false

/-- An address of eight groups, with an optional zone. -/
def isGroupedAddress (host : List Char) : Bool :=
  let address := host.takeWhile (· != '%')
  let zone := host.dropWhile (· != '%')
  let zoneFits := match zone with
    | [] => true
    | _ :: name => !name.isEmpty && !name.contains '%'
  let parts := splitAtMark ':' address
  let dotted := parts.getLast?.any (·.contains '.')
  let tailFits := !dotted || parts.getLast?.any isDottedAddress
  let groups := if dotted then parts.dropLast ++ [['0'], ['0']] else parts
  zoneFits && 3 ≤ parts.length && tailFits && groups.length ≤ 9 && areGroups groups

/-- An address of a later version: a `v`, a hexadecimal version, a point and at least one more character. -/
def isFutureAddress : List Char → Bool
  | 'v' :: rest =>
    let version := rest.takeWhile fun c => (Text.hexDigit? c).isSome
    let after := rest.dropWhile fun c => (Text.hexDigit? c).isSome
    !version.isEmpty && after.head? == some '.' && 1 < after.length && !after.contains '\n'
  | _ => false

end DirectoryLogin.Url
