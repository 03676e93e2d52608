import DirectoryLogin.Text.Quoted
/-!
# Broken Texts

A text from outside may hold halves of surrogate pairs. They have code points and are no characters, so a text with
one of them is not well formed: it can be kept, compared and shown, but it has no bytes in UTF-8.
-/

namespace DirectoryLogin.Text

/-- A half of a surrogate pair, counted from the first one. -/
abbrev Half := Fin 0x800

/-- A half as it is shown: by its code point. -/
def halfEscape (h : Half) : List Char :=
  '\\' :: 'u' :: hexDigits 4 (0xD800 + h)

/-- A text that is not well formed: some characters, a half, and any more characters and halves. -/
structure Broken where
  /-- The characters in front of the first half. -/
  front : List Char
  /-- The first half. -/
  half : Half
  /-- What is behind it. -/
  rest : List (Char ⊕ Half)
deriving DecidableEq, Repr

namespace Broken

/-- All characters and halves, in order. -/
def points (b : Broken) : List (Char ⊕ Half) :=
  b.front.map .inl ++ .inr b.half :: b.rest

/-- A broken text between quotes. -/
def quoted (b : Broken) : String :=
  let mark := quoteMark (b.points.filterMap Sum.getLeft?)
  String.ofList (mark :: b.points.flatMap (Sum.elim (quoteChar mark) halfEscape) ++ [mark])

/-- How many halves a text begins with. -/
def halvesInFront : List (Char ⊕ Half) → Nat
  | .inr _ :: rest => halvesInFront rest + 1
  | _ => 0

/-- Why a broken text has no bytes: where its first halves are, and which one it is if there is only one. -/
def fault (b : Broken) : String :=
  let first := b.front.length
  match halvesInFront b.rest with
  | 0 =>
    "'utf-8' codec can't encode character '" ++ String.ofList (halfEscape b.half) ++ "' in position " ++
      toString first ++ ": surrogates not allowed"
  | more =>
    "'utf-8' codec can't encode characters in position " ++ toString first ++ "-" ++ toString (first + more) ++
      ": surrogates not allowed"

end Broken

end DirectoryLogin.Text
