import DirectoryLogin.Number.Binary64
import DirectoryLogin.Text.Broken
import DirectoryLogin.Text.Utf8
/-!
# Loosely Typed Values

Values whose type is not known beforehand: arguments of settings, entries of a connection environment,
attribute values as a directory sends them, and credentials that are only passed on.

`same` is the equality that decides whether an identity has changed: numbers are compared by value whatever
their kind, and an object does not depend on the order of its fields.
-/

namespace DirectoryLogin

/-- A loosely typed value. -/
inductive Value where
  /-- The absent value. -/
  | null
  /-- A truth value. -/
  | flag (b : Bool)
  /-- A whole number of any size. -/
  | integer (n : Int)
  /-- A number with a fraction or an exponent. -/
  | real (x : Binary64)
  | text (s : String)
  /-- A text that is not well formed. -/
  | broken (b : Text.Broken)
  /-- Raw bytes. -/
  | bytes (data : List UInt8)
  /-- A list of values. -/
  | list (items : List Value)
  /-- Named values, in the order in which they were given. -/
  | object (fields : List (String × Value))
deriving Inhabited, Repr

namespace Value

/-! ## §1 Views -/

/-- A text, or the absent value. -/
def ofOption : Option String → Value
  | some s => .text s
  | none => .null

def text? : Value → Option String
  | .text s => some s
  | _ => none

@[simp] theorem text?_text (s : String) : (Value.text s).text? = some s := rfl

/-- A text that may be absent is read back as it was. -/
@[simp] theorem text?_ofOption (o : Option String) : (ofOption o).text? = o := by
  cases o <;> rfl

/-- The value is not the absent one. -/
def isPresent : Value → Bool
  | .null => false
  | _ => true

/-- The value counts as given: it is neither absent nor false, zero or empty. -/
def isGiven : Value → Bool
  | .null => false
  | .flag b => b
  | .integer n => n != 0
  | .real x => x.mantissa != 0
  | .text s => s != ""
  | .broken _ => true
  | .bytes data => !data.isEmpty
  | .list items => !items.isEmpty
  | .object fields => !fields.isEmpty

/-- The name of the kind of a value, as error texts give it. -/
def kindName : Value → String
  | .null => "NoneType"
  | .flag _ => "bool"
  | .integer _ => "int"
  | .real _ => "float"
  | .text _ | .broken _ => "str"
  | .bytes _ => "bytes"
  | .list _ => "list"
  | .object _ => "dict"

/-! ## §2 Equality -/

/-- The number that a value stands for; a whole one has one form only. -/
def number? : Value → Option (Int ⊕ Binary64)
  | .flag b => some (.inl (if b then 1 else 0))
  | .integer n => some (.inl n)
  | .real x => some (match x.toInt? with | some n => .inl n | none => .inr x)
  | _ => none

mutual

/-- Two values are the same. -/
def same : Value → Value → Bool
  | .null, .null => true
  | .text s, .text t => s == t
  | .broken s, .broken t => s == t
  | .bytes s, .bytes t => s == t
  | .list xs, .list ys => sameItems xs ys
  | .object fs, .object gs => fs.length == gs.length && sameFields fs gs
  | v, w =>
    match v.number?, w.number? with
    | some m, some n => m == n
    | _, _ => false

/-- Two lists hold the same values in the same order. -/
def sameItems : List Value → List Value → Bool
  | [], [] => true
  | v :: vs, w :: ws => same v w && sameItems vs ws
  | _, _ => false

/-- Every field of one object is in the other, with the same value. -/
def sameFields : List (String × Value) → List (String × Value) → Bool
  | [], _ => true
  | (name, v) :: fields, others =>
    (match others.lookup name with
      | some w => same v w
      | none => false) && sameFields fields others

end

/-! ## §3 Text -/

/-- A byte inside quoted bytes. -/
def quotedByte (mark : Char) (b : UInt8) : List Char :=
  if b.toNat < 128 then Text.quoteChar mark (Char.ofNat b.toNat)
  else '\\' :: 'x' :: Text.hexDigits 2 b.toNat

/-- Raw bytes between quotes. -/
def quotedBytes (data : List UInt8) : String :=
  let chars := data.map fun b => Char.ofNat b.toNat
  let mark := Text.quoteMark chars
  String.ofList ('b' :: mark :: data.flatMap (quotedByte mark) ++ [mark])

mutual

/-- The value inside a list or an object: texts are quoted. -/
def nestedText : Value → String
  | .null => "None"
  | .flag b => if b then "True" else "False"
  | .integer n => Text.decimal n
  | .real x => x.toText
  | .text s => Text.quoted s
  | .broken b => b.quoted
  | .bytes data => quotedBytes data
  | .list items => "[" ++ ", ".intercalate (nestedItems items) ++ "]"
  | .object fields => "\x7b" ++ ", ".intercalate (nestedFields fields) ++ "\x7d"

/-- The texts of the items of a list. -/
def nestedItems : List Value → List String
  | [] => []
  | v :: vs => nestedText v :: nestedItems vs

/-- The texts of the fields of an object. -/
def nestedFields : List (String × Value) → List String
  | [] => []
  | (name, v) :: fields => (Text.quoted name ++ ": " ++ nestedText v) :: nestedFields fields

end

/-- The text of a value: a text is itself, everything else is spelled out. -/
def toText : Value → String
  | .text s => s
  | v => v.nestedText

/-- The text of an attribute value: raw bytes are decoded. -/
def attributeText : Value → String
  | .bytes data => Text.decodeUtf8 data
  | v => v.toText

end Value

end DirectoryLogin
