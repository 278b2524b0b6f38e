import RecordIndex.Regex.Expr
import RecordIndex.Unicode.Case
import RecordIndex.Unicode.Script

namespace RecordIndex

/-!
# Named character classes

The classes that an expression refers to by name: the escapes such as `\d`,
the bracketed names such as `[:alpha:]`, and the properties of Unicode.

Property names are compared without regard to case, spaces, hyphens and low
lines, and an `is` before a name has no meaning.
-/

namespace CharClass

/-- The classes with an escape of their own. -/
inductive Shorthand where
  | digit
  | space
  | word
deriving DecidableEq

def Shorthand.members (asciiOnly : Bool) : Shorthand -> CharSet
  | .digit => if asciiOnly then .ofText "30-39" else Category.members .decimalNumber
  | .space => if asciiOnly then .ofText "9-d 20" else CharProperty.whiteSpace
  | .word => wordChars asciiOnly

/-- The ASCII class of a bracketed name. -/
def asciiClass? (name : String) : Option CharSet :=
  match name with
  | "alnum" => some (.ofText "30-39 41-5a 61-7a")
  | "alpha" => some (.ofText "41-5a 61-7a")
  | "ascii" => some (.ofText "0-7f")
  | "blank" => some (.ofText "9 20")
  | "cntrl" => some (.ofText "0-1f 7f")
  | "digit" => some (.ofText "30-39")
  | "graph" => some (.ofText "21-7e")
  | "lower" => some (.ofText "61-7a")
  | "print" => some (.ofText "20-7e")
  | "punct" => some (.ofText "21-2f 3a-40 5b-60 7b-7e")
  | "space" => some (.ofText "9-d 20")
  | "upper" => some (.ofText "41-5a")
  | "word" => some (.ofText "30-39 41-5a 5f 61-7a")
  | "xdigit" => some (.ofText "30-39 41-46 61-66")
  | _ => none

/-! ## Properties -/

/-- A property as an expression asks for it. -/
inductive Query where
  /-- A category, a script or a yes-or-no property. -/
  | named (name : List Char)
  /-- A value of a property that has several. -/
  | valued (property value : List Char)

/-- A name without what lookups ignore.  `isc` alone names a property that no
expression can ask for, and must not be taken for the category `c`. -/
def normalize (name : List Char) : String :=
  let hasPrefix := (name.take 2).map Char.toLower = ['i', 's']
  let kept := ((if hasPrefix then name.drop 2 else name).filter fun c =>
    c.toNat < 128 && c != ' ' && c != '_' && c != '-').map Char.toLower
  if hasPrefix && kept = ['c'] then "isc" else String.ofList kept

/-- The characters listed under a name. -/
def lookup? (name : String) (table : List (List String × CharSet)) : Option CharSet :=
  (table.find? fun entry => entry.1.contains name).map Prod.snd

/-- The characters used with a script, whichever script they belong to. -/
def extendedScript? (name : String) : Option CharSet :=
  (Script.named.find? fun entry => entry.1.contains name).bind fun (names, members) =>
    names.head?.map fun shortName => Script.extended shortName members

/-- The characters that a query asks for, if its names are known. -/
def Query.members? : Query -> Option CharSet
  | .named name =>
      let name := normalize name
      ((lookup? name CharProperty.named).or (lookup? name Category.named)).or
        (lookup? name Script.named)
  | .valued property value =>
      let value := normalize value
      match normalize property with
      | "gc" => lookup? value Category.named
      | "generalcategory" => lookup? value Category.named
      | "sc" => lookup? value Script.named
      | "script" => lookup? value Script.named
      | "scx" => extendedScript? value
      | "scriptextensions" => extendedScript? value
      | _ => none

end CharClass

end RecordIndex
