import RecordIndex.Regex.Escape

namespace RecordIndex

/-!
# Bracketed classes

A class between brackets lists characters, ranges, escapes and further
classes.  Two signs in a row combine what stands before them with what stands
behind: `&&` keeps what is in both, `--` takes away and `~~` keeps what is in
one only.  The operators bind alike and to the left.

A class is read item by item.  The classes that have been opened and the
operators that wait for their right side are kept on a stack.
-/

/-- Characters listed so far, with their number of items and the depth of the
deepest. -/
structure ClassItems where
  set : CharSet
  count : Nat
  depth : Nat

namespace ClassItems

def none : ClassItems :=
  ⟨.empty, 0, 0⟩

def add (items : ClassItems) (set : CharSet) (depth : Nat) : ClassItems :=
  ⟨.union items.set set, items.count + 1, max items.depth depth⟩

/-- The depth of the list: several items count as one level. -/
def listDepth (items : ClassItems) : Nat :=
  if 1 < items.count then items.depth + 1 else items.depth

end ClassItems

/-- The operators between two sides of a class. -/
inductive ClassOperator where
  | inter
  | diff
  | symmetric

def ClassOperator.apply (operator : ClassOperator) (left right : CharSet) : CharSet :=
  match operator with
  | .inter => .inter left right
  | .diff => left.diff right
  | .symmetric => .union (left.diff right) (right.diff left)

/-- What waits for the class that is being read. -/
inductive ClassFrame where
  /-- A class was opened among the items of the one around it. -/
  | opened (outer : ClassItems) (negated : Bool)
  /-- An operator waits for its right side. -/
  | operand (operator : ClassOperator) (left : CharSet) (depth : Nat)

namespace Bracket

/-- A class in the course of being read. -/
structure State where
  stack : List ClassFrame
  items : ClassItems
  rest : List Char

/-- Apply the operator that waits, if one does. -/
def applyOperator (flags : Flags) (stack : List ClassFrame) (items : ClassItems) :
    CharSet × Nat × List ClassFrame :=
  match stack with
  | .operand operator left depth :: stack =>
      (operator.apply (flags.foldCase left) (flags.foldCase items.set),
        max depth items.listDepth + 1, stack)
  | stack => (items.set, items.listDepth, stack)

/-- Leading hyphens are items.  The number of characters bounds the steps. -/
def leadingHyphens (flags : Flags) : Nat -> ClassItems -> List Char -> ClassItems × List Char
  | steps + 1, items, '-' :: rest =>
      leadingHyphens flags steps (items.add (.singleton '-') 0) (flags.skip rest)
  | _, items, cs => (items, cs)

/-- The negation and the items that are special at the beginning of a class,
read behind its opening bracket.  A closing bracket in first place is an
item. -/
def openClass (flags : Flags) (cs : List Char) : Bool × ClassItems × List Char :=
  let cs := flags.skip cs
  let (negated, cs) :=
    match cs with
    | '^' :: rest => (true, flags.skip rest)
    | _ => (false, cs)
  let (items, cs) := leadingHyphens flags cs.length .none cs
  match cs with
  | ']' :: rest =>
      if items.count = 0 then (negated, items.add (.singleton ']') 0, flags.skip rest)
      else (negated, items, cs)
  | _ => (negated, items, cs)

/-- A named class such as `[:alpha:]`, read behind its opening bracket. -/
def namedClass? (cs : List Char) : Option (String × Bool × List Char) :=
  match cs with
  | ':' :: rest =>
      let (negated, rest) :=
        match rest with
        | '^' :: rest => (true, rest)
        | _ => (false, rest)
      let name := rest.takeWhile (· != ':')
      match rest.dropWhile (· != ':') with
      | ':' :: ']' :: rest => some (String.ofList name, negated, rest)
      | _ => none
  | _ => none

/-- One character or escape. -/
def primitive? (flags : Flags) : List Char -> Option (Primitive × List Char)
  | [] => none
  | '\\' :: rest => Escape.read? flags rest
  | c :: rest => some (.literal c false, rest)

/-- A hyphen begins the second half of a range, unless the class or a
difference follows it. -/
def isRange (flags : Flags) (cs : List Char) : Bool :=
  match cs with
  | '-' :: rest =>
      match flags.skip rest with
      | ']' :: _ => false
      | '-' :: _ => false
      | _ => true
  | _ => false

/-- An item that is no class: a range, a character or an escape. -/
def item? (flags : Flags) (cs : List Char) : Option (CharSet × List Char) := do
  let (first, rest) ← primitive? flags cs
  let rest := flags.skip rest
  if isRange flags rest then
    let (last, rest) ← primitive? flags (flags.skip (rest.drop 1))
    let low ← first.member? flags
    let high ← last.member? flags
    if low ≤ high then return (.range low high, rest) else none
  else
    return (← first.itemSet? flags, rest)

/-- What one step of reading a class leads to. -/
inductive Progress where
  | more (state : State)
  /-- The outermost class, its depth, and what follows it. -/
  | done (set : CharSet) (depth : Nat) (rest : List Char)

/-- Read one item, operator or bracket. -/
def step? (flags : Flags) (state : State) : Option Progress :=
  let operate (operator : ClassOperator) (rest : List Char) : Progress :=
    let (left, depth, stack) := applyOperator flags state.stack state.items
    .more ⟨.operand operator left depth :: stack, .none, rest⟩
  let enter (rest : List Char) : Progress :=
    let (negated, items, rest) := openClass flags rest
    .more ⟨.opened state.items negated :: state.stack, items, rest⟩
  match flags.skip state.rest with
  | [] => none
  | '[' :: rest =>
      match namedClass? rest with
      | none => some (enter rest)
      | some (name, negated, behind) =>
          match CharClass.asciiClass? name with
          | none => some (enter rest)
          | some set => do
              let set ← flags.foldAndNegate? negated set
              return .more ⟨state.stack, state.items.add set 0, behind⟩
  | ']' :: rest =>
      match applyOperator flags state.stack state.items with
      | (set, depth, .opened outer negated :: stack) => do
          let set ← flags.foldAndNegate? negated set
          if stack.isEmpty then return .done set (depth + 1) rest
          else return .more ⟨stack, outer.add set (depth + 1), rest⟩
      | _ => none
  | '&' :: '&' :: rest => some (operate .inter rest)
  | '-' :: '-' :: rest => some (operate .diff rest)
  | '~' :: '~' :: rest => some (operate .symmetric rest)
  | cs => (item? flags cs).map fun (set, rest) => .more ⟨state.stack, state.items.add set 0, rest⟩

/-- Read to the end of the class.  Every step reads a character. -/
def run? (flags : Flags) : Nat -> State -> Option (CharSet × Nat × List Char)
  | 0, _ => none
  | steps + 1, state =>
      match step? flags state with
      | none => none
      | some (.done set depth rest) => some (set, depth, rest)
      | some (.more state) => run? flags steps state

/-- The characters of a class, its depth, and what follows it, read behind the
opening bracket. -/
def read? (flags : Flags) (cs : List Char) : Option (CharSet × Nat × List Char) :=
  let (negated, items, rest) := openClass flags cs
  run? flags (cs.length + 1) ⟨[.opened .none negated], items, rest⟩

end Bracket

end RecordIndex
