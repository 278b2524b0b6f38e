import RecordIndex.Table
import RecordIndex.Text.Hexadecimal

namespace RecordIndex

/-!
# Generated identities

A record that carries no identity is given a generated one.  A generator is a
sequence of names together with the counter that tells how far the sequence
has been used.  The counters live in a supply, apart from the generators, so
copies of one generator never give out the same place of the sequence twice.
A name that has been drawn stays drawn, even if the operation that asked for
it fails.

The unique names stand for the random identifiers, of version 4, of the `uuid`
library.  They have its form, and counting takes the place of the random
digits: that two drawn names differ is certain here, up to `16 ^ 12` of them,
and there only overwhelmingly likely.
-/

/-- A sequence of names, and which counter of the supply it draws from. -/
structure IdGenerator where
  counter : Nat
  nth : Nat -> String

/-- How many names have been drawn from each counter. -/
structure IdSupply where
  /-- The first counter that no generator uses. -/
  unused : Nat
  drawn : Table Nat Nat

/-- A name of five groups of hexadecimal digits.  The last group counts, so
numbers below `16 ^ 12` have different names. -/
def uniqueName (n : Nat) : String :=
  let digits := Hexadecimal.ofNat n
  "80000000-0000-4000-8000-" ++ String.ofList (List.replicate (12 - digits.length) '0' ++ digits)

namespace IdGenerator

/-- The generator of unique names, which draws from the first counter. -/
def unique : IdGenerator where
  counter := 0
  nth := uniqueName

end IdGenerator

namespace IdSupply

/-- A supply from which nothing has been drawn. -/
def fresh : IdSupply where
  unused := 1
  drawn := .empty

instance : Inhabited IdSupply :=
  ⟨fresh⟩

/-- A generator with a counter of its own. -/
def newGenerator (supply : IdSupply) (nth : Nat -> String) : IdGenerator × IdSupply :=
  (⟨supply.unused, nth⟩, { supply with unused := supply.unused + 1 })

/-- The next name of a generator.  Names are counted from one. -/
def draw (supply : IdSupply) (generator : IdGenerator) : String × IdSupply :=
  let n := (supply.drawn.get? generator.counter).getD 0 + 1
  (generator.nth n, { supply with drawn := supply.drawn.insert generator.counter n })

end IdSupply

end RecordIndex
