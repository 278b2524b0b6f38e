import RecordIndex.Query.Matches
import RecordIndex.Query.Nearby

namespace RecordIndex

/-!
# Making ranges

A ranked search settles only when every term has been scanned, and sorted
vectors only when all of them have been compared.  So ranges of these kinds
read their candidates when they are made; the others read them as they are
pulled.
-/

/-- The hits of an index query with their scores. -/
abbrev IndexRange := Range (Candidates IndexMatches Nat)

/-- The hits of a vector query with their distances. -/
abbrev VectorRange := Range (Candidates VectorScan Single)

/-- The best score first.  Equal scores stay in the order they were found. -/
def sortByScore (candidates : List (Candidate Nat)) : List (Candidate Nat) :=
  candidates.mergeSort fun first second => decide (second.mark ≤ first.mark)

/-- The nearest first.  Equal distances stay in the order they were found. -/
def sortByDistance (candidates : List (Candidate Single)) : List (Candidate Single) :=
  candidates.mergeSort fun first second => decide (first.mark.rank ≤ second.mark.rank)

/-- The range of a search. -/
def IndexRange.ofMatches (batch : Nat) (store : Store) (search : IndexMatches)
    (sortable : Bool) (page : Page) : Except Error IndexRange :=
  if search.ranked then
    (Source.drain batch store search).map fun candidates =>
      ⟨.listed (if sortable then sortByScore candidates else candidates), page⟩
  else .ok ⟨.streaming search, page⟩

/-- The range of a read of the vectors. -/
def VectorRange.ofScan (batch : Nat) (store : Store) (scan : VectorScan) (page : Page) :
    Except Error VectorRange :=
  if scan.options.sort then
    (Source.drain batch store scan).map fun candidates =>
      ⟨.listed (sortByDistance candidates), page⟩
  else .ok ⟨.streaming scan, page⟩

end RecordIndex
