import RecordIndex.Proofs.Term.Answers

namespace RecordIndex

/-!
# Done with every leaf that is there

An index may hold leaves that no stored value has, such as the text of a date
that is written in another way.  They are read as values all the same, and a
test may be done with one of them.  So that no match behind it is lost, a test
has to be done in the order of the leaves themselves and not only of the values
that have them.  Comparisons are, and predicates are asked to be.
-/

namespace Value

variable {part : KeyPart}

/-- A number that is read from a leaf has no later place than that leaf. -/
theorem rank_le_of_read (noName : part.isSegment = false) {a b : Number}
    (isRead : ofLeafPart part = .number a)
    (notBefore : compare (KeyPart.number b).encode part.encode ≠ .lt) : a.rank ≤ b.rank := by
  cases part with
  | number n =>
      cases isRead
      rw [KeyPart.compare_number] at notBefore
      exact Int.not_lt.mp (mt Int.compare_eq_lt.mpr notBefore)
  | text content =>
      -- All texts come behind all numbers.
      have behind : compare (4 :: (KeyPart.number b).payload)
          (5 :: (KeyPart.text content).payload) = .lt :=
        Key.compare_cons_of_lt (by decide) _ _
      exact absurd behind notBefore
  | segment name => cases noName
  | null => cases isRead
  | bool value => cases isRead

/-- A string that is read from a leaf has the place of that leaf. -/
theorem isLE_of_read (noName : part.isSegment = false) {content content' : String}
    (isRead : ofLeafPart part = .string content)
    (notBefore : compare (KeyPart.text content').encode part.encode ≠ .lt) :
    (compare content content').isLE = true := by
  rw [text_of_ofLeafPart noName isRead] at notBefore
  cases order : compare content content' with
  | lt => rfl
  | eq => rfl
  | gt =>
      have before := KeyPart.compare_text (Std.OrientedCmp.lt_of_gt order) [] []
      rw [List.append_nil, List.append_nil] at before
      exact absurd before notBefore

/-- What is read at a leaf is not behind a value that has a later leaf. -/
theorem notBehind_of_leafPart? (noName : part.isSegment = false) {later : Value} {part' : KeyPart}
    (isPart' : later.leafPart? = some part') (before : compare part.encode part'.encode = .lt) :
    (ofLeafPart part.keyed).NotBehind later := by
  have noName := (KeyPart.isSegment_keyed part).trans noName
  rw [← KeyPart.encode_keyed part] at before
  have notBefore : compare part'.encode part.keyed.encode ≠ .lt := by
    rw [Std.OrientedCmp.gt_of_lt before]
    exact nofun
  constructor
  · rintro a b isRead rfl _ isNumber'
    rw [leafPart?, isNumber'] at isPart'
    cases isPart'
    exact rank_le_of_read noName isRead notBefore
  · rintro content content' isRead rfl
    cases isPart'
    exact isLE_of_read noName isRead notBefore

end Value

namespace Pattern

/-- The test is done with a leaf only if it matches no stored value that has a
later leaf. -/
def DoneInOrder (test : Value -> Verdict) : Prop :=
  forall part : KeyPart, part.isSegment = false -> forall (later : Value) (part' : KeyPart),
    later.IsStored -> later.leafPart? = some part' -> compare part.encode part'.encode = .lt ->
      test (Value.ofLeafPart part.keyed) = .done -> test later ≠ .matched

/-- A pattern is done in the order of leaves if its predicates are. -/
theorem doneInOrder (pattern : Pattern)
    (inOrder : forall test, pattern.Consults test -> DoneInOrder test) :
    DoneInOrder pattern.verdict := by
  intro part noName later part' isStored isPart' before
  exact pattern.ne_matched_of_done (Value.notBehind_of_leafPart? noName isPart' before)
    fun test consults => inOrder test consults part noName later part' isStored isPart' before

end Pattern

/-- The predicates that a term asks are done in the order of leaves. -/
def QueryTerm.AsksInOrder (term : QueryTerm) : Prop :=
  forall pattern : Pattern, pattern.testLeaf? = some term.leaf ->
    forall test, pattern.Consults test -> Pattern.DoneInOrder test

end RecordIndex
