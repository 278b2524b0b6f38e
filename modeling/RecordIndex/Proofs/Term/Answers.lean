import RecordIndex.Proofs.Pattern.Definite
import RecordIndex.Proofs.Term.Stored
import RecordIndex.Proofs.Text.Tokens
import RecordIndex.Query.TermScan

namespace RecordIndex

/-!
# What a matching record holds

Records and patterns are walked alike: a pattern asks for terms at the paths
where it has leaves, and a record that matches it has something at these paths.
So for every term of the pattern the record holds one that answers it, and the
declared paths leave out both or neither.
-/

theorem Value.inherited_isStored : Value.Inherited Value.IsStored where
  item _ isStored := isStored.item
  field _ isStored := isStored.field

/-- What a leaf that is no literal asks of stored leaves. -/
def Pattern.testLeaf? : Pattern -> Option TermLeaf
  | .regex expression => some (.regex expression)
  | .predicate test => some (.predicate test)
  | .operator comparison => some (.operator comparison)
  | _ => none

theorem Pattern.eq_operator_of_testLeaf? {pattern : Pattern} {operator : Operator}
    (isTest : pattern.testLeaf? = some (.operator operator)) : pattern = .operator operator := by
  cases pattern with
  | operator comparison =>
      cases isTest
      rfl
  | _ => cases isTest

/-- A stored leaf is tested as the value that it stands for. -/
theorem TermLeaf.verdict_of_testLeaf? {pattern : Pattern} {leaf : TermLeaf}
    (isTest : pattern.testLeaf? = some leaf) (tokenized : Bool) (stored : KeyPart) :
    leaf.verdict tokenized stored = testStored tokenized pattern.verdict stored := by
  cases pattern with
  | regex expression | predicate test | operator comparison =>
      cases isTest
      rfl
  | _ => cases isTest

/-! ## The same leaf -/

namespace TermLeaf

theorem encode_eq_of_samePart {first second : KeyPart} (same : samePart first second = true) :
    first.encode = second.encode := by
  unfold samePart at same
  split at same
  · exact KeyPart.encode_eq_of_rank_eq (Value.rank_eq_of_equals same).2.2
  · exact congrArg KeyPart.encode (eq_of_beq same)

/-- Parts of one key are the same leaf, unless they are no numbers. -/
theorem samePart_of_encode_eq {first second : KeyPart}
    (isNumber : forall n, first = .number n -> n.isNaN = false)
    (same : first.encode = second.encode) : samePart first second.keyed = true := by
  have kept := KeyPart.encode_inj.mp same
  cases first with
  | number n =>
      have isNumber := isNumber n rfl
      have ranks := KeyPart.compare_number n n.keyed
      have stored : second.keyed = .number n.keyed := kept.symm
      rw [← stored, KeyPart.encode_keyed, same, Rows.compare_self] at ranks
      rw [stored]
      change (n.compare? n.keyed == some .eq) = true
      rw [Number.compare?, isNumber, Value.isNaN_keyed isNumber, ← ranks]
      rfl
  | _ =>
      rw [← kept]
      exact beq_self_eq_true _

end TermLeaf

namespace Deriver

variable {deriver : Deriver}

/-! ## Patterns that can be searched -/

mutual

/-- Every key is a plain name, and every leaf that is looked for is definite. -/
def Searchable (deriver : Deriver) (path : List PatternKey) : Pattern -> Prop
  | .nested fields => SearchableFields deriver path fields
  | .literal value => deriver.queryTermsAt path (.literal value) = [] ∨
      (Pattern.literal value).Definite
  | .regex regex => deriver.queryTermsAt path (.regex regex) = [] ∨ (Pattern.regex regex).Definite
  | .predicate test => deriver.queryTermsAt path (.predicate test) = [] ∨
      (Pattern.predicate test).Definite
  | .operator operator => deriver.queryTermsAt path (.operator operator) = [] ∨
      (Pattern.operator operator).Definite
termination_by structural pattern => pattern

def SearchableFields (deriver : Deriver) (path : List PatternKey) :
    List (PatternKey × Pattern) -> Prop
  | [] => True
  | (key, pattern) :: rest =>
      (∃ name, key = .name name ∧ IntegerText.IsCanonical name) ∧
        Searchable deriver (path ++ [key]) pattern ∧ SearchableFields deriver path rest
termination_by structural fields => fields

end

/-- The held term is what a record holds that satisfies the term of a query. -/
inductive Answers (deriver : Deriver) : QueryTerm -> Term -> Prop where
  | exact (names : List String) {expected leaf : KeyPart}
      (same : TermLeaf.samePart expected leaf.keyed = true) :
      Answers deriver ⟨names.map .name, .exact expected⟩ ⟨names, leaf⟩
  | tested (names : List String) {pattern : Pattern} {test : TermLeaf}
      (isTest : pattern.testLeaf? = some test) (definite : pattern.Definite) {value : Value}
      (isStored : value.IsStored) {leaf : KeyPart} (isLeaf : leaf ∈ deriver.leafParts value)
      (matched : pattern.verdict value = .matched) :
      Answers deriver ⟨names.map .name, test⟩ ⟨names, leaf⟩

/-! ## Paths of plain names -/

theorem agrees_map_name (names declared : List String) :
    agrees keyAdmits (names.map PatternKey.name) declared = agrees nameAdmits names declared := by
  induction names generalizing declared with
  | nil =>
      cases declared with
      | nil => rfl
      | cons name declared => rfl
  | cons name rest ih =>
      cases declared with
      | nil => rfl
      | cons name' declared => exact congrArg ((name == name') && ·) (ih declared)

theorem leadsToDeclared_map_name (deriver : Deriver) (names : List String) :
    deriver.leadsToDeclared keyAdmits (names.map PatternKey.name) =
      deriver.leadsToDeclared nameAdmits names := by
  unfold leadsToDeclared
  rw [show agrees keyAdmits (names.map PatternKey.name) = agrees nameAdmits names from
    funext fun declared => agrees_map_name names declared]

theorem withinDeclared_map_name (deriver : Deriver) (names : List String) :
    deriver.withinDeclared keyAdmits (names.map PatternKey.name) =
      deriver.withinDeclared nameAdmits names := by
  unfold withinDeclared
  simp only [agrees_map_name, List.length_map]

/-! ## Terms of children -/

/-- The terms of a child that is found by its name are terms of the whole. -/
theorem termsAt_child {name : String} (canonical : IntegerText.IsCanonical name)
    {value child : Value} (isChild : value.get? name = some child) {path : List String}
    (leads : deriver.leadsToDeclared nameAdmits (path ++ [name]) = true) :
    deriver.termsAt (path ++ [name]) child ⊆ deriver.termsAt path value := by
  intro term member
  have isListed := Value.mem_children_of_get? canonical isChild
  rw [termsAt_container (Value.isContainer_of_mem_children isListed)]
  exact mem_termsOfFields_iff.mpr ⟨(name, child), isListed, leads, member⟩

/-! ## Leaves -/

/-- Outside of texts, a scalar has the one part that stands for it. -/
theorem leafParts_eq {value : Value} (noText : forall text, value ≠ .string text) :
    deriver.leafParts value = value.leafPart?.toList := by
  cases value with
  | string text => exact absurd rfl (noText text)
  | _ => rfl

/-- Without a tokenizer, a scalar has no part but the one that stands for it. -/
theorem leafPart?_of_mem_leafParts (untokenized : deriver.tokenizer = none) {value : Value}
    {leaf : KeyPart} (isLeaf : leaf ∈ deriver.leafParts value) :
    value.leafPart? = some leaf := by
  by_cases isText : ∃ text, value = .string text
  · rcases isText with ⟨text, rfl⟩
    have isLeaf : leaf ∈ deriver.textParts text := isLeaf
    rw [textParts, untokenized] at isLeaf
    rw [List.mem_singleton.mp isLeaf]
    rfl
  · rw [leafParts_eq fun text same => isText ⟨text, same⟩] at isLeaf
    exact Option.mem_toList.mp isLeaf

theorem leafParts_ne_nil (deriver : Deriver) {value : Value} (hasLeaf : value.HasLeaf) :
    deriver.leafParts value ≠ [] := by
  by_cases isText : ∃ text, value = .string text
  · rcases isText with ⟨text, rfl⟩
    change deriver.textParts text ≠ []
    unfold textParts
    split
    · rename_i tokenizer _
      exact fun none => tokenizer.terms_ne_nil text (List.map_eq_nil_iff.mp none)
    · exact nofun
  · rcases Value.leafPart?_isSome hasLeaf with ⟨part, isPart⟩
    rw [leafParts_eq fun text same => isText ⟨text, same⟩, isPart]
    exact nofun

/-- A literal that is no expression, or none that compiles, asks for the parts
that it would have as part of a record. -/
theorem literalLeaves_eq {value : Value}
    (inert : forall source flags, value = .regExp source flags ->
      Regex.compile? source flags = none) :
    deriver.literalLeaves value = (deriver.leafParts value).map .exact := by
  cases value with
  | regExp source flags =>
      rw [literalLeaves, inert source flags rfl]
      rfl
  | _ => rfl

theorem literalLeaves_of_isData {value : Value}
    (isData : forall source flags, value ≠ .regExp source flags) :
    deriver.literalLeaves value = (deriver.leafParts value).map .exact :=
  literalLeaves_eq fun source flags same => absurd same (isData source flags)

/-- What is no number has no part among the numbers. -/
theorem isNaN_of_mem_leafParts {value : Value} {n : Number}
    (isLeaf : KeyPart.number n ∈ deriver.leafParts value) : n.isNaN = false := by
  by_cases isText : ∃ text, value = .string text
  · rcases isText with ⟨text, rfl⟩
    have isLeaf : KeyPart.number n ∈ deriver.textParts text := isLeaf
    unfold textParts at isLeaf
    split at isLeaf
    · rcases List.mem_map.mp isLeaf with ⟨token, _, isToken⟩
      cases isToken
    · cases List.mem_singleton.mp isLeaf
  · rw [leafParts_eq fun text same => isText ⟨text, same⟩, Option.mem_toList] at isLeaf
    cases value with
    | number m =>
        cases isNaN : m.isNaN with
        | true =>
            rw [Value.leafPart?_of_isNaN isNaN] at isLeaf
            cases isLeaf
        | false =>
            rw [Value.leafPart?, isNaN] at isLeaf
            cases isLeaf
            exact isNaN
    | string text => exact absurd ⟨text, rfl⟩ isText
    | _ => cases isLeaf

/-- Equal values are indexed under the same keys. -/
theorem leafKeys_of_same (deriver : Deriver) {first second : Value}
    (equal : (first == second) = true) :
    (deriver.leafParts first).map KeyPart.encode =
      (deriver.leafParts second).map KeyPart.encode := by
  by_cases isText : ∃ text, first = .string text
  · rcases isText with ⟨text, rfl⟩
    cases second with
    | string text' =>
        cases eq_of_beq (show (text == text') = true from equal)
        rfl
    | _ => cases equal
  · have isText' : ¬ ∃ text, second = .string text := by
      rintro ⟨text, rfl⟩
      cases first with
      | string text' => exact isText ⟨text', rfl⟩
      | _ => cases equal
    have parts := (Value.leaf_of_same equal).2
    rw [leafParts_eq fun text same => isText ⟨text, same⟩,
      leafParts_eq fun text same => isText' ⟨text, same⟩]
    cases isPart : first.leafPart? with
    | none =>
        rw [isPart] at parts
        rw [Option.map_eq_none_iff.mp parts.symm]
    | some part =>
        rw [isPart] at parts
        rcases Option.map_eq_some_iff.mp parts.symm with ⟨part', isPart', same⟩
        rw [isPart']
        exact congrArg (fun key => [key]) same.symm

/-- What is looked up for a value is held by every equal one. -/
theorem exists_samePart (deriver : Deriver) {expected value : Value}
    (equal : (expected == value) = true) {part : KeyPart}
    (isPart : part ∈ deriver.leafParts expected) :
    ∃ held ∈ deriver.leafParts value, TermLeaf.samePart part held.keyed = true := by
  have isKey := List.mem_map_of_mem (f := KeyPart.encode) isPart
  rw [deriver.leafKeys_of_same equal] at isKey
  rcases List.mem_map.mp isKey with ⟨held, isHeld, same⟩
  refine ⟨held, isHeld, TermLeaf.samePart_of_encode_eq ?_ same.symm⟩
  rintro n rfl
  exact isNaN_of_mem_leafParts isPart

theorem mem_queryLeaves_iff {path : List PatternKey} {leaves : List TermLeaf} {term : QueryTerm} :
    term ∈ deriver.queryLeaves path leaves ↔
      deriver.withinDeclared keyAdmits path = true ∧ ∃ leaf ∈ leaves, term = ⟨path, leaf⟩ := by
  unfold queryLeaves
  split
  · rename_i within
    rw [List.mem_map]
    constructor
    · rintro ⟨leaf, member, rfl⟩
      exact ⟨within, leaf, member, rfl⟩
    · rintro ⟨_, leaf, member, rfl⟩
      exact ⟨leaf, member, rfl⟩
  · rename_i outside
    constructor
    · exact nofun
    · exact fun inside => absurd inside.1 outside

/-- A token of a stored string passes every test. -/
theorem testStored_of_token {tokenizer : Tokenizer} {text token : String}
    (isStored : (Value.string text).IsStored) (isToken : token ∈ tokenizer.terms text)
    (test : Value -> Verdict) :
    TermLeaf.testStored true test (KeyPart.text token).keyed = .matched := by
  have plain := Tokenizer.decodeString_of_mem_terms isStored.decodeString isToken
  unfold TermLeaf.testStored
  rw [show Value.ofLeafPart (KeyPart.text token).keyed = .string token from plain]
  rfl

/-- A stored part of a scalar passes every test that the scalar passes. -/
theorem testStored_of_mem_leafParts {value : Value} (isStored : value.IsStored) {leaf : KeyPart}
    (isLeaf : leaf ∈ deriver.leafParts value) {test : Value -> Verdict}
    (matched : test value = .matched) :
    TermLeaf.testStored deriver.tokenizer.isSome test leaf.keyed = .matched := by
  by_cases isText : ∃ text, value = .string text
  · rcases isText with ⟨text, rfl⟩
    have isLeaf : leaf ∈ deriver.textParts text := isLeaf
    unfold textParts at isLeaf
    split at isLeaf
    · rename_i tokenizer isTokenizer
      rcases List.mem_map.mp isLeaf with ⟨token, isToken, rfl⟩
      rw [isTokenizer]
      exact testStored_of_token isStored isToken test
    · rename_i noTokenizer
      cases List.mem_singleton.mp isLeaf
      unfold TermLeaf.testStored
      rw [noTokenizer, isStored.ofLeafPart rfl]
      exact matched
  · rw [leafParts_eq fun text same => isText ⟨text, same⟩, Option.mem_toList] at isLeaf
    have noText : value.string?.isSome = false := by
      cases value with
      | string text => exact absurd ⟨text, rfl⟩ isText
      | _ => rfl
    unfold TermLeaf.testStored
    dsimp only
    rw [isStored.ofLeafPart isLeaf, noText, Bool.and_false]
    exact matched

/-- A scalar within the declared paths has a term for each of its parts. -/
theorem mem_termsAt_of_leaf {names : List String} (nonempty : names ≠ [])
    (within : deriver.withinDeclared nameAdmits names = true) {value : Value}
    (hasLeaf : value.HasLeaf) {leaf : KeyPart} (isLeaf : leaf ∈ deriver.leafParts value) :
    ⟨names, leaf⟩ ∈ deriver.termsAt names value := by
  rw [termsAt_scalar hasLeaf.2, mem_leafTerms_iff]
  exact ⟨rfl, nonempty, within, isLeaf⟩

/-- A scalar that matches a definite leaf answers its terms. -/
theorem answers_leaf {names : List String} (nonempty : names ≠ []) {pattern : Pattern}
    (definite : pattern.Definite) {value : Value} (isStored : value.IsStored)
    (matched : pattern.verdict value = .matched) :
    ∀ term ∈ deriver.queryTermsAt (names.map .name) pattern,
      ∃ held ∈ deriver.termsAt names value, deriver.Answers term held := by
  intro term member
  have hasLeaf := definite.hasLeaf matched
  have tested {test : TermLeaf} (isTest : pattern.testLeaf? = some test)
      (asked : term ∈ deriver.queryLeaves (names.map .name) [test]) :
      ∃ held ∈ deriver.termsAt names value, deriver.Answers term held := by
    rcases mem_queryLeaves_iff.mp asked with ⟨within, leaf, isTested, rfl⟩
    rw [withinDeclared_map_name] at within
    cases List.mem_singleton.mp isTested
    rcases List.exists_mem_of_ne_nil _ (deriver.leafParts_ne_nil hasLeaf) with
      ⟨part, isPart⟩
    exact ⟨⟨names, part⟩, mem_termsAt_of_leaf nonempty within hasLeaf isPart,
      .tested names isTest definite isStored isPart matched⟩
  cases pattern with
  | nested fields => cases definite
  | regex expression => exact tested rfl member
  | predicate test => exact tested rfl member
  | operator comparison => exact tested rfl member
  | literal expected =>
      cases definite with
      | literal isThere isData =>
          rcases mem_queryLeaves_iff.mp member with ⟨within, leaf, isAsked, rfl⟩
          rw [withinDeclared_map_name] at within
          rw [literalLeaves_of_isData isData] at isAsked
          rcases List.mem_map.mp isAsked with ⟨part, isPart, rfl⟩
          rcases deriver.exists_samePart (Verdict.ofBool_eq_matched.mp matched) isPart with
            ⟨held, isHeld, same⟩
          exact ⟨⟨names, held⟩, mem_termsAt_of_leaf nonempty within hasLeaf isHeld,
            .exact names same⟩

theorem answers_of_searchable {names : List String} (nonempty : names ≠ []) {pattern : Pattern}
    (searchable : deriver.queryTermsAt (names.map .name) pattern = [] ∨ pattern.Definite)
    {value : Value} (isStored : value.IsStored) (matched : pattern.verdict value = .matched) :
    ∀ term ∈ deriver.queryTermsAt (names.map .name) pattern,
      ∃ held ∈ deriver.termsAt names value, deriver.Answers term held := by
  rcases searchable with none | definite
  · rw [none]
    exact nofun
  · exact answers_leaf nonempty definite isStored matched

/-! ## Whole patterns -/

theorem isStored_undefined : Value.undefined.IsStored :=
  ⟨.undefined, true, rfl⟩

theorem isStored_of_get? {value child : Value} {name : String} (isStored : value.IsStored)
    (isChild : value.get? name = some child) : child.IsStored := by
  cases value with
  | object fields => exact isStored.field (name, child) (Rows.mem_of_get? isChild)
  | array items =>
      rcases Option.bind_eq_some_iff.mp isChild with ⟨place, _, isItem⟩
      exact isStored.item child (List.mem_of_getElem? isItem)
  | _ => cases isChild

mutual

/-- What matches a pattern beneath some names holds an answer to each of its
terms. -/
theorem answers_at (deriver : Deriver) {names : List String} (nonempty : names ≠ []) :
    forall (pattern : Pattern) (value : Value), deriver.Searchable (names.map .name) pattern ->
      value.IsStored -> pattern.verdict value = .matched ->
      ∀ term ∈ deriver.queryTermsAt (names.map .name) pattern,
        ∃ held ∈ deriver.termsAt names value, deriver.Answers term held
  | .nested fields, value, searchable, isStored, matched => by
      have matched := Verdict.ofBool_eq_matched.mp matched
      exact answers_fields deriver names fields value searchable isStored
        (Bool.and_eq_true_iff.mp matched).2
  | .literal expected, _, searchable, isStored, matched =>
      answers_of_searchable nonempty searchable isStored matched
  | .regex expression, _, searchable, isStored, matched =>
      answers_of_searchable nonempty searchable isStored matched
  | .predicate test, _, searchable, isStored, matched =>
      answers_of_searchable nonempty searchable isStored matched
  | .operator comparison, _, searchable, isStored, matched =>
      answers_of_searchable nonempty searchable isStored matched

theorem answers_fields (deriver : Deriver) (names : List String) :
    forall (fields : List (PatternKey × Pattern)) (value : Value),
      deriver.SearchableFields (names.map .name) fields -> value.IsStored ->
      Pattern.fieldsMatch fields value = true ->
      ∀ term ∈ deriver.queryTermsOfFields (names.map .name) fields,
        ∃ held ∈ deriver.termsAt names value, deriver.Answers term held
  | [], _, _, _, _ => nofun
  | (key, pattern) :: rest, value, searchable, isStored, matched => by
      rcases searchable with ⟨⟨name, rfl, canonical⟩, here, later⟩
      rcases Bool.and_eq_true_iff.mp matched with ⟨isMatch, restMatches⟩
      have matched := eq_of_beq isMatch
      have path : names.map PatternKey.name ++ [.name name] = (names ++ [name]).map .name := by
        rw [List.map_append]
        rfl
      have below : names ++ [name] ≠ [] := List.append_ne_nil_of_right_ne_nil names nofun
      rw [path] at here
      intro term member
      rw [queryTermsOfFields, path, leadsToDeclared_map_name] at member
      rcases List.mem_append.mp member with asked | asked
      · split at asked
        · rename_i leads
          cases isChild : value.get? name with
          | some child =>
              rw [isChild] at matched
              rcases answers_at deriver below pattern child here (isStored_of_get? isStored isChild)
                matched term asked with ⟨held, isHeld, answers⟩
              exact ⟨held, termsAt_child canonical isChild leads isHeld, answers⟩
          | none =>
              -- Nothing is there, and what is not there holds no term.
              rw [isChild] at matched
              rcases answers_at deriver below pattern .undefined here isStored_undefined matched
                term asked with ⟨held, isHeld, _⟩
              change held ∈ deriver.leafTerms _ .undefined at isHeld
              rw [leafTerms_undefined] at isHeld
              cases isHeld
        · cases asked
      · exact answers_fields deriver names rest value later isStored restMatches term asked

end

end Deriver

end RecordIndex
