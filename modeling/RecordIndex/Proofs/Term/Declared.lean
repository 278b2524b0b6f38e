import RecordIndex.Proofs.Term.Narrowing

namespace RecordIndex

/-!
# Declared paths as a filter

The walk through a record or a pattern turns back where no declared path can be
reached any more, and asks once more at the end.  What comes of it is what a
walk without declared paths leads to, in the same order, less the terms that lie
elsewhere.  Where a query asks by plain names alone it keeps a term at the very
paths at which a record does.
-/

namespace Deriver

/-- The same deriver with other declared paths. -/
def under (deriver : Deriver) (declared : List (List String)) : Deriver where
  declared := some declared
  tokenizer := deriver.tokenizer

/-- The path begins with a declared one. -/
def beginsDeclared (declared : List (List String)) (path : List String) : Bool :=
  declared.any fun names => names.isPrefixOf path

/-- A declared path is no longer than the path, and each segment admits the name
at its place. -/
def admitsDeclared (declared : List (List String)) (path : List PatternKey) : Bool :=
  declared.any fun names =>
    decide (names.length ≤ path.length) &&
      (path.zip names).all fun place => keyAdmits place.1 place.2

/-! ## Paths -/

theorem agrees_eq_all_zip {Segment : Type} (admits : Segment -> String -> Bool)
    (path : List Segment) (names : List String) :
    agrees admits path names = (path.zip names).all fun place => admits place.1 place.2 := by
  induction path generalizing names with
  | nil => simp [agrees]
  | cons segment path ih =>
      cases names with
      | nil => simp [agrees]
      | cons name names => simp [agrees, ih]

/-- Plain names agree with all of a path exactly if they begin with it. -/
theorem isPrefixOf_eq_agrees (names path : List String) :
    names.isPrefixOf path =
      (decide (names.length ≤ path.length) && agrees nameAdmits path names) := by
  induction names generalizing path with
  | nil => cases path <;> simp [agrees]
  | cons name names ih =>
      cases path with
      | nil => rfl
      | cons segment path =>
          have sameName : (name == segment) = nameAdmits segment name := BEq.comm
          simp only [List.isPrefixOf_cons_cons, ih, agrees, sameName, List.length_cons,
            Nat.add_le_add_iff_right, Bool.and_left_comm]

theorem withinDeclared_under_name (deriver : Deriver) (declared : List (List String))
    (path : List String) :
    (deriver.under declared).withinDeclared nameAdmits path = beginsDeclared declared path := by
  simp only [withinDeclared, under, beginsDeclared, isPrefixOf_eq_agrees]

theorem withinDeclared_under_key (deriver : Deriver) (declared : List (List String))
    (path : List PatternKey) :
    (deriver.under declared).withinDeclared keyAdmits path = admitsDeclared declared path := by
  simp only [withinDeclared, under, admitsDeclared, agrees_eq_all_zip]

/-- Keys that are plain names admit a declared path exactly if the names begin
with it. -/
theorem admitsDeclared_map_name (declared : List (List String)) (path : List String) :
    admitsDeclared declared (path.map .name) = beginsDeclared declared path := by
  unfold admitsDeclared beginsDeclared
  congr 1
  funext names
  have asked : ((path.map PatternKey.name).zip names).all
      (fun place => keyAdmits place.1 place.2) = agrees nameAdmits path names := by
    rw [agrees_eq_all_zip, List.zip_map_left, List.all_map]
    rfl
  rw [asked, isPrefixOf_eq_agrees, List.length_map]

theorem path_eq_of_literalPath? {query : QueryTerm} {path : List String}
    (isLiteral : query.literalPath? = some path) : query.path = path.map .name := by
  unfold QueryTerm.literalPath? at isLiteral
  generalize query.path = keys at isLiteral ⊢
  induction keys generalizing path with
  | nil =>
      cases isLiteral
      rfl
  | cons key keys ih =>
      cases key with
      | dynamic expression => cases isLiteral
      | name name =>
          simp only [List.mapM_cons, PatternKey.name?, Option.bind_eq_bind, Option.bind_some,
            Option.bind_eq_some_iff] at isLiteral
          rcases isLiteral with ⟨names, areNames, isPath⟩
          cases isPath
          rw [ih areNames, List.map_cons]

/-! ## Records -/

variable {deriver : Deriver}

/-- The record term lies within a declared path. -/
def retainsTerm (deriver : Deriver) (term : Term) : Bool :=
  deriver.withinDeclared nameAdmits term.path

theorem leafTerms_eq_filter (path : List String) (scalar : Value) :
    deriver.leafTerms path scalar =
      (deriver.undeclared.leafTerms path scalar).filter deriver.retainsTerm := by
  have sameParts : deriver.undeclared.leafParts scalar = deriver.leafParts scalar := by
    cases scalar with
    | _ => rfl
  have everywhere : deriver.undeclared.withinDeclared nameAdmits path = true := rfl
  unfold leafTerms
  rw [sameParts, everywhere]
  cases path.isEmpty with
  | true => rfl
  | false =>
      cases within : deriver.withinDeclared nameAdmits path with
      | true =>
          symm
          apply List.filter_eq_self.mpr
          simp [retainsTerm, within]
      | false =>
          symm
          apply List.filter_eq_nil_iff.mpr
          simp [retainsTerm, within]

/-- Declared paths leave those terms of a record that lie within them. -/
theorem recordTerms_eq_filter (value : Value) :
    deriver.recordTerms value =
      (deriver.undeclared.recordTerms value).filter deriver.retainsTerm := by
  rw [recordTerms_eq_flatMap, recordTerms_eq_flatMap, List.filter_flatMap]
  simp only [← leafTerms_eq_filter]

/-! ## Both sides -/

/-- Declared paths filter the terms of a record and those of a pattern, in their
order.  They keep a term that is asked for by plain names exactly if they keep
what a record has at its path. -/
theorem declared_paths_filter (deriver : Deriver) (declared : List (List String)) :
    (forall value, (deriver.under declared).recordTerms value =
      (deriver.undeclared.recordTerms value).filter fun term =>
        beginsDeclared declared term.path) ∧
    (forall pattern, (deriver.under declared).queryTerms pattern =
      (deriver.undeclared.queryTerms pattern).filter fun query =>
        admitsDeclared declared query.path) ∧
    forall pattern value,
      ∀ query ∈ deriver.undeclared.queryTerms pattern,
      ∀ term ∈ deriver.undeclared.recordTerms value, query.literalPath? = some term.path ->
        (query ∈ (deriver.under declared).queryTerms pattern ↔
          term ∈ (deriver.under declared).recordTerms value) := by
  have records (value : Value) : (deriver.under declared).recordTerms value =
      (deriver.undeclared.recordTerms value).filter fun term =>
        beginsDeclared declared term.path := by
    rw [recordTerms_eq_filter]
    congr 1
    funext term
    exact withinDeclared_under_name deriver declared term.path
  have queries (pattern : Pattern) : (deriver.under declared).queryTerms pattern =
      (deriver.undeclared.queryTerms pattern).filter fun query =>
        admitsDeclared declared query.path := by
    rw [queryTerms_eq_filter]
    congr 1
    funext query
    exact withinDeclared_under_key deriver declared query.path
  refine ⟨records, queries, fun pattern value query isQuery term isTerm isLiteral => ?_⟩
  rw [records, queries, List.mem_filter, List.mem_filter, path_eq_of_literalPath? isLiteral,
    admitsDeclared_map_name]
  simp only [isQuery, isTerm, true_and]

/-- A person with a name and a place. -/
def namedAndPlaced : Value :=
  .object [("name", .string "john"), ("place", .string "here")]

/-- To ask for that name and for that place. -/
def askedNameAndPlace : Pattern :=
  .nested [(.name "name", .literal (.string "john")), (.name "place", .literal (.string "here"))]

/-- With the names of people declared, their places are neither indexed nor asked
for. -/
theorem declared_paths_filter_named :
    (⟨[.name "place"], .exact (.text "here")⟩ : QueryTerm) ∈
      (undeclared ⟨none, none⟩).queryTerms askedNameAndPlace ∧
    (⟨["place"], .text "here"⟩ : Term) ∈ (undeclared ⟨none, none⟩).recordTerms namedAndPlaced ∧
    (⟨[.name "place"], .exact (.text "here")⟩ : QueryTerm).literalPath? = some ["place"] ∧
    ((⟨[.name "place"], .exact (.text "here")⟩ : QueryTerm) ∈
        (under ⟨none, none⟩ [["name"]]).queryTerms askedNameAndPlace ↔
      (⟨["place"], .text "here"⟩ : Term) ∈
        (under ⟨none, none⟩ [["name"]]).recordTerms namedAndPlaced) ∧
    (under ⟨none, none⟩ [["name"]]).recordTerms namedAndPlaced = [⟨["name"], .text "john"⟩] := by
  have isQuery : (⟨[.name "place"], .exact (.text "here")⟩ : QueryTerm) ∈
      (undeclared ⟨none, none⟩).queryTerms askedNameAndPlace := .tail _ (.head _)
  have isTerm : (⟨["place"], .text "here"⟩ : Term) ∈
      (undeclared ⟨none, none⟩).recordTerms namedAndPlaced := .tail _ (.head _)
  exact ⟨isQuery, isTerm, rfl, (declared_paths_filter ⟨none, none⟩ [["name"]]).2.2
    askedNameAndPlace namedAndPlaced _ isQuery _ isTerm rfl, rfl⟩

end Deriver

end RecordIndex
