import RecordIndex.Proofs.Pattern.Leaves
import RecordIndex.Proofs.Term.Paths

namespace RecordIndex

/-!
# A value as a pattern

A value is also the pattern of what looks like it.  As long as no field name
spells an expression and no expression in the value compiles, the pattern asks
for the very terms that the value has, one by one and in their order.  An
expression that compiles is not looked up: it is asked for as an expression,
and the only scalars that satisfy one are those that have a text.
-/

namespace Value

/-! ## What is read as an expression -/

/-- No field, at any depth, has a name that spells an expression. -/
def PlainNamed (value : Value) : Prop :=
  forall path fields, value.getPath? path = some (.object fields) ->
    ∀ field ∈ fields, Regex.ofLiteral? field.1 = none

/-- No expression in the value, at any depth, compiles. -/
def Inert (value : Value) : Prop :=
  forall path source flags, value.getPath? path = some (.regExp source flags) ->
    Regex.compile? source flags = none

theorem PlainNamed.child {value child : Value} (plain : value.PlainNamed) {name : String}
    (isChild : value.get? name = some child) : child.PlainNamed := by
  intro path fields isReached
  exact plain (name :: path) fields ((getPath?_cons isChild path).trans isReached)

theorem Inert.child {value child : Value} (inert : value.Inert) {name : String}
    (isChild : value.get? name = some child) : child.Inert := by
  intro path source flags isReached
  exact inert (name :: path) source flags ((getPath?_cons isChild path).trans isReached)

/-- A scalar is reached on no path but the empty one. -/
theorem eq_of_getPath? {value reached : Value} (scalar : value.isContainer = false)
    {path : List String} (isReached : value.getPath? path = some reached) : reached = value := by
  cases path with
  | nil => exact (Option.some.inj isReached).symm
  | cons name rest =>
      rcases Option.bind_eq_some_iff.mp isReached with ⟨child, isChild, _⟩
      cases value with
      | array items => cases scalar
      | object fields => cases scalar
      | _ => cases isChild

/-- Nothing is read as an expression in an object of scalars whose names do not
spell any. -/
theorem plainNamed_of_scalars {fields : List (String × Value)} (plain : ∀ field ∈ fields,
    Regex.ofLiteral? field.1 = none ∧ field.2.isContainer = false) :
    (Value.object fields).PlainNamed := by
  intro path inner isReached
  cases path with
  | nil =>
      cases isReached
      exact fun field isField => (plain field isField).1
  | cons name rest =>
      rcases Option.bind_eq_some_iff.mp isReached with ⟨child, isChild, isReached⟩
      have scalar := (plain (name, child) (Rows.mem_of_get? isChild)).2
      cases eq_of_getPath? scalar isReached
      cases scalar

/-- An object of scalars is inert if no expression among them compiles. -/
theorem inert_of_scalars {fields : List (String × Value)} (data : ∀ field ∈ fields,
    field.2.isContainer = false ∧ forall source flags, field.2 = .regExp source flags ->
      Regex.compile? source flags = none) : (Value.object fields).Inert := by
  intro path source flags isReached
  cases path with
  | nil => cases isReached
  | cons name rest =>
      rcases Option.bind_eq_some_iff.mp isReached with ⟨child, isChild, isReached⟩
      rcases data (name, child) (Rows.mem_of_get? isChild) with ⟨scalar, fails⟩
      exact fails source flags (eq_of_getPath? scalar isReached).symm

/-- Every scalar equals itself, one that is no number included. -/
theorem same_self {value : Value} (scalar : value.isContainer = false) :
    (value == value) = true := by
  cases value with
  | undefined | null => rfl
  | bool value => exact beq_self_eq_true value
  | number n =>
      change (n.equals n || (n.isNaN && n.isNaN)) = true
      cases notNumber : n.isNaN with
      | true => exact Bool.or_true _
      | false =>
          unfold Number.equals Number.compare?
          rw [notNumber, Rows.compare_self]
          rfl
  | string text => exact beq_self_eq_true text
  | date millis => exact beq_self_eq_true millis
  | regExp source flags =>
      exact Bool.and_eq_true_iff.mpr ⟨beq_self_eq_true source, beq_self_eq_true flags⟩
  | symbol name => exact beq_self_eq_true name
  | array items => cases scalar
  | object fields => cases scalar

/-! ## The pattern matches -/

theorem parse_of_plainNamed {fields : List (String × Value)}
    (plain : (Value.object fields).PlainNamed) {field : String × Value} (isField : field ∈ fields) :
    PatternKey.parse field.1 = .name field.1 := by
  unfold PatternKey.parse
  rw [plain [] fields rfl field isField]

theorem isMatch_literal {value : Value} (scalar : value.isContainer = false) :
    (Pattern.literal value).isMatch value = true := by
  unfold Pattern.isMatch Pattern.verdict
  rw [same_self scalar]
  rfl

mutual

/-- A value matches its own pattern. -/
theorem isMatch_ofValue : forall value : Value, value.WellFormed -> value.PlainNamed ->
    (Pattern.ofValue value).isMatch value = true
  | .array items, wellFormed, plain => by
      -- Children are found in the whole, which goes along while the list gets shorter.
      have matched : Pattern.fieldsMatch (Pattern.ofItems 0 items) (.array items) = true := by
        refine fieldsMatch_ofItems wellFormed plain 0 items fun place item isItem => ?_
        rw [Nat.zero_add]
        exact get?_item wellFormed isItem
      unfold Pattern.isMatch
      rw [Pattern.ofValue, Pattern.verdict, matched]
      rfl
  | .object fields, wellFormed, plain => by
      have matched : Pattern.fieldsMatch (Pattern.ofFields fields) (.object fields) = true :=
        fieldsMatch_ofFields wellFormed plain fields fun _ isField =>
          ⟨get?_field wellFormed isField, parse_of_plainNamed plain isField⟩
      unfold Pattern.isMatch
      rw [Pattern.ofValue, Pattern.verdict, matched]
      rfl
  | .undefined, _, _ | .null, _, _ | .bool _, _, _ | .number _, _, _ | .string _, _, _
  | .date _, _, _ | .regExp _ _, _, _ | .symbol _, _, _ =>
      isMatch_literal rfl

theorem fieldsMatch_ofItems {whole : Value} (wellFormed : whole.WellFormed)
    (plain : whole.PlainNamed) : forall (index : Nat) (items : List Value),
    (forall place item, items[place]? = some item ->
      whole.get? (Nat.repr (index + place)) = some item) ->
    Pattern.fieldsMatch (Pattern.ofItems index items) whole = true
  | _, [], _ => rfl
  | index, item :: rest, areChildren => by
      have isChild : whole.get? (Nat.repr index) = some item := areChildren 0 item rfl
      have here := isMatch_ofValue item (wellFormed.child isChild) (plain.child isChild)
      have later := fieldsMatch_ofItems wellFormed plain (index + 1) rest
        fun place item isItem => by
          rw [Nat.add_right_comm]
          exact areChildren (place + 1) item isItem
      rw [Pattern.ofItems, Pattern.fieldsMatch, later, isChild]
      exact Bool.and_eq_true_iff.mpr ⟨here, rfl⟩

theorem fieldsMatch_ofFields {whole : Value} (wellFormed : whole.WellFormed)
    (plain : whole.PlainNamed) : forall fields : List (String × Value),
    (∀ field ∈ fields, whole.get? field.1 = some field.2 ∧
      PatternKey.parse field.1 = .name field.1) ->
    Pattern.fieldsMatch (Pattern.ofFields fields) whole = true
  | [], _ => rfl
  | (name, value) :: rest, areChildren => by
      rcases areChildren (name, value) List.mem_cons_self with ⟨isChild, isName⟩
      have here := isMatch_ofValue value (wellFormed.child isChild) (plain.child isChild)
      have later := fieldsMatch_ofFields wellFormed plain rest
        fun field isField => areChildren field (List.mem_cons_of_mem _ isField)
      rw [Pattern.ofFields, isName, Pattern.fieldsMatch, later, isChild]
      exact Bool.and_eq_true_iff.mpr ⟨here, rfl⟩

end

end Value

namespace Pattern

theorem mem_ofFields {fields : List (String × Value)} {field : String × Value}
    (isField : field ∈ fields) :
    (PatternKey.parse field.1, Pattern.ofValue field.2) ∈ Pattern.ofFields fields := by
  induction fields with
  | nil => cases isField
  | cons first rest ih =>
      rcases List.mem_cons.mp isField with rfl | later
      · exact List.mem_cons_self
      · exact List.mem_cons_of_mem _ (ih later)

theorem mem_ofItems (index : Nat) {items : List Value} {place : Nat} {item : Value}
    (isItem : items[place]? = some item) :
    (PatternKey.name (Nat.repr (index + place)), Pattern.ofValue item) ∈
      Pattern.ofItems index items := by
  induction items generalizing index place with
  | nil => cases isItem
  | cons first rest ih =>
      cases place with
      | zero =>
          cases isItem
          exact List.mem_cons_self
      | succ place =>
          rw [← Nat.add_assoc, Nat.add_right_comm]
          exact List.mem_cons_of_mem _ (ih (index + 1) isItem)

end Pattern

/-- The term of a query that looks a term up. -/
def Term.lookup (term : Term) : QueryTerm :=
  ⟨term.path.map .name, .exact term.leaf⟩

namespace Deriver

variable {deriver : Deriver}

/-! ## Values that are looked up -/

/-- A scalar asks for its own terms. -/
theorem queryLeaves_of_inert (deriver : Deriver) {names : List String} (nonempty : names ≠ [])
    {value : Value} (inert : value.Inert) :
    deriver.queryLeaves (names.map .name) (deriver.literalLeaves value) =
      (deriver.leafTerms names value).map Term.lookup := by
  have notEmpty : names.isEmpty = false := List.isEmpty_eq_false_iff.mpr nonempty
  have isLiteral : deriver.literalLeaves value = (deriver.leafParts value).map .exact :=
    literalLeaves_eq fun source flags same => inert [] source flags (congrArg some same)
  unfold queryLeaves leafTerms
  rw [withinDeclared_map_name, isLiteral, notEmpty, Bool.false_or]
  cases deriver.withinDeclared nameAdmits names with
  | true =>
      rw [if_pos rfl, Bool.not_true, if_neg Bool.false_ne_true, List.map_map, List.map_map]
      rfl
  | false => rfl

/-- The terms beneath a name that is pruned are left out on both sides. -/
theorem queryTermsAt_child {names : List String} {name : String} {pattern : Pattern}
    {child : Value}
    (asks : deriver.queryTermsAt ((names ++ [name]).map .name) pattern =
      (deriver.termsAt (names ++ [name]) child).map Term.lookup) :
    (if deriver.leadsToDeclared keyAdmits (names.map .name ++ [.name name]) then
      deriver.queryTermsAt (names.map .name ++ [.name name]) pattern else []) =
        (if deriver.leadsToDeclared nameAdmits (names ++ [name]) then
          deriver.termsAt (names ++ [name]) child else []).map Term.lookup := by
  have path : names.map PatternKey.name ++ [.name name] = (names ++ [name]).map .name := by
    rw [List.map_append]
    rfl
  rw [path, leadsToDeclared_map_name, asks]
  cases deriver.leadsToDeclared nameAdmits (names ++ [name]) with
  | true => rfl
  | false => rfl

mutual

/-- The pattern of a value asks for the terms of the value. -/
theorem queryTermsAt_ofValue (deriver : Deriver) {names : List String} (nonempty : names ≠ []) :
    forall value : Value, value.WellFormed -> value.PlainNamed -> value.Inert ->
      deriver.queryTermsAt (names.map .name) (.ofValue value) =
        (deriver.termsAt names value).map Term.lookup
  | .array items, wellFormed, plain, inert =>
      queryTermsOfFields_ofItems deriver names wellFormed plain inert 0 items
        fun place item isItem => by
          rw [Nat.zero_add]
          exact Value.get?_item wellFormed isItem
  | .object fields, wellFormed, plain, inert =>
      queryTermsOfFields_ofFields deriver names wellFormed plain inert fields
        fun _ isField => ⟨Value.get?_field wellFormed isField,
          Value.parse_of_plainNamed plain isField⟩
  | .undefined, _, _, inert | .null, _, _, inert | .bool _, _, _, inert | .number _, _, _, inert
  | .string _, _, _, inert | .date _, _, _, inert | .regExp _ _, _, _, inert
  | .symbol _, _, _, inert => deriver.queryLeaves_of_inert nonempty inert

theorem queryTermsOfFields_ofItems (deriver : Deriver) (names : List String) {whole : Value}
    (wellFormed : whole.WellFormed) (plain : whole.PlainNamed) (inert : whole.Inert) :
    forall (index : Nat) (items : List Value),
      (forall place item, items[place]? = some item ->
        whole.get? (Nat.repr (index + place)) = some item) ->
      deriver.queryTermsOfFields (names.map .name) (Pattern.ofItems index items) =
        (deriver.termsOfItems names index items).map Term.lookup
  | _, [], _ => rfl
  | index, item :: rest, areChildren => by
      have isChild : whole.get? (Nat.repr index) = some item := areChildren 0 item rfl
      have below : names ++ [Nat.repr index] ≠ [] := List.append_ne_nil_of_right_ne_nil names nofun
      have here := queryTermsAt_ofValue deriver below item (wellFormed.child isChild)
        (plain.child isChild) (inert.child isChild)
      have later := queryTermsOfFields_ofItems deriver names wellFormed plain inert (index + 1) rest
        fun place item isItem => by
          rw [Nat.add_right_comm]
          exact areChildren (place + 1) item isItem
      rw [Pattern.ofItems, queryTermsOfFields, queryTermsAt_child here, later, ← List.map_append]
      rfl

theorem queryTermsOfFields_ofFields (deriver : Deriver) (names : List String) {whole : Value}
    (wellFormed : whole.WellFormed) (plain : whole.PlainNamed) (inert : whole.Inert) :
    forall fields : List (String × Value),
      (∀ field ∈ fields, whole.get? field.1 = some field.2 ∧
        PatternKey.parse field.1 = .name field.1) ->
      deriver.queryTermsOfFields (names.map .name) (Pattern.ofFields fields) =
        (deriver.termsOfFields names fields).map Term.lookup
  | [], _ => rfl
  | (name, value) :: rest, areChildren => by
      rcases areChildren (name, value) List.mem_cons_self with ⟨isChild, isName⟩
      have below : names ++ [name] ≠ [] := List.append_ne_nil_of_right_ne_nil names nofun
      have here := queryTermsAt_ofValue deriver below value (wellFormed.child isChild)
        (plain.child isChild) (inert.child isChild)
      have later := queryTermsOfFields_ofFields deriver names wellFormed plain inert rest
        fun field isField => areChildren field (List.mem_cons_of_mem _ isField)
      rw [Pattern.ofFields, isName, queryTermsOfFields, queryTermsAt_child here, later,
        ← List.map_append]
      rfl

end

/-- An object that no expression gets in the way of is looked up term by term. -/
theorem queryTerms_ofValue (deriver : Deriver) {value : Value} (isObject : value.isObject = true)
    (wellFormed : value.WellFormed) (plain : value.PlainNamed) (inert : value.Inert) :
    deriver.queryTerms (.ofValue value) = (deriver.recordTerms value).map Term.lookup := by
  cases value with
  | object fields =>
      exact queryTermsOfFields_ofFields deriver [] wellFormed plain inert fields
        fun _ isField => ⟨Value.get?_field wellFormed isField,
          Value.parse_of_plainNamed plain isField⟩
  | _ => cases isObject

/-- A term of a value answers its own lookup. -/
theorem answers_lookup {path : List String} {value : Value} {held : Term}
    (isHeld : held ∈ deriver.termsAt path value) : deriver.Answers held.lookup held := by
  rcases mem_termsAt_iff.mp isHeld with ⟨names, scalar, _, member⟩
  have isLeaf := (mem_leafTerms_iff.mp member).2.2.2
  refine .exact held.path (TermLeaf.samePart_of_encode_eq (fun n isNumber => ?_) rfl)
  rw [isNumber] at isLeaf
  exact isNaN_of_mem_leafParts isLeaf

/-! ## Expressions that compile -/

theorem queryTerms_of_isObject (deriver : Deriver) {value : Value}
    (isObject : value.isObject = true) :
    deriver.queryTerms (.ofValue value) = deriver.queryTermsAt [] (.ofValue value) := by
  cases value with
  | object fields => rfl
  | _ => cases isObject

/-- Where everything is indexed, the pattern of a child asks for nothing that the
pattern of the whole does not ask for.  The pattern may spell the name of an item
in another way. -/
theorem queryTermsAt_subset_ofValue (everything : deriver.declared = none) {value child : Value}
    (wellFormed : value.WellFormed) (plain : value.PlainNamed) {name : String}
    (isChild : value.get? name = some child) : ∃ name', value.get? name' = some child ∧
      forall front : List String,
        deriver.queryTermsAt ((front ++ [name']).map .name) (.ofValue child) ⊆
          deriver.queryTermsAt (front.map .name) (.ofValue value) := by
  have leads (path : List PatternKey) : deriver.leadsToDeclared keyAdmits path = true := by
    unfold leadsToDeclared
    rw [everything]
  cases value with
  | object fields =>
      have isField := Rows.mem_of_get? isChild
      have isPart := Pattern.mem_ofFields isField
      rw [Value.parse_of_plainNamed plain isField] at isPart
      refine ⟨name, isChild, fun front => ?_⟩
      rw [List.map_append]
      exact fun term member => mem_queryTermsOfFields_iff.mpr ⟨_, isPart, leads _, member⟩
  | array items =>
      rcases Option.bind_eq_some_iff.mp isChild with ⟨place, _, isItem⟩
      have isPart := Pattern.mem_ofItems 0 isItem
      rw [Nat.zero_add] at isPart
      refine ⟨Nat.repr place, Value.get?_item wellFormed isItem, fun front => ?_⟩
      rw [List.map_append]
      exact fun term member => mem_queryTermsOfFields_iff.mpr ⟨_, isPart, leads _, member⟩
  | _ => cases isChild

/-- Where everything is indexed, an expression in a value that compiles is not
looked up but asked for as an expression. -/
theorem exists_regex_term (everything : deriver.declared = none) {source flags : String}
    {regex : Regex} (compiles : Regex.compile? source flags = some regex) {path : List String}
    {value : Value} (wellFormed : value.WellFormed) (plain : value.PlainNamed)
    (isReached : value.getPath? path = some (.regExp source flags)) (front : List String) :
    ∃ names, value.getPath? names = some (.regExp source flags) ∧
      ⟨(front ++ names).map .name, .regex regex⟩ ∈
        deriver.queryTermsAt (front.map .name) (.ofValue value) := by
  induction path generalizing value front with
  | nil =>
      cases isReached
      have within : deriver.withinDeclared keyAdmits (front.map .name) = true := by
        unfold withinDeclared
        rw [everything]
      have isLeaf : .regex regex ∈ deriver.literalLeaves (.regExp source flags) := by
        rw [literalLeaves, compiles]
        exact List.mem_cons_self
      refine ⟨[], rfl, mem_queryLeaves_iff.mpr ⟨within, .regex regex, isLeaf, ?_⟩⟩
      rw [List.append_nil]
  | cons name rest ih =>
      rcases Option.bind_eq_some_iff.mp isReached with ⟨child, isChild, isReached⟩
      rcases queryTermsAt_subset_ofValue everything wellFormed plain isChild with
        ⟨name', isChild', asks⟩
      rcases ih (wellFormed.child isChild) (plain.child isChild) isReached (front ++ [name']) with
        ⟨names, isReached', member⟩
      refine ⟨name' :: names, (Value.getPath?_cons isChild' names).trans isReached', ?_⟩
      rw [List.append_cons]
      exact asks front member

/-- The term of an expression that is data does not satisfy an expression, since
it has no text. -/
theorem not_matched_of_isRegExp {value : Value} (wellFormed : value.WellFormed)
    (isStored : value.IsStored) {held : Term} (isHeld : held ∈ deriver.recordTerms value)
    {source flags : String} (isReached : value.getPath? held.path = some (.regExp source flags))
    (regex : Regex) :
    (TermLeaf.regex regex).verdict deriver.tokenizer.isSome held.leaf.keyed ≠ .matched := by
  intro matched
  rcases reached_of_mem_termsAt wellFormed isHeld with
    ⟨rest, reached, isPath, isReached', isLeaf⟩
  rw [show held.path = rest from isPath] at isReached
  cases isReached.symm.trans isReached'
  have isTest : (Pattern.regex regex).testLeaf? = some (.regex regex) := rfl
  rw [TermLeaf.verdict_of_testLeaf? isTest] at matched
  rcases matched_of_testStored (isStored_of_getPath? isStored isReached) isLeaf matched with
    passes | ⟨_, isText⟩
  · cases passes
  · cases isText

end Deriver

end RecordIndex
