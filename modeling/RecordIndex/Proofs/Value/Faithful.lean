import RecordIndex.Proofs.Key.Parts
import RecordIndex.Proofs.Pattern.Comparing
import RecordIndex.Proofs.Value.RoundTrip

namespace RecordIndex

/-!
# Leaves are faithful to values

A scalar is read back from its leaf as an equal one, and two scalars have leaves
with the same bytes exactly when they are equal.  Numbers that are no numbers,
dates, expressions, symbols and strings all share the texts, so this asks that
no string is taken for a tag and that expressions have the flags of literals.

Equal scalars are told by one of them that stands for all: it is the same for
them, and a leaf keeps it.
-/

namespace Number

theorem keyed_eq_iff_equals {a b : Number} (isNumber : a.isNaN = false)
    (isNumber' : b.isNaN = false) : a.keyed = b.keyed ↔ a.equals b = true := by
  rw [keyed_eq_iff, or_iff_right_of_imp]
  rintro rfl
  exact equals_iff.mpr ⟨isNumber, isNumber', rfl⟩

end Number

namespace Value

/-! ## One for all that are equal -/

theorem isNaN_storedNumber (n : Number) : (storedNumber n).isNaN = n.isNaN := by
  unfold storedNumber
  cases notNumber : n.isNaN with
  | true => exact (by decide : Number.nan.isNaN = true)
  | false => exact isNaN_keyed notNumber

theorem storedNumber_keyed (n : Number) : storedNumber n.keyed = storedNumber n := by
  unfold storedNumber
  rw [Number.isNaN_keyed, Number.keyed_keyed]

/-- Numbers are equal as data when they are stored as one. -/
theorem storedNumber_eq_iff {a b : Number} :
    storedNumber a = storedNumber b ↔ a.same b = true := by
  by_cases kinds : a.isNaN = b.isNaN
  · cases notNumber : a.isNaN with
    | true =>
        rw [storedNumber, storedNumber, Number.same, ← kinds, notNumber]
        exact iff_of_true rfl (Bool.or_true _)
    | false =>
        rw [storedNumber, storedNumber, Number.same, ← kinds, notNumber,
          if_neg Bool.false_ne_true, if_neg Bool.false_ne_true, Bool.and_self, Bool.or_false]
        exact Number.keyed_eq_iff_equals notNumber (kinds ▸ notNumber)
  · refine iff_of_false (fun same => kinds ?_) fun equal => kinds ?_
    · rw [← isNaN_storedNumber a, same, isNaN_storedNumber]
    · rcases Bool.or_eq_true_iff.mp equal with equal | noNumbers
      · obtain ⟨isNumber, isNumber', _⟩ := Number.equals_iff.mp equal
        rw [isNumber, isNumber']
      · obtain ⟨isNaN, isNaN'⟩ := Bool.and_eq_true_iff.mp noNumbers
        rw [isNaN, isNaN']

/-- The value that stands for all that equal a scalar. -/
def settled : Value -> Value
  | .number n => .number (storedNumber n)
  | value => value

/-- What is settled as a scalar equals it. -/
theorem settled_eq_iff (first : Value) {second : Value} (scalar : second.isContainer = false) :
    first.settled = second.settled ↔ (first == second) = true := by
  cases second with
  | number b =>
      cases first with
      | number a =>
          change Value.number (storedNumber a) = .number (storedNumber b) ↔ a.same b = true
          rw [number.injEq, storedNumber_eq_iff]
      | _ => exact ⟨nofun, nofun⟩
  | undefined =>
      cases first with
      | undefined => exact iff_of_true rfl rfl
      | _ => exact ⟨nofun, nofun⟩
  | null =>
      cases first with
      | null => exact iff_of_true rfl rfl
      | _ => exact ⟨nofun, nofun⟩
  | bool b =>
      cases first with
      | bool a =>
          change Value.bool a = .bool b ↔ (a == b) = true
          rw [bool.injEq, beq_iff_eq]
      | _ => exact ⟨nofun, nofun⟩
  | string text =>
      cases first with
      | number a => exact ⟨nofun, nofun⟩
      | _ => exact same_string_iff.symm
  | date millis' =>
      cases first with
      | date millis =>
          change Value.date millis = .date millis' ↔ (millis == millis') = true
          rw [date.injEq, beq_iff_eq]
      | _ => exact ⟨nofun, nofun⟩
  | regExp source flags =>
      cases first with
      | number a => exact ⟨nofun, nofun⟩
      | _ => exact same_regExp_iff.symm
  | symbol name' =>
      cases first with
      | symbol name =>
          change Value.symbol name = .symbol name' ↔ (name == name') = true
          rw [symbol.injEq, beq_iff_eq]
      | _ => exact ⟨nofun, nofun⟩
  | array items => cases scalar
  | object fields => cases scalar

/-! ## Leaves -/

theorem settled_ofLeafPart {value : Value} (unreserved : value.Unreserved) {part : KeyPart}
    (isPart : value.leafPart? = some part) : (ofLeafPart part).settled = value.settled := by
  cases value with
  | undefined | array _ | object _ => cases isPart
  | null | bool value =>
      cases isPart
      rfl
  | number n =>
      cases notNumber : n.isNaN with
      | true =>
          rw [leafPart?_of_isNaN notNumber] at isPart
          cases isPart
          have stored : storedNumber n = Number.nan := if_pos notNumber
          exact congrArg Value.number stored.symm
      | false =>
          rw [leafPart?, notNumber] at isPart
          cases isPart
          rfl
  | string text =>
      cases isPart
      exact congrArg settled unreserved
  | date millis =>
      cases isPart
      exact congrArg settled (decodeString_dateTag millis)
  | regExp source flags =>
      cases isPart
      exact congrArg settled (decodeString_regExpTag source unreserved)
  | symbol name =>
      cases isPart
      exact congrArg settled (decodeString_symbolTag name)

/-- A key keeps what a leaf stands for. -/
theorem settled_ofLeafPart_keyed (part : KeyPart) :
    (ofLeafPart part.keyed).settled = (ofLeafPart part).settled := by
  cases part with
  | number n =>
      change Value.number (storedNumber n.keyed) = .number (storedNumber n)
      rw [storedNumber_keyed]
  | _ => rfl

/-- The value has a leaf, no string is taken for a tag, and an expression has the
flags of a literal. -/
structure Indexable (value : Value) : Prop where
  hasLeaf : value.HasLeaf
  unreserved : value.Unreserved

/-- Every such value has a leaf, is read back from it as an equal value, and
shares the bytes of its leaf with exactly the values that equal it. -/
theorem leaf_faithful {first second : Value} (indexable : first.Indexable)
    (indexable' : second.Indexable) :
    ∃ part part', first.leafPart? = some part ∧ second.leafPart? = some part' ∧
      (ofLeafPart part == first) = true ∧
      (part.encode = part'.encode ↔ (first == second) = true) := by
  obtain ⟨part, isPart⟩ := leafPart?_isSome indexable.hasLeaf
  obtain ⟨part', isPart'⟩ := leafPart?_isSome indexable'.hasLeaf
  have read := settled_ofLeafPart indexable.unreserved isPart
  have read' := settled_ofLeafPart indexable'.unreserved isPart'
  refine ⟨part, part', isPart, isPart', (settled_eq_iff _ indexable.hasLeaf.2).mp read, ?_, ?_⟩
  · intro same
    have kept : part.keyed = part'.keyed := KeyPart.encode_inj.mp same
    apply (settled_eq_iff first indexable'.hasLeaf.2).mp
    calc first.settled
        = (ofLeafPart part.keyed).settled := by rw [settled_ofLeafPart_keyed, read]
      _ = (ofLeafPart part'.keyed).settled := by rw [kept]
      _ = second.settled := by rw [settled_ofLeafPart_keyed, read']
  · intro equal
    have parts := (leaf_of_same equal).2
    rw [isPart, isPart'] at parts
    exact Option.some.inj parts

/-- An expression with a slash inside, and the string that spells it. -/
theorem leaf_faithful_expression :
    (Value.regExp "a/b" "gi").Indexable ∧ (Value.string "/a/b/gi").Indexable ∧
      ∃ part part', (Value.regExp "a/b" "gi").leafPart? = some part ∧
        (Value.string "/a/b/gi").leafPart? = some part' ∧
        (ofLeafPart part == .regExp "a/b" "gi") = true ∧ part.encode ≠ part'.encode := by
  have expression : (Value.regExp "a/b" "gi").Indexable := ⟨⟨rfl, rfl⟩, rfl⟩
  have text : (Value.string "/a/b/gi").Indexable := ⟨⟨rfl, rfl⟩, rfl⟩
  obtain ⟨part, part', isPart, isPart', read, equal⟩ := leaf_faithful expression text
  exact ⟨expression, text, part, part', isPart, isPart', read,
    fun same => nomatch equal.mp same⟩

end Value

end RecordIndex
