import RecordIndex.Proofs.Term.Stored
import RecordIndex.Proofs.Value.Leaves

namespace RecordIndex

/-!
# Which values survive storing

A value that is stored with everything undefined kept is read back as an equal
value exactly when none of its strings is taken for a tag and its expressions
have the flags of literals.  Numbers are no obstacle: a zero loses its sign and
what is not a number its bits, but values are equal all the same.

A value for which this holds can be stored without what is undefined, and then
reads back without it: fields are gone and items are null.
-/

namespace Number

theorem rank_keyed (n : Number) : n.keyed.rank = n.rank := by
  unfold keyed
  split
  · rename_i none
    rw [(rank_eq_zero_iff n).mpr none]
    rfl
  · rfl

end Number

namespace Value

mutual

/-- The value without its undefined fields, and with null for its undefined
items. -/
def withoutUndefined : Value -> Value
  | .array items => .array (withoutUndefinedItems items)
  | .object fields => .object (withoutUndefinedFields fields)
  | value => value
termination_by structural value => value

def withoutUndefinedItems : List Value -> List Value
  | [] => []
  | item :: rest =>
      (if item.isUndefined then .null else withoutUndefined item) :: withoutUndefinedItems rest
termination_by structural items => items

def withoutUndefinedFields : List (String × Value) -> List (String × Value)
  | [] => []
  | (name, value) :: rest =>
      if value.isUndefined then withoutUndefinedFields rest
      else (name, withoutUndefined value) :: withoutUndefinedFields rest
termination_by structural fields => fields

end

/-! ## Scalars -/

/-- A number equals what is read for it. -/
theorem same_storedNumber (n : Number) : (storedNumber n).same n = true := by
  unfold storedNumber Number.same
  cases notNumber : n.isNaN with
  | true => rfl
  | false =>
      have equal : n.keyed.equals n = true := by
        unfold Number.equals Number.compare?
        rw [isNaN_keyed notNumber, notNumber, Number.rank_keyed, Int.compare_eq_eq.mpr rfl]
        rfl
      rw [if_neg Bool.false_ne_true, equal]
      rfl

/-- Only the string itself equals a string. -/
theorem same_string_iff {value : Value} {text : String} :
    value.same (.string text) = true ↔ value = .string text := by
  cases value with
  | string text' =>
      constructor
      · exact fun equal => congrArg Value.string (of_decide_eq_true equal)
      · rintro same
        cases same
        exact decide_eq_true rfl
  | _ => exact ⟨nofun, nofun⟩

theorem same_regExp_iff {value : Value} {source flags : String} :
    value.same (.regExp source flags) = true ↔ value = .regExp source flags := by
  cases value with
  | regExp source' flags' =>
      change (source' == source && flags' == flags) = true ↔ _
      rw [Bool.and_eq_true, beq_iff_eq, beq_iff_eq, regExp.injEq]
  | _ => exact ⟨nofun, nofun⟩

/-- An expression is read back when its flags are those of a literal. -/
theorem decodeString_regExpTag_iff {source flags : String} :
    decodeString (regExpTag source flags) = .regExp source flags ↔
      flags.toList.all isLiteralFlag = true := by
  refine ⟨fun read => ?_, decodeString_regExpTag source⟩
  rcases decodeString_cases (regExpTag source flags) with same | same | ⟨n, _, same⟩ |
    ⟨millis, same⟩ | ⟨source', flags', literal, same⟩ | ⟨name, same⟩
  all_goals rw [same] at read
  case inr.inr.inr.inr.inl =>
    cases read
    exact literal
  all_goals cases read

/-! ## Everything kept -/

mutual

theorem same_decode_encode_iff :
    forall value : Value, (decode (value.encode true)).same value = true ↔ value.Unreserved
  | .undefined => iff_of_true rfl trivial
  | .null => iff_of_true rfl trivial
  | .bool value => iff_of_true (beq_self_eq_true value) trivial
  | .number n => by
      change (decode (encodeNumber n)).same (.number n) = true ↔ True
      rw [decode_encodeNumber]
      exact iff_of_true (same_storedNumber n) trivial
  | .string text => same_string_iff
  | .date millis => by
      change (decodeString (dateTag millis)).same (.date millis) = true ↔ True
      rw [decodeString_dateTag]
      exact iff_of_true (beq_self_eq_true millis) trivial
  | .regExp source flags => same_regExp_iff.trans decodeString_regExpTag_iff
  | .symbol name => by
      change (decodeString (symbolTag name)).same (.symbol name) = true ↔ True
      rw [decodeString_symbolTag]
      exact iff_of_true (beq_self_eq_true name) trivial
  | .array items => sameItems_decode_encode_iff items
  | .object fields => sameFields_decode_encode_iff fields

theorem sameItems_decode_encode_iff :
    forall items : List Value, sameItems (decodeItems (encodeItems true items)) items = true ↔
      UnreservedItems items
  | [] => iff_of_true rfl trivial
  | item :: rest => by
      rw [encodeItems, Bool.not_true, Bool.and_false, if_neg Bool.false_ne_true, decodeItems,
        sameItems, Bool.and_eq_true, same_decode_encode_iff item, sameItems_decode_encode_iff rest,
        UnreservedItems]

theorem sameFields_decode_encode_iff :
    forall fields : List (String × Value),
      sameFields (decodeFields (encodeFields true fields)) fields = true ↔ UnreservedFields fields
  | [] => iff_of_true rfl trivial
  | (name, value) :: rest => by
      rw [encodeFields, Bool.not_true, Bool.and_false, if_neg Bool.false_ne_true, decodeFields,
        sameFields, Bool.and_eq_true, Bool.and_eq_true, beq_self_eq_true,
        same_decode_encode_iff value, sameFields_decode_encode_iff rest, UnreservedFields,
        eq_self, true_and]

end

/-! ## Without what is undefined -/

mutual

theorem same_withoutUndefined : forall {value : Value}, value.Unreserved ->
    (decode (value.encode false)).same value.withoutUndefined = true
  | .undefined, _ => rfl
  | .null, _ => rfl
  | .bool value, _ => beq_self_eq_true value
  | .number n, _ => (same_decode_encode_iff (.number n)).mpr trivial
  | .string text, unreserved => (same_decode_encode_iff (.string text)).mpr unreserved
  | .date millis, _ => (same_decode_encode_iff (.date millis)).mpr trivial
  | .regExp source flags, unreserved =>
      (same_decode_encode_iff (.regExp source flags)).mpr unreserved
  | .symbol name, _ => (same_decode_encode_iff (.symbol name)).mpr trivial
  | .array items, unreserved => sameItems_withoutUndefined items unreserved
  | .object fields, unreserved => sameFields_withoutUndefined fields unreserved

theorem sameItems_withoutUndefined : forall items : List Value, UnreservedItems items ->
    sameItems (decodeItems (encodeItems false items)) (withoutUndefinedItems items) = true
  | [], _ => rfl
  | item :: rest, ⟨here, later⟩ => by
      rw [encodeItems, Bool.not_false, Bool.and_true, decodeItems, withoutUndefinedItems,
        sameItems, sameItems_withoutUndefined rest later, Bool.and_true]
      split
      · rfl
      · exact same_withoutUndefined here

theorem sameFields_withoutUndefined : forall fields : List (String × Value),
    UnreservedFields fields ->
      sameFields (decodeFields (encodeFields false fields)) (withoutUndefinedFields fields) = true
  | [], _ => rfl
  | (name, value) :: rest, ⟨here, later⟩ => by
      rw [encodeFields, Bool.not_false, Bool.and_true, withoutUndefinedFields]
      split
      · exact sameFields_withoutUndefined rest later
      · rw [decodeFields, sameFields, beq_self_eq_true, same_withoutUndefined here,
          sameFields_withoutUndefined rest later]
        rfl

end

/-- A value is read back as it was exactly when nothing in it is taken for
something else, and then it can also be stored without what is undefined. -/
theorem stored_and_read_iff (value : Value) :
    ((decode (value.encode true) == value) = true ↔ value.Unreserved) ∧
      (value.Unreserved -> (decode (value.encode false) == value.withoutUndefined) = true) :=
  ⟨same_decode_encode_iff value, same_withoutUndefined⟩

/-- An expression whose source has slashes and parentheses, next to a slot and a
field that are undefined. -/
theorem stored_and_read_scattered :
    (decode ((Value.object [("a", .array [.undefined, .regExp "/(" "gi"]), ("b", .undefined)]).encode
      false) == Value.object [("a", .array [.null, .regExp "/(" "gi"])]) = true :=
  (stored_and_read_iff (.object [("a", .array [.undefined, .regExp "/(" "gi"]), ("b", .undefined)])).2
    ⟨⟨trivial, rfl, trivial⟩, trivial, trivial⟩

end Value

end RecordIndex
