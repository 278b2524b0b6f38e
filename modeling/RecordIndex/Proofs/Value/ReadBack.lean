import RecordIndex.Proofs.Table.Lookup
import RecordIndex.Proofs.Value.Leaves

namespace RecordIndex

/-!
# What has been read can be stored again

Storing a value may change it: undefined fields are left out, undefined items
become null, zeros lose their sign, and strings that spell a tag are taken for
what the tag means.  What is read back has none of this left, so it stays what
it is when it is stored once more.  One string stands in the way of this, the
tag of what is undefined: it is kept the first time and left out the second.
-/

namespace Value

mutual

/-- No string is taken for something undefined. -/
def Spelled : Value -> Prop
  | .string text => text ≠ undefinedTag
  | .array items => SpelledItems items
  | .object fields => SpelledFields fields
  | _ => True
termination_by structural value => value

def SpelledItems : List Value -> Prop
  | [] => True
  | item :: rest => Spelled item ∧ SpelledItems rest
termination_by structural items => items

def SpelledFields : List (String × Value) -> Prop
  | [] => True
  | (_, value) :: rest => Spelled value ∧ SpelledFields rest
termination_by structural fields => fields

end

/-- Storing the value and reading it back makes no difference to it. -/
def ReadsBack (keepUndefined : Bool) (value : Value) : Prop :=
  decode (value.encode keepUndefined) = value

/-! ## Objects -/

theorem length_decodeFields (keepUndefined : Bool) (fields : List (String × Value)) :
    (decodeFields (encodeFields keepUndefined fields)).length ≤ fields.length := by
  induction fields with
  | nil => exact Nat.le_refl _
  | cons first rest ih =>
      rcases first with ⟨name, value⟩
      unfold encodeFields
      split
      · exact Nat.le_succ_of_le ih
      · exact Nat.succ_le_succ ih

/-- The fields of an object read back when none of them is left out and each of
them reads back. -/
theorem decodeFields_encodeFields_iff {keepUndefined : Bool} {fields : List (String × Value)} :
    decodeFields (encodeFields keepUndefined fields) = fields ↔
      ∀ field ∈ fields, (field.2.isUndefined && !keepUndefined) = false ∧
        field.2.ReadsBack keepUndefined := by
  induction fields with
  | nil => exact ⟨fun _ => List.forall_mem_nil _, fun _ => rfl⟩
  | cons first rest ih =>
      rcases first with ⟨name, value⟩
      rw [List.forall_mem_cons, ← ih, encodeFields]
      split
      · rename_i leftOut
        constructor
        · intro same
          have lengths := length_decodeFields keepUndefined rest
          rw [same, List.length_cons] at lengths
          exact absurd lengths (Nat.not_succ_le_self _)
        · rintro ⟨⟨isKept, _⟩, _⟩
          cases leftOut.symm.trans isKept
      · rename_i isKept
        rw [Bool.not_eq_true] at isKept
        rw [decodeFields, List.cons.injEq, Prod.mk.injEq]
        constructor
        · rintro ⟨⟨_, here⟩, later⟩
          exact ⟨⟨isKept, here⟩, later⟩
        · rintro ⟨⟨_, here⟩, later⟩
          exact ⟨⟨rfl, here⟩, later⟩

theorem readsBack_object_iff {keepUndefined : Bool} {fields : List (String × Value)} :
    (Value.object fields).ReadsBack keepUndefined ↔
      ∀ field ∈ fields, (field.2.isUndefined && !keepUndefined) = false ∧
        field.2.ReadsBack keepUndefined := by
  rw [← decodeFields_encodeFields_iff]
  exact ⟨fun same => Value.object.inj same, fun same => congrArg Value.object same⟩

/-- Set to a text, a field of an object that reads back reads back unless the
text is taken for a tag. -/
theorem readsBack_insert_iff {keepUndefined : Bool} {fields : List (String × Value)}
    (readsBack : (Value.object fields).ReadsBack keepUndefined) (name text : String) :
    (Value.object (Rows.insert name (.string text) fields)).ReadsBack keepUndefined ↔
      decodeString text = .string text := by
  rw [readsBack_object_iff] at readsBack ⊢
  constructor
  · intro all
    exact (all (name, .string text) (Rows.mem_of_get? (Rows.get?_insert_self name _ fields))).2
  · intro isText field member
    rcases Rows.mem_of_mem_insert member with rfl | older
    · exact ⟨rfl, isText⟩
    · exact readsBack field older

/-! ## Values that have been read -/

/-- A number that has been read is stored as it is. -/
theorem storedNumber_storedNumber (n : Number) : storedNumber (storedNumber n) = storedNumber n := by
  unfold storedNumber
  cases notNumber : n.isNaN with
  | true => rfl
  | false =>
      rw [if_neg Bool.false_ne_true, isNaN_keyed notNumber, if_neg Bool.false_ne_true,
        Number.keyed_keyed]

/-- What a string stands for is stored as the string, or as another one that
stands for the same. -/
theorem readsBack_decodeString (keepUndefined : Bool) (text : String) :
    (decodeString text).ReadsBack keepUndefined := by
  rcases decodeString_cases text with same | same | ⟨n, isSpecial, same⟩ | ⟨millis, same⟩ |
    ⟨source, flags, literal, same⟩ | ⟨name, same⟩
  all_goals rw [same]
  · exact same
  · rfl
  · rcases List.mem_cons.mp isSpecial with rfl | isSpecial
    · rfl
    · rcases List.mem_cons.mp isSpecial with rfl | isSpecial
      · rfl
      · cases List.mem_singleton.mp isSpecial
        rfl
  · exact decodeString_dateTag millis
  · exact decodeString_regExpTag source literal
  · exact decodeString_symbolTag name

/-- Only one string is taken for something undefined. -/
theorem isUndefined_decodeString {text : String} (isSpelled : text ≠ undefinedTag) :
    (decodeString text).isUndefined = false := by
  by_cases isWord : text ∈ tagWords
  · rcases List.mem_cons.mp isWord with rfl | isWord
    · exact absurd rfl isSpelled
    · rcases List.mem_cons.mp isWord with rfl | isWord
      · rfl
      · rcases List.mem_cons.mp isWord with rfl | isWord
        · rfl
        · cases List.mem_singleton.mp isWord
          rfl
  · rw [decodeString_of_not_word isWord]
    cases isDate : dateTag? text.toList with
    | some value =>
        rcases Option.map_eq_some_iff.mp isDate with ⟨millis, _, rfl⟩
        rfl
    | none =>
        cases isRegExp : regExpTag? text.toList with
        | some value =>
            rcases Option.map_eq_some_iff.mp isRegExp with ⟨literal, _, rfl⟩
            rfl
        | none =>
            cases isSymbol : symbolTag? text.toList with
            | some value =>
                rcases Option.map_eq_some_iff.mp isSymbol with ⟨name, _, rfl⟩
                rfl
            | none => rfl

theorem ne_undefinedTag_of_opens {opening : String}
    (opens : tagWords.all (fun word => !opening.toList.isPrefixOf word.toList) = true)
    (rest : String) : opening ++ rest ≠ undefinedTag :=
  fun same => append_not_word opens rest (same ▸ List.mem_cons_self)

/-- No value comes to be undefined by being stored. -/
theorem isUndefined_decode_encode (keepUndefined : Bool) {value : Value}
    (spelled : value.Spelled) :
    (decode (value.encode keepUndefined)).isUndefined = value.isUndefined := by
  cases value with
  | number n =>
      change (decode (encodeNumber n)).isUndefined = false
      rw [decode_encodeNumber]
      rfl
  | string text => exact isUndefined_decodeString spelled
  | date millis =>
      refine isUndefined_decodeString ?_
      unfold dateTag
      rw [String.append_assoc]
      exact ne_undefinedTag_of_opens rfl _
  | regExp source flags =>
      refine isUndefined_decodeString ?_
      unfold regExpTag
      rw [String.append_assoc, String.append_assoc, String.append_assoc]
      exact ne_undefinedTag_of_opens rfl _
  | symbol name =>
      refine isUndefined_decodeString ?_
      unfold symbolTag
      rw [String.append_assoc]
      exact ne_undefinedTag_of_opens rfl _
  | _ => rfl

mutual

/-- What has been read of a value reads back. -/
theorem readsBack_decode_encode (keepUndefined : Bool) :
    forall value : Value, value.Spelled ->
      (decode (value.encode keepUndefined)).ReadsBack keepUndefined
  | .array items, spelled => congrArg Value.array (readBackItems keepUndefined items spelled)
  | .object fields, spelled =>
      readsBack_object_iff.mpr (readBackFields keepUndefined fields spelled)
  | .undefined, _ => rfl
  | .null, _ => rfl
  | .bool value, _ => rfl
  | .number n, _ => by
      have read (n : Number) : decode (encode keepUndefined (.number n)) =
          .number (storedNumber n) := decode_encodeNumber n
      unfold ReadsBack
      rw [read, read, storedNumber_storedNumber]
  | .string text, _ => readsBack_decodeString keepUndefined text
  | .date millis, _ => readsBack_decodeString keepUndefined (dateTag millis)
  | .regExp source flags, _ => readsBack_decodeString keepUndefined (regExpTag source flags)
  | .symbol name, _ => readsBack_decodeString keepUndefined (symbolTag name)

theorem readBackItems (keepUndefined : Bool) :
    forall items : List Value, SpelledItems items ->
      decodeItems (encodeItems keepUndefined (decodeItems (encodeItems keepUndefined items))) =
        decodeItems (encodeItems keepUndefined items)
  | [], _ => rfl
  | item :: rest, ⟨here, later⟩ => by
      have laterSame := readBackItems keepUndefined rest later
      have hereSame := readsBack_decode_encode keepUndefined item here
      rw [encodeItems, decodeItems, encodeItems, decodeItems, laterSame]
      refine congrArg (· :: _) ?_
      split
      · -- An item that was not there is null by now.
        rfl
      · rename_i isKept
        rw [isUndefined_decode_encode keepUndefined here, if_neg isKept]
        exact hereSame

theorem readBackFields (keepUndefined : Bool) :
    forall fields : List (String × Value), SpelledFields fields ->
      ∀ field ∈ decodeFields (encodeFields keepUndefined fields),
        (field.2.isUndefined && !keepUndefined) = false ∧ field.2.ReadsBack keepUndefined
  | [], _ => List.forall_mem_nil _
  | (name, value) :: rest, ⟨here, later⟩ => by
      have laterSame := readBackFields keepUndefined rest later
      rw [encodeFields]
      split
      · exact laterSame
      · rename_i isKept
        rw [decodeFields, List.forall_mem_cons, isUndefined_decode_encode keepUndefined here]
        exact ⟨⟨(Bool.not_eq_true _).mp isKept,
          readsBack_decode_encode keepUndefined value here⟩, laterSame⟩

end

end Value

end RecordIndex
