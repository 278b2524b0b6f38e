import RecordIndex.Proofs.Key.Reading
import RecordIndex.Proofs.Value.Stored

namespace RecordIndex

/-!
# Leaves of stored values

What lies inside a value that was read from a record could have been read by
itself.  A scalar of this kind is told by its leaf: what an index stores of it
stands for the scalar again, so a test of the stored leaf is a test of the
scalar.
-/

namespace Value

/-- The value is read for some value that was stored. -/
def IsStored (value : Value) : Prop :=
  ∃ original keepUndefined, decode (encode keepUndefined original) = value

/-! ## Strings -/

theorem all_isLiteralFlag_of_splitLiteral? {literal : List Char} {source flags : String}
    (split : splitLiteral? literal = some (source, flags)) :
    flags.toList.all isLiteralFlag = true := by
  unfold splitLiteral? at split
  split at split
  · split at split
    · split at split
      · rename_i areFlags
        cases split
        rw [String.toList_ofList]
        exact areFlags
      · cases split
    · cases split
  · cases split

/-- A string stands for itself or for what its tag says. -/
theorem decodeString_cases (text : String) :
    decodeString text = .string text ∨ decodeString text = .undefined ∨
      (∃ n ∈ [Number.nan, Number.infinity, Number.negativeInfinity],
        decodeString text = .number n) ∨
      (∃ millis, decodeString text = .date millis) ∨
      (∃ source flags, flags.toList.all isLiteralFlag = true ∧
        decodeString text = .regExp source flags) ∨
      ∃ name, decodeString text = .symbol name := by
  by_cases isWord : text ∈ tagWords
  · rcases List.mem_cons.mp isWord with rfl | isWord
    · exact .inr (.inl rfl)
    · refine .inr (.inr (.inl ?_))
      rcases List.mem_cons.mp isWord with rfl | isWord
      · exact ⟨Number.nan, .head _, rfl⟩
      · rcases List.mem_cons.mp isWord with rfl | isWord
        · exact ⟨Number.infinity, .tail _ (.head _), rfl⟩
        · cases List.mem_singleton.mp isWord
          exact ⟨Number.negativeInfinity, .tail _ (.tail _ (.head _)), rfl⟩
  · rw [decodeString_of_not_word isWord]
    cases isDate : dateTag? text.toList with
    | some value =>
        rcases Option.map_eq_some_iff.mp isDate with ⟨millis, _, rfl⟩
        exact .inr (.inr (.inr (.inl ⟨millis, rfl⟩)))
    | none =>
        cases isRegExp : regExpTag? text.toList with
        | some value =>
            rcases Option.map_eq_some_iff.mp isRegExp with ⟨⟨source, flags⟩, isBody, rfl⟩
            rcases Option.bind_eq_some_iff.mp isBody with ⟨body, _, split⟩
            exact .inr (.inr (.inr (.inr (.inl
              ⟨source, flags, all_isLiteralFlag_of_splitLiteral? split, rfl⟩))))
        | none =>
            cases isSymbol : symbolTag? text.toList with
            | some value =>
                rcases Option.map_eq_some_iff.mp isSymbol with ⟨name, _, rfl⟩
                exact .inr (.inr (.inr (.inr (.inr ⟨_, rfl⟩))))
            | none => exact .inl rfl

/-- Only the words for the infinities stand for numbers. -/
theorem infinity_of_decodeString {text : String} {n : Number}
    (isRead : decodeString text = .number n) (isNumber : n.isNaN = false) :
    text = "@Infinity" ∨ text = "@-Infinity" := by
  by_cases isWord : text ∈ tagWords
  · rcases List.mem_cons.mp isWord with rfl | isWord
    · cases isRead
    · rcases List.mem_cons.mp isWord with rfl | isWord
      · cases isRead
        cases isNumber
      · rcases List.mem_cons.mp isWord with same | isWord
        · exact .inl same
        · exact .inr (List.mem_singleton.mp isWord)
  · rw [decodeString_of_not_word isWord] at isRead
    cases isDate : dateTag? text.toList with
    | some value =>
        rcases Option.map_eq_some_iff.mp isDate with ⟨millis, _, rfl⟩
        rw [isDate] at isRead
        cases isRead
    | none =>
        rw [isDate] at isRead
        cases isRegExp : regExpTag? text.toList with
        | some value =>
            rcases Option.map_eq_some_iff.mp isRegExp with ⟨⟨source, flags⟩, _, rfl⟩
            rw [isRegExp] at isRead
            cases isRead
        | none =>
            rw [isRegExp] at isRead
            cases isSymbol : symbolTag? text.toList with
            | some value =>
                rcases Option.map_eq_some_iff.mp isSymbol with ⟨name, _, rfl⟩
                rw [isSymbol] at isRead
                cases isRead
            | none =>
                rw [isSymbol] at isRead
                cases isRead

/-- What a string stands for is told by its leaf. -/
theorem ofLeafPart_decodeString (text : String) {part : KeyPart}
    (isPart : (decodeString text).leafPart? = some part) :
    ofLeafPart part.keyed = decodeString text := by
  rcases decodeString_cases text with same | same | ⟨n, isSpecial, same⟩ | ⟨millis, same⟩ |
    ⟨source, flags, literal, same⟩ | ⟨name, same⟩
  all_goals rw [same] at isPart
  · cases isPart
    rfl
  · cases isPart
  · rw [same]
    rcases List.mem_cons.mp isSpecial with rfl | isSpecial
    · cases isPart
      rfl
    · rcases List.mem_cons.mp isSpecial with rfl | isSpecial
      · cases isPart
        rfl
      · cases List.mem_singleton.mp isSpecial
        cases isPart
        rfl
  · cases isPart
    exact (decodeString_dateTag millis).trans same.symm
  · cases isPart
    exact (decodeString_regExpTag source literal).trans same.symm
  · cases isPart
    exact (decodeString_symbolTag name).trans same.symm

/-! ## Leaves that are read -/

/-- The leaf is a text that is read as an infinite number. -/
def SpellsInfinity (part : KeyPart) : Prop :=
  part = .text "@Infinity" ∨ part = .text "@-Infinity"

/-- A leaf that is read as a number is that number, unless it spells it. -/
theorem number_of_ofLeafPart {part : KeyPart} (noName : part.isSegment = false)
    (plain : ¬ SpellsInfinity part) {n : Number} (isRead : ofLeafPart part = .number n)
    (isNumber : n.isNaN = false) : part = .number n := by
  cases part with
  | number m => exact congrArg KeyPart.number (Value.number.inj isRead)
  | text content =>
      rcases infinity_of_decodeString isRead isNumber with rfl | rfl
      · exact absurd (.inl rfl) plain
      · exact absurd (.inr rfl) plain
  | segment name => cases noName
  | null => cases isRead
  | bool value => cases isRead

/-- A leaf that is read as a string is the leaf of that string. -/
theorem text_of_ofLeafPart {part : KeyPart} (noName : part.isSegment = false) {content : String}
    (isRead : ofLeafPart part = .string content) : part = .text content := by
  cases part with
  | text read =>
      have isRead : decodeString read = .string content := isRead
      rcases decodeString_cases read with plain | other | ⟨n, _, other⟩ | ⟨millis, other⟩ |
        ⟨source, flags, _, other⟩ | ⟨name, other⟩
      · exact congrArg KeyPart.text (Value.string.inj (plain.symm.trans isRead))
      all_goals cases other.symm.trans isRead
  | segment name => cases noName
  | null => cases isRead
  | bool value => cases isRead
  | number n => cases isRead

/-! ## Scalars -/

/-- A stored number is told by its leaf. -/
theorem ofLeafPart_storedNumber {n : Number} {part : KeyPart}
    (isPart : (Value.number (storedNumber n)).leafPart? = some part) :
    ofLeafPart part.keyed = .number (storedNumber n) := by
  unfold storedNumber at isPart ⊢
  cases notNumber : n.isNaN with
  | true =>
      rw [notNumber] at isPart
      cases isPart
      rfl
  | false =>
      rw [notNumber, if_neg Bool.false_ne_true, leafPart?, isNaN_keyed notNumber] at isPart
      cases isPart
      exact congrArg Value.number n.keyed_keyed

/-- A stored scalar is told by its leaf. -/
theorem IsStored.ofLeafPart {value : Value} (isStored : value.IsStored) {part : KeyPart}
    (isPart : value.leafPart? = some part) : Value.ofLeafPart part.keyed = value := by
  rcases isStored with ⟨original, keepUndefined, rfl⟩
  cases original with
  | null =>
      cases isPart
      rfl
  | bool value =>
      cases isPart
      rfl
  | number n =>
      have read : decode (encode keepUndefined (.number n)) = .number (storedNumber n) :=
        decode_encodeNumber n
      rw [read] at isPart ⊢
      exact ofLeafPart_storedNumber isPart
  | array items => cases isPart
  | object fields => cases isPart
  | undefined => cases isPart
  | string text => exact ofLeafPart_decodeString text isPart
  | date millis => exact ofLeafPart_decodeString (dateTag millis) isPart
  | regExp source flags => exact ofLeafPart_decodeString (regExpTag source flags) isPart
  | symbol name => exact ofLeafPart_decodeString (symbolTag name) isPart

/-- A stored string is read as itself. -/
theorem IsStored.decodeString {text : String} (isStored : (Value.string text).IsStored) :
    Value.decodeString text = .string text :=
  isStored.ofLeafPart rfl

/-! ## Parts of containers -/

theorem isContainer_decodeString (text : String) :
    (Value.decodeString text).isContainer = false := by
  rcases decodeString_cases text with same | same | ⟨n, _, same⟩ | ⟨millis, same⟩ |
    ⟨source, flags, _, same⟩ | ⟨name, same⟩
  all_goals
    rw [same]
    rfl

/-- Storing keeps containers and scalars apart. -/
theorem isContainer_decode_encode (keepUndefined : Bool) (original : Value) :
    (decode (encode keepUndefined original)).isContainer = original.isContainer := by
  cases original with
  | null => rfl
  | bool value => rfl
  | array items => rfl
  | object fields => rfl
  | number n =>
      change (decode (encodeNumber n)).isContainer = false
      rw [decode_encodeNumber]
      rfl
  | undefined => rfl
  | string text => exact isContainer_decodeString text
  | date millis => exact isContainer_decodeString (dateTag millis)
  | regExp source flags => exact isContainer_decodeString (regExpTag source flags)
  | symbol name => exact isContainer_decodeString (symbolTag name)

theorem isStored_of_mem_items {keepUndefined : Bool} {items : List Value} :
    ∀ item ∈ decodeItems (encodeItems keepUndefined items), item.IsStored := by
  induction items with
  | nil => exact nofun
  | cons first rest ih =>
      intro item member
      rcases List.mem_cons.mp member with rfl | later
      · split
        · exact ⟨.null, keepUndefined, rfl⟩
        · exact ⟨first, keepUndefined, rfl⟩
      · exact ih item later

theorem isStored_of_mem_fields {keepUndefined : Bool} {fields : List (String × Value)} :
    ∀ field ∈ decodeFields (encodeFields keepUndefined fields), field.2.IsStored := by
  induction fields with
  | nil => exact nofun
  | cons first rest ih =>
      rcases first with ⟨name, value⟩
      intro field member
      unfold encodeFields at member
      split at member
      · exact ih field member
      · rcases List.mem_cons.mp member with rfl | later
        · exact ⟨value, keepUndefined, rfl⟩
        · exact ih field later

theorem IsStored.item {items : List Value} (isStored : (Value.array items).IsStored) :
    ∀ item ∈ items, item.IsStored := by
  rcases isStored with ⟨original, keepUndefined, read⟩
  cases original with
  | array originals =>
      cases read
      exact isStored_of_mem_items
  | object originals => cases read
  | _ =>
      have scalar := congrArg isContainer read
      rw [isContainer_decode_encode] at scalar
      cases scalar

theorem IsStored.field {fields : List (String × Value)}
    (isStored : (Value.object fields).IsStored) : ∀ field ∈ fields, field.2.IsStored := by
  rcases isStored with ⟨original, keepUndefined, read⟩
  cases original with
  | object originals =>
      cases read
      exact isStored_of_mem_fields
  | array originals => cases read
  | _ =>
      have scalar := congrArg isContainer read
      rw [isContainer_decode_encode] at scalar
      cases scalar

end Value

end RecordIndex
