import RecordIndex.Proofs.Key.Reading
import RecordIndex.Term

namespace RecordIndex

/-!
# Keys read back

Every reader gives back what its writer wrote, and takes nothing else.  What a
reader accepts is the front of the bytes spelled out again, so that bytes which
are cut short, have a zero that is neither marked nor an end, begin with a tag
that is none or hold a text that is not UTF-8 are refused, and are never taken
for another key.

There is one spelling that no part is written as: the word of negative zero.
It is read as a negative zero, which is written as the positive one.  So what
the readers accept is told by the parts with their zeros as they are.
-/

namespace Number

def negativeZero : Number :=
  ⟨0x8000000000000000⟩

theorem keyed_of_ne_negativeZero {n : Number} (signed : n ≠ negativeZero) : n.keyed = n := by
  unfold keyed
  split
  · rename_i none
    cases negative : n.isNegative with
    | true =>
        have bits := toNat_bits_of_negative negative
        rw [none] at bits
        have isNegativeZero : n = negativeZero :=
          congrArg Number.mk (UInt64.toNat_inj.mp bits)
        exact absurd isNegativeZero signed
    | false =>
        have bits := toNat_bits_of_nonnegative negative
        rw [none] at bits
        exact (congrArg Number.mk (UInt64.toNat_inj.mp bits)).symm
  · rfl

end Number

namespace KeyPart

/-! ## Numbers -/

/-- The sortable bits of a number whose zero keeps its sign. -/
def signedBits (n : Number) : UInt64 :=
  if n.bits >>> 63 = 1 then ~~~n.bits else n.bits ^^^ signBit

theorem sortableBits_eq (n : Number) : sortableBits n = signedBits n.keyed := by
  unfold sortableBits signedBits Number.keyed
  rw [Number.equals_zero]
  by_cases none : n.magnitude = 0
  · rw [decide_eq_true none, if_pos none]
    rfl
  · rw [decide_eq_false none, if_neg none]
    rfl

/-- Every word is the bits of one number. -/
theorem signedBits_ofSortableBits (word : UInt64) : signedBits (ofSortableBits word) = word := by
  have range := word.toNat_lt
  unfold signedBits ofSortableBits
  simp only [shiftRight_eq_one_iff]
  by_cases high : 0x8000000000000000 ≤ word.toNat
  · have cleared : ¬ 0x8000000000000000 ≤ (word ^^^ signBit).toNat := by
      rw [toNat_xor_signBit, if_pos high]
      omega
    rw [if_pos high, if_neg cleared, xor_signBit_xor_signBit]
  · have inverted : 0x8000000000000000 ≤ (~~~word).toNat := by
      rw [UInt64.toNat_not]
      simp only [UInt64.size]
      omega
    rw [if_neg high, if_pos inverted, UInt64.not_not]

/-- Eight bytes are the bytes of the word that they spell. -/
theorem wordBytes_wordOfBytes {bytes : Key} (eight : bytes.length = 8) :
    wordBytes (wordOfBytes bytes) = bytes := by
  have fits := natOfBytes_lt bytes
  rw [eight] at fits
  have word : (wordOfBytes bytes).toNat = natOfBytes 0 bytes :=
    toNat_foldl_appendByte bytes 0 fits
  have lengths : (wordBytes (wordOfBytes bytes)).length = bytes.length :=
    (length_wordBytes _).trans eight.symm
  have order := compare_natOfBytes lengths
  rw [natOfBytes_wordBytes, word, Nat.compare_eq_eq.mpr rfl] at order
  exact Std.LawfulEqCmp.eq_of_compare order.symm

theorem number?_eq_some {bytes rest : Key} {n : Number} (isRead : number? bytes = some (n, rest)) :
    bytes = wordBytes (signedBits n) ++ rest := by
  unfold number? at isRead
  split at isRead
  · cases isRead
  · rename_i long
    obtain ⟨isNumber, isRest⟩ := Prod.mk.inj (Option.some.inj isRead)
    have eight : (bytes.take 8).length = 8 := by
      rw [List.length_take]
      omega
    rw [← isNumber, ← isRest, signedBits_ofSortableBits, wordBytes_wordOfBytes eight,
      List.take_append_drop]

/-! ## Texts -/

theorem unescape?_eq_some {bytes read rest : Key} (isRead : unescape? bytes = some (read, rest)) :
    bytes = escape read ++ 0 :: 1 :: rest := by
  induction bytes using unescape?.induct generalizing read with
  | case1 => cases isRead
  | case2 byte => cases isRead
  | case3 behind ih =>
      -- A zero inside the text, with its mark.
      unfold unescape? at isRead
      rw [if_pos rfl, if_pos rfl] at isRead
      obtain ⟨⟨inner, left⟩, isInner, pair⟩ := Option.map_eq_some_iff.mp isRead
      obtain ⟨rfl, rfl⟩ := Prod.mk.inj pair
      rw [ih isInner, escape, if_pos rfl]
      rfl
  | case4 behind =>
      cases isRead
      rfl
  | case5 mark behind notEscape notEnd =>
      unfold unescape? at isRead
      rw [if_pos rfl, if_neg notEscape, if_neg notEnd] at isRead
      cases isRead
  | case6 byte mark behind nonzero ih =>
      unfold unescape? at isRead
      rw [if_neg nonzero] at isRead
      obtain ⟨⟨inner, left⟩, isInner, pair⟩ := Option.map_eq_some_iff.mp isRead
      obtain ⟨rfl, rfl⟩ := Prod.mk.inj pair
      rw [ih isInner, escape, if_neg nonzero]
      rfl

theorem toUTF8_of_fromUTF8? {bytes : Key} {content : String}
    (isText : String.fromUTF8? ⟨bytes.toArray⟩ = some content) : content.toUTF8.toList = bytes := by
  unfold String.fromUTF8? at isText
  split at isText
  · cases isText
    rw [toList_eq]
    rfl
  · cases isText

theorem text?_eq_some {bytes rest : Key} {content : String}
    (isRead : text? bytes = some (content, rest)) : bytes = textBytes content ++ rest := by
  obtain ⟨⟨read, behind⟩, isUnescaped, isContent⟩ := Option.bind_eq_some_iff.mp isRead
  obtain ⟨text, isText, pair⟩ := Option.map_eq_some_iff.mp isContent
  obtain ⟨rfl, rfl⟩ := Prod.mk.inj pair
  unfold textBytes
  rw [toUTF8_of_fromUTF8? isText, List.append_assoc]
  exact unescape?_eq_some isUnescaped

/-! ## Parts -/

/-- The bytes of a part whose zero keeps its sign. -/
def signedEncode : KeyPart -> Key
  | .number n => 4 :: wordBytes (signedBits n)
  | part => part.encode

theorem encode_eq (part : KeyPart) : part.encode = part.keyed.signedEncode := by
  cases part with
  | number n => exact congrArg (fun word => 4 :: wordBytes word) (sortableBits_eq n)
  | _ => rfl

theorem keyed_of_ne_negativeZero {part : KeyPart} (signed : part ≠ .number .negativeZero) :
    part.keyed = part := by
  cases part with
  | number n =>
      exact congrArg KeyPart.number
        (Number.keyed_of_ne_negativeZero fun same => signed (congrArg KeyPart.number same))
  | _ => rfl

/-- Only a tag is followed by a part. -/
theorem ofTag?_eq_some {tag : UInt8} {bytes rest : Key} {part : KeyPart}
    (isRead : ofTag? tag bytes = some (part, rest)) : tag :: bytes = part.signedEncode ++ rest := by
  unfold ofTag? at isRead
  split at isRead
  · rename_i isTag
    cases isRead
    rw [isTag]
    rfl
  · split at isRead
    · rename_i isTag
      cases isRead
      rw [isTag]
      rfl
    · split at isRead
      · rename_i isTag
        cases isRead
        rw [isTag]
        rfl
      · split at isRead
        · rename_i isTag
          obtain ⟨⟨n, behind⟩, isNumber, pair⟩ := Option.map_eq_some_iff.mp isRead
          obtain ⟨rfl, rfl⟩ := Prod.mk.inj pair
          rw [isTag, number?_eq_some isNumber]
          rfl
        · split at isRead
          · rename_i isTag
            obtain ⟨⟨content, behind⟩, isText, pair⟩ := Option.map_eq_some_iff.mp isRead
            obtain ⟨rfl, rfl⟩ := Prod.mk.inj pair
            rw [isTag, text?_eq_some isText]
            rfl
          · split at isRead
            · rename_i isTag
              obtain ⟨⟨name, behind⟩, isText, pair⟩ := Option.map_eq_some_iff.mp isRead
              obtain ⟨rfl, rfl⟩ := Prod.mk.inj pair
              rw [isTag, text?_eq_some isText]
              rfl
            · cases isRead

end KeyPart

namespace Key

/-- The key of parts whose zeros keep their signs. -/
def signedEncode (parts : List KeyPart) : Key :=
  parts.flatMap KeyPart.signedEncode

theorem encode_eq (parts : List KeyPart) : encode parts = signedEncode (parts.map KeyPart.keyed) := by
  induction parts with
  | nil => rfl
  | cons part rest ih =>
      rw [encode_cons, ih, KeyPart.encode_eq]
      rfl

theorem map_keyed_of_not_mem {parts : List KeyPart} (signed : .number .negativeZero ∉ parts) :
    parts.map KeyPart.keyed = parts := by
  have kept (part : KeyPart) (isPart : part ∈ parts) : part.keyed = part :=
    KeyPart.keyed_of_ne_negativeZero fun same => signed (same ▸ isPart)
  rw [List.map_congr_left kept, List.map_id']

theorem decodeWithin?_eq_some {length : Nat} {key : Key} {parts : List KeyPart}
    (isRead : decodeWithin? length key = some parts) : signedEncode parts = key := by
  induction length generalizing key parts with
  | zero =>
      cases key with
      | nil =>
          cases isRead
          rfl
      | cons tag bytes => cases isRead
  | succ length ih =>
      cases key with
      | nil =>
          cases isRead
          rfl
      | cons tag bytes =>
          obtain ⟨⟨part, rest⟩, isPart, isRest⟩ := Option.bind_eq_some_iff.mp isRead
          obtain ⟨others, areOthers, isList⟩ := Option.bind_eq_some_iff.mp isRest
          cases isList
          rw [KeyPart.ofTag?_eq_some isPart, ← ih areOthers]
          rfl

/-- What is read is what is there. -/
theorem decode?_eq_some {key : Key} {parts : List KeyPart} (isRead : decode? key = some parts) :
    signedEncode parts = key :=
  decodeWithin?_eq_some isRead

/-- A key begins with the tag of a part, if it is not empty. -/
theorem signedEncode_ne_of_tag {tag : UInt8} {bytes : Key}
    (unknown : forall part : KeyPart, part.tag ≠ tag) (parts : List KeyPart) :
    signedEncode parts ≠ tag :: bytes := by
  cases parts with
  | nil => exact nofun
  | cons part rest =>
      intro same
      have front : signedEncode (part :: rest) =
          part.tag :: (part.signedEncode.tail ++ signedEncode rest) := by
        cases part <;> rfl
      rw [front] at same
      exact unknown part (List.cons_eq_cons.mp same).1

/-- Decoding is the inverse of encoding, from both sides.  What was encoded is
decoded up to the signs of zeros, and what is decoded was encoded, if it has no
negative zero.  Bytes that no parts are written as are refused, also where they
are read as a row of an index. -/
theorem decode_inverts_encode :
    (forall parts, decode? (encode parts) = some (parts.map KeyPart.keyed)) ∧
      (forall key parts, decode? key = some parts -> .number .negativeZero ∉ parts ->
        encode parts = key) ∧
      forall key, (forall parts, signedEncode parts ≠ key) ->
        decode? key = none ∧ IndexEntry.ofPropertyKey? key = .error .corruptKey ∧
          IndexEntry.ofValueKey? key = .error .corruptKey := by
  refine ⟨decode?_encode, fun key parts isRead signed => ?_, fun key isNone => ?_⟩
  · rw [encode_eq, map_keyed_of_not_mem signed]
    exact decode?_eq_some isRead
  · have refused : decode? key = none := by
      cases isRead : decode? key with
      | none => rfl
      | some parts => exact absurd (decode?_eq_some isRead) (isNone parts)
    refine ⟨refused, ?_, ?_⟩
    · unfold IndexEntry.ofPropertyKey?
      rw [refused]
      rfl
    · unfold IndexEntry.ofValueKey?
      rw [refused]

/-- The number one at a path of one name, there and back, and a tag that is
none. -/
theorem decode_inverts_encode_one :
    decode? (encode [.segment "a", .number .one]) = some [.segment "a", .number .one] ∧
      encode [.segment "a", .number .one] = [6, 97, 0, 1, 4, 0xBF, 0xF0, 0, 0, 0, 0, 0, 0] ∧
      IndexEntry.ofPropertyKey? [7, 97, 0, 1] = .error .corruptKey := by
  obtain ⟨there, back, refuses⟩ := decode_inverts_encode
  have unknown (part : KeyPart) : part.tag ≠ 7 := by
    cases part with
    | bool value => cases value <;> exact nofun
    | _ => exact nofun
  refine ⟨there _, back _ _ ?_ ?_, (refuses _ (signedEncode_ne_of_tag unknown)).2.1⟩
  · rfl
  · decide

end Key

end RecordIndex
