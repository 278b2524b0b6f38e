import RecordIndex.Proofs.Key.Words

namespace RecordIndex

/-!
# Reading keys

Every reader takes what its writer wrote off the front of the bytes and leaves
what is behind.  So a key tells its parts, and no encoding of a part is the
beginning of another one.  The parts are told up to the sign of a zero, which
keys do not keep.
-/

namespace KeyPart

/-! ## Texts -/

theorem unescape?_escape (bytes rest : Key) :
    unescape? (escape bytes ++ 0 :: 1 :: rest) = some (bytes, rest) := by
  induction bytes with
  | nil => rfl
  | cons byte bytes ih =>
      by_cases isZero : byte = 0
      · subst isZero
        have escaped : escape (0 :: bytes) = 0 :: 255 :: escape bytes := rfl
        rw [escaped, List.cons_append, List.cons_append]
        unfold unescape?
        rw [if_pos rfl, if_pos rfl, ih]
        rfl
      · have plain : escape (byte :: bytes) = byte :: escape bytes := by
          rw [escape, if_neg isZero]
        rw [plain, List.cons_append]
        -- The end mark keeps the bytes behind the first one from being empty.
        obtain ⟨mark, behind, isBehind⟩ :
            ∃ mark behind, escape bytes ++ 0 :: 1 :: rest = mark :: behind := by
          cases start : escape bytes with
          | nil => exact ⟨0, 1 :: rest, rfl⟩
          | cons mark behind => exact ⟨mark, behind ++ 0 :: 1 :: rest, rfl⟩
        rw [isBehind] at ih ⊢
        unfold unescape?
        rw [if_neg isZero, ih]
        rfl

/-- The bytes of an array in the order of their places. -/
theorem toList_loop (bytes : ByteArray) (place : Nat) (read : Key) :
    ByteArray.toList.loop bytes place read = read.reverse ++ bytes.data.toList.drop place := by
  by_cases inside : place < bytes.size
  · have listed : place < bytes.data.toList.length := by
      rw [Array.length_toList]
      exact inside
    have here : bytes.get! place = bytes.data.toList[place] := by
      change bytes.data[place]! = _
      rw [getElem!_pos bytes.data place inside, Array.getElem_toList]
    rw [ByteArray.toList.loop, if_pos inside, toList_loop bytes (place + 1),
      List.drop_eq_getElem_cons listed, List.reverse_cons, List.append_assoc, here]
    rfl
  · have past : bytes.data.toList.length ≤ place := by
      rw [Array.length_toList]
      exact Nat.le_of_not_lt inside
    rw [ByteArray.toList.loop, if_neg inside, List.drop_eq_nil_of_le past, List.append_nil]
termination_by bytes.size - place

theorem toList_eq (bytes : ByteArray) : bytes.toList = bytes.data.toList :=
  toList_loop bytes 0 []

theorem fromUTF8?_toUTF8 (content : String) :
    String.fromUTF8? ⟨content.toUTF8.toList.toArray⟩ = some content := by
  rw [toList_eq, Array.toArray_toList]
  have valid : content.toByteArray.IsValidUTF8 := content.isValidUTF8
  change (if valid : content.toByteArray.IsValidUTF8 then some (String.fromUTF8 _ valid)
    else none) = _
  rw [dif_pos valid]
  exact congrArg some (String.toByteArray_inj.mp rfl)

theorem text?_textBytes (content : String) (rest : Key) :
    text? (textBytes content ++ rest) = some (content, rest) := by
  have shape : textBytes content ++ rest = escape content.toUTF8.toList ++ 0 :: 1 :: rest :=
    List.append_assoc _ _ _
  unfold text?
  rw [shape, unescape?_escape]
  change (String.fromUTF8? ⟨content.toUTF8.toList.toArray⟩).map _ = _
  rw [fromUTF8?_toUTF8]
  rfl

/-! ## Parts -/

/-- The part that a key keeps. -/
def keyed : KeyPart -> KeyPart
  | .number value => .number value.keyed
  | part => part

theorem keyed_keyed (part : KeyPart) : part.keyed.keyed = part.keyed := by
  cases part with
  | number value => exact congrArg KeyPart.number value.keyed_keyed
  | _ => rfl

theorem isSegment_keyed (part : KeyPart) : part.keyed.isSegment = part.isSegment := by
  cases part with
  | _ => rfl

theorem encode_keyed (part : KeyPart) : part.keyed.encode = part.encode := by
  cases part with
  | number value => exact congrArg (fun word => 4 :: wordBytes word) (sortableBits_keyed value)
  | _ => rfl

theorem number?_wordBytes (value : Number) (rest : Key) :
    number? (wordBytes (sortableBits value) ++ rest) = some (value.keyed, rest) := by
  have lengths := length_wordBytes (sortableBits value)
  unfold number?
  rw [if_neg (by rw [List.length_append, lengths]; omega), ← lengths, List.take_left,
    List.drop_left, wordOfBytes_wordBytes, ofSortableBits_sortableBits]

/-- A tag and the payload behind it tell the part. -/
theorem ofTag?_payload (part : KeyPart) (rest : Key) :
    ofTag? part.tag (part.payload ++ rest) = some (part.keyed, rest) := by
  cases part with
  | null => rfl
  | bool value =>
      cases value with
      | false => rfl
      | true => rfl
  | number value =>
      have reads (bytes : Key) : ofTag? 4 bytes =
          (number? bytes).map fun read => (.number read.1, read.2) := rfl
      change ofTag? 4 (wordBytes (sortableBits value) ++ rest) = _
      rw [reads, number?_wordBytes]
      rfl
  | text content =>
      change (text? (textBytes content ++ rest)).map _ = _
      rw [text?_textBytes]
      rfl
  | segment name =>
      change (text? (textBytes name ++ rest)).map _ = _
      rw [text?_textBytes]
      rfl

/-- No encoding of a part is the beginning of the encoding of another one. -/
theorem encode_append_eq {first second : KeyPart} {rest rest' : Key}
    (same : first.encode ++ rest = second.encode ++ rest') :
    first.keyed = second.keyed ∧ rest = rest' := by
  obtain ⟨tags, payloads⟩ := List.cons_eq_cons.mp same
  have payloads : first.payload ++ rest = second.payload ++ rest' := payloads
  have read := ofTag?_payload first rest
  rw [tags, payloads, ofTag?_payload] at read
  obtain ⟨parts, rests⟩ := Prod.mk.inj (Option.some.inj read)
  exact ⟨parts.symm, rests.symm⟩

theorem encode_inj {first second : KeyPart} :
    first.encode = second.encode ↔ first.keyed = second.keyed := by
  constructor
  · intro same
    have appended : first.encode ++ [] = second.encode ++ [] := by rw [same]
    exact (encode_append_eq appended).1
  · intro same
    rw [← encode_keyed first, same, encode_keyed]

end KeyPart

namespace Key

theorem encode_cons (part : KeyPart) (rest : List KeyPart) :
    encode (part :: rest) = part.encode ++ encode rest :=
  rfl

theorem encode_append (first second : List KeyPart) :
    encode (first ++ second) = encode first ++ encode second :=
  List.flatMap_append

theorem decodeWithin?_encode (parts : List KeyPart) {length : Nat}
    (within : (encode parts).length ≤ length) :
    decodeWithin? length (encode parts) = some (parts.map KeyPart.keyed) := by
  induction parts generalizing length with
  | nil =>
      cases length with
      | zero => rfl
      | succ length => rfl
  | cons part rest ih =>
      cases length with
      | zero => cases within
      | succ length =>
          have shorter : (encode rest).length ≤ length := by
            rw [encode_cons, List.length_append, KeyPart.encode, List.length_cons] at within
            omega
          have shape : encode (part :: rest) = part.tag :: (part.payload ++ encode rest) := rfl
          rw [shape, decodeWithin?, KeyPart.ofTag?_payload]
          change (decodeWithin? length (encode rest)).bind _ = _
          rw [ih shorter]
          rfl

/-- A key tells its parts. -/
theorem decode?_encode (parts : List KeyPart) :
    decode? (encode parts) = some (parts.map KeyPart.keyed) :=
  decodeWithin?_encode parts (Nat.le_refl _)

theorem encode_map_keyed (parts : List KeyPart) : encode (parts.map KeyPart.keyed) = encode parts := by
  unfold encode
  rw [List.flatMap_map]
  exact congrArg (List.flatMap · parts) (funext KeyPart.encode_keyed)

/-- Two lists of parts have one key only if their parts are kept as one. -/
theorem encode_inj {first second : List KeyPart} :
    encode first = encode second ↔ first.map KeyPart.keyed = second.map KeyPart.keyed := by
  constructor
  · intro same
    have read := decode?_encode first
    rw [same, decode?_encode] at read
    exact (Option.some.inj read).symm
  · intro same
    rw [← encode_map_keyed first, same, encode_map_keyed]

end Key

end RecordIndex
