import RecordIndex.Proofs.Key.Reading
import RecordIndex.Proofs.Index.TypeRange

namespace RecordIndex

/-!
# The order of keys

Keys sort as what they encode.  Rows of bytes are compared byte by byte, so
everything that begins with an earlier part sorts before everything that begins
with a later one, unless one part is the beginning of the other; and no part
is.  Numbers sort by rank, and texts as their characters do, since UTF-8 keeps
the order of characters.
-/

namespace Key

/-! ## Bytes -/

theorem compare_cons (byte byte' : UInt8) (rest rest' : Key) :
    compare (byte :: rest) (byte' :: rest') = (compare byte byte').then (compare rest rest') :=
  List.compare_cons_cons

theorem compare_cons_self (byte : UInt8) (rest rest' : Key) :
    compare (byte :: rest) (byte :: rest') = compare rest rest' := by
  rw [compare_cons, Rows.compare_self]
  rfl

/-- What two keys have in common at the front does not matter. -/
theorem compare_append_left (shared rest rest' : Key) :
    compare (shared ++ rest) (shared ++ rest') = compare rest rest' := by
  induction shared with
  | nil => rfl
  | cons byte shared ih => rw [List.cons_append, List.cons_append, compare_cons_self, ih]

/-- A key is not behind the keys that begin with it. -/
theorem isLE_compare_append (beginning rest : Key) :
    (compare beginning (beginning ++ rest)).isLE = true := by
  have cut := compare_append_left beginning [] rest
  rw [List.append_nil] at cut
  rw [cut]
  cases rest with
  | nil => rfl
  | cons byte rest => rfl

/-- The first difference decides, whatever follows. -/
theorem compare_append_of_lt {first second : Key} (below : compare first second = .lt)
    (apart : ¬ first <+: second) (rest rest' : Key) :
    compare (first ++ rest) (second ++ rest') = .lt := by
  induction first generalizing second with
  | nil => exact absurd (List.nil_prefix) apart
  | cons byte first ih =>
      cases second with
      | nil => cases below
      | cons byte' second =>
          rw [compare_cons] at below
          rw [List.cons_append, List.cons_append, compare_cons]
          cases order : compare byte byte' with
          | lt => rfl
          | gt =>
              rw [order] at below
              cases below
          | eq =>
              rw [order] at below
              have same : byte = byte' := Std.LawfulEqCmp.eq_of_compare order
              subst same
              exact ih below fun beginning => apart (List.cons_prefix_cons.mpr ⟨rfl, beginning⟩)

/-- Keys of one length that differ are no beginnings of each other. -/
theorem not_prefix_of_lt {first second : Key} (lengths : first.length = second.length)
    (below : compare first second = .lt) : ¬ first <+: second := by
  intro beginning
  rw [beginning.eq_of_length lengths, Rows.compare_self] at below
  cases below

theorem compare_append_of_length {first second : Key} (lengths : first.length = second.length)
    (below : compare first second = .lt) (rest rest' : Key) :
    compare (first ++ rest) (second ++ rest') = .lt :=
  compare_append_of_lt below (not_prefix_of_lt lengths below) rest rest'

theorem compare_cons_of_lt {byte byte' : UInt8} (less : byte.toNat < byte'.toNat)
    (rest rest' : Key) : compare (byte :: rest) (byte' :: rest') = .lt := by
  rw [compare_cons, ← KeyPart.compare_toNat, Nat.compare_eq_lt.mpr less]
  rfl

/-- Bytes of one length are in the order of the numbers that they spell. -/
theorem compare_append_of_number {first second : Key} (lengths : first.length = second.length)
    (less : KeyPart.natOfBytes 0 first < KeyPart.natOfBytes 0 second) (rest rest' : Key) :
    compare (first ++ rest) (second ++ rest') = .lt := by
  refine compare_append_of_length lengths ?_ rest rest'
  rw [← KeyPart.compare_natOfBytes lengths]
  exact Nat.compare_eq_lt.mpr less

end Key

namespace KeyPart

/-! ## Texts -/

/-- The bytes of a character by its number: one, two, three or four. -/
theorem utf8EncodeChar_shape (c : Char) :
    c.toNat ≤ 0x7F ∧ String.utf8EncodeChar c = [.ofNat c.toNat] ∨
      0x7F < c.toNat ∧ c.toNat ≤ 0x7FF ∧ String.utf8EncodeChar c =
        [.ofNat (c.toNat / 64 % 32 + 0xC0), .ofNat (c.toNat % 64 + 0x80)] ∨
      0x7FF < c.toNat ∧ c.toNat ≤ 0xFFFF ∧ String.utf8EncodeChar c =
        [.ofNat (c.toNat / 64 / 64 % 16 + 0xE0), .ofNat (c.toNat / 64 % 64 + 0x80),
          .ofNat (c.toNat % 64 + 0x80)] ∨
      0xFFFF < c.toNat ∧ c.toNat < 0x110000 ∧ String.utf8EncodeChar c =
        [.ofNat (c.toNat / 64 / 64 / 64 % 8 + 0xF0), .ofNat (c.toNat / 64 / 64 % 64 + 0x80),
          .ofNat (c.toNat / 64 % 64 + 0x80), .ofNat (c.toNat % 64 + 0x80)] := by
  have range : c.toNat < 0x110000 := by
    have valid : c.toNat < 0xD800 ∨ 0xDFFF < c.toNat ∧ c.toNat < 0x110000 := c.valid
    omega
  rw [Nat.div_div_eq_div_mul c.toNat 64 64, Nat.div_div_eq_div_mul c.toNat (64 * 64) 64]
  by_cases one : c.toNat ≤ 0x7F
  · exact .inl ⟨one, if_pos one⟩
  · by_cases two : c.toNat ≤ 0x7FF
    · exact .inr (.inl ⟨Nat.lt_of_not_le one, two, (if_neg one).trans (if_pos two)⟩)
    · by_cases three : c.toNat ≤ 0xFFFF
      · exact .inr (.inr (.inl ⟨Nat.lt_of_not_le two, three,
          (if_neg one).trans ((if_neg two).trans (if_pos three))⟩))
      · exact .inr (.inr (.inr ⟨Nat.lt_of_not_le three, range,
          (if_neg one).trans ((if_neg two).trans (if_neg three))⟩))

/-- The bytes of characters are in the order of the characters. -/
theorem compare_utf8EncodeChar {c d : Char} (below : c < d) (rest rest' : Key) :
    compare (String.utf8EncodeChar c ++ rest) (String.utf8EncodeChar d ++ rest') = .lt := by
  have less : c.toNat < d.toNat := below
  rcases utf8EncodeChar_shape c with ⟨_, bytes⟩ | ⟨_, _, bytes⟩ | ⟨_, _, bytes⟩ | ⟨_, _, bytes⟩
  all_goals
    rcases utf8EncodeChar_shape d with ⟨_, bytes'⟩ | ⟨_, _, bytes'⟩ | ⟨_, _, bytes'⟩ |
      ⟨_, _, bytes'⟩
    all_goals rw [bytes, bytes']
  -- With equally many bytes the numbers that they spell decide, otherwise the first byte does.
  case inl.inl | inr.inl.inr.inl | inr.inr.inl.inr.inr.inl | inr.inr.inr.inr.inr.inr =>
    refine Key.compare_append_of_number (by rfl) ?_ rest rest'
    simp (disch := omega) only [natOfBytes, List.foldl_cons, List.foldl_nil, UInt8.toNat_ofNat',
      Nat.reducePow, Nat.mod_eq_of_lt]
    omega
  all_goals
    refine Key.compare_cons_of_lt ?_ _ _
    simp only [UInt8.toNat_ofNat', Nat.reducePow]
    omega

/-- UTF-8 keeps the order of texts. -/
theorem compare_utf8 {first second : List Char} (below : first < second) :
    compare (first.flatMap String.utf8EncodeChar) (second.flatMap String.utf8EncodeChar) = .lt := by
  induction below with
  | nil =>
      rename_i c rest
      rw [List.flatMap_nil, List.flatMap_cons]
      cases bytes : String.utf8EncodeChar c with
      | nil => exact absurd bytes String.utf8EncodeChar_ne_nil
      | cons byte bytes => rfl
  | rel less =>
      rw [List.flatMap_cons, List.flatMap_cons]
      exact compare_utf8EncodeChar less _ _
  | cons _ ih =>
      rw [List.flatMap_cons, List.flatMap_cons, Key.compare_append_left]
      exact ih

/-- The bytes of a text are those of its characters. -/
theorem toUTF8_toList (content : String) :
    content.toUTF8.toList = content.toList.flatMap String.utf8EncodeChar := by
  rw [toList_eq]
  change content.toByteArray.data.toList = _
  rw [← String.utf8Encode_toList]
  unfold List.utf8Encode
  rw [List.data_toByteArray]

/-- Escaping keeps the order of bytes, and an end sorts before whatever may stand
in its place. -/
theorem compare_escape {first second : Key} (below : compare first second = .lt)
    (rest rest' : Key) :
    compare (escape first ++ 0 :: 1 :: rest) (escape second ++ 0 :: 1 :: rest') = .lt := by
  induction first generalizing second with
  | nil =>
      cases second with
      | nil => cases below
      | cons byte second =>
          by_cases isZero : byte = 0
          · subst isZero
            rfl
          · have positive : (0 : UInt8).toNat < byte.toNat := by
              refine Nat.pos_of_ne_zero fun none => isZero (UInt8.toNat_inj.mp none)
            rw [escape, escape, if_neg isZero]
            exact Key.compare_cons_of_lt positive _ _
  | cons byte first ih =>
      cases second with
      | nil => cases below
      | cons byte' second =>
          rw [Key.compare_cons] at below
          cases order : compare byte byte' with
          | gt =>
              rw [order] at below
              cases below
          | eq =>
              rw [order] at below
              have same : byte = byte' := Std.LawfulEqCmp.eq_of_compare order
              subst same
              have ih := ih below
              by_cases isZero : byte = 0
              · simp only [escape, if_pos isZero, List.cons_append, Key.compare_cons_self]
                exact ih
              · simp only [escape, if_neg isZero, List.cons_append, Key.compare_cons_self]
                exact ih
          | lt =>
              rw [← compare_toNat] at order
              have less := Nat.compare_eq_lt.mp order
              have positive : byte' ≠ 0 := by
                rintro rfl
                exact absurd less (Nat.not_lt_zero _)
              have front : ∃ more, escape (byte :: first) ++ 0 :: 1 :: rest = byte :: more := by
                rw [escape]
                split
                · rename_i isZero
                  exact ⟨_, congrArg (· :: _) isZero.symm⟩
                · exact ⟨_, rfl⟩
              rcases front with ⟨more, isFront⟩
              rw [isFront, escape, if_neg positive]
              exact Key.compare_cons_of_lt less _ _

/-- Texts sort as themselves. -/
theorem compare_text {first second : String} (below : compare first second = .lt)
    (rest rest' : Key) :
    compare ((KeyPart.text first).encode ++ rest) ((KeyPart.text second).encode ++ rest') =
      .lt := by
  have bytes := compare_utf8 (String.lt_iff.mp (Store.compare_lt_iff.mp below))
  rw [← toUTF8_toList, ← toUTF8_toList] at bytes
  have escaped := compare_escape bytes rest rest'
  change compare (5 :: (textBytes first ++ rest)) (5 :: (textBytes second ++ rest')) = .lt
  unfold textBytes
  rw [Key.compare_cons_self, List.append_assoc, List.append_assoc]
  exact escaped

/-- All numbers take equally many bytes. -/
theorem length_encode_number (a b : Number) :
    (KeyPart.number a).encode.length = (KeyPart.number b).encode.length := by
  have lengths := (length_wordBytes (sortableBits a)).trans (length_wordBytes (sortableBits b)).symm
  exact congrArg Nat.succ lengths

/-- Numbers sort by rank. -/
theorem compare_number (a b : Number) :
    compare (KeyPart.number a).encode (KeyPart.number b).encode = compare a.rank b.rank := by
  change compare (4 :: wordBytes (sortableBits a)) (4 :: wordBytes (sortableBits b)) = _
  rw [Key.compare_cons_self, compare_sortableBytes]

theorem encode_eq_of_rank_eq {a b : Number} (same : a.rank = b.rank) :
    (KeyPart.number a).encode = (KeyPart.number b).encode := by
  have order := compare_number a b
  rw [same, Rows.compare_self] at order
  exact Std.LawfulEqCmp.eq_of_compare order

/-- Parts that differ are no beginnings of each other. -/
theorem not_prefix_of_lt {first second : KeyPart}
    (below : compare first.encode second.encode = .lt) : ¬ first.encode <+: second.encode := by
  rintro ⟨rest, isSecond⟩
  have appended : first.encode ++ rest = second.encode ++ [] := by
    rw [isSecond, List.append_nil]
  rw [encode_inj.mpr (encode_append_eq appended).1, Rows.compare_self] at below
  cases below

/-- Keys sort by their first parts. -/
theorem not_gt_of_append {first second : KeyPart} {rest rest' : Key}
    (below : compare (first.encode ++ rest) (second.encode ++ rest') = .lt) :
    first.encode = second.encode ∨ compare first.encode second.encode = .lt := by
  cases order : compare first.encode second.encode with
  | lt => exact .inr rfl
  | eq => exact .inl (Std.LawfulEqCmp.eq_of_compare order)
  | gt =>
      have above := Std.OrientedCmp.lt_of_gt order
      have reversed := Key.compare_append_of_lt above (not_prefix_of_lt above) rest' rest
      rw [Std.OrientedCmp.gt_of_lt reversed] at below
      cases below

end KeyPart

end RecordIndex
