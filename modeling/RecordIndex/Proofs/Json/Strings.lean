import RecordIndex.Json.Parser

namespace RecordIndex
namespace Json

/-!
# Strings in JSON text

A string that was written reads back as it was, and so does an array of
strings.  In particular, such an array is determined by its text.
-/

/-! ## One string -/

/-- The spelling of a control character by its code point. -/
theorem natural?_digits (n : Nat) (small : n < 32) :
    Hexadecimal.natural? ['0', '0', Hexadecimal.digit (n / 16), Hexadecimal.digit (n % 16)] =
      some n := by
  revert n
  decide

theorem readEscape?_codePoint {c : Char} (control : c.toNat < 32) (rest : List Char) :
    readEscape? ('u' :: '0' :: '0' :: Hexadecimal.digit (c.toNat / 16) ::
      Hexadecimal.digit (c.toNat % 16) :: rest) = some (c, rest) := by
  have small : c.toNat < 0xD800 := by omega
  change readCodePoint? _ = _
  unfold readCodePoint? readUnit?
  simp only [natural?_digits c.toNat control, Option.map_some, Option.bind_eq_bind,
    Option.bind_some, small, decide_true, Bool.true_or, if_true, Char.ofNat_toNat]
  rfl

/-- A written character is read by one step. -/
theorem readString?_escape (fuel : Nat) (text : List Char) (c : Char) (rest : List Char) :
    readString? (fuel + 1) text (escape c ++ rest) = readString? fuel (c :: text) rest := by
  unfold escape
  by_cases isQuote : c = '"'
  · subst isQuote
    rfl
  by_cases isBackslash : c = '\\'
  · subst isBackslash
    rfl
  by_cases isNewline : c = '\n'
  · subst isNewline
    rfl
  by_cases isReturn : c = '\r'
  · subst isReturn
    rfl
  by_cases isTab : c = '\t'
  · subst isTab
    rfl
  by_cases isBackspace : c = '\x08'
  · subst isBackspace
    rfl
  by_cases isFeed : c = '\x0c'
  · subst isFeed
    rfl
  rw [if_neg isQuote, if_neg isBackslash, if_neg isNewline, if_neg isReturn, if_neg isTab,
    if_neg isBackspace, if_neg isFeed]
  by_cases control : c.toNat < 32
  · rw [if_pos control]
    have reads := readEscape?_codePoint control rest
    simp only [List.cons_append, List.nil_append, readString?, reads]
  · rw [if_neg control]
    simp only [List.cons_append, List.nil_append, readString?, control, if_false]

theorem readString?_escaped {fuel : Nat} (cs : List Char) (text rest : List Char)
    (enough : cs.length < fuel) :
    readString? fuel text (cs.flatMap escape ++ '"' :: rest) =
      some (String.ofList (text.reverse ++ cs), rest) := by
  induction cs generalizing fuel text with
  | nil =>
      cases fuel with
      | zero => cases enough
      | succ fuel =>
          rw [List.append_nil]
          rfl
  | cons c cs ih =>
      cases fuel with
      | zero => cases enough
      | succ fuel =>
          have left : cs.length < fuel := Nat.lt_of_succ_lt_succ enough
          rw [List.flatMap_cons, List.append_assoc, readString?_escape, ih (c :: text) left,
            List.reverse_cons, List.append_assoc]
          rfl

/-- What a written character takes up is not nothing. -/
theorem length_escape_pos (c : Char) : 0 < (escape c).length := by
  unfold escape
  repeat' split
  all_goals exact Nat.succ_pos _

theorem length_le_flatMap_escape (cs : List Char) : cs.length ≤ (cs.flatMap escape).length := by
  induction cs with
  | nil => exact Nat.le_refl 0
  | cons c cs ih =>
      have some := length_escape_pos c
      rw [List.flatMap_cons, List.length_append, List.length_cons]
      omega

theorem readValue?_quote {fuel : Nat} (text : String) (rest : List Char) :
    readValue? (fuel + 1) ((quote text).toList ++ rest) = some (.string text, rest) := by
  have shape : (quote text).toList ++ rest =
      '"' :: (text.toList.flatMap escape ++ '"' :: rest) := by
    rw [quote, String.toList_ofList, List.append_assoc]
    rfl
  have enough : text.toList.length < (text.toList.flatMap escape ++ '"' :: rest).length + 1 := by
    have most := length_le_flatMap_escape text.toList
    rw [List.length_append]
    omega
  have unblanked (cs : List Char) : skipBlanks ('"' :: cs) = '"' :: cs := rfl
  rw [shape]
  simp only [readValue?, unblanked, readString?_escaped text.toList [] rest enough,
    Option.map_some, List.reverse_nil, List.nil_append, String.ofList_toList]

/-! ## Arrays of strings -/

theorem skipBlanks_mark {mark : Char} (plain : isBlank mark = false) (rest : List Char) :
    skipBlanks (mark :: rest) = mark :: rest := by
  unfold skipBlanks
  rw [List.dropWhile_cons_of_neg (by rw [plain]; exact Bool.false_ne_true)]

theorem readItems?_strings {fuel : Nat} (first : String) (words : List String)
    (rest : List Char) (enough : words.length + 1 < fuel) :
    readItems? fuel ((itemTexts ((first :: words).map .string)).toList ++ ']' :: rest) =
      some ((first :: words).map .string, rest) := by
  induction words generalizing fuel first with
  | nil =>
      match fuel, enough with
      | fuel + 2, _ =>
          have shape : itemTexts ([first].map .string) = quote first := rfl
          rw [shape, readItems?, readValue?_quote]
          rfl
  | cons second words ih =>
      match fuel, enough with
      | fuel + 2, enough =>
          have left : words.length + 1 < fuel + 1 := Nat.lt_of_succ_lt_succ enough
          have shape : (itemTexts ((first :: second :: words).map .string)).toList ++ ']' :: rest =
              (quote first).toList ++
                ',' :: ((itemTexts ((second :: words).map .string)).toList ++ ']' :: rest) := by
            change (quote first ++ "," ++ itemTexts ((second :: words).map .string)).toList ++ _ = _
            rw [String.toList_append, String.toList_append, List.append_assoc, List.append_assoc]
            rfl
          rw [shape, readItems?, readValue?_quote]
          simp only [skipBlanks_mark (show isBlank ',' = false from rfl), ih second left,
            Option.map_some]
          rfl

/-- The text of some strings begins with a quote. -/
theorem itemTexts_cons (first : String) (words : List String) :
    ∃ behind, (itemTexts ((first :: words).map .string)).toList = '"' :: behind := by
  have quoted : (quote first).toList = '"' :: (first.toList.flatMap escape ++ ['"']) := by
    rw [quote, String.toList_ofList]
    rfl
  cases words with
  | nil => exact ⟨_, quoted⟩
  | cons second words =>
      change ∃ behind, (quote first ++ "," ++ itemTexts ((second :: words).map .string)).toList =
        '"' :: behind
      rw [String.toList_append, String.toList_append, quoted]
      exact ⟨_, rfl⟩

/-- Every string takes up at least its quotes. -/
theorem length_le_itemTexts (words : List String) :
    words.length ≤ (itemTexts (words.map .string)).toList.length := by
  induction words with
  | nil => exact Nat.zero_le _
  | cons first words ih =>
      have quoted : 0 < (quote first).toList.length := by
        rw [quote, String.toList_ofList]
        exact Nat.succ_pos _
      cases words with
      | nil => exact quoted
      | cons second words =>
          change _ ≤ (quote first ++ "," ++ itemTexts ((second :: words).map .string)).toList.length
          rw [String.toList_append, String.toList_append, List.length_append, List.length_append,
            List.length_cons]
          omega

/-- An array of strings reads back as it was written. -/
theorem parse?_strings (words : List String) :
    parse? (Json.array (words.map .string)).text = some (.array (words.map .string)) := by
  have shape : (Json.array (words.map .string)).text.toList =
      '[' :: ((itemTexts (words.map .string)).toList ++ [']']) := by
    change ("[" ++ itemTexts (words.map .string) ++ "]").toList = _
    rw [String.toList_append, String.toList_append]
    rfl
  have unblanked (cs : List Char) : skipBlanks ('[' :: cs) = '[' :: cs := rfl
  unfold parse?
  rw [shape]
  cases words with
  | nil => rfl
  | cons first words =>
      have most := length_le_itemTexts (first :: words)
      have enough : words.length + 1 <
          2 * ('[' :: ((itemTexts ((first :: words).map .string)).toList ++ [']'])).length := by
        rw [List.length_cons, List.length_append]
        rw [List.length_cons] at most
        omega
      have items := readItems?_strings first words [] enough
      rcases itemTexts_cons first words with ⟨behind, starts⟩
      rw [starts, List.cons_append] at items enough ⊢
      simp only [readValue?, unblanked, skipBlanks_mark (show isBlank '"' = false from rfl), items,
        Option.map_some]
      rfl

/-- Arrays of strings with one text are one array. -/
theorem eq_of_text_eq {words words' : List String}
    (same : (Json.array (words.map .string)).text = (Json.array (words'.map .string)).text) :
    words = words' := by
  have read := parse?_strings words
  rw [same, parse?_strings] at read
  have items := Json.array.inj (Option.some.inj read)
  exact (List.map_inj_right fun _ _ equal => Json.string.inj equal).mp items.symm

end Json
end RecordIndex
