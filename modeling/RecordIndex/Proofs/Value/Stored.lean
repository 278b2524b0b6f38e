import RecordIndex.Proofs.Number.Whole
import RecordIndex.Proofs.Text.Integer
import RecordIndex.Value.Leaf

namespace RecordIndex

/-!
# What is stored reads back

A scalar is read back as it was written, up to the sign of a zero and the bits
of what is not a number, so it is indexed alike before and after.  Strings read
back unless they spell a tag, and expressions read back when their flags are
those of a literal.
-/

namespace Value

/-! ## Tags -/

/-- The words that stand for a value by themselves. -/
def tagWords : List String :=
  [undefinedTag, "@NaN", "@Infinity", "@-Infinity"]

/-- A string that is none of the words is read by what it opens with. -/
theorem decodeString_of_not_word {text : String} (noWord : text ∉ tagWords) :
    decodeString text =
      match dateTag? text.toList with
      | some value => value
      | none =>
          match regExpTag? text.toList with
          | some value => value
          | none => (symbolTag? text.toList).getD (.string text) := by
  have different : ∀ word ∈ tagWords, ¬ text = word :=
    fun word member same => noWord (same ▸ member)
  refine (if_neg (different _ (.head _))).trans ?_
  refine (if_neg (different _ (.tail _ (.head _)))).trans ?_
  refine (if_neg (different _ (.tail _ (.tail _ (.head _))))).trans ?_
  exact if_neg (different _ (.tail _ (.tail _ (.tail _ (.head _)))))

/-- No word begins like a tag that encloses something. -/
theorem append_not_word {opening : String}
    (opens : tagWords.all (fun word => !opening.toList.isPrefixOf word.toList) = true)
    (rest : String) : opening ++ rest ∉ tagWords := by
  intro member
  have apart := List.all_eq_true.mp opens _ member
  have begins : opening.toList.isPrefixOf (opening ++ rest).toList = true := by
    rw [String.toList_append]
    exact List.isPrefixOf_iff_prefix.mpr (List.prefix_append _ _)
  rw [begins] at apart
  cases apart

/-- The body of a tag is what the tag was put around. -/
theorem tagBody?_enclosed (opening body : String) :
    tagBody? opening (opening ++ body ++ ")").toList = some body.toList := by
  have shape : (opening ++ body ++ ")").toList = opening.toList ++ (body.toList ++ [')']) := by
    rw [String.toList_append, String.toList_append, List.append_assoc]
    rfl
  have begins : opening.toList.isPrefixOf (opening.toList ++ (body.toList ++ [')'])) = true :=
    List.isPrefixOf_iff_prefix.mpr (List.prefix_append _ _)
  rw [shape]
  unfold tagBody?
  rw [if_pos begins, ← String.length_toList, List.drop_left]
  dsimp only
  rw [List.getLast?_concat, if_pos rfl, List.dropLast_concat]

/-- Two tags that differ within both openings are not taken for each other. -/
theorem tagBody?_of_apart {opening other : String}
    (apart : forall rest, opening.toList.isPrefixOf (other.toList ++ rest) = false)
    (rest : String) : tagBody? opening (other ++ rest).toList = none := by
  unfold tagBody?
  rw [String.toList_append, apart]
  rfl

theorem decodeString_dateTag (millis : Int64) : decodeString (dateTag millis) = .date millis := by
  have noWord : dateTag millis ∉ tagWords := by
    unfold dateTag
    rw [String.append_assoc]
    exact append_not_word rfl _
  have date : dateTag? (dateTag millis).toList = some (.date millis) := by
    unfold dateTag? dateTag
    rw [tagBody?_enclosed, Option.bind_some, IntegerText.integer?_repr]
    rfl
  rw [decodeString_of_not_word noWord, date]

theorem decodeString_symbolTag (name : String) : decodeString (symbolTag name) = .symbol name := by
  have noWord : symbolTag name ∉ tagWords := by
    unfold symbolTag
    rw [String.append_assoc]
    exact append_not_word rfl _
  have date : dateTag? (symbolTag name).toList = none := by
    unfold dateTag? symbolTag
    rw [String.append_assoc, tagBody?_of_apart (fun _ => rfl)]
    rfl
  have regExp : regExpTag? (symbolTag name).toList = none := by
    unfold regExpTag? symbolTag
    rw [String.append_assoc, tagBody?_of_apart (fun _ => rfl)]
    rfl
  have symbol : symbolTag? (symbolTag name).toList = some (.symbol name) := by
    unfold symbolTag? symbolTag
    rw [tagBody?_enclosed, Option.map_some, String.ofList_toList]
  rw [decodeString_of_not_word noWord, date, regExp, symbol]
  rfl

/-! ## Expressions -/

theorem splitAtLast?_of_not_mem {mark : Char} {chars : List Char} (absent : mark ∉ chars) :
    splitAtLast? mark chars = none := by
  induction chars with
  | nil => rfl
  | cons c rest ih =>
      have different : ¬ c = mark := fun same => absent (same ▸ List.mem_cons_self)
      rw [splitAtLast?, ih (fun member => absent (List.mem_cons_of_mem c member))]
      dsimp only
      rw [if_neg different]

/-- The last mark stands where no further one follows. -/
theorem splitAtLast?_append {mark : Char} {after : List Char} (absent : mark ∉ after)
    (before : List Char) : splitAtLast? mark (before ++ mark :: after) = some (before, after) := by
  induction before with
  | nil =>
      rw [List.nil_append, splitAtLast?, splitAtLast?_of_not_mem absent]
      exact if_pos rfl
  | cons c rest ih => rw [List.cons_append, splitAtLast?, ih]

/-- A literal tells its source and its flags, since no flag is a slash. -/
theorem splitLiteral?_literal (source : String) {flags : String}
    (literal : flags.toList.all isLiteralFlag = true) :
    splitLiteral? ("/" ++ source ++ "/" ++ flags).toList = some (source, flags) := by
  have noSlash : '/' ∉ flags.toList := by
    intro member
    have slash := List.all_eq_true.mp literal _ member
    revert slash
    decide
  have shape : ("/" ++ source ++ "/" ++ flags).toList =
      '/' :: (source.toList ++ '/' :: flags.toList) := by
    rw [String.toList_append, String.toList_append, String.toList_append, List.append_assoc,
      List.append_assoc]
    rfl
  rw [shape, splitLiteral?, splitAtLast?_append noSlash]
  dsimp only
  rw [if_pos literal, String.ofList_toList, String.ofList_toList]

theorem decodeString_regExpTag (source : String) {flags : String}
    (literal : flags.toList.all isLiteralFlag = true) :
    decodeString (regExpTag source flags) = .regExp source flags := by
  have shape : regExpTag source flags = "@RegExp(" ++ ("/" ++ source ++ "/" ++ flags) ++ ")" := by
    have opening : "@RegExp(/" = "@RegExp(" ++ "/" := rfl
    unfold regExpTag
    rw [opening]
    simp only [String.append_assoc]
  have noWord : regExpTag source flags ∉ tagWords := by
    rw [shape, String.append_assoc]
    exact append_not_word rfl _
  have date : dateTag? (regExpTag source flags).toList = none := by
    unfold dateTag?
    rw [shape, String.append_assoc, tagBody?_of_apart (fun _ => rfl)]
    rfl
  have regExp : regExpTag? (regExpTag source flags).toList = some (.regExp source flags) := by
    unfold regExpTag?
    rw [shape, tagBody?_enclosed, Option.bind_some, splitLiteral?_literal source literal]
    rfl
  rw [decodeString_of_not_word noWord, date, regExp]

/-! ## Numbers -/

/-- The number that is read for a stored one. -/
def storedNumber (n : Number) : Number :=
  if n.isNaN then Number.nan else n.keyed

/-- A number that is no number in the exact range is kept as it is. -/
theorem keyed_of_not_whole {n : Number} (notZero : n.toInt? ≠ some 0) : n.keyed = n :=
  if_neg fun none => notZero (Number.toInt?_of_magnitude_zero none)

theorem isNaN_keyed {n : Number} (isNumber : n.isNaN = false) : n.keyed.isNaN = false :=
  (Number.isNaN_keyed n).trans isNumber

theorem isNaN_of_isFinite {n : Number} (finite : n.isFinite = true) : n.isNaN = false :=
  decide_eq_false (Nat.not_lt.mpr (Nat.le_of_lt (of_decide_eq_true finite)))

/-- What is neither finite nor an infinity is no number. -/
theorem decodeString_numberTag {n : Number} (infinite : n.isFinite = false) :
    decodeString (numberTag n) = .number (storedNumber n) := by
  have large := Nat.le_of_not_lt (of_decide_eq_false infinite)
  unfold numberTag storedNumber
  cases notNumber : n.isNaN with
  | true => rfl
  | false =>
      have magnitude : n.magnitude = Number.infiniteMagnitude :=
        Nat.le_antisymm (Nat.le_of_not_lt (of_decide_eq_false notNumber)) large
      have kept : n.keyed = n := if_neg (by rw [magnitude]; decide)
      have same (bits : UInt64) (spelled : n.bits.toNat = bits.toNat) : n = ⟨bits⟩ :=
        congrArg Number.mk (UInt64.toNat_inj.mp spelled)
      rw [if_neg Bool.false_ne_true, if_neg Bool.false_ne_true, kept]
      cases negative : n.isNegative with
      | true =>
          have bits := Number.toNat_bits_of_negative negative
          rw [magnitude] at bits
          rw [same Number.negativeInfinity.bits bits]
          rfl
      | false =>
          have bits := Number.toNat_bits_of_nonnegative negative
          rw [magnitude] at bits
          rw [same Number.infinity.bits bits]
          rfl

theorem decode_encodeNumber (n : Number) :
    decode (encodeNumber n) = .number (storedNumber n) := by
  unfold encodeNumber
  cases finite : n.isFinite with
  | false =>
      rw [if_neg Bool.false_ne_true]
      exact decodeString_numberTag finite
  | true =>
      have stored : storedNumber n = n.keyed := by
        unfold storedNumber
        rw [isNaN_of_isFinite finite]
        rfl
      rw [if_pos rfl, stored]
      split
      · rename_i i isWhole
        split
        · rename_i exactly
          exact congrArg Value.number (Number.ofInt_of_toInt? isWhole exactly)
        · rename_i inexact
          refine congrArg Value.number (keyed_of_not_whole fun none => inexact ?_).symm
          rw [isWhole] at none
          rw [Option.some.inj none]
          exact Nat.zero_le _
      · rename_i notWhole
        refine congrArg Value.number (keyed_of_not_whole fun none => ?_).symm
        rw [notWhole] at none
        cases none

end Value

end RecordIndex
