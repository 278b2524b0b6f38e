import RecordIndex.Proofs.Value.Stored
import RecordIndex.Tokenizer

namespace RecordIndex

/-!
# Tokens stand for themselves

Behind an at sign that begins a segment of a text nothing can follow but marks
and joiners, since an at sign is no letter.  The tags that stand for values
continue with letters.  So no token is taken for a tag, and what is indexed for
a string by its tokens is read as strings.

This is all that is asked of the way to split a text into words: the terms of
a text stand for themselves under any way that is quiet in this sense.
-/

namespace Words

/-- The character continues whatever segment stands before it. -/
def IsExtending (c : Char) : Prop :=
  WordBreak.ofChar c = .mark ∨ WordBreak.ofChar c = .joiner

instance (c : Char) : Decidable (IsExtending c) :=
  inferInstanceAs (Decidable (_ ∨ _))

/-- An at sign in front is followed by nothing but what continues anything. -/
def OpensQuietly (chars : List Char) : Prop :=
  forall c rest, chars = '@' :: c :: rest -> IsExtending c

theorem opensQuietly_of_head {chars : List Char} (different : chars.head? ≠ some '@') :
    OpensQuietly chars := by
  intro c rest same
  subst same
  exact absurd rfl different

/-- A way to split texts of which every word opens quietly. -/
def SplitsQuietly (split : String -> List String) : Prop :=
  forall text, ∀ word ∈ split text, OpensQuietly word.toList

/-- What is added behind the second character does not matter. -/
theorem OpensQuietly.append {front more : List Char} (quiet : OpensQuietly front)
    (nonempty : front ≠ []) (alone : front = ['@'] -> OpensQuietly ('@' :: more)) :
    OpensQuietly (front ++ more) := by
  intro c rest same
  cases front with
  | nil => exact absurd rfl nonempty
  | cons first front =>
      cases front with
      | nil =>
          cases same
          exact alone rfl c rest rfl
      | cons second front =>
          cases same
          exact quiet c front rfl

/-! ## Segments -/

/-- No segment goes on with an at sign. -/
theorem next?_other (state : SegmentState) : state.next? .other = none := by
  cases state with
  | _ => rfl

theorem ne_at_of_next? {state next : SegmentState} {c : Char}
    (isNext : state.next? (WordBreak.ofChar c) = some next) : c ≠ '@' := by
  rintro rfl
  cases (next?_other state).symm.trans isNext

/-- What stands alone goes on with marks only, and still stands alone. -/
theorem isExtending_of_alone {next : SegmentState} {c : Char}
    (isNext : SegmentState.alone.next? (WordBreak.ofChar c) = some next) :
    IsExtending c ∧ next = .alone := by
  unfold SegmentState.next? at isNext
  split at isNext
  · rename_i isMark
    cases isNext
    exact ⟨.inl isMark, rfl⟩
  · rename_i isJoiner
    cases isNext
    exact ⟨.inr isJoiner, rfl⟩
  · cases isNext

namespace Segment

/-- A segment that begins with an at sign stands alone, and what follows there
continues anything. -/
structure Quiet (segment : Segment) : Prop where
  isTaken : segment.taken ≠ []
  opens : OpensQuietly segment.taken.reverse
  standsAlone : segment.taken.getLast? = some '@' -> segment.state = .alone ∧ segment.held = []
  heldOpens : segment.held.getLast? ≠ some '@'
  joinsNothing : segment.taken = ['@'] -> segment.afterJoiner = false

theorem quiet_start (c : Char) : (start c).Quiet where
  isTaken := nofun
  opens := nofun
  standsAlone := by
    intro isAt
    cases isAt
    exact ⟨rfl, rfl⟩
  heldOpens := nofun
  joinsNothing := by
    intro isAt
    cases isAt
    rfl

variable {segment longer : Segment} {c : Char}

/-- What is added to a segment comes behind what is taken and what is held. -/
theorem Quiet.opens_added (quiet : segment.Quiet)
    (alone : segment.taken = ['@'] -> segment.held = [] -> IsExtending c) :
    OpensQuietly (c :: segment.held ++ segment.taken).reverse := by
  rw [List.reverse_append]
  refine quiet.opens.append (fun none => quiet.isTaken (List.reverse_eq_nil_iff.mp none)) ?_
  intro isAt
  have isAt : segment.taken = ['@'] := by
    rw [← List.reverse_reverse segment.taken, isAt]
    rfl
  have noneHeld := (quiet.standsAlone (by rw [isAt]; rfl)).2
  rw [noneHeld]
  intro c' rest same
  cases same
  exact alone isAt noneHeld

theorem getLast?_added (quiet : segment.Quiet) :
    (c :: segment.held ++ segment.taken).getLast? = segment.taken.getLast? := by
  rw [List.getLast?_append]
  cases isLast : segment.taken.getLast? with
  | none => exact absurd (List.getLast?_eq_none_iff.mp isLast) quiet.isTaken
  | some last => rfl

theorem ne_singleton_added (quiet : segment.Quiet) :
    c :: segment.held ++ segment.taken ≠ ['@'] := by
  intro same
  have rest := (List.cons.inj same).2
  exact quiet.isTaken (List.append_eq_nil_iff.mp rest).2

theorem Quiet.add (quiet : segment.Quiet) (isLonger : segment.add? c = some longer) :
    longer.Quiet := by
  unfold add? at isLonger
  dsimp only at isLonger
  split at isLonger
  · -- A joiner stands before, so the segment is not the at sign alone.
    rename_i joins
    have afterJoiner := (Bool.and_eq_true_iff.mp joins).1
    cases isLonger
    refine ⟨nofun, quiet.opens_added ?_, fun _ => ⟨rfl, rfl⟩, nofun,
      fun same => absurd same (ne_singleton_added quiet)⟩
    intro isAt
    rw [quiet.joinsNothing isAt] at afterJoiner
    cases afterJoiner
  · rcases Option.map_eq_some_iff.mp isLonger with ⟨state, isNext, added⟩
    have goesOn (isAt : segment.taken.getLast? = some '@') :
        IsExtending c ∧ state = .alone := by
      rw [(quiet.standsAlone isAt).1] at isNext
      exact isExtending_of_alone isNext
    split at added
    · rename_i holdsBack
      cases added
      have notAt : segment.taken.getLast? ≠ some '@' := by
        intro isAt
        rw [(goesOn isAt).2] at holdsBack
        cases holdsBack
      refine ⟨quiet.isTaken, quiet.opens, fun isAt => absurd isAt notAt, ?_, ?_⟩
      · change (c :: segment.held).getLast? ≠ some '@'
        cases held : segment.held with
        | nil =>
            intro isAt
            exact ne_at_of_next? isNext (Option.some.inj isAt)
        | cons first rest =>
            rw [List.getLast?_cons_cons, ← held]
            exact quiet.heldOpens
      · intro same
        have same : segment.taken = ['@'] := same
        rw [same] at notAt
        exact absurd rfl notAt
    · cases added
      refine ⟨nofun, quiet.opens_added ?_, ?_, nofun,
        fun same => absurd same (ne_singleton_added quiet)⟩
      · intro isAt _
        exact (goesOn (by rw [isAt]; rfl)).1
      · intro isAt
        have isAt : (c :: segment.held ++ segment.taken).getLast? = some '@' := isAt
        rw [getLast?_added quiet] at isAt
        exact ⟨(goesOn isAt).2, rfl⟩

theorem Quiet.finish (quiet : segment.Quiet) : ∀ chars ∈ segment.finish, OpensQuietly chars := by
  have held : OpensQuietly segment.held.reverse := by
    apply opensQuietly_of_head
    rw [List.head?_reverse]
    exact quiet.heldOpens
  intro chars member
  unfold Segment.finish at member
  dsimp only at member
  split at member
  · rw [List.mem_singleton.mp member]
    exact quiet.opens
  · rcases List.mem_cons.mp member with rfl | isHeld
    · exact quiet.opens
    · rw [List.mem_singleton.mp isHeld]
      exact held

end Segment

theorem opensQuietly_segmentsFrom {segment : Segment} (quiet : segment.Quiet) (chars : List Char) :
    ∀ found ∈ segmentsFrom segment chars, OpensQuietly found := by
  induction chars generalizing segment with
  | nil => exact quiet.finish
  | cons c rest ih =>
      unfold segmentsFrom
      split
      · rename_i longer isLonger
        exact ih (quiet.add isLonger)
      · intro found member
        rcases List.mem_append.mp member with ends | later
        · exact quiet.finish found ends
        · exact ih (Segment.quiet_start c) found later

/-- No word goes on with a letter behind an at sign. -/
theorem splitsQuietly_words : SplitsQuietly words := by
  intro text word member
  rcases List.mem_map.mp member with ⟨chars, isSegment, rfl⟩
  rw [String.toList_ofList]
  have isSegment := (List.mem_filter.mp isSegment).1
  unfold segments at isSegment
  split at isSegment
  · cases isSegment
  · exact opensQuietly_segmentsFrom (Segment.quiet_start _) _ chars isSegment

end Words

/-! ## Tags -/

namespace Value

open Words

theorem not_isExtending_of_opening {c : Char} (opens : c ∈ "uNI-DRS".toList) :
    ¬ IsExtending c := by
  have alone : "uNI-DRS".toList.all (fun c => decide (¬ IsExtending c)) = true := by decide
  exact of_decide_eq_true (List.all_eq_true.mp alone c opens)

/-- What opens quietly does not begin with a tag. -/
theorem not_prefix_of_opensQuietly {chars opening : List Char} {c : Char} {rest : List Char}
    (quiet : OpensQuietly chars) (shape : opening = '@' :: c :: rest)
    (opens : c ∈ "uNI-DRS".toList) : ¬ opening <+: chars := by
  rintro ⟨behind, rfl⟩
  subst shape
  exact not_isExtending_of_opening opens (quiet c (rest ++ behind) rfl)

theorem tagBody?_of_opensQuietly {chars : List Char} {opening : String} {c : Char}
    {rest : List Char} (quiet : OpensQuietly chars) (shape : opening.toList = '@' :: c :: rest)
    (opens : c ∈ "uNI-DRS".toList) : tagBody? opening chars = none := by
  have noPrefix := not_prefix_of_opensQuietly quiet shape opens
  unfold tagBody?
  rw [if_neg fun begins => noPrefix (List.isPrefixOf_iff_prefix.mp begins)]

/-- What opens quietly stands for itself. -/
theorem decodeString_of_opensQuietly {text : String} (quiet : OpensQuietly text.toList) :
    decodeString text = .string text := by
  have noWord : text ∉ tagWords := by
    have refused {word : String} {c : Char} {rest : List Char}
        (shape : word.toList = '@' :: c :: rest) (opens : c ∈ "uNI-DRS".toList) : text ≠ word := by
      rintro rfl
      exact not_prefix_of_opensQuietly quiet shape opens (List.prefix_refl _)
    intro member
    rcases List.mem_cons.mp member with same | member
    · exact refused (c := 'u') rfl (by decide) same
    · rcases List.mem_cons.mp member with same | member
      · exact refused (c := 'N') rfl (by decide) same
      · rcases List.mem_cons.mp member with same | member
        · exact refused (c := 'I') rfl (by decide) same
        · exact refused (c := '-') rfl (by decide) (List.mem_singleton.mp member)
  have date : dateTag? text.toList = none := by
    unfold dateTag?
    rw [tagBody?_of_opensQuietly (c := 'D') quiet rfl (by decide)]
    rfl
  have regExp : regExpTag? text.toList = none := by
    unfold regExpTag?
    rw [tagBody?_of_opensQuietly (c := 'R') quiet rfl (by decide)]
    rfl
  have symbol : symbolTag? text.toList = none := by
    unfold symbolTag?
    rw [tagBody?_of_opensQuietly (c := 'S') quiet rfl (by decide)]
    rfl
  rw [decodeString_of_not_word noWord, date, regExp, symbol]
  rfl

end Value

namespace Tokenizer

/-- The terms of a text under any way to split texts. -/
def termsBy (split : String -> List String) (tokenizer : Tokenizer) (text : String) :
    List String :=
  let tokens := (split (Lowercase.lower text)).filter fun word =>
    !tokenizer.stopWords.contains word
  if tokens.isEmpty then [text] else tokens

theorem termsBy_words (tokenizer : Tokenizer) (text : String) :
    tokenizer.termsBy Words.words text = tokenizer.terms text :=
  rfl

variable {split : String -> List String} {tokenizer : Tokenizer} {text term : String}

/-- Under a quiet way to split texts, the terms of a text that stands for
itself stand for themselves. -/
theorem decodeString_of_mem_termsBy (quiet : Words.SplitsQuietly split)
    (plain : Value.decodeString text = .string text)
    (member : term ∈ tokenizer.termsBy split text) : Value.decodeString term = .string term := by
  unfold termsBy at member
  dsimp only at member
  split at member
  · rw [List.mem_singleton.mp member]
    exact plain
  · have isWord := (List.mem_filter.mp member).1
    exact Value.decodeString_of_opensQuietly (quiet _ term isWord)

theorem termsBy_ne_nil (split : String -> List String) (tokenizer : Tokenizer) (text : String) :
    tokenizer.termsBy split text ≠ [] := by
  unfold termsBy
  dsimp only
  split
  · exact nofun
  · rename_i someToken
    exact fun none => someToken (List.isEmpty_iff.mpr none)

/-- The terms of a text that stands for itself stand for themselves. -/
theorem decodeString_of_mem_terms (plain : Value.decodeString text = .string text)
    (member : term ∈ tokenizer.terms text) : Value.decodeString term = .string term := by
  rw [← termsBy_words] at member
  exact decodeString_of_mem_termsBy Words.splitsQuietly_words plain member

theorem terms_ne_nil (tokenizer : Tokenizer) (text : String) : tokenizer.terms text ≠ [] := by
  rw [← termsBy_words]
  exact termsBy_ne_nil Words.words tokenizer text

end Tokenizer

end RecordIndex
