import RecordIndex.Query.Range

namespace RecordIndex

/-!
# Sorting candidates

The candidates of a query are sorted by a mark that several of them may share.
Those with one mark stay in the order in which they were found.
-/

section

variable {Item : Type} (notAfter : Item -> Item -> Bool)
  (trans : forall first second third, notAfter first second = true ->
    notAfter second third = true -> notAfter first third = true)
  (total : forall first second, (notAfter first second || notAfter second first) = true)

include trans total

/-- Sorting leaves the items that come neither before nor after a given one in
their order. -/
theorem filter_mergeSort (items : List Item) (item : Item) :
    (items.mergeSort notAfter).filter (fun other => notAfter item other && notAfter other item) =
      items.filter fun other => notAfter item other && notAfter other item := by
  let alike : Item -> Bool := fun other => notAfter item other && notAfter other item
  have unordered : (items.filter alike).Pairwise fun first second =>
      notAfter first second = true := by
    refine List.pairwise_iff_forall_sublist.mpr fun {first second} pair => ?_
    have isAlike := fun other (member : other ∈ [first, second]) =>
      Bool.and_eq_true_iff.mp (List.mem_filter.mp (pair.subset member)).2
    exact trans first item second (isAlike first (.head _)).2 (isAlike second (.tail _ (.head _))).1
  have kept := (List.sublist_mergeSort trans total unordered List.filter_sublist).filter alike
  rw [List.filter_filter] at kept
  simp only [Bool.and_self] at kept
  exact (kept.eq_of_length ((List.mergeSort_perm items _).filter alike).length_eq.symm).symm

/-- An item in front is sorted in behind those that it comes after. -/
theorem mergeSort_cons_eq (first : Item) (rest : List Item) :
    (first :: rest).mergeSort notAfter =
      ((rest.mergeSort notAfter).filter fun other => !notAfter first other) ++
        first :: (rest.mergeSort notAfter).filter (notAfter first) := by
  rcases List.mergeSort_cons trans total first rest with
    ⟨before, behind, sorted, sortedRest, precede⟩
  have ordered := List.pairwise_mergeSort trans total (first :: rest)
  rw [sorted, List.pairwise_append, List.pairwise_cons] at ordered
  have follow : ∀ other ∈ behind, notAfter first other = true := ordered.2.1.1
  rw [sorted, sortedRest, List.filter_append, List.filter_append, List.filter_eq_self.mpr precede,
    List.filter_eq_self.mpr follow]
  have noneBehind : (behind.filter fun other => !notAfter first other) = [] :=
    List.filter_eq_nil_iff.mpr fun other member => by simp [follow other member]
  have noneBefore : before.filter (notAfter first) = [] :=
    List.filter_eq_nil_iff.mpr fun other member => by simpa using precede other member
  rw [noneBehind, noneBefore, List.append_nil, List.nil_append]

/-- Some of the items are sorted as they are among all of them. -/
theorem mergeSort_filter (items : List Item) (kept : Item -> Bool) :
    (items.filter kept).mergeSort notAfter = (items.mergeSort notAfter).filter kept := by
  induction items with
  | nil => simp
  | cons first rest ih =>
      cases isKept : kept first with
      | true =>
          rw [List.filter_cons_of_pos isKept, mergeSort_cons_eq notAfter trans total,
            mergeSort_cons_eq notAfter trans total, ih, List.filter_append,
            List.filter_cons_of_pos isKept]
          simp [Bool.and_comm]
      | false =>
          have omitted : ¬ kept first = true := by simp [isKept]
          rcases List.mergeSort_cons trans total first rest with
            ⟨before, behind, sorted, sortedRest, _⟩
          rw [List.filter_cons_of_neg omitted, ih, sorted, sortedRest, List.filter_append,
            List.filter_append, List.filter_cons_of_neg omitted]

/-- Of two items of a sorted list, the first does not come after the other, and
it comes before it or stood before it as well. -/
theorem mergeSort_pairwise (items : List Item) :
    (items.mergeSort notAfter).Pairwise fun item later => notAfter item later = true ∧
      (notAfter later item = true -> [item, later].Sublist items) := by
  have ordered := List.pairwise_mergeSort trans total items
  refine List.pairwise_iff_forall_sublist.mpr fun {item later} pair => ?_
  have inOrder := List.pairwise_iff_forall_sublist.mp ordered pair
  refine ⟨inOrder, fun goesBack => ?_⟩
  have reflexive : notAfter item item = true := trans item later item inOrder goesBack
  have both : [item, later].filter (fun other => notAfter item other && notAfter other item) =
      [item, later] := by
    rw [List.filter_cons_of_pos (by rw [reflexive]; rfl),
      List.filter_cons_of_pos (by rw [inOrder, goesBack]; rfl), List.filter_nil]
  have kept := pair.filter fun other => notAfter item other && notAfter other item
  rw [both, filter_mergeSort notAfter trans total] at kept
  exact kept.trans List.filter_sublist

end

/-- Items that are sorted by a number come by ascending numbers, and those with
one number in the order in which they stood. -/
theorem mergeSort_pairwise_of_number {Item : Type} {notAfter : Item -> Item -> Bool}
    (number : Item -> Int)
    (isOrder : forall first second, notAfter first second = true ↔ number first ≤ number second)
    (items : List Item) :
    (items.mergeSort notAfter).Pairwise fun item later => number item < number later ∨
      number item = number later ∧ [item, later].Sublist items := by
  have trans (first second third : Item) (ordered : notAfter first second = true)
      (ordered' : notAfter second third = true) : notAfter first third = true :=
    (isOrder first third).mpr
      (Int.le_trans ((isOrder first second).mp ordered) ((isOrder second third).mp ordered'))
  have total (first second : Item) : (notAfter first second || notAfter second first) = true := by
    rw [Bool.or_eq_true, isOrder, isOrder]
    exact Int.le_total _ _
  refine (mergeSort_pairwise notAfter trans total items).imp fun {item later} ⟨inOrder, stands⟩ => ?_
  rcases Int.lt_or_eq_of_le ((isOrder item later).mp inOrder) with less | same
  · exact .inl less
  · exact .inr ⟨same, stands ((isOrder later item).mpr (Int.le_of_eq same.symm))⟩

/-- The better scores come first. -/
theorem sortByScore_pairwise (candidates : List (Candidate Nat)) :
    (sortByScore candidates).Pairwise fun candidate later => later.mark < candidate.mark ∨
      later.mark = candidate.mark ∧ [candidate, later].Sublist candidates := by
  have sorted := mergeSort_pairwise_of_number
    (fun candidate : Candidate Nat => -(candidate.mark : Int))
    (fun _ _ => decide_eq_true_iff.trans (Int.neg_le_neg_iff.trans Int.ofNat_le).symm) candidates
  refine sorted.imp fun {candidate later} inOrder => inOrder.imp ?_ (And.imp_left ?_)
  · exact fun less => Int.ofNat_lt.mp (Int.neg_lt_neg_iff.mp less)
  · exact fun same => (Int.ofNat_inj.mp (Int.neg_inj.mp same)).symm

/-- Some of the candidates are sorted as they are among all of them. -/
theorem sortByScore_filter (candidates : List (Candidate Nat)) (kept : Candidate Nat -> Bool) :
    sortByScore (candidates.filter kept) = (sortByScore candidates).filter kept := by
  refine mergeSort_filter _ ?_ ?_ candidates kept
  · intro first second third ordered ordered'
    exact decide_eq_true (Nat.le_trans (of_decide_eq_true ordered') (of_decide_eq_true ordered))
  · intro first second
    rw [Bool.or_eq_true, decide_eq_true_iff, decide_eq_true_iff]
    exact Nat.le_total _ _

/-- The smaller distances come first. -/
theorem sortByDistance_pairwise (candidates : List (Candidate Single)) :
    (sortByDistance candidates).Pairwise fun candidate later =>
      candidate.mark.rank < later.mark.rank ∨
        candidate.mark.rank = later.mark.rank ∧ [candidate, later].Sublist candidates :=
  mergeSort_pairwise_of_number (fun candidate : Candidate Single => candidate.mark.rank)
    (fun _ _ => decide_eq_true_iff) candidates

end RecordIndex
