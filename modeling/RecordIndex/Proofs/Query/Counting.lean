import RecordIndex.Proofs.Query.Scanning
import RecordIndex.Proofs.Table.Lookup
import RecordIndex.Query.Matches

namespace RecordIndex

/-!
# What a search counts

A search goes through its terms one after another and drops a record at the
first term that does not find it.  So what it knows of a record is how many
terms at the front find it, its leading run.  In the middle of a phase the counts
tell the runs up to this phase, and at its end they tell which of them go on.
-/

/-- An element is taken when all before it are and it passes the test itself. -/
theorem lt_length_takeWhile_iff {Element : Type} {test : Element -> Bool}
    {elements : List Element} {place : Nat} {element : Element}
    (isThere : elements[place]? = some element)
    (reached : place ≤ (elements.takeWhile test).length) :
    place < (elements.takeWhile test).length ↔ test element = true := by
  induction elements generalizing place with
  | nil => cases isThere
  | cons first rest ih =>
      cases passes : test first with
      | false =>
          rw [List.takeWhile_cons_of_neg (by rw [passes]; exact Bool.false_ne_true)] at reached ⊢
          cases Nat.le_zero.mp reached
          cases isThere
          rw [passes]
          exact ⟨nofun, nofun⟩
      | true =>
          rw [List.takeWhile_cons_of_pos passes, List.length_cons] at reached ⊢
          cases place with
          | zero =>
              cases isThere
              exact ⟨fun _ => passes, fun _ => Nat.succ_pos _⟩
          | succ place =>
              rw [Nat.succ_lt_succ_iff]
              exact ih isThere (Nat.le_of_succ_le_succ reached)

/-- So many elements are taken when all of these pass the test. -/
theorem le_length_takeWhile_iff {Element : Type} {test : Element -> Bool}
    {elements : List Element} {count : Nat} (enough : count ≤ elements.length) :
    count ≤ (elements.takeWhile test).length ↔
      ∀ element ∈ elements.take count, test element = true := by
  induction elements generalizing count with
  | nil =>
      cases Nat.le_zero.mp enough
      exact ⟨fun _ => nofun, fun _ => Nat.zero_le _⟩
  | cons first rest ih =>
      cases count with
      | zero => exact ⟨fun _ => nofun, fun _ => Nat.zero_le _⟩
      | succ count =>
          rw [List.take_succ_cons, List.forall_mem_cons]
          cases passes : test first with
          | false =>
              rw [List.takeWhile_cons_of_neg (by rw [passes]; exact Bool.false_ne_true)]
              exact ⟨fun reached => absurd reached (Nat.not_succ_le_zero _),
                fun both => nomatch both.1⟩
          | true =>
              rw [List.takeWhile_cons_of_pos passes, List.length_cons, Nat.succ_le_succ_iff,
                ih (Nat.le_of_succ_le_succ enough)]
              exact ⟨fun later => ⟨rfl, later⟩, fun both => both.2⟩

/-- All elements are taken when all of them pass the test. -/
theorem length_takeWhile_eq_iff {Element : Type} {test : Element -> Bool}
    {elements : List Element} : (elements.takeWhile test).length = elements.length ↔
      ∀ element ∈ elements, test element = true := by
  have atMost := (List.takeWhile_sublist test (l := elements)).length_le
  have taken : elements.length ≤ (elements.takeWhile test).length ↔ _ :=
    le_length_takeWhile_iff (Nat.le_refl elements.length)
  rw [List.take_length] at taken
  rw [← taken]
  exact ⟨Nat.le_of_eq ∘ Eq.symm, Nat.le_antisymm atMost⟩

theorem takeWhile_congr {Element : Type} {test test' : Element -> Bool} {elements : List Element}
    (alike : ∀ element ∈ elements, test element = test' element) :
    elements.takeWhile test = elements.takeWhile test' := by
  induction elements with
  | nil => rfl
  | cons first rest ih =>
      have restAlike := ih fun element member => alike element (List.mem_cons_of_mem first member)
      rw [List.takeWhile_cons, List.takeWhile_cons, alike first List.mem_cons_self, restAlike]

namespace IndexMatches

variable {store : Store} {search : IndexMatches}

/-! ## Leading runs -/

/-- The terms at the front that find a record are so many. -/
def leading (store : Store) (search : IndexMatches) (id : String) : Nat :=
  (search.terms.takeWhile fun term =>
    (TermScan.finds store search.typeName search.tokenized term).contains id).length

theorem leading_le (store : Store) (search : IndexMatches) (id : String) :
    search.leading store id ≤ search.terms.length :=
  (List.takeWhile_sublist _).length_le

theorem lt_leading_iff {term : QueryTerm} {id : String}
    (isTerm : search.terms[search.phase]? = some term)
    (reached : search.phase ≤ search.leading store id) :
    search.phase < search.leading store id ↔
      id ∈ TermScan.finds store search.typeName search.tokenized term :=
  (lt_length_takeWhile_iff isTerm reached).trans List.contains_iff_mem

/-- The run takes in every term when every term finds the record. -/
theorem leading_eq_iff (store : Store) (search : IndexMatches) (id : String) :
    search.leading store id = search.terms.length ↔
      ∀ term ∈ search.terms, id ∈ TermScan.finds store search.typeName search.tokenized term := by
  unfold leading
  rw [length_takeWhile_eq_iff]
  simp only [List.contains_iff_mem]

/-- The terms of the run find the record. -/
theorem mem_finds_of_mem_run {id : String} {term : QueryTerm}
    (member : term ∈ search.terms.take (search.leading store id)) :
    id ∈ TermScan.finds store search.typeName search.tokenized term := by
  have isRun := List.prefix_iff_eq_take.mp (List.takeWhile_prefix (l := search.terms) fun term =>
    (TermScan.finds store search.typeName search.tokenized term).contains id)
  unfold leading at member
  rw [← isRun] at member
  exact List.contains_iff_mem.mp (List.all_eq_true.mp List.all_takeWhile term member)

/-- The record is to be yielded with this score: the score is its run, which is
long enough, and a strict search asks for a run over all terms. -/
def Deserves (store : Store) (search : IndexMatches) (candidate : Candidate Nat) : Prop :=
  candidate.mark = search.leading store candidate.id ∧ 1 ≤ candidate.mark ∧
    search.minScore ≤ candidate.mark ∧
      (search.ranked = true ∨ candidate.mark = search.terms.length)

/-- The record is still to come from the search. -/
def Owed (store : Store) (search : IndexMatches) (candidate : Candidate Nat) : Prop :=
  candidate ∈ search.pending ∨ search.Deserves store candidate ∧ candidate.id ∉ search.yielded

/-- No record waits twice, and those that wait count as yielded. -/
def Fresh (search : IndexMatches) : Prop :=
  (search.pending.map Candidate.id).Nodup ∧
    ∀ candidate ∈ search.pending, candidate.id ∈ search.yielded

/-! ## Yielding -/

/-- Only a record that deserves it is yielded, so nothing changes about what is
owed. -/
theorem owed_emit {id : String} {score : Nat}
    (deserved : search.minScore ≤ score -> search.Deserves store ⟨id, score⟩)
    (candidate : Candidate Nat) :
    (search.emit id score).Owed store candidate ↔ search.Owed store candidate := by
  unfold emit
  split
  · rename_i yields
    rcases Bool.and_eq_true_iff.mp yields with ⟨enough, isNew⟩
    have deserved := deserved (of_decide_eq_true enough)
    have isNew : id ∉ search.yielded := by
      rw [Bool.not_eq_true', ← Bool.not_eq_true, List.contains_iff_mem] at isNew
      exact isNew
    constructor
    · rintro (waits | ⟨deserves, notYielded⟩)
      · rcases List.mem_append.mp waits with waits | isThis
        · exact .inl waits
        · cases List.mem_singleton.mp isThis
          exact .inr ⟨deserved, isNew⟩
      · exact .inr ⟨deserves, fun yielded => notYielded (List.mem_cons_of_mem _ yielded)⟩
    · rintro (waits | ⟨deserves, notYielded⟩)
      · exact .inl (List.mem_append_left _ waits)
      · by_cases same : candidate.id = id
        · have isThis : candidate = ⟨id, score⟩ := by
            cases candidate
            cases same
            exact congrArg _ (deserves.1.trans deserved.1.symm)
          exact .inl (List.mem_append_right _ (List.mem_singleton.mpr isThis))
        · refine .inr ⟨deserves, fun yielded => ?_⟩
          rcases List.mem_cons.mp yielded with isThis | before
          · exact same isThis
          · exact notYielded before
  · rfl

theorem Fresh.emit (fresh : search.Fresh) (id : String) (score : Nat) :
    (search.emit id score).Fresh := by
  unfold IndexMatches.emit
  split
  · rename_i yields
    rcases Bool.and_eq_true_iff.mp yields with ⟨_, isNew⟩
    rw [Bool.not_eq_true', ← Bool.not_eq_true, List.contains_iff_mem] at isNew
    refine ⟨?_, ?_⟩
    · change ((search.pending ++ [(⟨id, score⟩ : Candidate Nat)]).map Candidate.id).Nodup
      rw [List.map_append]
      refine List.nodup_append.mpr ⟨fresh.1, List.nodup_cons.mpr ⟨nofun, List.nodup_nil⟩, ?_⟩
      intro other waits this isThis same
      rcases List.mem_map.mp waits with ⟨candidate, member, rfl⟩
      have same : candidate.id = id := same.trans (List.mem_singleton.mp isThis)
      exact isNew (same ▸ fresh.2 candidate member)
    · intro candidate member
      rcases List.mem_append.mp member with before | isThis
      · exact List.mem_cons_of_mem _ (fresh.2 candidate before)
      · cases List.mem_singleton.mp isThis
        exact List.mem_cons_self
  · exact fresh

/-- A record with a sufficient score counts as yielded afterwards. -/
theorem mem_yielded_emit (search : IndexMatches) (id : String) {score : Nat}
    (enough : search.minScore ≤ score) :
    id ∈ (search.emit id score).yielded := by
  unfold emit
  split
  · exact List.mem_cons_self
  · rename_i notYet
    rw [decide_eq_true enough, Bool.true_and, Bool.not_eq_true', Bool.not_eq_false,
      List.contains_iff_mem] at notYet
    exact notYet

theorem yielded_subset_emit (search : IndexMatches) (id : String) (score : Nat) :
    search.yielded ⊆ (search.emit id score).yielded := by
  unfold emit
  split
  · exact List.subset_cons_self _ _
  · exact List.Subset.refl _

theorem emit_eq (search : IndexMatches) (id : String) (score : Nat) :
    ∃ yielded pending, search.emit id score = { search with yielded, pending } := by
  unfold emit
  split
  · exact ⟨_, _, rfl⟩
  · exact ⟨search.yielded, search.pending, rfl⟩

/-- A record that was not yielded before is yielded if its score is high enough. -/
theorem emit_of_notMem {id : String} (isNew : id ∉ search.yielded) (score : Nat) :
    search.emit id score =
      if search.minScore ≤ score then
        { search with
          yielded := id :: search.yielded
          pending := search.pending ++ [⟨id, score⟩] }
      else search := by
  simp [emit, isNew]

/-- What yielding many records comes to. -/
structure Emitted (store : Store) (before : IndexMatches) (rows : List (String × Nat))
    (after : IndexMatches) : Prop where
  elsewhere : ∃ yielded pending, after = { before with yielded, pending }
  owed : forall candidate, after.Owed store candidate ↔ before.Owed store candidate
  fresh : before.Fresh -> after.Fresh
  keeps : before.yielded ⊆ after.yielded
  yields : ∀ row ∈ rows, before.minScore ≤ row.2 -> row.1 ∈ after.yielded

theorem emitted_foldl {rows : List (String × Nat)}
    (deserved : ∀ row ∈ rows, search.minScore ≤ row.2 -> search.Deserves store ⟨row.1, row.2⟩) :
    Emitted store search rows (rows.foldl (fun search row => search.emit row.1 row.2) search) := by
  induction rows generalizing search with
  | nil =>
      exact ⟨⟨search.yielded, search.pending, rfl⟩, fun _ => Iff.rfl, id, List.Subset.refl _, nofun⟩
  | cons row rest ih =>
      have deservedHere := deserved row List.mem_cons_self
      have owed := owed_emit deservedHere
      have fresh := fun fresh : search.Fresh => fresh.emit row.1 row.2
      have keeps := yielded_subset_emit search row.1 row.2
      have yields : search.minScore ≤ row.2 -> row.1 ∈ (search.emit row.1 row.2).yielded :=
        mem_yielded_emit search row.1
      rcases emit_eq search row.1 row.2 with ⟨yielded, pending, same⟩
      rw [List.foldl_cons, same]
      rw [same] at owed fresh keeps yields
      have later : Emitted store { search with yielded, pending } rest _ :=
        ih fun row member => deserved row (List.mem_cons_of_mem _ member)
      refine ⟨later.elsewhere, fun candidate => (later.owed candidate).trans (owed candidate),
        fun isFresh => later.fresh (fresh isFresh), List.Subset.trans keeps later.keeps, ?_⟩
      intro other member enough
      rcases List.mem_cons.mp member with here | behind
      · cases here
        exact later.keeps (yields enough)
      · exact later.yields other behind enough

/-! ## What a search knows -/

/-- The count of a record in a phase, by its leading run and whether this
phase has counted it. -/
def countAt (phase run : Nat) (credited : Bool) : Option Nat :=
  if run < phase then none
  else if credited then some (phase + 1)
  else if phase = 0 then none
  else some phase

/-- What a search knows in the middle of a phase. -/
structure Knows (store : Store) (search : IndexMatches) : Prop where
  inPlace : search.phase < search.terms.length
  counts : forall id, search.counts.get? id =
    countAt search.phase (search.leading store id) (search.credited.contains id)
  fresh : search.Fresh
  owes : forall candidate, search.Deserves store candidate -> candidate.id ∉ search.yielded ->
    search.phase ≤ candidate.mark ∧
      (search.phase + 1 = search.terms.length -> candidate.id ∉ search.credited)

/-- The scan of the phase in progress has found what was counted and will find
what is missing. -/
def Scans (store : Store) (search : IndexMatches) : Prop :=
  match search.scan with
  | none => search.credited = []
  | some scan => scan.Sound store ∧ ∃ term, search.terms[search.phase]? = some term ∧
      forall id, id ∈ TermScan.finds store search.typeName search.tokenized term ↔
        id ∈ search.credited ∨ id ∈ scan.upcoming store search.typeName

theorem isCandidate_iff (knows : search.Knows store) {id : String} (isNew : id ∉ search.credited) :
    search.isCandidate id = true ↔ search.phase ≤ search.leading store id := by
  have uncounted : search.credited.contains id = false :=
    Bool.eq_false_iff.mpr (mt List.contains_iff_mem.mp isNew)
  unfold isCandidate
  rw [knows.counts, countAt, uncounted, Bool.or_eq_true, beq_iff_eq, beq_iff_eq]
  by_cases fallen : search.leading store id < search.phase
  · rw [if_pos fallen]
    constructor
    · rintro (first | counted)
      · omega
      · cases counted
    · omega
  · rw [if_neg fallen, if_neg Bool.false_ne_true]
    constructor
    · exact fun _ => Nat.le_of_not_lt fallen
    · intro _
      by_cases first : search.phase = 0
      · exact .inl first
      · exact .inr (if_neg first)

theorem contains_cons_of_ne {id other : String} (different : other ≠ id) (ids : List String) :
    (id :: ids).contains other = ids.contains other := by
  rw [List.contains_cons, beq_false_of_ne different, Bool.false_or]

/-- A record that fell out before does not count when it is found again. -/
theorem Knows.creditFallen (knows : search.Knows store) {id : String}
    (fallen : search.leading store id < search.phase) :
    Knows store { search with credited := id :: search.credited } where
  inPlace := knows.inPlace
  counts other := by
    change search.counts.get? other = countAt search.phase (search.leading store other)
      ((id :: search.credited).contains other)
    rw [knows.counts]
    by_cases same : other = id
    · subst same
      unfold countAt
      rw [if_pos fallen, if_pos fallen]
    · rw [contains_cons_of_ne same]
  fresh := knows.fresh
  owes candidate deserves notYielded := by
    have deserves : search.Deserves store candidate := deserves
    rcases knows.owes candidate deserves notYielded with ⟨reached, uncounted⟩
    refine ⟨reached, fun last member => ?_⟩
    rcases List.mem_cons.mp member with same | before
    · have run := deserves.1
      rw [same] at run
      omega
    · exact uncounted last before

/-- The search once a candidate has been counted in this phase. -/
def counted (search : IndexMatches) (id : String) : IndexMatches :=
  { search with
    credited := id :: search.credited
    counts := search.counts.insert id (search.phase + 1) }

/-- A candidate goes on to the next phase. -/
theorem counts_counted (knows : search.Knows store) {id : String}
    (reached : search.phase ≤ search.leading store id) (other : String) :
    (search.counted id).counts.get? other =
      countAt search.phase (search.leading store other) ((id :: search.credited).contains other) := by
  unfold counted
  by_cases same : other = id
  · subst same
    rw [Table.get?_insert_self, countAt, if_neg (Nat.not_lt.mpr reached),
      if_pos (List.contains_iff_mem.mpr List.mem_cons_self)]
  · rw [Table.get?_insert_of_ne same, contains_cons_of_ne same]
    exact knows.counts other

/-- Where more terms follow, a candidate is only counted. -/
theorem Knows.creditCandidate (knows : search.Knows store) {id : String}
    (reached : search.phase ≤ search.leading store id)
    (more : search.phase + 1 ≠ search.terms.length) :
    Knows store (search.counted id) where
  inPlace := knows.inPlace
  counts := counts_counted knows reached
  fresh := knows.fresh
  owes candidate deserves notYielded :=
    ⟨(knows.owes candidate deserves notYielded).1, fun last => absurd last more⟩

/-- Yielding a record settles what is owed of it. -/
theorem Knows.emit {id : String} {score : Nat} (inPlace : search.phase < search.terms.length)
    (counts : forall other, search.counts.get? other =
      countAt search.phase (search.leading store other) (search.credited.contains other))
    (fresh : search.Fresh)
    (owes : forall candidate, search.Deserves store candidate ->
      candidate.id ∉ search.yielded -> candidate.id ≠ id -> search.phase ≤ candidate.mark ∧
        (search.phase + 1 = search.terms.length -> candidate.id ∉ search.credited))
    (enough : forall candidate, search.Deserves store candidate -> candidate.id = id ->
      search.minScore ≤ score) : Knows store (search.emit id score) := by
  have fresh := fresh.emit id score
  have keeps := yielded_subset_emit search id score
  have yields : search.minScore ≤ score -> id ∈ (search.emit id score).yielded :=
    mem_yielded_emit search id
  rcases emit_eq search id score with ⟨yielded, pending, same⟩
  rw [same] at fresh keeps yields ⊢
  refine ⟨inPlace, counts, fresh, fun candidate deserves notYielded => ?_⟩
  have deserves : search.Deserves store candidate := deserves
  refine owes candidate deserves (fun before => notYielded (keeps before)) fun isThis => ?_
  exact notYielded (isThis ▸ yields (enough candidate deserves isThis))

/-- At the last term a candidate is yielded. -/
theorem Knows.creditLast (knows : search.Knows store) {id : String}
    (whole : search.leading store id = search.terms.length)
    (last : search.phase + 1 = search.terms.length) :
    Knows store ((search.counted id).emit id (search.phase + 1)) := by
  refine Knows.emit knows.inPlace (counts_counted knows (by omega)) knows.fresh ?_ ?_
  · intro candidate deserves notYielded different
    rcases knows.owes candidate deserves notYielded with ⟨reached, uncounted⟩
    refine ⟨reached, fun last member => ?_⟩
    exact uncounted last ((List.mem_cons.mp member).resolve_left different)
  · intro candidate deserves isThis
    have deserves : search.Deserves store candidate := deserves
    rcases deserves with ⟨run, _, suffices_, _⟩
    rw [isThis, whole, ← last] at run
    exact run ▸ suffices_

/-- Counting a record is marking it as found, and counting it if it is a
candidate, and yielding it if this was the last term. -/
theorem credit_eq (search : IndexMatches) (id : String) :
    search.credit id = search ∨ ∃ credited counts,
      search.credit id = { search with credited, counts } ∨
        search.credit id = emit { search with credited, counts } id (search.phase + 1) := by
  unfold credit
  split
  · exact .inl rfl
  · dsimp only
    split
    · split
      · exact .inr ⟨_, _, .inr rfl⟩
      · exact .inr ⟨_, _, .inl rfl⟩
    · exact .inr ⟨_, search.counts, .inl rfl⟩

theorem credit_of_mem {id : String} (known : id ∈ search.credited) :
    search.credit id = search := by
  simp [credit, known]

theorem credit_of_fallen {id : String} (isNew : id ∉ search.credited)
    (fallen : ¬ search.isCandidate id = true) :
    search.credit id = { search with credited := id :: search.credited } := by
  have fallen : ¬ isCandidate { search with credited := id :: search.credited } id = true := fallen
  simp [credit, isNew, fallen]

theorem credit_of_isCandidate {id : String} (isNew : id ∉ search.credited)
    (isCandidate : search.isCandidate id = true) :
    search.credit id =
      if search.phase + 1 = search.terms.length then (search.counted id).emit id (search.phase + 1)
      else search.counted id := by
  have isCandidate :
      IndexMatches.isCandidate { search with credited := id :: search.credited } id = true :=
    isCandidate
  simp [credit, counted, isNew, isCandidate]

/-- What counting a record comes to. -/
structure Credited (store : Store) (before : IndexMatches) (id : String) (after : IndexMatches) :
    Prop where
  elsewhere : ∃ credited counts yielded pending,
    after = { before with credited, counts, yielded, pending }
  owed : forall candidate, after.Owed store candidate ↔ before.Owed store candidate
  knows : after.Knows store
  mem_credited : forall other, other ∈ after.credited ↔ other = id ∨ other ∈ before.credited

theorem credited_credit (knows : search.Knows store) {id : String} {term : QueryTerm}
    (isTerm : search.terms[search.phase]? = some term)
    (isFound : id ∈ TermScan.finds store search.typeName search.tokenized term) :
    Credited store search id (search.credit id) := by
  by_cases known : id ∈ search.credited
  · rw [credit_of_mem known]
    refine ⟨⟨_, _, _, _, rfl⟩, fun _ => Iff.rfl, knows, fun other => ⟨.inr, ?_⟩⟩
    rintro (rfl | before)
    · exact known
    · exact before
  · have isCandidate := isCandidate_iff knows known
    by_cases reached : search.phase ≤ search.leading store id
    · have further := (lt_leading_iff isTerm reached).mpr isFound
      have atMost := search.leading_le store id
      rw [credit_of_isCandidate known (isCandidate.mpr reached)]
      by_cases last : search.phase + 1 = search.terms.length
      · have whole : search.leading store id = search.terms.length := by omega
        have deserved : (search.counted id).minScore ≤ search.phase + 1 ->
            (search.counted id).Deserves store ⟨id, search.phase + 1⟩ :=
          fun enough => ⟨last.trans whole.symm, Nat.succ_pos _, enough, .inr last⟩
        have knowsAfter := knows.creditLast whole last
        have owed := owed_emit deserved
        have elsewhere := emit_eq (search.counted id) id (search.phase + 1)
        rw [if_pos last]
        rcases elsewhere with ⟨yielded, pending, same⟩
        rw [same] at knowsAfter owed ⊢
        exact ⟨⟨_, _, _, _, rfl⟩, owed, knowsAfter, fun other => List.mem_cons⟩
      · rw [if_neg last]
        exact ⟨⟨_, _, _, _, rfl⟩, fun _ => Iff.rfl, knows.creditCandidate reached last,
          fun other => List.mem_cons⟩
    · rw [credit_of_fallen known (mt isCandidate.mp reached)]
      exact ⟨⟨_, _, _, _, rfl⟩, fun _ => Iff.rfl, knows.creditFallen (Nat.lt_of_not_le reached),
        fun other => List.mem_cons⟩

/-! ## The end of a phase -/

/-- What fell out has been counted by every phase but this one. -/
theorem mem_fallenOut_iff (knows : search.Knows store) {id : String} {score : Nat} :
    (id, score) ∈ search.fallenOut ↔ search.phase ≠ 0 ∧ score = search.phase ∧
      search.phase ≤ search.leading store id ∧ id ∉ search.credited := by
  unfold fallenOut
  rw [List.mem_filter, ← Table.get?_eq_some_iff, knows.counts, decide_eq_true_eq]
  unfold countAt
  by_cases fallen : search.leading store id < search.phase
  · rw [if_pos fallen]
    constructor
    · exact fun both => nomatch both.1
    · omega
  · rw [if_neg fallen]
    by_cases credited : id ∈ search.credited
    · rw [if_pos (List.contains_iff_mem.mpr credited)]
      constructor
      · rintro ⟨counted, small⟩
        have counted := Option.some.inj counted
        dsimp only at small
        omega
      · exact fun all => absurd credited all.2.2.2
    · rw [if_neg (mt List.contains_iff_mem.mp credited)]
      by_cases first : search.phase = 0
      · rw [if_pos first]
        exact ⟨fun both => (nomatch both.1), fun all => absurd first all.1⟩
      · rw [if_neg first]
        constructor
        · rintro ⟨counted, _⟩
          exact ⟨first, (Option.some.inj counted).symm, Nat.le_of_not_lt fallen, credited⟩
        · rintro ⟨_, rfl, _, _⟩
          exact ⟨rfl, Nat.le_refl _⟩

/-- The scan of a phase has found all that it can. -/
def Complete (store : Store) (search : IndexMatches) : Prop :=
  ∃ term, search.terms[search.phase]? = some term ∧
    forall id, id ∈ TermScan.finds store search.typeName search.tokenized term ↔
      id ∈ search.credited

/-- At the end of a phase, the candidates that were counted are those whose run
goes on. -/
theorem Complete.lt_leading_iff (complete : search.Complete store) {id : String}
    (reached : search.phase ≤ search.leading store id) :
    search.phase < search.leading store id ↔ id ∈ search.credited := by
  rcases complete with ⟨term, isTerm, found⟩
  exact (IndexMatches.lt_leading_iff isTerm reached).trans (found id)

/-- Only the records that were counted in this phase are kept. -/
theorem counts_erased (knows : search.Knows store) (complete : search.Complete store)
    (id : String) : (search.counts.eraseAll (search.fallenOut.map Prod.fst)).get? id =
      countAt (search.phase + 1) (search.leading store id) false := by
  have fallen_iff : id ∈ search.fallenOut.map Prod.fst ↔ search.phase ≠ 0 ∧
      search.phase ≤ search.leading store id ∧ id ∉ search.credited := by
    rw [List.mem_map]
    constructor
    · rintro ⟨⟨other, score⟩, member, rfl⟩
      rcases (mem_fallenOut_iff knows).mp member with ⟨notFirst, _, reached, uncounted⟩
      exact ⟨notFirst, reached, uncounted⟩
    · rintro ⟨notFirst, reached, uncounted⟩
      exact ⟨(id, search.phase), (mem_fallenOut_iff knows).mpr ⟨notFirst, rfl, reached, uncounted⟩,
        rfl⟩
  have before := knows.counts id
  unfold countAt at before ⊢
  by_cases reached : search.phase ≤ search.leading store id
  · rw [if_neg (Nat.not_lt.mpr reached)] at before
    have goesOn := complete.lt_leading_iff reached
    by_cases credited : id ∈ search.credited
    · have further := goesOn.mpr credited
      rw [if_pos (List.contains_iff_mem.mpr credited)] at before
      rw [Table.get?_eraseAll_of_notMem (fun member => (fallen_iff.mp member).2.2 credited), before,
        if_neg (by omega), if_neg Bool.false_ne_true, if_neg (Nat.succ_ne_zero _)]
    · have stops := mt goesOn.mp credited
      rw [if_neg (mt List.contains_iff_mem.mp credited)] at before
      rw [if_pos (by omega)]
      by_cases first : search.phase = 0
      · rw [if_pos first] at before
        exact Table.get?_eraseAll_of_none before _
      · exact Table.get?_eraseAll_of_mem (fallen_iff.mpr ⟨first, reached, credited⟩) _
  · rw [if_pos (Nat.lt_of_not_le reached)] at before
    rw [if_pos (by omega)]
    exact Table.get?_eraseAll_of_none before _

/-- The search without the records that fell out of this phase. -/
def withoutFallen (search : IndexMatches) : IndexMatches :=
  { search with counts := search.counts.eraseAll (search.fallenOut.map Prod.fst) }

/-- No candidate is left when every run has ended. -/
theorem isEmpty_erased_iff (knows : search.Knows store) (complete : search.Complete store) :
    (search.counts.eraseAll (search.fallenOut.map Prod.fst)).isEmpty = true ↔
      forall id, search.leading store id ≤ search.phase := by
  have counts := counts_erased knows complete
  have isCounted (id : String) (goesOn : search.phase < search.leading store id) :
      countAt (search.phase + 1) (search.leading store id) false = some (search.phase + 1) := by
    unfold countAt
    rw [if_neg (by omega), if_neg Bool.false_ne_true, if_neg (Nat.succ_ne_zero _)]
  constructor
  · intro nothing id
    have noRows : (search.counts.eraseAll (search.fallenOut.map Prod.fst)).rows = [] :=
      List.isEmpty_iff.mp nothing
    apply Nat.le_of_not_lt
    intro goesOn
    have counted := counts id
    rw [isCounted id goesOn, Table.get?_eq_some_iff, noRows] at counted
    cases counted
  · intro ends
    refine List.isEmpty_iff.mpr (List.eq_nil_iff_forall_not_mem.mpr fun row isRow => ?_)
    have counted := counts row.1
    rw [(Table.get?_eq_some_iff _).mpr isRow, countAt,
      if_pos (Nat.lt_succ_of_le (ends row.1))] at counted
    cases counted

/-- A ranked search yields what falls out. -/
theorem dropFallen_eq (search : IndexMatches) : search.dropFallen =
    (if search.ranked then search.fallenOut else []).foldl
      (fun search row => search.emit row.1 row.2) search.withoutFallen := by
  have ranked : search.withoutFallen.ranked = search.ranked := rfl
  unfold dropFallen
  change (if search.withoutFallen.ranked then _ else search.withoutFallen) = _
  rw [ranked]
  split
  · rfl
  · rfl

theorem emitted_dropFallen (knows : search.Knows store) (complete : search.Complete store) :
    Emitted store search.withoutFallen (if search.ranked then search.fallenOut else [])
      search.dropFallen := by
  rw [dropFallen_eq]
  apply emitted_foldl
  intro row member enough
  split at member
  · rename_i ranked
    rcases (mem_fallenOut_iff knows).mp member with ⟨notFirst, score, reached, uncounted⟩
    have stops := mt (complete.lt_leading_iff reached).mp uncounted
    refine ⟨?_, ?_, enough, .inl ranked⟩
    · change row.2 = search.leading store row.1
      omega
    · change 1 ≤ row.2
      omega
  · cases member

/-- Whatever is still owed at the end of a phase goes on to the next one. -/
theorem owes_dropFallen (knows : search.Knows store) (complete : search.Complete store)
    {candidate : Candidate Nat} (deserves : search.Deserves store candidate)
    (notYielded : candidate.id ∉ search.dropFallen.yielded) :
    search.phase + 1 ≤ candidate.mark ∧ search.phase + 1 ≠ search.terms.length := by
  have emitted := emitted_dropFallen knows complete
  rcases knows.owes candidate deserves fun before => notYielded (emitted.keeps before) with
    ⟨reached, uncounted⟩
  rcases deserves with ⟨run, isFound, enough, allowed⟩
  rw [run] at reached
  have goesOn := complete.lt_leading_iff reached
  have inPlace := knows.inPlace
  by_cases stops : candidate.mark = search.phase
  · refine absurd (emitted.yields (candidate.id, search.phase) ?_ (stops ▸ enough)) notYielded
    have ranked : search.ranked = true := by
      rcases allowed with ranked | whole
      · exact ranked
      · omega
    rw [ranked, if_pos rfl]
    exact (mem_fallenOut_iff knows).mpr ⟨by omega, rfl, reached, mt goesOn.mpr (by omega)⟩
  · exact ⟨by omega, fun last => uncounted last (goesOn.mp (by omega))⟩

end IndexMatches

end RecordIndex
