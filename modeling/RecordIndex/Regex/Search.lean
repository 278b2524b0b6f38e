import RecordIndex.Regex.Program

namespace RecordIndex

/-!
# Searching a text

All ways to match are followed side by side, one character at a time.  A
thread is a place in the program together with what the first group has
matched on the way there.  Threads are kept in order of preference, and of two
threads at one instruction only the preferred one goes on, so the work at each
character is bounded by the length of the program.

A search finds the leftmost match, and of several matches with that beginning
the preferred one, as the `regex` library does.
-/

/-- A place in a program, with the ends of the first group as offsets into the
text. -/
structure Thread where
  place : Nat
  groupStart : Option Nat
  groupEnd : Option Nat
deriving DecidableEq

namespace Thread

def start : Thread :=
  ⟨0, none, none⟩

/-- The thread at another place. -/
def moveTo (thread : Thread) (place : Nat) : Thread :=
  { thread with place := place }

/-- The thread at the next instruction. -/
def next (thread : Thread) : Thread :=
  thread.moveTo (thread.place + 1)

end Thread

/-- The place in the text that a search has come to. -/
structure Cursor where
  offset : Nat
  before : Option Char
  behind : Option Char

namespace Search

/-- The threads that an instruction leads to without reading a character,
preferred one first. -/
def branches (cursor : Cursor) (thread : Thread) : Instruction -> List Thread
  | .read _ => []
  | .accept => []
  | .check condition =>
      if condition.holds cursor.before cursor.behind then [thread.next] else []
  | .openGroup => [{ thread.next with groupStart := some cursor.offset }]
  | .closeGroup => [{ thread.next with groupEnd := some cursor.offset }]
  | .skip distance => [thread.moveTo (thread.place + distance)]
  | .back distance => [thread.moveTo (thread.place - distance)]
  | .forkAhead distance stay =>
      let far := thread.moveTo (thread.place + distance)
      if stay then [thread.next, far] else [far, thread.next]
  | .forkBack distance stay =>
      let far := thread.moveTo (thread.place - distance)
      if stay then [thread.next, far] else [far, thread.next]

/-- An instruction that waits for a character or ends the match. -/
def waits : Instruction -> Bool
  | .read _ => true
  | .accept => true
  | _ => false

/-- A place that is not marked loses that standing when it is marked. -/
theorem count_unmarked_lt (marked : Array Bool) (place : Nat) (inside : place < marked.size)
    (unmarked : marked[place] = false) :
    (marked.set place true inside).toList.count false < marked.toList.count false := by
  have listed : place < marked.toList.length := inside
  have entry : marked.toList[place] = false := unmarked
  have positive : 0 < marked.toList.count false :=
    List.count_pos_iff.mpr (entry ▸ List.getElem_mem listed)
  rw [Array.toList_set, List.count_set listed, entry]
  have differ : (true == false) = false := rfl
  simp only [beq_self_eq_true, if_true, differ, Bool.false_eq_true, if_false]
  omega

/-- Follow threads to the instructions that wait, preferred threads first.
`marked` tells which instructions have been reached already. -/
def follow (program : Array Instruction) (cursor : Cursor) (marked : Array Bool) :
    List Thread -> List Thread
  | [] => []
  | thread :: others =>
      if inside : thread.place < marked.size then
        if unmarked : marked[thread.place] = false then
          match program[thread.place]? with
          | none => follow program cursor marked others
          | some instruction =>
              let marked' := marked.set thread.place true inside
              if waits instruction then thread :: follow program cursor marked' others
              else follow program cursor marked' (branches cursor thread instruction ++ others)
        else follow program cursor marked others
      else follow program cursor marked others
termination_by threads => (marked.toList.count false, threads.length)
decreasing_by
  · exact Prod.Lex.right _ (Nat.lt_succ_self _)
  · exact Prod.Lex.left _ _ (count_unmarked_lt marked thread.place inside unmarked)
  · exact Prod.Lex.left _ _ (count_unmarked_lt marked thread.place inside unmarked)
  · exact Prod.Lex.right _ (Nat.lt_succ_self _)
  · exact Prod.Lex.right _ (Nat.lt_succ_self _)

/-- The thread has run through the program. -/
def accepts (program : Array Instruction) (thread : Thread) : Bool :=
  match program[thread.place]? with
  | some .accept => true
  | _ => false

/-- The thread behind the next character, if it can read it. -/
def read? (program : Array Instruction) (c : Char) (thread : Thread) : Option Thread :=
  match program[thread.place]? with
  | some (.read set) => if set.contains c then some thread.next else none
  | _ => none

/-- Search from some place of the text on.  `threads` have come this far, and
`found` is the best match until now.  A new thread starts here only while
there is no match, and a match ends all threads behind it. -/
def searchFrom (program : Array Instruction) (offset : Nat) (before : Option Char)
    (threads : List Thread) (found : Option Thread) (text : List Char) : Option Thread :=
  let started := if found.isNone then threads ++ [Thread.start] else threads
  let cursor : Cursor := ⟨offset, before, text.head?⟩
  let waiting := follow program cursor (Array.replicate program.size false) started
  let found := (waiting.find? (accepts program)).or found
  let live := waiting.takeWhile fun thread => !accepts program thread
  match text with
  | [] => found
  | c :: rest =>
      searchFrom program (offset + 1) (some c) (live.filterMap (read? program c)) found rest

/-- The match of a program in a text. -/
def search (program : Array Instruction) (text : List Char) : Option Thread :=
  searchFrom program 0 none [] none text

end Search

end RecordIndex
