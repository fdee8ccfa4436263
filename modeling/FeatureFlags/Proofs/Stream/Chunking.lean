import FeatureFlags.Stream.EventParser
import Mathlib.Tactic.Lemma

/-!
# Chunks of an event stream

Where the chunks of a stream end does not matter, be it inside of a line, between a carriage return and
its newline, or inside of a character.

* `LinesOf` says what the lines of some bytes are; `splitLines` finds them (`LinesOf.splitLines_eq`).
* `EventParser.push_append`: to push two chunks is to push them joined. What is left in the buffer after
  the first one is the start of a line that the second one goes on with, so no byte is lost or read twice.
* `EventParser.events_independent_of_chunks`: the chunks of a stream yield together what its lines yield.
-/

namespace FeatureFlags

/-! ## Lines -/

/-- Bytes consist of complete lines, each followed by a newline, and of a remainder; there are no other
newlines. -/
structure LinesOf (bytes : List UInt8) (lines : List (List UInt8)) (remainder : List UInt8) : Prop where
  joined : bytes = lines.flatMap (· ++ [10]) ++ remainder
  inside : ∀ line ∈ lines, 10 ∉ line
  atEnd : 10 ∉ remainder

lemma splitLines_of_notMem {bytes : List UInt8} (h : 10 ∉ bytes) : splitLines bytes = ([], bytes) := by
  induction bytes with
  | nil => rfl
  | cons b rest ih =>
    have hb : b ≠ 10 := fun heq => h (heq ▸ List.mem_cons_self)
    have hrest : 10 ∉ rest := fun hmem => h (List.mem_cons_of_mem b hmem)
    simp [splitLines, ih hrest, hb]

lemma splitLines_line {line : List UInt8} (h : 10 ∉ line) (rest : List UInt8) :
    splitLines (line ++ 10 :: rest) = (line :: (splitLines rest).1, (splitLines rest).2) := by
  induction line with
  | nil => simp [splitLines]
  | cons b line ih =>
    have hb : b ≠ 10 := fun heq => h (heq ▸ List.mem_cons_self)
    have hline : 10 ∉ line := fun hmem => h (List.mem_cons_of_mem b hmem)
    simp [splitLines, ih hline, hb]

namespace LinesOf

variable {bytes front back remainder rest : List UInt8} {lines later : List (List UInt8)}

lemma of_notMem (h : 10 ∉ bytes) : LinesOf bytes [] bytes where
  joined := rfl
  inside line hline := by cases hline
  atEnd := h

/-- A line goes in front of others. -/
lemma cons {line : List UInt8} (hline : 10 ∉ line) (h : LinesOf bytes lines remainder) :
    LinesOf (line ++ 10 :: bytes) (line :: lines) remainder where
  joined := by simp [h.joined]
  inside := by
    intro l hl
    rcases List.mem_cons.mp hl with rfl | hl
    · exact hline
    · exact h.inside l hl
  atEnd := h.atEnd

/-- Bytes have only one list of lines, and it is found. -/
theorem splitLines_eq (h : LinesOf bytes lines remainder) : splitLines bytes = (lines, remainder) := by
  obtain ⟨rfl, hinside, hend⟩ := h
  induction lines with
  | nil => exact splitLines_of_notMem hend
  | cons line lines ih =>
    have hline : 10 ∉ line := hinside line List.mem_cons_self
    have hlines : ∀ l ∈ lines, 10 ∉ l := fun l hl => hinside l (List.mem_cons_of_mem line hl)
    rw [List.flatMap_cons, List.append_assoc, List.append_assoc, List.singleton_append,
      splitLines_line hline, ih hlines]

/-- The lines of bytes that follow others: the remainder of the first ones is the start of a line that goes
on. -/
lemma append (hfront : LinesOf front lines remainder) (hback : LinesOf (remainder ++ back) later rest) :
    LinesOf (front ++ back) (lines ++ later) rest where
  joined := by
    rw [hfront.joined, List.append_assoc, hback.joined, List.flatMap_append, List.append_assoc]
  inside line hline := (List.mem_append.mp hline).elim (hfront.inside line) (hback.inside line)
  atEnd := hback.atEnd

end LinesOf

/-- All bytes have lines. -/
lemma exists_linesOf (bytes : List UInt8) : ∃ lines remainder, LinesOf bytes lines remainder := by
  by_cases h : 10 ∈ bytes
  · -- what is before the first newline is a line, and what follows it is shorter
    obtain ⟨line, rest, hbytes, hline⟩ := List.eq_append_cons_of_mem h
    have hlength : rest.length < bytes.length := by
      rw [hbytes, List.length_append, List.length_cons]
      omega
    obtain ⟨lines, remainder, hlines⟩ := exists_linesOf rest
    rw [hbytes]
    exact ⟨line :: lines, remainder, hlines.cons hline⟩
  · exact ⟨[], bytes, .of_notMem h⟩
termination_by bytes.length

/-- Splitting gives the lines of the bytes and what is left over. -/
lemma linesOf_splitLines (bytes : List UInt8) :
    LinesOf bytes (splitLines bytes).1 (splitLines bytes).2 := by
  obtain ⟨lines, remainder, h⟩ := exists_linesOf bytes
  rw [h.splitLines_eq]
  exact h

/-- What was left over of the first part is continued by the second. -/
lemma splitLines_append (front back : List UInt8) :
    splitLines (front ++ back) =
      ((splitLines front).1 ++ (splitLines ((splitLines front).2 ++ back)).1,
        (splitLines ((splitLines front).2 ++ back)).2) :=
  ((linesOf_splitLines front).append (linesOf_splitLines _)).splitLines_eq

namespace EventParser

/-! ## Chunks -/

/-- Lines are taken one after the other, so in two batches as well as in one. -/
lemma takeLines_append (pending : PendingEvent) (lines later : List (List UInt8)) :
    takeLines pending (lines ++ later) =
      ((takeLines pending lines).1 ++ (takeLines (takeLines pending lines).2 later).1,
        (takeLines (takeLines pending lines).2 later).2) := by
  induction lines generalizing pending with
  | nil => rfl
  | cons line lines ih => simp [takeLines, ih]

/-- A chunk continues the line in the buffer, and the parser then takes the lines completed. -/
lemma push_eq (p : EventParser) (chunk : List UInt8) :
    p.push chunk =
      ((takeLines p.pending (splitLines (p.buffer ++ chunk)).1).1,
        ⟨(splitLines (p.buffer ++ chunk)).2,
          (takeLines p.pending (splitLines (p.buffer ++ chunk)).1).2⟩) := rfl

/-- To push two chunks is to push them joined. -/
theorem push_append (p : EventParser) (front back : List UInt8) :
    p.push (front ++ back) =
      ((p.push front).1 ++ ((p.push front).2.push back).1, ((p.push front).2.push back).2) := by
  simp only [push_eq]
  rw [← List.append_assoc, splitLines_append, takeLines_append]

/-- The buffer never keeps a newline. -/
lemma notMem_buffer_push (p : EventParser) (chunk : List UInt8) : 10 ∉ (p.push chunk).2.buffer :=
  (linesOf_splitLines (p.buffer ++ chunk)).atEnd

lemma push_nil {p : EventParser} (h : 10 ∉ p.buffer) : p.push [] = ([], p) := by
  rw [push_eq, List.append_nil, splitLines_of_notMem h]
  rfl

/-- Pushes chunks one after the other, and gives all the events that they complete. -/
def pushAll (p : EventParser) : List (List UInt8) → List StreamEvent × EventParser
  | [] => ([], p)
  | chunk :: rest =>
    let (events, p) := p.push chunk
    let (later, p) := p.pushAll rest
    (events ++ later, p)

/-- By induction on the chunks: pushing them one by one is pushing them joined. -/
lemma pushAll_eq_push {p : EventParser} (h : 10 ∉ p.buffer) (chunks : List (List UInt8)) :
    p.pushAll chunks = p.push chunks.flatten := by
  induction chunks generalizing p with
  | nil => exact (push_nil h).symm
  | cons chunk rest ih =>
    rw [List.flatten_cons, push_append, ← ih (notMem_buffer_push p chunk)]
    rfl

/-- The chunks of a stream yield together what its lines yield. -/
lemma pushAll_fresh_eq {chunks lines : List (List UInt8)} {remainder : List UInt8}
    (h : LinesOf chunks.flatten lines remainder) :
    fresh.pushAll chunks = ((takeLines .none lines).1, ⟨remainder, (takeLines .none lines).2⟩) := by
  rw [pushAll_eq_push List.not_mem_nil, push_eq, fresh, List.nil_append, h.splitLines_eq]

/-- Two ways to cut the same bytes into chunks yield the same events, and leave the same bytes and the same
event unfinished: the complete lines are taken in order, and what follows the last of them is kept. -/
theorem events_independent_of_chunks (first second : List (List UInt8))
    (h : first.flatten = second.flatten) :
    fresh.pushAll first = fresh.pushAll second ∧
      ∃ lines remainder, LinesOf first.flatten lines remainder ∧
        fresh.pushAll first =
          ((takeLines .none lines).1, ⟨remainder, (takeLines .none lines).2⟩) := by
  obtain ⟨lines, remainder, hlines⟩ := exists_linesOf first.flatten
  have hfirst := pushAll_fresh_eq hlines
  have hsecond := pushAll_fresh_eq (h ▸ hlines)
  exact ⟨hfirst.trans hsecond.symm, lines, remainder, hlines, hfirst⟩

/-- The bytes of `data: é`, a carriage return and two newlines, cut inside of the character and before the
first newline, and all at once. -/
theorem events_independent_of_chunks_accent :
    let bytes : List UInt8 := [100, 97, 116, 97, 58, 32, 195, 169, 13, 10, 10]
    fresh.pushAll [[100, 97], [], [116, 97, 58, 32, 195], [169, 13], [10, 10]] = fresh.pushAll [bytes] ∧
      fresh.pushAll [bytes] = ([⟨none, "é"⟩], ⟨[], .none⟩) :=
  ⟨(events_independent_of_chunks _ _ rfl).1, by decide⟩

end EventParser
end FeatureFlags
