import FeatureFlags.Proofs.Stream.Chunking
import FeatureFlags.Proofs.Text.Utf8

/-!
# Writing event streams

An event is written as a line for its name, a line for each line of its data, and an empty line. Every line
may end in either way, and between the lines there may be *noise*: comments, and fields that events do not
have. Reading gives the events back and nothing else (`EventParser.push_written`).

* `WrittenLine.lineText_content`: the text of a line that was written is read again, however the line ends.
* `PendingEvent.takeTexts_withNoise`: noise does not change the event that is being read.
* `PendingEvent.takeTexts_lines`: an event that is written is read from its lines, and with its last line
  nothing of it is left.
-/

namespace FeatureFlags

/-! ## Written lines -/

/-- A text that a line can hold: there is no newline in it, and it does not end in a carriage return, which
would count as part of the end of the line. -/
structure FitsLine (text : String) : Prop where
  noNewline : '\n' ∉ text.toList
  noReturn : text.toList.getLast? ≠ some '\r'

instance (text : String) : Decidable (FitsLine text) :=
  decidable_of_iff ('\n' ∉ text.toList ∧ text.toList.getLast? ≠ some '\r')
    ⟨fun h => ⟨h.1, h.2⟩, fun h => ⟨h.noNewline, h.noReturn⟩⟩

/-- The end of a line: a newline, or a carriage return and a newline. -/
inductive LineEnd where
  | newline
  | returnNewline
  deriving DecidableEq, Repr

/-- The text of the end of a line. -/
def LineEnd.text : LineEnd → String
  | newline => "\n"
  | returnNewline => "\r\n"

/-- A line of a stream as it is written. -/
structure WrittenLine where
  text : String
  ending : LineEnd
  deriving DecidableEq, Repr

namespace WrittenLine

/-- The bytes of a line. -/
def bytes (line : WrittenLine) : List UInt8 := Text.Utf8.encode (line.text ++ line.ending.text)

/-- The bytes of a line before its newline. -/
def content (line : WrittenLine) : List UInt8 :=
  match line.ending with
  | .newline => Text.Utf8.encode line.text
  | .returnNewline => Text.Utf8.encode (line.text ++ "\r")

lemma bytes_eq (line : WrittenLine) : line.bytes = line.content ++ [10] := by
  have hnewline : Text.Utf8.encode "\n" = [10] := by
    rw [Text.Utf8.encode_eq_flatMap]
    rfl
  obtain ⟨text, ending⟩ := line
  cases ending with
  | newline =>
    show Text.Utf8.encode (text ++ "\n") = Text.Utf8.encode text ++ [10]
    rw [Text.Utf8.encode_append, hnewline]
  | returnNewline =>
    show Text.Utf8.encode (text ++ ("\r" ++ "\n")) = Text.Utf8.encode (text ++ "\r") ++ [10]
    rw [← String.append_assoc, Text.Utf8.encode_append, hnewline]

lemma notMem_content {line : WrittenLine} (h : FitsLine line.text) : 10 ∉ line.content := by
  unfold content
  split
  · exact Text.Utf8.notMem_encode h.noNewline
  · apply Text.Utf8.notMem_encode
    simpa using h.noNewline

/-- Of a line that was written its text is read. -/
theorem lineText_content {line : WrittenLine} (h : FitsLine line.text) :
    lineText line.content = line.text.toList := by
  -- the text does not end in a carriage return, so nothing of it is dropped
  have hdrop : line.text.toList.reverse.dropWhile (· == '\r') = line.text.toList.reverse := by
    have hlast := h.noReturn
    rw [← List.head?_reverse] at hlast
    cases hreverse : line.text.toList.reverse with
    | nil => rfl
    | cons c rest =>
      rw [hreverse] at hlast
      exact List.dropWhile_cons_of_neg (by simpa using hlast)
  unfold lineText content
  split
  · rw [Text.Utf8.decode_encode, hdrop, List.reverse_reverse]
  · rw [Text.Utf8.decode_encode, String.toList_append, List.reverse_append]
    show (List.dropWhile (· == '\r') ('\r' :: line.text.toList.reverse)).reverse = _
    rw [List.dropWhile_cons_of_pos (by rfl), hdrop, List.reverse_reverse]

/-- The lines of a stream are those that were written. -/
lemma linesOf_bytes {written : List WrittenLine} (h : ∀ line ∈ written, FitsLine line.text) :
    LinesOf (written.flatMap bytes) (written.map content) [] where
  joined := by
    rw [List.flatMap_map, List.append_nil]
    exact congrArg (written.flatMap ·) (funext bytes_eq)
  inside := by
    intro line hline
    obtain ⟨source, hsource, rfl⟩ := List.mem_map.mp hline
    exact notMem_content (h source hsource)
  atEnd := List.not_mem_nil

end WrittenLine

/-! ## Events as lines -/

namespace StreamEvent

/-- The lines of the data of an event. -/
def dataLines (e : StreamEvent) : List String := (e.data.toList.splitOn '\n').map String.ofList

/-- The lines that an event is written as. -/
def lines (e : StreamEvent) : List String :=
  (e.name.map ("event: " ++ ·)).toList ++ (e.dataLines.map ("data: " ++ ·) ++ [""])

/-- An event that can be written: a line can hold its name, and each line of its data. -/
structure Writable (e : StreamEvent) : Prop where
  name : ∀ name, e.name = some name → FitsLine name
  data : ∀ line ∈ e.dataLines, FitsLine line

end StreamEvent

/-- A line has a field: the name of the field alone, or with a colon and a value. -/
def HasField (name line : String) : Prop :=
  ':' ∉ name.toList ∧ (line = name ∨ ∃ value, line = name ++ ":" ++ value)

/-- A line that says nothing about events: a comment, or a field with a name of its own. -/
structure IsNoise (line : String) : Prop where
  fits : FitsLine line
  nonempty : line ≠ ""
  ignored : (∃ comment, line = ":" ++ comment) ∨
    ∃ name, HasField name line ∧ name ≠ "event" ∧ name ≠ "data"

/-- Lines with noise anywhere before, between and after them. -/
inductive WithNoise : List String → List String → Prop
  | nil : WithNoise [] []
  | line {text : String} {lines noisy : List String} (rest : WithNoise lines noisy) :
      WithNoise (text :: lines) (text :: noisy)
  | noise {text : String} {lines noisy : List String} (isNoise : IsNoise text)
      (rest : WithNoise lines noisy) : WithNoise lines (text :: noisy)

/-! ## What a line can hold -/

lemma FitsLine.append {front back : String} (hfront : FitsLine front) (hback : FitsLine back) :
    FitsLine (front ++ back) where
  noNewline := by
    rw [String.toList_append, List.mem_append, not_or]
    exact ⟨hfront.noNewline, hback.noNewline⟩
  noReturn := by
    rw [String.toList_append, List.getLast?_append]
    cases hlast : back.toList.getLast? with
    | none => exact hfront.noReturn
    | some c =>
      rw [Option.some_or, ← hlast]
      exact hback.noReturn

lemma StreamEvent.Writable.fitsLine {e : StreamEvent} (he : e.Writable) :
    ∀ line ∈ e.lines, FitsLine line := by
  intro line hline
  simp only [lines, List.mem_append, Option.mem_toList, Option.map_eq_some_iff, List.mem_map,
    List.mem_singleton] at hline
  rcases hline with ⟨name, hname, rfl⟩ | ⟨value, hvalue, rfl⟩ | rfl
  · have hfront : FitsLine "event: " := by decide
    exact hfront.append (he.name name hname)
  · have hfront : FitsLine "data: " := by decide
    exact hfront.append (he.data value hvalue)
  · decide

lemma WithNoise.fitsLine {lines noisy : List String} (h : WithNoise lines noisy)
    (hlines : ∀ line ∈ lines, FitsLine line) : ∀ line ∈ noisy, FitsLine line := by
  induction h with
  | nil => exact hlines
  | line rest ih =>
    rw [List.forall_mem_cons] at hlines ⊢
    exact ⟨hlines.1, ih hlines.2⟩
  | noise isNoise rest ih =>
    rw [List.forall_mem_cons]
    exact ⟨isNoise.fits, ih hlines⟩

/-! ## Taking texts -/

namespace PendingEvent

/-- Takes the texts of lines one after the other, and gives the events that they complete. -/
def takeTexts (p : PendingEvent) : List String → List StreamEvent × PendingEvent
  | [] => ([], p)
  | text :: rest =>
    let (event, p) := p.takeLine text.toList
    let (events, p) := p.takeTexts rest
    (event.toList ++ events, p)

/-- Written lines are read as their texts, whatever line ends they have. -/
lemma takeLines_content (p : PendingEvent) {written : List WrittenLine}
    (h : ∀ line ∈ written, FitsLine line.text) :
    EventParser.takeLines p (written.map (·.content)) = p.takeTexts (written.map (·.text)) := by
  induction written generalizing p with
  | nil => rfl
  | cons line rest ih =>
    rw [List.forall_mem_cons] at h
    simp only [List.map_cons, EventParser.takeLines, takeTexts, WrittenLine.lineText_content h.1, ih _ h.2]

variable {p next : PendingEvent} {text : String}

/-- A line that does not complete an event. -/
lemma takeTexts_of_none (h : p.takeLine text.toList = (.none, next)) (rest : List String) :
    p.takeTexts (text :: rest) = next.takeTexts rest := by
  rw [takeTexts, h]
  rfl

lemma takeLine_name (p : PendingEvent) (name : String) :
    p.takeLine ("event: " ++ name).toList = (.none, { p with name := some name }) := by
  have htext : ("event: " ++ name).toList = "event: ".toList ++ name.toList := String.toList_append
  rw [htext]
  show (Option.none, p.takeField "event".toList name.toList) = _
  rw [takeField, if_pos rfl, String.ofList_toList]

lemma takeLine_data (p : PendingEvent) (value : String) :
    p.takeLine ("data: " ++ value).toList = (.none, p.addData value) := by
  have htext : ("data: " ++ value).toList = "data: ".toList ++ value.toList := String.toList_append
  rw [htext]
  show (Option.none, p.takeField "data".toList value.toList) = _
  rw [takeField, if_neg (by decide), if_pos rfl, String.ofList_toList]

/-- The name of a field ends at the first colon. -/
lemma takeWhile_of_hasField {name line : String} (h : HasField name line) :
    line.toList.takeWhile (· != ':') = name.toList := by
  obtain ⟨hname, hline⟩ := h
  have hall : ∀ c ∈ name.toList, (c != ':') = true := by
    intro c hc
    rw [bne_iff_ne]
    rintro rfl
    exact hname hc
  -- what follows the name is nothing or starts with the colon
  obtain ⟨rest, htext, hrest⟩ : ∃ rest, line.toList = name.toList ++ rest ∧ rest.takeWhile (· != ':') = [] := by
    rcases hline with rfl | ⟨value, rfl⟩
    · exact ⟨[], (List.append_nil _).symm, rfl⟩
    · exact ⟨':' :: value.toList, by simp, rfl⟩
  rw [htext, List.takeWhile_append_of_pos hall, hrest, List.append_nil]

/-- Noise leaves the event that is being read as it is. -/
lemma takeLine_noise (p : PendingEvent) (h : IsNoise text) : p.takeLine text.toList = (.none, p) := by
  have hcomment : ∀ rest, p.takeLine (':' :: rest) = (.none, p) := fun _ => rfl
  rcases h.ignored with ⟨comment, rfl⟩ | ⟨name, hfield, hevent, hdata⟩
  · have htext : (":" ++ comment).toList = ':' :: comment.toList := by simp
    rw [htext, hcomment]
  · have hname := takeWhile_of_hasField hfield
    have hignored : ∀ value, p.takeField name.toList value = p := by
      intro value
      rw [takeField, if_neg (mt String.toList_inj.mp hevent), if_neg (mt String.toList_inj.mp hdata)]
    have hnonempty : text.toList ≠ [] := mt String.toList_eq_nil_iff.mp h.nonempty
    unfold takeLine
    split
    · exact absurd ‹_› hnonempty
    · rfl
    · simp only [splitField, hname, hignored]

/-- Comments and unknown fields change nothing. -/
theorem takeTexts_withNoise {lines noisy : List String} (h : WithNoise lines noisy) (p : PendingEvent) :
    p.takeTexts noisy = p.takeTexts lines := by
  induction h generalizing p with
  | nil => rfl
  | line rest ih => simp only [takeTexts, ih]
  | noise isNoise rest ih => rw [takeTexts_of_none (takeLine_noise p isNoise), ih]

/-! ## One event -/

/-- Data lines are joined in their order. -/
lemma takeTexts_data (p : PendingEvent) (values rest : List String) :
    p.takeTexts (values.map ("data: " ++ ·) ++ rest) = (values.foldl addData p).takeTexts rest := by
  induction values generalizing p with
  | nil => rfl
  | cons value values ih =>
    rw [List.map_cons, List.cons_append, takeTexts_of_none (takeLine_data p value), ih, List.foldl_cons]

/-- Lines of data are joined by newlines. -/
lemma foldl_addData (name : Option String) (first : String) (rest : List String) :
    rest.foldl addData ⟨name, some first⟩ =
      ⟨name, some (.ofList (['\n'].intercalate ((first :: rest).map String.toList)))⟩ := by
  induction rest generalizing first with
  | nil => simp
  | cons second rest ih =>
    have hadd : addData ⟨name, some first⟩ second = ⟨name, some (first ++ "\n" ++ second)⟩ := rfl
    rw [List.foldl_cons, hadd, ih]
    -- the first two lines count as one line with a newline in it
    cases rest <;> simp [List.intercalate_cons_cons]

/-- The data of an event is put together from its lines. -/
lemma foldl_dataLines (e : StreamEvent) :
    e.dataLines.foldl addData ⟨e.name, .none⟩ = ⟨e.name, some e.data⟩ := by
  have hjoined : ['\n'].intercalate (e.data.toList.splitOn '\n') = e.data.toList :=
    List.intercalate_splitOn '\n'
  unfold StreamEvent.dataLines
  cases hlines : e.data.toList.splitOn '\n' with
  | nil => exact absurd hlines (List.splitOn_ne_nil _ _)
  | cons first rest =>
    have hfirst : addData ⟨e.name, .none⟩ (.ofList first) = ⟨e.name, some (.ofList first)⟩ := rfl
    have htexts : ((String.ofList first :: rest.map String.ofList).map String.toList) = first :: rest := by
      simp [Function.comp_def]
    rw [List.map_cons, List.foldl_cons, hfirst, foldl_addData, htexts, ← hlines, hjoined,
      String.ofList_toList]

/-- An event is read from its lines, and nothing of it is left for what follows. -/
theorem takeTexts_lines (e : StreamEvent) (rest : List String) :
    PendingEvent.none.takeTexts (e.lines ++ rest) =
      (e :: (PendingEvent.none.takeTexts rest).1, (PendingEvent.none.takeTexts rest).2) := by
  have hname : ∀ later, PendingEvent.none.takeTexts ((e.name.map ("event: " ++ ·)).toList ++ later) =
      (PendingEvent.mk e.name .none).takeTexts later := by
    intro later
    cases e.name with
    | none => rfl
    | some name => exact takeTexts_of_none (takeLine_name .none name) later
  unfold StreamEvent.lines
  rw [List.append_assoc, hname, List.append_assoc, takeTexts_data, foldl_dataLines]
  rfl

/-- By induction on the events: each blank line hands one over and leaves nothing pending. -/
lemma takeTexts_flatMap_lines (events : List StreamEvent) :
    PendingEvent.none.takeTexts (events.flatMap (·.lines)) = (events, .none) := by
  induction events with
  | nil => rfl
  | cons e rest ih => rw [List.flatMap_cons, takeTexts_lines, ih]

end PendingEvent

/-! ## Streams -/

namespace EventParser

/-- Events that are written with noise anywhere between their lines, each line with either end, are read
again, and nothing else is: neither another event nor the start of one. It does not matter whether the bytes
come at once or in chunks. -/
theorem push_written {events : List StreamEvent} {written : List WrittenLine}
    (hevents : ∀ e ∈ events, e.Writable)
    (hwritten : WithNoise (events.flatMap (·.lines)) (written.map (·.text))) :
    fresh.push (written.flatMap (·.bytes)) = (events, fresh) ∧
      ∀ chunks : List (List UInt8), chunks.flatten = written.flatMap (·.bytes) →
        fresh.pushAll chunks = (events, fresh) := by
  have hevent_lines : ∀ line ∈ events.flatMap (·.lines), FitsLine line := by
    intro line hline
    obtain ⟨e, he, hline⟩ := List.mem_flatMap.mp hline
    exact (hevents e he).fitsLine line hline
  have hfits : ∀ line ∈ written, FitsLine line.text := by
    intro line hline
    exact hwritten.fitsLine hevent_lines line.text (List.mem_map_of_mem hline)
  have hlines := WrittenLine.linesOf_bytes hfits
  have htaken : takeLines .none (written.map (·.content)) = (events, .none) := by
    rw [PendingEvent.takeLines_content _ hfits, PendingEvent.takeTexts_withNoise hwritten,
      PendingEvent.takeTexts_flatMap_lines]
  have hpushed : fresh.push (written.flatMap (·.bytes)) = (events, fresh) := by
    rw [push_eq, fresh, List.nil_append, hlines.splitLines_eq, htaken]
  refine ⟨hpushed, fun chunks hchunks => ?_⟩
  rw [pushAll_eq_push List.not_mem_nil, hchunks, hpushed]

/-- Two events with comments and other fields between their lines, which end in both ways. -/
def mixedStream : List WrittenLine :=
  [⟨":hello", .returnNewline⟩, ⟨"event: put", .newline⟩, ⟨"id: 7", .newline⟩, ⟨"data: {}", .returnNewline⟩,
    ⟨"data: ", .newline⟩, ⟨"retry", .newline⟩, ⟨"data: : é", .newline⟩, ⟨"", .returnNewline⟩,
    ⟨"data: ", .returnNewline⟩, ⟨"", .newline⟩, ⟨":", .newline⟩]

theorem push_written_mixed :
    fresh.push (mixedStream.flatMap (·.bytes)) = ([⟨some "put", "{}\n\n: é"⟩, ⟨none, ""⟩], fresh) := by
  have hevents : ∀ e ∈ ([⟨some "put", "{}\n\n: é"⟩, ⟨none, ""⟩] : List StreamEvent), e.Writable := by
    intro e he
    simp only [List.mem_cons, List.not_mem_nil, or_false] at he
    rcases he with rfl | rfl
    · exact ⟨fun name hname => Option.some.inj hname ▸ (by decide), by decide⟩
    · exact ⟨nofun, by decide⟩
  have hcomment : ∀ comment, FitsLine (":" ++ comment) → IsNoise (":" ++ comment) := fun comment h =>
    ⟨h, by simp, .inl ⟨comment, rfl⟩⟩
  have hid : IsNoise "id: 7" :=
    ⟨by decide, by decide, .inr ⟨"id", ⟨by decide, .inr ⟨" 7", by decide⟩⟩, by decide, by decide⟩⟩
  have hretry : IsNoise "retry" :=
    ⟨by decide, by decide, .inr ⟨"retry", ⟨by decide, .inl rfl⟩, by decide, by decide⟩⟩
  refine (push_written hevents ?_).1
  exact .noise (hcomment "hello" (by decide)) (.line (.noise hid (.line (.line (.noise hretry (.line (.line
    (.line (.line (.noise (hcomment "" (by decide)) .nil))))))))))

end EventParser
end FeatureFlags
