import FeatureFlags.Text.Utf8

/-!
# Event streams

The `text/event-stream` format: lines that end in a newline, whose trailing carriage returns do not count.
A line is a field with a value after a colon, or a comment if it starts with a colon. An empty line ends an
event, which is delivered if it has data. Of the fields only `event` and `data` matter, and the values of
several `data` lines are joined by newlines.

`EventParser.push` takes the bytes of a stream in chunks, which may end anywhere.
-/

namespace FeatureFlags

/-- An event of a stream. -/
structure StreamEvent where
  name : Option String
  data : String
  deriving DecidableEq, Repr

/-- The name of an event, `message` if it was not given any. -/
def StreamEvent.nameOrDefault (e : StreamEvent) : String := e.name.getD "message"

/-- The event that is being read: its name and its data, as far as they have been given. -/
structure PendingEvent where
  name : Option String
  data : Option String
  deriving DecidableEq, Repr

namespace PendingEvent

/-- No event yet. -/
def none : PendingEvent := ⟨.none, .none⟩

/-- Adds a line of data. -/
def addData (p : PendingEvent) (value : String) : PendingEvent :=
  match p.data with
  | .some data => { p with data := some (data ++ "\n" ++ value) }
  | .none => { p with data := some value }

/-- Takes a field. -/
def takeField (p : PendingEvent) (name value : List Char) : PendingEvent :=
  if name = "event".toList then { p with name := some (String.ofList value) }
  else if name = "data".toList then p.addData (String.ofList value)
  else p

/-- The name of a field and its value, without one leading blank. -/
def splitField (line : List Char) : List Char × List Char :=
  let value := match line.dropWhile (· != ':') with
    | ':' :: ' ' :: value => value
    | ':' :: value => value
    | _ => []
  (line.takeWhile (· != ':'), value)

/-- Takes a line, and gives the event that it completes. -/
def takeLine (p : PendingEvent) (line : List Char) : Option StreamEvent × PendingEvent :=
  match line with
  | [] => (p.data.map (⟨p.name, ·⟩), .none)
  | ':' :: _ => (.none, p)
  | line =>
    let (name, value) := splitField line
    (.none, p.takeField name value)

end PendingEvent

/-! ## Lines -/

/-- The complete lines of some bytes, and what follows the last newline. -/
def splitLines : List UInt8 → List (List UInt8) × List UInt8
  | [] => ([], [])
  | b :: rest =>
    let (lines, remainder) := splitLines rest
    if b = 10 then ([] :: lines, remainder)
    else match lines with
      | [] => ([], b :: remainder)
      | line :: lines => ((b :: line) :: lines, remainder)

/-- The text of a line without its trailing carriage returns. -/
def lineText (line : List UInt8) : List Char :=
  ((Text.Utf8.decode line).reverse.dropWhile (· == '\r')).reverse

/-- A reader of an event stream: the bytes of a line that is not complete, and the event being read. -/
structure EventParser where
  buffer : List UInt8
  pending : PendingEvent
  deriving DecidableEq, Repr

namespace EventParser

/-- The reader of a stream that has not begun. -/
def fresh : EventParser := ⟨[], .none⟩

/-- Takes lines one after the other, and gives the events that they complete. -/
def takeLines (pending : PendingEvent) : List (List UInt8) → List StreamEvent × PendingEvent
  | [] => ([], pending)
  | line :: rest =>
    let (event, pending) := pending.takeLine (lineText line)
    let (events, pending) := takeLines pending rest
    (event.toList ++ events, pending)

/-- Takes a chunk of bytes, and gives the events that it completes. -/
def push (p : EventParser) (chunk : List UInt8) : List StreamEvent × EventParser :=
  let (lines, buffer) := splitLines (p.buffer ++ chunk)
  let (events, pending) := takeLines p.pending lines
  (events, ⟨buffer, pending⟩)

end EventParser
end FeatureFlags
