import NanoCore.Foundation.PythonText

/-!
The `text/event-stream` format as an `EventSource` reads it, one character after
the other, so that it does not matter how the text is cut into chunks.  The fields
`id` and `retry` are skipped.
-/

namespace NanoCore.Foundation.EventStreams

open NanoCore.Foundation.PythonText

structure Message where
  type : Text
  data : Text
  deriving DecidableEq, Repr

structure EventSource where
  line : Text := []
  /-- The last character was a carriage return, which a line feed may follow. -/
  afterReturn : Bool := false
  type : Text := []
  /-- The data lines so far, each with a line feed. -/
  data : Text := []
  messages : List Message := []
  deriving DecidableEq, Repr

namespace EventSource

/-- A blank line dispatches the message, when it has data. -/
def dispatch (source : EventSource) : EventSource :=
  if source.data = [] then { source with type := [] }
  else
    { source with
      type := []
      data := []
      messages := source.messages ++
        [⟨if source.type = [] then "message".toList else source.type, source.data.dropLast⟩] }

/-- The value of a field: a space behind the colon is dropped. -/
def fieldValue : Text → Text
  | ':' :: ' ' :: value => value
  | ':' :: value => value
  | _ => []

def readField (source : EventSource) : EventSource :=
  let name := source.line.takeWhile (· ≠ ':')
  let value := fieldValue (source.line.dropWhile (· ≠ ':'))
  if name = "event".toList then { source with type := value }
  else if name = "data".toList then { source with data := source.data ++ value ++ ['\n'] }
  else source

def endLine (source : EventSource) : EventSource :=
  if source.line = [] then source.dispatch else { source.readField with line := [] }

def readChar (source : EventSource) (c : Char) : EventSource :=
  if c = '\n' ∧ source.afterReturn = true then { source with afterReturn := false }
  else if c = '\n' ∨ c = '\r' then { source.endLine with afterReturn := c == '\r' }
  else { source with line := source.line ++ [c], afterReturn := false }

def read (source : EventSource) (text : Text) : EventSource := text.foldl readChar source

end EventSource

/-- A message with one line of data. -/
def frame (message : Message) : Text :=
  "event: ".toList ++ (message.type ++ ("\ndata: ".toList ++ (message.data ++ "\n\n".toList)))

example : (EventSource.read {}
      "event: a\r\n: skipped\ndata:1\ndata: 2\n\ndata\n\n".toList).messages =
    [⟨['a'], "1\n2".toList⟩, ⟨"message".toList, []⟩] := by decide +kernel

/-- The text stays on one line. -/
def OneLine (text : Text) : Prop := ∀ c ∈ text, c ≠ '\n' ∧ c ≠ '\r'

structure Message.IsSimple (message : Message) : Prop where
  type_ne : message.type ≠ []
  type_oneLine : OneLine message.type
  data_oneLine : OneLine message.data

namespace EventSource

variable {source : EventSource}

theorem read_append (source : EventSource) (front back : Text) :
    source.read (front ++ back) = (source.read front).read back := List.foldl_append

theorem read_oneLine {text : Text} (h : OneLine text) (hreturn : source.afterReturn = false) :
    source.read text = { source with line := source.line ++ text } := by
  induction text generalizing source with
  | nil => simp [read]
  | cons c text ih =>
      obtain ⟨hfeed, hret⟩ := h c List.mem_cons_self
      have hchar : source.readChar c = { source with line := source.line ++ [c] } := by
        rw [readChar, if_neg (fun hc => hfeed hc.1), if_neg (not_or.mpr ⟨hfeed, hret⟩), hreturn]
      have hafter : (source.readChar c).afterReturn = false := by
        rw [hchar]
        exact hreturn
      have hrest := ih (fun d hd => h d (List.mem_cons_of_mem c hd)) hafter
      rw [hchar] at hrest
      show (source.readChar c).read text = _
      rw [hchar, hrest, List.append_assoc]
      rfl

variable {line value type data : Text} {messages : List Message}

theorem afterReturn_endLine (source : EventSource) :
    source.endLine.afterReturn = source.afterReturn := by
  have hfield : source.readField.afterReturn = source.afterReturn := by
    unfold readField
    dsimp only
    split_ifs <;> rfl
  unfold endLine dispatch
  split_ifs
  · rfl
  · rfl
  · rfl
  · exact hfield

/-- A line on its own, behind another one. -/
theorem read_line (h : OneLine line) :
    (mk [] false type data messages).read (line ++ ['\n']) =
      (mk line false type data messages).endLine := by
  have hline : (mk [] false type data messages).read line = mk line false type data messages :=
    read_oneLine h rfl
  have hfeed : (mk line false type data messages).read ['\n'] =
      { (mk line false type data messages).endLine with afterReturn := false } := rfl
  have hreturn := afterReturn_endLine (mk line false type data messages)
  rw [read_append, hline, hfeed]
  generalize (mk line false type data messages).endLine = source at hreturn
  cases source
  cases hreturn
  rfl

theorem endLine_event : (mk ("event: ".toList ++ value) false type data messages).endLine =
    mk [] false value data messages := by
  have hfield : "event: ".toList = ['e', 'v', 'e', 'n', 't', ':', ' '] := by decide
  have hname : "event".toList = ['e', 'v', 'e', 'n', 't'] := by decide
  rw [endLine, hfield, if_neg (by simp), readField]
  simp only [List.cons_append, List.nil_append, List.takeWhile_cons, List.dropWhile_cons]
  rw [hname]
  rfl

theorem endLine_data : (mk ("data: ".toList ++ value) false type data messages).endLine =
    mk [] false type (data ++ value ++ ['\n']) messages := by
  have hfield : "data: ".toList = ['d', 'a', 't', 'a', ':', ' '] := by decide
  have hevent : "event".toList = ['e', 'v', 'e', 'n', 't'] := by decide
  have hname : "data".toList = ['d', 'a', 't', 'a'] := by decide
  rw [endLine, hfield, if_neg (by simp), readField]
  simp only [List.cons_append, List.nil_append, List.takeWhile_cons, List.dropWhile_cons]
  rw [hevent, hname]
  rfl

theorem oneLine_nil : OneLine [] := nofun

theorem oneLine_append {front back : Text} (hfront : OneLine front) (hback : OneLine back) :
    OneLine (front ++ back) := by
  intro c hc
  rcases List.mem_append.mp hc with h | h
  · exact hfront c h
  · exact hback c h

theorem oneLine_of_all {text : Text} (h : (text.all fun c => c ≠ '\n' ∧ c ≠ '\r') = true) :
    OneLine text := fun c hc => of_decide_eq_true (List.all_eq_true.mp h c hc)

/-- A decoder between two messages. -/
def between (messages : List Message) : EventSource := mk [] false [] [] messages

/-- The three lines of a frame. -/
theorem frame_eq (message : Message) :
    frame message = ("event: ".toList ++ message.type) ++ ['\n'] ++
      (("data: ".toList ++ message.data) ++ ['\n'] ++ ([] ++ ['\n'])) := by
  have hmiddle : "\ndata: ".toList = ['\n'] ++ "data: ".toList := by decide
  have hend : "\n\n".toList = ['\n'] ++ ([] ++ ['\n']) := by decide
  unfold frame
  rw [hmiddle, hend]
  generalize "event: ".toList = event
  generalize "data: ".toList = data
  simp only [List.append_assoc]

theorem read_frame {message : Message} (h : message.IsSimple) (messages : List Message) :
    (between messages).read (frame message) = between (messages ++ [message]) := by
  have hevent : OneLine ("event: ".toList ++ message.type) :=
    oneLine_append (oneLine_of_all (by decide)) h.type_oneLine
  have hdata : OneLine ("data: ".toList ++ message.data) :=
    oneLine_append (oneLine_of_all (by decide)) h.data_oneLine
  have hne : [] ++ message.data ++ ['\n'] ≠ [] := by simp
  rw [frame_eq, read_append, between, read_line hevent, endLine_event, read_append,
    read_line hdata, endLine_data, read_line oneLine_nil, endLine, if_pos rfl, dispatch,
    if_neg hne, if_neg h.type_ne, List.dropLast_concat]
  rfl

/-- A stream of frames is read as its messages. -/
theorem read_frames {sent : List Message} (h : ∀ message ∈ sent, message.IsSimple)
    (messages : List Message) :
    (between messages).read (sent.flatMap frame) = between (messages ++ sent) := by
  induction sent generalizing messages with
  | nil => rw [List.append_nil]; rfl
  | cons message sent ih =>
      rw [List.flatMap_cons, read_append, read_frame (h message List.mem_cons_self),
        ih (fun m hm => h m (List.mem_cons_of_mem message hm)), List.append_assoc]
      rfl

end EventSource

end NanoCore.Foundation.EventStreams
