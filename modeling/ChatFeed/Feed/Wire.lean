import ChatFeed.Feed.Event
import ChatFeed.Json.Printer
import ChatFeed.Json.Typed

/-!
# Feed/Wire — users, messages, events and cursors as JSON text

Every record is an object with its fields in a fixed order when written, in any order when read; a
list of the fields is read too.  An event is an object with its kind under `type`: it is read whole,
kept as a tree, and then taken apart by its kind, so its faults come in that order.

The lists of fields are written once, for both ways of reading (`Fields`).
-/

namespace ChatFeed

open Json Data

/-- How the single fields of the feed's records are read. -/
structure Leaves (R : Type → Type) where
  text : R String
  optionalText : R (Option String)
  time : R Int
  kind : R StreamKind

/-- The range of times, by its name. -/
def timeName : String := "i64"

/-- The earliest time. -/
def minTime : Int := -0x8000_0000_0000_0000

/-- The latest time. -/
def maxTime : Int := 0x7FFF_FFFF_FFFF_FFFF

/-- Fields read from running text. -/
def textLeaves : Leaves Typed :=
  ⟨.text, .optionalText, .integer timeName minTime maxTime, .choice StreamKind.table⟩

/-- Fields taken from a tree. -/
def treeLeaves : Leaves Pick :=
  ⟨.text, .optionalText, .integer timeName minTime maxTime, .choice StreamKind.table⟩

/-- The value of a required field. -/
def required {α : Type} (name : String) : Option α → Except Mismatch α
  | some a => .ok a
  | none => .error (.missing name)

variable {R : Type → Type} [Functor R]

/-! ## Users -/

/-- What has been read of a user. -/
structure User.Draft where
  id : Option String := none
  displayName : Option (Option String) := none
  email : Option (Option String) := none

/-- **The fields of a user.** -/
def User.record (leaves : Leaves R) : Record R User.Draft User where
  label := "struct ChatUser"
  blank := {}
  fields := [
    ⟨"id", false, (·.id.isSome), (fun v d => { d with id := some v }) <$> leaves.text⟩,
    ⟨"display_name", true, (·.displayName.isSome),
      (fun v d => { d with displayName := some v }) <$> leaves.optionalText⟩,
    ⟨"email", true, (·.email.isSome),
      (fun v d => { d with email := some v }) <$> leaves.optionalText⟩]
  finish d := do
    let id ← required "id" d.id
    .ok ⟨id, d.displayName.join, d.email.join⟩

/-- A user from running text. -/
def User.typed : Typed User := .record (User.record textLeaves)

/-- A user from a tree. -/
def User.pick : Pick User := .record true (User.record treeLeaves)

/-- An optional text as a member of an object, left out when there is none. -/
def optionalMember (name : String) : Option String → List (String × List Char)
  | none => []
  | some s => [(name, printString s)]

/-- **A user as JSON text.** -/
def User.print (u : User) : List Char :=
  printObject (("id", printString u.id) ::
    optionalMember "display_name" u.displayName ++ optionalMember "email" u.email)

/-! ## Messages -/

/-- What has been read of a message. -/
structure Message.Draft where
  id : Option String := none
  stream : Option String := none
  sender : Option String := none
  body : Option String := none
  timestamp : Option Int := none
  kind : Option StreamKind := none

/-- **The fields of a message.** -/
def Message.record (leaves : Leaves R) : Record R Message.Draft Message where
  label := "struct ChatMessage"
  blank := {}
  fields := [
    ⟨"message_id", false, (·.id.isSome), (fun v d => { d with id := some v }) <$> leaves.text⟩,
    ⟨"stream_id", false, (·.stream.isSome),
      (fun v d => { d with stream := some v }) <$> leaves.text⟩,
    ⟨"from_user_id", false, (·.sender.isSome),
      (fun v d => { d with sender := some v }) <$> leaves.text⟩,
    ⟨"body", false, (·.body.isSome), (fun v d => { d with body := some v }) <$> leaves.text⟩,
    ⟨"timestamp", true, (·.timestamp.isSome),
      (fun v d => { d with timestamp := some v }) <$> leaves.time⟩,
    ⟨"stream_type", true, (·.kind.isSome),
      (fun v d => { d with kind := some v }) <$> leaves.kind⟩]
  finish d := do
    let id ← required "message_id" d.id
    let stream ← required "stream_id" d.stream
    let sender ← required "from_user_id" d.sender
    let body ← required "body" d.body
    .ok ⟨id, stream, sender, body, d.timestamp.getD 0, d.kind.getD .room⟩

/-- A message from running text. -/
def Message.typed : Typed Message := .record (Message.record textLeaves)

/-- A message from a tree. -/
def Message.pick : Pick Message := .record true (Message.record treeLeaves)

/-- **A message as JSON text.** -/
def Message.print (m : Message) : List Char :=
  printObject [("message_id", printString m.id), ("stream_id", printString m.stream),
    ("from_user_id", printString m.sender), ("body", printString m.body),
    ("timestamp", printInt m.timestamp), ("stream_type", printString m.kind.name)]

/-! ## Stream kinds and cursors -/

/-- A stream kind from running text. -/
def StreamKind.typed : Typed StreamKind := textLeaves.kind

/-- A stream kind as JSON text. -/
def StreamKind.print (k : StreamKind) : List Char := printString k.name

/-- A cursor from running text. -/
def Cursor.typed : Typed Cursor := Cursor.mk <$> textLeaves.text

/-- A cursor as JSON text. -/
def Cursor.print (c : Cursor) : List Char := printString c.token

/-! ## Events -/

/-- The kinds of event that have a shape of their own. -/
inductive EventKind
  | sent
  | joined
  | left
  | other
  deriving DecidableEq, Repr

/-- The kinds under their names. -/
def EventKind.table : List (String × EventKind) :=
  [("message_sent", .sent), ("user_joined_room", .joined), ("user_left_room", .left),
    ("other", .other)]

/-- What has been read of an event's fields. -/
structure Event.Draft where
  message : Option Message := none
  stream : Option String := none
  user : Option User := none
  kind : Option String := none

/-- The fields of an event that tells of a user and a stream. -/
def Event.membership (label : String) (make : String → User → Event) :
    Record Pick Event.Draft Event where
  label := label
  blank := {}
  fields := [
    ⟨"stream_id", false, (·.stream.isSome), (fun v d => { d with stream := some v }) <$> .text⟩,
    ⟨"user", false, (·.user.isSome), (fun v d => { d with user := some v }) <$> User.pick⟩]
  finish d := do
    let stream ← required "stream_id" d.stream
    let user ← required "user" d.user
    .ok (make stream user)

/-- **The fields of an event**, by its kind. -/
def Event.record : EventKind → Record Pick Event.Draft Event
  | .sent => {
      label := "struct variant FeedEvent::MessageSent"
      blank := {}
      fields := [⟨"message", false, (·.message.isSome),
        (fun v d => { d with message := some v }) <$> Message.pick⟩]
      finish := fun d => Event.sent <$> required "message" d.message }
  | .joined => Event.membership "struct variant FeedEvent::UserJoinedRoom" .joined
  | .left => Event.membership "struct variant FeedEvent::UserLeftRoom" .left
  | .other => {
      label := "struct variant FeedEvent::Other"
      blank := {}
      fields := [⟨"kind", false, (·.kind.isSome),
        (fun v d => { d with kind := some v }) <$> .text⟩]
      finish := fun d => Event.other <$> required "kind" d.kind }

/-- What has been read of an event: its kind, and all else as a tree, backwards. -/
structure Event.Parts where
  kind : Option EventKind := none
  entries : List (String × Value) := []

/-- The name of an event's kind. -/
def EventKind.typed : Typed EventKind := ⟨fun depth cs => do
  let (name, cs) ← (Typed.string "variant identifier").run depth cs
  match EventKind.table.lookup name with
  | some k => .ok (k, cs)
  | none => .error (.mismatch (.unknownVariant name (EventKind.table.map (·.1))))⟩

/-- The name of an entry; a kind given twice is told before its value. -/
def Event.entryName (p : Event.Parts) (cs : List Char) : Scan (String × List Char) := do
  let (name, cs) ← scanString cs
  if name = "type" ∧ p.kind.isSome then .error (.mismatch (.repeated "type")) else .ok (name, cs)

/-- The value of an entry: the kind is checked at once, all else is kept. -/
def Event.entryValue (depth : Nat) (name : String) (p : Event.Parts) (cs : List Char) :
    Scan (Event.Parts × List Char) := do
  if name = "type" then
    let (k, cs) ← EventKind.typed.run depth cs
    .ok ({ p with kind := some k }, cs)
  else
    let (v, cs) ← scanValue depth cs
    .ok ({ p with entries := (name, v) :: p.entries }, cs)

/-- An element of an event that is written as a list: the kind first. -/
def Event.element (depth : Nat) (p : Option EventKind × List Value) (cs : List Char) :
    Scan ((Option EventKind × List Value) × List Char) := do
  match p.1 with
  | none =>
    let (k, cs) ← EventKind.typed.run depth cs
    .ok ((some k, p.2), cs)
  | some _ =>
    let (v, cs) ← scanValue depth cs
    .ok ((p.1, v :: p.2), cs)

/-- The event of a kind and a tree. -/
def Event.assemble (kind : Option EventKind) (v : Value) : Scan Event :=
  match kind with
  | none => .error (.mismatch (.missing "type"))
  | some k =>
    match (Pick.record true (Event.record k)).run v with
    | .ok e => .ok e
    | .error e => .error (.mismatch e)

/-- **An event from running text.** -/
def Event.typed : Typed Event := ⟨fun depth cs =>
  match skipSpace cs, depth with
  | '[' :: _, 0 => .error .malformed
  | '\x7b' :: _, 0 => .error .malformed
  | '[' :: cs, depth + 1 => do
    let ((kind, items), cs) ← scanArray (Event.element depth) (none, []) cs
    .ok (← Event.assemble kind (.list items.reverse), cs)
  | '\x7b' :: cs, depth + 1 => do
    let (p, cs) ← scanObject Event.entryName (Event.entryValue depth) {} cs
    .ok (← Event.assemble p.kind (.table p.entries.reverse), cs)
  | cs, _ => .error (otherForm "internally tagged enum FeedEvent" cs)⟩

/-- **An event as JSON text.** -/
def Event.print : Event → List Char
  | .sent m => printObject [("type", printString "message_sent"), ("message", m.print)]
  | .joined s u => printObject [("type", printString "user_joined_room"),
      ("stream_id", printString s), ("user", u.print)]
  | .left s u => printObject [("type", printString "user_left_room"),
      ("stream_id", printString s), ("user", u.print)]
  | .other kind => printObject [("type", printString "other"), ("kind", printString kind)]

/-- **Read a text** that is one value of a type. -/
def readAs {α : Type} (form : Typed α) (s : String) : Scan α :=
  readWhole (form.run topDepth) s.toList

end ChatFeed
