import ChatFeed.Feed.Message
import ChatFeed.Json.Printer
import ChatFeed.Storage.Path
import ChatFeed.Time.Date

/-!
# Transcript/Entry — a line of a transcript, and the file it belongs to

Every stream has a transcript file of its own.  Its name is the stream's identifier with each byte
other than an ASCII letter or digit, an underscore or a hyphen written as a percent sign and two
digits, so different streams never share a file and no name leads out of the directory.
-/

namespace ChatFeed.Transcript

/-- The bytes that stand for themselves in a file name. -/
def isPlain (b : UInt8) : Bool :=
  let c := Char.ofNat b.toNat
  c.isAlphanum || c = '_' || c = '-'

/-- A digit of base sixteen, upper case. -/
def upperDigit (n : Nat) : Char := (Nat.digitChar n).toUpper

/-- **A byte in a file name.** -/
def escapeByte (b : UInt8) : List Char :=
  if isPlain b then [Char.ofNat b.toNat]
  else ['%', upperDigit (b.toNat / 16), upperDigit (b.toNat % 16)]

/-- **The name of a stream's file**, without its ending. -/
def fileStem (stream : String) : String :=
  String.ofList (stream.toUTF8.data.toList.flatMap escapeByte)

/-- The path of a stream's file in a directory. -/
def path (directory stream : String) : String :=
  Storage.join directory (fileStem stream ++ ".jsonl")

/-- **A line of a transcript**, as JSON text: when it was recorded, when the message was sent if
that is known, and what the message says. -/
def entry (recordedAt : String) (m : Message) : List Char :=
  let sentAt := match Date.text? m.timestamp with
    | none => []
    | some t => [("sent_at", Json.printString t)]
  Json.printObject ([("recorded_at", Json.printString recordedAt)] ++ sentAt ++
    [("stream_id", Json.printString m.stream), ("message_id", Json.printString m.id),
      ("from_user_id", Json.printString m.sender), ("body", Json.printString m.body)])

end ChatFeed.Transcript
