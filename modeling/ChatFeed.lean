import ChatFeed.Chat.Addition
import ChatFeed.Chat.Album
import ChatFeed.Chat.Announce
import ChatFeed.Chat.Arrival
import ChatFeed.Chat.Basic
import ChatFeed.Chat.Callback
import ChatFeed.Chat.Delivery
import ChatFeed.Chat.Directory
import ChatFeed.Chat.Lock
import ChatFeed.Chat.Perform
import ChatFeed.Chat.Roster
import ChatFeed.Chat.Traffic
import ChatFeed.Chat.World
import ChatFeed.Command.Address
import ChatFeed.Command.Arguments
import ChatFeed.Command.Run
import ChatFeed.Command.Screen
import ChatFeed.Data.Mismatch
import ChatFeed.Data.Record
import ChatFeed.Data.Value
import ChatFeed.Feed.Event
import ChatFeed.Feed.Message
import ChatFeed.Feed.ReadError
import ChatFeed.Feed.Wire
import ChatFeed.Json.Number
import ChatFeed.Json.Printer
import ChatFeed.Json.Reader
import ChatFeed.Json.Scan
import ChatFeed.Json.Typed
import ChatFeed.Main
import ChatFeed.Number.Double
import ChatFeed.Number.Numeral
import ChatFeed.Number.Shortest
import ChatFeed.People.User
import ChatFeed.Poll.Config
import ChatFeed.Poll.Loop
import ChatFeed.Poll.PollError
import ChatFeed.Poll.Poller
import ChatFeed.Poll.Rehearsal
import ChatFeed.Poll.Retry
import ChatFeed.Poll.Timeline
import ChatFeed.Proofs.Chat.Account
import ChatFeed.Proofs.Chat.Attendance
import ChatFeed.Proofs.Chat.Calm
import ChatFeed.Proofs.Chat.Chronicle
import ChatFeed.Proofs.Chat.Crowd
import ChatFeed.Proofs.Chat.Debut
import ChatFeed.Proofs.Chat.Dispatch
import ChatFeed.Proofs.Chat.Filing
import ChatFeed.Proofs.Chat.Guests
import ChatFeed.Proofs.Chat.Isolation
import ChatFeed.Proofs.Chat.Journey
import ChatFeed.Proofs.Chat.Ledger
import ChatFeed.Proofs.Chat.Muster
import ChatFeed.Proofs.Chat.Newest
import ChatFeed.Proofs.Chat.Passage
import ChatFeed.Proofs.Chat.Quiet
import ChatFeed.Proofs.Chat.Recruits
import ChatFeed.Proofs.Chat.Reentry
import ChatFeed.Proofs.Chat.Replays
import ChatFeed.Proofs.Chat.Scene
import ChatFeed.Proofs.Chat.Seniority
import ChatFeed.Proofs.Chat.Story
import ChatFeed.Proofs.Chat.Stride
import ChatFeed.Proofs.Chat.Tidings
import ChatFeed.Proofs.Chat.Traffic
import ChatFeed.Proofs.Chat.Watch
import ChatFeed.Proofs.Data.Record
import ChatFeed.Proofs.Feed.Event
import ChatFeed.Proofs.Feed.Reading
import ChatFeed.Proofs.Feed.Writing
import ChatFeed.Proofs.History
import ChatFeed.Proofs.Json.Grammar
import ChatFeed.Proofs.Json.Printer
import ChatFeed.Proofs.Json.Recognition
import ChatFeed.Proofs.Json.Typed
import ChatFeed.Proofs.Number.Numeral
import ChatFeed.Proofs.Poll.Booth
import ChatFeed.Proofs.Poll.Bulletin
import ChatFeed.Proofs.Poll.Course
import ChatFeed.Proofs.Poll.Office
import ChatFeed.Proofs.Poll.Reaction
import ChatFeed.Proofs.Poll.Streak
import ChatFeed.Proofs.Replay.Capture
import ChatFeed.Proofs.Replay.Performance
import ChatFeed.Proofs.Replay.Position
import ChatFeed.Proofs.Replay.Recital
import ChatFeed.Proofs.Replay.Reel
import ChatFeed.Proofs.Replay.Screening
import ChatFeed.Proofs.Replay.Scribe
import ChatFeed.Proofs.Settings.Range
import ChatFeed.Proofs.Settings.Schedule
import ChatFeed.Proofs.Storage.Folder
import ChatFeed.Proofs.Text.Lines
import ChatFeed.Proofs.Transcript.Archive
import ChatFeed.Proofs.Transcript.Naming
import ChatFeed.Replay.Capture
import ChatFeed.Replay.Playback
import ChatFeed.Report.Filter
import ChatFeed.Report.Journal
import ChatFeed.Session.Concurrent
import ChatFeed.Session.Move
import ChatFeed.Settings.Basic
import ChatFeed.Settings.Document
import ChatFeed.Settings.Dotenv
import ChatFeed.Settings.Environment
import ChatFeed.Settings.Load
import ChatFeed.Settings.Places
import ChatFeed.Storage.Folder
import ChatFeed.Storage.Path
import ChatFeed.Text.Blank
import ChatFeed.Text.Hidden
import ChatFeed.Text.Lines
import ChatFeed.Text.Quoted
import ChatFeed.Time.Date
import ChatFeed.Time.Span
import ChatFeed.Toml.Document
import ChatFeed.Toml.Number
import ChatFeed.Toml.Scan
import ChatFeed.Toml.Table
import ChatFeed.Transcript.Entry
import ChatFeed.Transcript.Record
import ChatFeed.Proofs.Time.Date
import ChatFeed.Proofs.Transcript.Appending
import ChatFeed.Proofs.Settings.Document
import ChatFeed.Proofs.Settings.Layers
