import ChatFeed.Proofs.Data.Record
import ChatFeed.Proofs.Json.Recognition
import ChatFeed.Proofs.Time.Date
import ChatFeed.Proofs.Transcript.Archive
import Mathlib.Data.List.Forall2

/-!
# Proofs/Transcript/Appending — what a file gains when messages are written down

A message that was written down is one line more in the file of its stream, behind the bytes that
the file had, and no other stream's file is touched (`gains_of_write`).  So **each file gains the
lines of its stream's messages, in order** (`appends_line_each`), whatever the files held before and
however the messages of different streams alternate.

What a line says is told by the values it denotes (`LineOf`), not by how it is printed.
-/

namespace ChatFeed.Transcript

open Data

variable {f g : Folder} {directory now : String} {m : Message} {entries : List (String × Message)}

/-! ## What a line says -/

/-- **A text is a line of a message**: one line, which denotes a table with the texts of the
message, and with a date if the message's time has one. -/
structure LineOf (m : Message) (line : List Char) : Prop where
  whole : '\n' ∉ line
  denotes : ∃ es, Json.Denotes (String.ofList line) (.table es)
    ∧ valuesOf "stream_id" es = [.text m.stream] ∧ valuesOf "message_id" es = [.text m.id]
    ∧ valuesOf "from_user_id" es = [.text m.sender] ∧ valuesOf "body" es = [.text m.body]
    ∧ valuesOf "sent_at" es = if 0 < m.timestamp ∧ m.timestamp ≤ Date.lastMilli
        then [.text (Date.timeText m.timestamp.toNat)] else []

/-- **What is written of a message is a line of it**, whenever it is written. -/
theorem lineOf_entry (now : String) (m : Message) : LineOf m (entry now m) := by
  have htree : Json.Denotes (String.ofList (entry now m)) (tree now m) := by
    rw [Json.denotes_iff, String.toList_ofList]
    exact readLine_entry now m
  refine ⟨fun h => (not_break_of_mem_entry h).1 rfl, _, htree, ?_⟩
  rw [told, Date.text?_eq]
  split_ifs <;> simp [valuesOf]

/-! ## Single messages -/

/-- **A message that was written down** is a line more in its stream's file, and touches no other
stream's file. -/
theorem gains_of_write (h : write directory now m f = (none, g)) (stream : String) :
    f.Gains (path directory stream) (if m.stream = stream then [entry now m] else []) g := by
  rw [write] at h
  split at h
  · cases h
  · rename_i made hmade
    split at h
    · cases h
    · rename_i happend
      cases h
      obtain ⟨place, hplace, hkept⟩ := Folder.exists_place_of_makeDirectory hmade
      obtain ⟨c, hc, rfl⟩ := Folder.append_eq_ok (parts_path hplace m.stream) happend
      have hnode : ∀ f : Folder, f.node? (path directory stream)
          = f.at? (place ++ [fileName stream]) :=
        fun f => Folder.node?_eq (parts_path hplace stream) (meansDirectory_path directory stream)
      split_ifs with hstream
      · subst hstream
        have htop := Folder.not_isTop_of_plain (isPlainName_fileName m.stream) place
        refine .lines (List.cons_ne_nil _ _) ((hnode _).trans (Folder.at?_put_self htop _ _)) ?_
        rw [Content.bytes_addLine, List.flatMap_singleton, Folder.bytesAt, hnode, ← hkept]
        rcases hc with hc | ⟨hc, rfl⟩ <;> rw [hc] <;> rfl
      · have hne : place ++ [fileName stream] ≠ place ++ [fileName m.stream] := fun heq =>
          hstream (fileName_injective (by simpa using heq)).symm
        refine .nothing ?_
        rw [hnode, hnode, Folder.at?_put_of_ne hne, hkept]

/-! ## All messages -/

/-- **Write messages down** in a directory, each at its own time; `none` when one could not be
written. -/
def recordAll (directory : String) : List (String × Message) → Folder → Option Folder
  | [], f => some f
  | (now, m) :: entries, f =>
    match record (some directory) now m f with
    | (none, f) => recordAll directory entries f
    | (some _, _) => none

/-- The lines of a stream, in order. -/
def linesOf (stream : String) (entries : List (String × Message)) : List (List Char) :=
  (entries.filter (·.2.stream = stream)).map fun e => entry e.1 e.2

/-- **Each file gains the lines of its stream.** -/
theorem gains_of_recordAll (h : recordAll directory entries f = some g) (stream : String) :
    f.Gains (path directory stream) (linesOf stream entries) g := by
  induction entries generalizing f with
  | nil =>
    cases h
    exact .nothing rfl
  | cons e entries ih =>
    obtain ⟨now, m⟩ := e
    rw [recordAll] at h
    split at h
    · rename_i written hwritten
      have happend := (gains_of_write hwritten stream).append (ih h)
      by_cases hstream : m.stream = stream <;> simpa [linesOf, hstream] using happend
    · cases h

/-- **Each file gains one line for each message of its stream, in order**, behind the bytes it had,
and each line tells its message; a file without new messages stays as it is. -/
theorem appends_line_each (h : recordAll directory entries f = some g) (stream : String) :
    ∃ lines, List.Forall₂ LineOf (ofStream stream (entries.map (·.2))) lines
      ∧ f.Gains (path directory stream) lines g := by
  refine ⟨_, ?_, gains_of_recordAll h stream⟩
  rw [linesOf, ofStream, List.filter_map, List.forall₂_map_left_iff, List.forall₂_map_right_iff]
  exact List.forall₂_same.mpr fun e _ => lineOf_entry e.1 e.2

/-- Two streams in turn, one of which has a file that ends without a line feed, the other one a file
that is not text. -/
theorem appends_line_each_of_two_streams :
    let f := (({} : Folder).plant "t/a.jsonl" (.file (.text "old"))).plant "t/%C3%A9.jsonl"
      (.file (.binary [0xFF]))
    let first : Message := ⟨"1", "a", "x", "one\r\n\"two\"\u2028\\", 1, .room⟩
    let second : Message := ⟨"2", "é", "y", "", 0, .room⟩
    let third : Message := ⟨"3", "a", "x\n", "\u0000", 8210266876800000, .direct⟩
    ∃ g, recordAll "t" [("now", first), ("now", second), ("later", third)] f = some g
      ∧ (∃ lines, List.Forall₂ LineOf [first, third] lines ∧ f.Gains "t/a.jsonl" lines g)
      ∧ ∃ lines, List.Forall₂ LineOf [second] lines ∧ f.Gains "t/%C3%A9.jsonl" lines g := by
  intro f first second third
  have hwritten :
      (recordAll "t" [("now", first), ("now", second), ("later", third)] f).isSome = true := by
    decide +kernel
  obtain ⟨g, hg⟩ := Option.isSome_iff_exists.mp hwritten
  have hpaths : path "t" "a" = "t/a.jsonl" ∧ path "t" "é" = "t/%C3%A9.jsonl" := by decide +kernel
  refine ⟨g, hg, ?_, ?_⟩
  · exact hpaths.1 ▸ appends_line_each hg "a"
  · exact hpaths.2 ▸ appends_line_each hg "é"

end ChatFeed.Transcript
