import ChatFeed.Proofs.Json.Printer
import ChatFeed.Proofs.Text.Lines
import ChatFeed.Proofs.Transcript.Naming
import ChatFeed.Transcript.Record
import Mathlib.Data.List.Dedup
import Mathlib.Data.List.Induction

/-!
# Proofs/Transcript/Archive — the files that messages are written to

Different streams have different files.  A line of a transcript has no line break in it and tells
all of its message (`readLine_entry`).

* `lines_pages` — the lines of a transcript are the entries of its messages, in order.
* `write_holds` — one message more is one line more, at the end of the file of its stream.
* `writeAll_transcribes` — messages written to a directory that was not there leave one file for
  each of their streams, with one line for each of its messages.
-/

namespace ChatFeed.Transcript

open Data

/-! ## Lines -/

/-- What a line says of its message, whenever it was recorded. -/
def told (m : Message) : List (String × String) :=
  ((Date.text? m.timestamp).map fun t => ("sent_at", t)).toList ++
    [("stream_id", m.stream), ("message_id", m.id), ("from_user_id", m.sender), ("body", m.body)]

theorem entry_eq_printTexts (now : String) (m : Message) :
    entry now m = Json.printTexts (("recorded_at", now) :: told m) := by
  rw [entry, told, Json.printTexts]
  cases Date.text? m.timestamp <;> rfl

/-- The tree that a line is, if it is one. -/
def readLine (line : List Char) : Json.Scan Value :=
  Json.readWhole (Json.scanValue Json.topDepth) line

/-- The tree of a message's line: when it was recorded, and what it says of the message. -/
def tree (now : String) (m : Message) : Value :=
  .table ((("recorded_at", now) :: told m).map fun member => (member.1, .text member.2))

/-- **A line tells all of its message.** -/
theorem readLine_entry (now : String) (m : Message) :
    readLine (entry now m) = .ok (tree now m) := by
  rw [readLine, entry_eq_printTexts]
  exact Json.readWhole_printTexts (List.cons_ne_nil _ _) 126

/-- No line break stands in a line. -/
theorem not_break_of_mem_entry {now : String} {m : Message} {c : Char} (h : c ∈ entry now m) :
    c ≠ '\n' ∧ c ≠ '\r' := by
  rw [entry_eq_printTexts] at h
  have hcontrol := Json.not_isControl_of_mem_printTexts h
  constructor
  all_goals
    rintro rfl
    exact absurd hcontrol (by decide)

/-- **The text of a transcript**: a line for each message. -/
def pages (now : String) (ms : List Message) : String :=
  String.ofList (ms.flatMap fun m => entry now m ++ ['\n'])

theorem pages_concat (now : String) (ms : List Message) (m : Message) :
    pages now ms ++ String.ofList (entry now m) ++ "\n" = pages now (ms ++ [m]) := by
  apply String.toList_inj.mp
  simp [pages]

/-- **The lines of a transcript** are the entries of its messages, in order. -/
theorem lines_pages (now : String) (ms : List Message) :
    Text.lines (pages now ms).toList = ms.map (entry now) := by
  rw [pages, String.toList_ofList]
  induction ms with
  | nil => rfl
  | cons m ms ih =>
    have hbreak : '\n' ∉ entry now m := fun h => (not_break_of_mem_entry h).1 rfl
    have hreturn : '\r' ∉ entry now m := fun h => (not_break_of_mem_entry h).2 rfl
    rw [List.flatMap_cons, List.append_assoc, List.singleton_append, Text.lines_append hbreak, ih,
      Text.chopReturn_eq_self hreturn, List.map_cons]

/-! ## Writing -/

/-- The messages of a stream, in order. -/
def ofStream (stream : String) (ms : List Message) : List Message := ms.filter (·.stream = stream)

/-- What there is of a transcript: no file without a message. -/
def page? (now : String) (ms : List Message) : Option Node :=
  if ms = [] then none else some (.file (.text (pages now ms)))

/-- **A directory holds the transcripts of some messages**: it is there, its names are those of the
messages' streams, each once, and each file has the lines of its stream. -/
structure Holds (f : Folder) (place : List String) (now : String) (ms : List Message) : Prop where
  there : f.HasDirectories (Folder.upTo place)
  nodup : ((f.below place).map Prod.fst).Nodup
  names : ∀ name, name ∈ (f.below place).map Prod.fst ↔ ∃ m ∈ ms, name = fileName m.stream
  page : ∀ stream, f.at? (place ++ [fileName stream]) = page? now (ofStream stream ms)

variable {f g : Folder} {directory now : String} {place : List String} {m : Message}
  {ms : List Message}

/-- Making the directory first does not change what is written. -/
theorem write_of_made (h : f.makeDirectory directory = .ok g)
    (h' : g.makeDirectory directory = .ok g) (now : String) (m : Message) :
    write directory now m f = write directory now m g := by
  rw [write, write, h, h']

theorem Holds.makeDirectory_eq (h : Holds g place now ms)
    (hplace : Storage.parts directory = some place) : g.makeDirectory directory = .ok g := by
  rw [Folder.makeDirectory_eq hplace, Folder.makeAt_of_hasDirectories h.there]

/-- **One message more** is one line more, at the end of the file of its stream. -/
theorem Holds.write (h : Holds g place now ms) (hplace : Storage.parts directory = some place)
    (fits : Storage.nameFits (fileName m.stream) = true) :
    ∃ f, write directory now m g = (none, f) ∧ Holds f place now (ms ++ [m]) := by
  let old := ofStream m.stream ms
  let file : Node := .file (.text (pages now (old ++ [m])))
  have hchild := Folder.not_isTop_of_plain (isPlainName_fileName m.stream) place
  have hof : ∀ stream, ofStream stream (ms ++ [m])
      = if m.stream = stream then ofStream stream ms ++ [m] else ofStream stream ms := by
    intro stream
    by_cases hs : m.stream = stream <;> simp [ofStream, hs]
  refine ⟨g.put (place ++ [fileName m.stream]) file, ?_, ?_⟩
  · have hcontent : g.at? (place ++ [fileName m.stream]) = some (.file (.text (pages now old)))
        ∨ g.at? (place ++ [fileName m.stream]) = none
          ∧ Content.text (pages now old) = .text "" := by
      rw [h.page, page?]
      by_cases hold : ofStream m.stream ms = []
      · exact .inr ⟨if_pos hold, by rw [show old = [] from hold]; rfl⟩
      · exact .inl (if_neg hold)
    have hparts := parts_path (Storage.placeOf?_of_parts hplace) m.stream
    have happend := Folder.append_child hparts fits (h.there place (by simp [Folder.upTo]))
      hcontent (String.ofList (entry now m))
    rw [Content.addLine, pages_concat] at happend
    simp only [Transcript.write, h.makeDirectory_eq hplace, happend, file]
  · refine ⟨fun p hp => ?_, Folder.nodup_names_below_put h.nodup _ _, fun name => ?_,
      fun stream => ?_⟩
    · rw [Folder.at?_put_of_ne (Folder.ne_child_of_mem_upTo hp _)]
      exact h.there p hp
    · rw [Folder.mem_names_below_put, h.names]
      simp [or_and_right, exists_or]
    · rw [hof]
      by_cases hs : m.stream = stream
      · subst hs
        rw [if_pos rfl, Folder.at?_put_self hchild, page?, if_neg (by simp)]
      · have hne : place ++ [fileName stream] ≠ place ++ [fileName m.stream] := by
          intro heq
          have hname : fileName stream = fileName m.stream := by simpa using heq
          exact hs (fileName_injective hname).symm
        rw [if_neg hs, Folder.at?_put_of_ne hne, h.page]

/-- **Write messages down**, one after the other. -/
def writeAll (directory now : String) (ms : List Message) (f : Folder) : Folder :=
  ms.foldl (fun f m => (write directory now m f).2) f

theorem writeAll_append (directory now : String) (ms more : List Message) (f : Folder) :
    writeAll directory now (ms ++ more) f
      = writeAll directory now more (writeAll directory now ms f) := List.foldl_append

theorem writeAll_concat (directory now : String) (ms : List Message) (m : Message) (f : Folder) :
    writeAll directory now (ms ++ [m]) f
      = (write directory now m (writeAll directory now ms f)).2 :=
  writeAll_append directory now ms [m] f

/-- **A directory that is not there yet**, and can be made: there is nothing at its place and
nothing below. -/
structure Awaits (f : Folder) (directory : String) (place : List String) : Prop where
  parts : Storage.parts directory = some place
  absent : f.at? place = none
  bare : f.children directory = []
  creatable : ∃ g, f.makeDirectory directory = .ok g

/-- The directory when it has just been made. -/
theorem Awaits.made (h : Awaits f directory place) (now : String) :
    ∃ g, f.makeDirectory directory = .ok g ∧ Holds g place now [] := by
  obtain ⟨g, hg⟩ := h.creatable
  obtain ⟨hthere, hbelow⟩ := Folder.makeDirectory_ok h.parts hg
  have hnil : g.below place = [] := by
    have hperm := Folder.children_perm h.parts f
    rw [h.bare] at hperm
    rw [hbelow, List.nil_perm.mp hperm]
  refine ⟨g, hg, hthere, by simp [hnil], by simp [hnil], fun stream => ?_⟩
  rw [Folder.at?_of_not_top (Folder.not_isTop_of_plain (isPlainName_fileName stream) place),
    ← Folder.lookup_below, hnil]
  rfl

/-- **Messages written to a directory that was not there** are all that it holds. -/
theorem Awaits.writeAll (h : Awaits f directory place)
    (fits : ∀ m ∈ ms, Storage.nameFits (fileName m.stream) = true) (hne : ms ≠ []) :
    Holds (writeAll directory now ms f) place now ms := by
  induction ms using List.reverseRecOn with
  | nil => exact absurd rfl hne
  | append_singleton ms m ih =>
    have hfits : Storage.nameFits (fileName m.stream) = true := fits m (by simp)
    rw [writeAll_concat]
    by_cases hms : ms = []
    · subst hms
      obtain ⟨g, hg, hholds⟩ := h.made now
      obtain ⟨u, hu, hwritten⟩ := hholds.write h.parts hfits
      change Holds (Transcript.write directory now m f).2 place now ([] ++ [m])
      rw [write_of_made hg (hholds.makeDirectory_eq h.parts), hu]
      exact hwritten
    · have hholds := ih (fun x hx => fits x (by simp [hx])) hms
      obtain ⟨u, hu, hwritten⟩ := hholds.write h.parts hfits
      rw [hu]
      exact hwritten

/-- **The transcripts of some messages** in a directory: one file for each of their streams, which
has one line for each message of the stream, in order, and every line tells all of its message. -/
structure Transcribes (f : Folder) (directory now : String) (ms : List Message) : Prop where
  files : ((f.children directory).map Prod.fst).Perm ((ms.map (·.stream)).dedup.map fileName)
  distinct : ((f.children directory).map Prod.fst).Nodup
  lines : ∀ stream ∈ ms.map (·.stream), ∃ text, f.read (path directory stream) = .ok text
    ∧ (Text.lines text.toList).map readLine
      = (ofStream stream ms).map fun m => .ok (tree now m)

theorem Holds.transcribes (h : Holds f place now ms)
    (hplace : Storage.parts directory = some place) : Transcribes f directory now ms := by
  have hperm := (Folder.children_perm hplace f).map Prod.fst
  have hstreams : ((ms.map (·.stream)).dedup.map fileName).Nodup :=
    (List.nodup_dedup _).map fileName_injective
  refine ⟨hperm.trans ((List.perm_ext_iff_of_nodup h.nodup hstreams).mpr fun name => ?_),
    hperm.nodup_iff.mpr h.nodup, fun stream hstream => ?_⟩
  · rw [h.names]
    simp [eq_comm]
  · obtain ⟨m, hm, rfl⟩ := List.mem_map.mp hstream
    have hmem : m ∈ ofStream m.stream ms := by simp [ofStream, hm]
    have hpage := h.page m.stream
    rw [page?, if_neg (List.ne_nil_of_mem hmem)] at hpage
    have hparts := parts_path (Storage.placeOf?_of_parts hplace) m.stream
    refine ⟨_, Folder.read_child hparts (meansDirectory_path _ _) hpage, ?_⟩
    rw [lines_pages, List.map_map]
    exact List.map_congr_left fun x _ => readLine_entry now x

/-- **One file for each stream, one line for each message**, in a directory that was not there. -/
theorem Awaits.transcribes (h : Awaits f directory place)
    (fits : ∀ m ∈ ms, Storage.nameFits (fileName m.stream) = true) :
    Transcribes (Transcript.writeAll directory now ms f) directory now ms := by
  by_cases hne : ms = []
  · subst hne
    exact ⟨by simp [Transcript.writeAll, h.bare], by simp [Transcript.writeAll, h.bare], by simp⟩
  · exact (h.writeAll fits hne).transcribes h.parts

end ChatFeed.Transcript
