import ChatFeed.Json.Scan
import ChatFeed.Proofs.Storage.Folder
import ChatFeed.Transcript.Entry
import Mathlib.Logic.Function.Basic

/-!
# Proofs/Transcript/Naming — the file of a stream is its own

The stem of a file name is the stream percent-encoded (`percentEncoded_fileStem`): what stands for
itself is never a percent sign, so a text of that form is decoded in one way, and the stem is
decoded to the bytes of its stream (`percentDecode_fileStem`).  Hence **no two streams share a
file** (`path_injective`).

No character of a stem means anything in a path.  So a file name is one part of a path, and **every
file lies right in the directory** (`isPlainName_fileName`, `parts_path`).
-/

namespace ChatFeed.Transcript

variable {stream directory : String} {place : List String} {c : Char} {cs : List Char}

/-! ## Percent-encoded texts -/

/-- A digit of base sixteen, upper case. -/
def isUpperHex (c : Char) : Bool := c.isDigit || ('A' ≤ c && c ≤ 'F')

/-- **A text is percent-encoded**: letters, digits, underscores and hyphens stand for themselves,
and each percent sign stands in front of two digits of base sixteen. -/
inductive PercentEncoded : List Char → Prop
  | nil : PercentEncoded []
  | plain {c : Char} {cs : List Char} (hc : c.isAlphanum ∨ c = '_' ∨ c = '-')
      (rest : PercentEncoded cs) : PercentEncoded (c :: cs)
  | escape {high low : Char} {cs : List Char} (hhigh : isUpperHex high) (hlow : isUpperHex low)
      (rest : PercentEncoded cs) : PercentEncoded ('%' :: high :: low :: cs)

/-- **The bytes that a percent-encoded text stands for.** -/
def percentDecode : List Char → List UInt8
  | '%' :: high :: low :: cs =>
    UInt8.ofNat ((Json.hexValue? high).getD 0 * 16 + (Json.hexValue? low).getD 0)
      :: percentDecode cs
  | c :: cs => UInt8.ofNat c.toNat :: percentDecode cs
  | [] => []

theorem hexValue?_upperDigit : ∀ n < 16, Json.hexValue? (upperDigit n) = some n := by decide

theorem isUpperHex_upperDigit : ∀ n < 16, isUpperHex (upperDigit n) = true := by decide

theorem percentDecode_cons (h : c ≠ '%') (cs : List Char) :
    percentDecode (c :: cs) = UInt8.ofNat c.toNat :: percentDecode cs := by
  rw [percentDecode]
  exact fun _ _ _ hc _ => h hc

/-! ## Bytes in a file name -/

/-- The character of a byte has its number. -/
theorem toNat_ofNat_toNat (b : UInt8) : (Char.ofNat b.toNat).toNat = b.toNat := by
  have hlt := b.toNat_lt
  have hvalid : b.toNat.isValidChar := .inl (by omega)
  rw [Char.ofNat, dif_pos hvalid]
  rfl

/-- A byte that stands for itself is no percent sign. -/
theorem ne_percent_of_isPlain {b : UInt8} (h : isPlain b = true) : Char.ofNat b.toNat ≠ '%' := by
  intro hb
  simp [isPlain, hb] at h

theorem percentEncoded_escapeByte (b : UInt8) (h : PercentEncoded cs) :
    PercentEncoded (escapeByte b ++ cs) := by
  have hlt : b.toNat < 256 := b.toNat_lt
  by_cases hplain : isPlain b = true
  · rw [escapeByte, if_pos hplain]
    exact .plain (by simpa [isPlain, or_assoc] using hplain) h
  · rw [escapeByte, if_neg hplain]
    exact .escape (isUpperHex_upperDigit _ (by omega)) (isUpperHex_upperDigit _ (by omega)) h

/-- **A byte in a file name is decoded again.** -/
theorem percentDecode_escapeByte (b : UInt8) (cs : List Char) :
    percentDecode (escapeByte b ++ cs) = b :: percentDecode cs := by
  have hlt : b.toNat < 256 := b.toNat_lt
  by_cases h : isPlain b = true
  · rw [escapeByte, if_pos h, List.singleton_append,
      percentDecode_cons (ne_percent_of_isPlain h), toNat_ofNat_toNat, UInt8.ofNat_toNat]
  · rw [escapeByte, if_neg h]
    simp only [List.cons_append, List.nil_append, percentDecode,
      hexValue?_upperDigit _ (by omega : b.toNat / 16 < 16),
      hexValue?_upperDigit _ (by omega : b.toNat % 16 < 16), Option.getD_some]
    rw [show b.toNat / 16 * 16 + b.toNat % 16 = b.toNat by omega, UInt8.ofNat_toNat]

/-! ## Stems -/

/-- **A stem is percent-encoded.** -/
theorem percentEncoded_fileStem (stream : String) : PercentEncoded (fileStem stream).toList := by
  rw [fileStem, String.toList_ofList]
  induction stream.toUTF8.data.toList with
  | nil => exact .nil
  | cons b bs ih =>
    rw [List.flatMap_cons]
    exact percentEncoded_escapeByte b ih

/-- **A file name is decoded to the bytes of its stream.** -/
theorem percentDecode_fileStem (stream : String) :
    percentDecode (fileStem stream).toList = stream.toUTF8.data.toList := by
  rw [fileStem, String.toList_ofList]
  induction stream.toUTF8.data.toList with
  | nil => rfl
  | cons b bs ih => rw [List.flatMap_cons, percentDecode_escapeByte, ih]

/-- **Different streams have different stems.** -/
theorem fileStem_injective : Function.Injective fileStem := by
  intro s t h
  have hbytes : s.toUTF8.data.toList = t.toUTF8.data.toList := by
    rw [← percentDecode_fileStem, h, percentDecode_fileStem]
  exact String.toByteArray_inj.mp (ByteArray.ext (Array.toList_inj.mp hbytes))

/-- **No character of a percent-encoded text means anything in a path.** -/
theorem PercentEncoded.ne_of_mem (h : PercentEncoded cs) (hc : c ∈ cs) :
    c ≠ '/' ∧ c.toNat ≠ 0 := by
  have hplain : ∀ {c : Char}, c.isAlphanum ∨ c = '_' ∨ c = '-' → c ≠ '/' ∧ c.toNat ≠ 0 := by
    intro c hc
    refine ⟨?_, fun hzero => ?_⟩
    · rintro rfl
      simp at hc
    · rw [← Char.ofNat_toNat c, hzero] at hc
      simp at hc
  have hhex : ∀ {c : Char}, isUpperHex c = true → c ≠ '/' ∧ c.toNat ≠ 0 := by
    intro c hc
    refine ⟨?_, fun hzero => ?_⟩
    · rintro rfl
      simp [isUpperHex] at hc
    · rw [← Char.ofNat_toNat c, hzero] at hc
      simp [isUpperHex] at hc
  induction h with
  | nil => exact absurd hc List.not_mem_nil
  | plain h _ ih =>
    rcases List.mem_cons.mp hc with rfl | hc
    · exact hplain h
    · exact ih hc
  | escape hhigh hlow _ ih =>
    simp only [List.mem_cons] at hc
    rcases hc with rfl | rfl | rfl | hc
    · decide
    · exact hhex hhigh
    · exact hhex hlow
    · exact ih hc

/-! ## Names of files -/

/-- The name of a stream's file. -/
def fileName (stream : String) : String := fileStem stream ++ ".jsonl"

/-- **Different streams have different files.** -/
theorem fileName_injective : Function.Injective fileName := by
  intro s t h
  refine fileStem_injective (String.toList_inj.mp ?_)
  have hlists := congrArg String.toList h
  simpa [fileName] using hlists

/-- **A file name stands for itself in a path.** -/
theorem isPlainName_fileName (stream : String) : Storage.IsPlainName (fileName stream) := by
  have hend : ∀ c ∈ ".jsonl".toList, c ≠ '/' ∧ c.toNat ≠ 0 := by simp
  have hchar : ∀ c, c ∈ (fileName stream).toList → c ≠ '/' ∧ c.toNat ≠ 0 := by
    intro c hc
    rw [fileName, String.toList_append, List.mem_append] at hc
    exact hc.elim (percentEncoded_fileStem stream).ne_of_mem (hend c)
  have hlength : 6 ≤ (fileName stream).toList.length := by simp [fileName]
  have hlong : ∀ short : String, short.toList.length < 6 → fileName stream ≠ short := by
    rintro short hshort rfl
    exact absurd hlength (Nat.not_le.mpr hshort)
  exact {
    ne_empty := hlong "" (by decide)
    ne_dot := hlong "." (by decide)
    ne_dots := hlong ".." (by decide)
    no_slash := fun h => (hchar '/' h).1 rfl
    no_zero := fun c h => (hchar c h).2 }

/-- **A file's path is its name behind the directory's text.** -/
theorem path_eq (directory stream : String) :
    path directory stream = Storage.withSlash directory ++ fileName stream :=
  Storage.join_of_plain (isPlainName_fileName stream) directory

/-- **Different streams have different paths.** -/
theorem path_injective (directory : String) : Function.Injective (path directory) := by
  intro s t h
  refine fileName_injective (String.toList_inj.mp ?_)
  have hlists := congrArg String.toList h
  simpa [path_eq] using hlists

/-- The parts of a file of a directory. -/
theorem parts_path (h : Storage.placeOf? directory = some place) (stream : String) :
    Storage.parts (path directory stream) = some (place ++ [fileName stream]) :=
  Storage.parts_join_of_placeOf? h (isPlainName_fileName stream)

/-- The path of a file means no directory. -/
theorem meansDirectory_path (directory stream : String) :
    Storage.meansDirectory (path directory stream) = false := by
  have hlast : (path directory stream).toList.getLast? = some 'l' := by
    rw [path_eq, fileName]
    simp
  exact Storage.meansDirectory_eq_false hlast (by decide) (by decide)

/-- **Every stream has a file of its own, right in the directory.**

* The stem of its name is percent-encoded and is decoded to the bytes of the stream.
* Different streams have different paths, and different places, wherever the directory lies.
* The path is the directory's text and one name behind it, which stands for itself; so the file lies
  at the directory's place and that name, and nowhere else. -/
theorem files_stand_apart (directory : String) :
    (∀ stream, PercentEncoded (fileStem stream).toList
      ∧ percentDecode (fileStem stream).toList = stream.toUTF8.data.toList)
    ∧ Function.Injective (path directory)
    ∧ (∀ stream, path directory stream = Storage.withSlash directory ++ fileName stream
      ∧ Storage.IsPlainName (fileName stream))
    ∧ ∀ place, Storage.placeOf? directory = some place →
      (∀ stream, Storage.parts (path directory stream) = some (place ++ [fileName stream]))
      ∧ Function.Injective fun stream => Storage.parts (path directory stream) := by
  refine ⟨fun stream => ⟨percentEncoded_fileStem stream, percentDecode_fileStem stream⟩,
    path_injective directory,
    fun stream => ⟨path_eq directory stream, isPlainName_fileName stream⟩, fun place hplace => ?_⟩
  refine ⟨parts_path hplace, fun s t (h : Storage.parts _ = Storage.parts _) => ?_⟩
  rw [parts_path hplace, parts_path hplace] at h
  exact fileName_injective (by simpa using h)

/-- Streams that would lead upwards, and one that looks like the name of another one's file. -/
theorem files_stand_apart_above :
    Storage.placeOf? "/srv/../out/" = some ["/", "out"]
      ∧ path "/srv/../out/" "../é" = "/srv/../out/%2E%2E%2F%C3%A9.jsonl"
      ∧ path "/srv/../out/" "%2E%2E%2F%C3%A9" = "/srv/../out/%252E%252E%252F%25C3%25A9.jsonl"
      ∧ Storage.parts (path "/srv/../out/" "../é") = some ["/", "out", "%2E%2E%2F%C3%A9.jsonl"]
      ∧ Storage.parts (path "/srv/../out/" "..")
        ≠ Storage.parts (path "/srv/../out/" "%2E%2E") := by
  have hplace : Storage.placeOf? "/srv/../out/" = some ["/", "out"] := by decide +kernel
  obtain ⟨-, -, hpath, hall⟩ := files_stand_apart "/srv/../out/"
  obtain ⟨hparts, hinjective⟩ := hall _ hplace
  refine ⟨hplace, ?_, ?_, ?_, fun h => absurd (hinjective h) (by decide)⟩
  · rw [(hpath _).1]
    decide +kernel
  · rw [(hpath _).1]
    decide +kernel
  · rw [hparts]
    decide +kernel

end ChatFeed.Transcript
