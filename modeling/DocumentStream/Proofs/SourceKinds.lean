import DocumentStream.Conversion
import DocumentStream.Proofs.LineEnds

/-!
A stored stream may come as a text, from a file or from an open stream, and is converted to the same
Markdown. What a file adds is its encoding, which is undone, and that its line ends are unified;
what a text adds is that it could be the name of a file, which no stored stream is taken for.
-/

namespace DocumentStream

namespace Utf8

theorem toNat_toUInt8 {n : Nat} (h : n < 0x100) : n.toUInt8.toNat = n := by
  rw [Nat.toUInt8_eq, UInt8.toNat_ofNat', Nat.mod_eq_of_lt h]

theorem charAtLeast?_toNat {least : Nat} {c : Char} (h : least ≤ c.toNat) :
    charAtLeast? least c.toNat = some c := by
  have hvalid : c.toNat.isValidChar := c.valid
  rw [charAtLeast?, dif_pos ⟨h, hvalid⟩, Option.some_inj]
  exact Char.ext (UInt32.ofNat_toNat (x := c.val))

theorem tailBits?_toUInt8 (n : Nat) : tailBits? (0x80 + n % 0x40).toUInt8 = some (n % 0x40) := by
  have hn : n % 0x40 < 0x40 := Nat.mod_lt n (by decide)
  rw [tailBits?, toNat_toUInt8 (by omega), if_pos (by omega), Nat.add_sub_cancel_left]

/-- A character is read back from its bytes, whatever bytes follow it. -/
theorem decode_encodeChar (c : Char) (rest : Bytes) :
    decode (encodeChar c ++ rest) = (decode rest).map (c :: ·) := by
  have hbound : c.toNat < 0x110000 := by
    have hvalid := c.valid
    simp only [UInt32.isValidChar, Nat.isValidChar] at hvalid
    change c.val.toNat < 0x110000
    omega
  rw [encodeChar, decode.eq_def]
  split_ifs with hone htwo hthree
  · simp only [List.cons_append, List.nil_append, toNat_toUInt8 (show c.toNat < 0x100 by omega),
      if_pos hone, charAtLeast?_toNat (Nat.zero_le c.toNat)]
    cases decode rest <;> rfl
  · have hfirst : (0xC0 + c.toNat / 0x40).toUInt8.toNat = 0xC0 + c.toNat / 0x40 :=
      toNat_toUInt8 (by omega)
    have hcode : (0xC0 + c.toNat / 0x40 - 0xC0) * 0x40 + c.toNat % 0x40 = c.toNat := by omega
    simp only [List.cons_append, List.nil_append, hfirst, tailBits?_toUInt8,
      Option.bind_eq_bind, Option.bind_some, hcode, charAtLeast?_toNat (Nat.le_of_not_lt hone)]
    rw [if_neg (by omega), if_neg (by omega), if_pos (by omega)]
    cases decode rest <;> rfl
  · have hfirst : (0xE0 + c.toNat / 0x1000).toUInt8.toNat = 0xE0 + c.toNat / 0x1000 :=
      toNat_toUInt8 (by omega)
    have hcode : ((0xE0 + c.toNat / 0x1000 - 0xE0) * 0x40 + c.toNat / 0x40 % 0x40) * 0x40 +
        c.toNat % 0x40 = c.toNat := by omega
    simp only [List.cons_append, List.nil_append, hfirst, tailBits?_toUInt8,
      Option.bind_eq_bind, Option.bind_some, hcode, charAtLeast?_toNat (Nat.le_of_not_lt htwo)]
    rw [if_neg (by omega), if_neg (by omega), if_neg (by omega), if_pos (by omega)]
    cases decode rest <;> rfl
  · have hfirst : (0xF0 + c.toNat / 0x40000).toUInt8.toNat = 0xF0 + c.toNat / 0x40000 :=
      toNat_toUInt8 (by omega)
    have hcode : (((0xF0 + c.toNat / 0x40000 - 0xF0) * 0x40 + c.toNat / 0x1000 % 0x40) * 0x40 +
        c.toNat / 0x40 % 0x40) * 0x40 + c.toNat % 0x40 = c.toNat := by omega
    simp only [List.cons_append, List.nil_append, hfirst, tailBits?_toUInt8,
      Option.bind_eq_bind, Option.bind_some, hcode, charAtLeast?_toNat (Nat.le_of_not_lt hthree)]
    rw [if_neg (by omega), if_neg (by omega), if_neg (by omega), if_neg (by omega),
      if_pos (by omega)]
    cases decode rest <;> rfl

/-- Decoding takes back encoding. -/
theorem decode_encode (text : Text) : decode (encode text) = some text := by
  induction text with
  | nil => rfl
  | cons c text ih =>
    rw [encode, List.flatMap_cons, decode_encodeChar]
    rw [encode] at ih
    rw [ih]
    rfl

end Utf8

namespace Json

theorem isBlank_of_isSpace {c : Char} (h : isSpace c = true) : Text.isBlank c = true := by
  simp only [isSpace, Bool.or_eq_true, beq_iff_eq] at h
  rcases h with ((rfl | rfl) | rfl) | rfl <;> rfl

/-- The white space of JSON is blank, so a value that begins behind it begins behind all blanks. -/
theorem trimStart_of_skipSpace {text rest : Text} {c : Char} (hc : Text.isBlank c = false)
    (h : skipSpace text = c :: rest) : Text.trimStart text = c :: rest := by
  induction text with
  | nil => cases h
  | cons d text ih =>
    rw [skipSpace, List.dropWhile_cons] at h
    rw [Text.trimStart, List.dropWhile_cons]
    split at h
    · rename_i hspace
      rw [if_pos (isBlank_of_isSpace hspace)]
      exact ih h
    · obtain ⟨rfl, rfl⟩ := List.cons.inj h
      rw [if_neg (by simp [hc])]

theorem number?_ne_list {negative : Bool} {text rest : Text} {items : List Value} :
    number? negative text ≠ some (.list items, rest) := by
  intro h
  rw [number?_eq] at h
  obtain ⟨found, -, heq⟩ := Option.map_eq_some_iff.mp h
  rw [ofWhole] at heq
  split at heq <;> cases heq

/-- Neither words nor numbers are lists. -/
theorem readAtom_ne_list {text rest : Text} {items : List Value} :
    readAtom text ≠ .ok (.list items, rest) := by
  intro h
  rw [readAtom_eq] at h
  split at h
  · rename_i hword
    obtain rfl := Except.ok.inj h
    obtain ⟨entry, hentry, hfound⟩ := List.exists_of_findSome?_eq_some hword
    obtain ⟨after, -, heq⟩ := Option.map_eq_some_iff.mp hfound
    have hvalue : entry.2 = .list items := (Prod.mk.inj heq).1
    have hplain : ∀ entry ∈ words, entry.2 ≠ .list items := by simp [words]
    exact hplain entry hentry hvalue
  · split at h
    · rename_i hnumber
      obtain rfl := Except.ok.inj h
      unfold signed? at hnumber
      split at hnumber <;> exact number?_ne_list hnumber
    · cases h

/-- A text that holds a list begins with the bracket that opens it. -/
theorem exists_of_read_eq_list {text : Text} {items : List Value}
    (h : read text = .ok (.list items)) : ∃ rest, skipSpace text = '[' :: rest := by
  obtain ⟨-, after, hvalue, -⟩ := read_eq_ok_iff.mp h
  generalize skipSpace text = start at hvalue
  cases readValue_eq_ok_iff.mp hvalue with
  | emptyList => exact ⟨_, rfl⟩
  | list => exact ⟨_, rfl⟩
  | atom hc hatom => exact absurd hatom readAtom_ne_list

end Json

theorem exists_of_readEvents_eq_ok {text : Text} {events : List Event}
    (h : readEvents text = .ok events) : ∃ items, Json.read text = .ok (.list items) := by
  obtain ⟨value, hvalue, hevents⟩ := bind_eq_ok_iff.mp h
  cases value with
  | list items => exact ⟨items, mapError_eq_ok_iff.mp hvalue⟩
  | _ => cases hevents

theorem FileSystem.exists?_of_read {fs : FileSystem} {path : FilePath} {content : Bytes}
    (h : fs.read path = .ok content) : fs.exists? path = .ok true := by
  obtain ⟨place, hplace, hcontent⟩ := bind_eq_ok_iff.mp h
  rw [FileSystem.exists?, FileSystem.check, hplace]
  split at hcontent
  · rename_i hfound
    simp [hfound]
  · cases hcontent

namespace Source

/-- Whether a source holds a text: as the text itself, in a file that is given by its path or by
the name of it, or in an open stream. The bytes of files and streams are the UTF-8 encoding. -/
inductive Holds (fs : FileSystem) (text : Text) : Source → Prop
  | text : Holds fs text (.text text)
  | path {path : FilePath} (hfile : fs.read path = .ok (Utf8.encode text)) :
      Holds fs text (.path path)
  | pathText {name : Text} (hname : isStream name = false)
      (hfile : fs.read (.ofText name) = .ok (Utf8.encode text)) : Holds fs text (.text name)
  | textStream : Holds fs text (.textStream text)
  | byteStream : Holds fs text (.byteStream (Utf8.encode text))

/-- A stored stream is never taken for the name of a file. -/
theorem isStream_of_readEvents {text : Text} {events : List Event}
    (h : readEvents text = .ok events) : isStream text = true := by
  obtain ⟨items, hitems⟩ := exists_of_readEvents_eq_ok h
  obtain ⟨rest, hrest⟩ := Json.exists_of_read_eq_list hitems
  rw [isStream, Json.trimStart_of_skipSpace (by decide) hrest]
  rfl

theorem bytes_text_encode (text : Text) : Bytes.text (Utf8.encode text) = .ok text := by
  rw [Bytes.text, Utf8.decode_encode]

theorem readFile_of_read {fs : FileSystem} {path : FilePath} {text : Text}
    (h : fs.read path = .ok (Utf8.encode text)) :
    readFile fs path = .ok (Text.unifyLineEnds text) := by
  rw [readFile, FileSystem.exists?_of_read h, h]
  simp only [bytes_text_encode]
  rfl

/-- What is read from a source that holds a text is that text, up to its line ends. -/
theorem Holds.read_eq_ok {fs : FileSystem} {text : Text} {events : List Event} {source : Source}
    (h : source.Holds fs text) (hevents : readEvents text = .ok events) :
    ∃ stored, source.read fs = .ok stored ∧ readEvents stored = .ok events := by
  have hunified := readEvents_unifyLineEnds hevents
  cases h with
  | text => exact ⟨text, by rw [Source.read, if_pos (isStream_of_readEvents hevents)], hevents⟩
  | path hfile => exact ⟨_, readFile_of_read hfile, hunified⟩
  | pathText hname hfile =>
    refine ⟨_, ?_, hunified⟩
    rw [Source.read, if_neg (by rw [hname]; decide)]
    exact readFile_of_read hfile
  | textStream => exact ⟨text, rfl, hevents⟩
  | byteStream => exact ⟨text, bytes_text_encode text, hevents⟩

end Source

/-- A stored stream is converted alike from all kinds of sources, to what its events are converted
to. -/
theorem Conversion.ofSource_eq_ofEvents {text : Text} {events : List Event}
    (h : readEvents text = .ok events) :
    Source.isStream text = true ∧ readEvents (Text.unifyLineEnds text) = .ok events ∧
      ∀ (start : Renderer) (fs : FileSystem) (source : Source), source.Holds fs text →
        ofSource start fs source = ofEvents start events := by
  refine ⟨Source.isStream_of_readEvents h, readEvents_unifyLineEnds h, ?_⟩
  intro start fs source hsource
  obtain ⟨stored, hstored, hread⟩ := hsource.read_eq_ok h
  rw [ofSource, hstored, ofExcept, pure_bind, hread]
  rfl

/-- A stream with white space before it and carriage returns at its line ends, in a file. -/
theorem Conversion.ofSource_eq_ofEvents_returns :
    let text : Text := "\r\n[\x7b\"event\"\r:\"OnSpace\"\x7d]".toList
    let fs : FileSystem := { files := [([['s']], Utf8.encode text)] }
    let start : Renderer := .start {} .plain .plain .buffer
    readEvents text = .ok [.leaf .space] ∧
      ofSource start fs (.text ['/', 's']) = ofEvents start [.leaf .space] ∧
      ofSource start fs (.text text) = ofEvents start [.leaf .space] := by
  intro text fs start
  have hvalue : Json.read text =
      .ok (.list [.map [(.str "event".toList, .str "OnSpace".toList)]]) := by
    simp only [text]
    cbv
  have hread : readEvents text = .ok [.leaf .space] := by
    rw [readEvents, hvalue]
    rfl
  obtain ⟨-, -, hsame⟩ := ofSource_eq_ofEvents hread
  have hfile : fs.read (.ofText ['/', 's']) = .ok (Utf8.encode text) := by
    rfl
  exact ⟨hread, hsame start fs _ (.pathText rfl hfile), hsame start fs _ .text⟩

end DocumentStream
