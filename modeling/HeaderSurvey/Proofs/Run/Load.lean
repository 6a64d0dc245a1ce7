import HeaderSurvey.Proofs.Run.Writes
import HeaderSurvey.Proofs.Text.Utf8

/-!
# Loading a file whatever its bytes are

A file that is no text is loaded with a replacement character for each malformed piece, and a record
says so.  All that the parser goes by (line ends, braces, the letters of keywords) is ASCII, and of
ASCII nothing is lost, added or moved: `loadUnit_keeps_ascii`.
-/

namespace HeaderSurvey.Run

/-- Nothing is logged exactly if the bytes are a text. -/
theorem loadRecords_eq_nil_iff {path : String} {bytes : List UInt8} :
    SourceUnit.loadRecords path bytes = [] ↔ bytes.toByteArray.IsValidUTF8 := by
  rw [← Utf8.isValid_iff, SourceUnit.loadRecords]
  cases Utf8.isValid bytes with
  | true => exact iff_of_true rfl rfl
  | false => exact iff_of_false (List.cons_ne_nil _ _) Bool.false_ne_true

theorem loadRecords_of_not_valid {path : String} {bytes : List UInt8}
    (h : ¬ bytes.toByteArray.IsValidUTF8) :
    SourceUnit.loadRecords path bytes =
      [⟨.warn, "declscan", path ++ " is not valid UTF-8; decoding lossily"⟩] := by
  rw [← Utf8.isValid_iff] at h
  exact if_neg h

/-- The text has the bytes of the file exactly if these are a text. -/
theorem toByteArray_decodeLossy_iff {bytes : List UInt8} :
    (Utf8.decodeLossy bytes).toByteArray = bytes.toByteArray ↔ bytes.toByteArray.IsValidUTF8 := by
  constructor
  · intro h
    rw [← h]
    exact (Utf8.decodeLossy bytes).isValidUTF8
  · intro h
    rw [← Utf8.toByteArray_encode, Utf8.encode_decodeLossy ((Utf8.isValid_iff bytes).mpr h)]

/-- Bytes with the same array are the same. -/
theorem toByteArray_injective {bytes bytes' : List UInt8}
    (h : bytes.toByteArray = bytes'.toByteArray) : bytes = bytes' := by
  simpa using congrArg (fun b : ByteArray => b.data.toList) h

/-- **Loading keeps the structure of a file.**  Whatever bytes a file holds, it is loaded:

1. nothing is logged exactly if the bytes are valid UTF-8, and exactly then the text has these very
   bytes; otherwise one warning is logged;
2. the bytes of ASCII are, in their order, those of the characters of ASCII in the text;
3. loading the encoding of the text, wherever it is the content of the file, gives the same text, and
   nothing is logged. -/
theorem loadUnit_keeps_ascii (path : String) (fileId : Nat) {w : World} {bytes : List UInt8}
    (hread : w.disk.read path.toList = .ok bytes) :
    ∃ (text : String) (records : List Record),
      result (loadUnit path fileId) w =
        (.ok ⟨path, text, fileId⟩, { w with events := w.events ++ records.map Event.log }) ∧
      (records = [] ↔ bytes.toByteArray.IsValidUTF8) ∧
      (text.toByteArray = bytes.toByteArray ↔ bytes.toByteArray.IsValidUTF8) ∧
      (¬ bytes.toByteArray.IsValidUTF8 →
        records = [⟨.warn, "declscan", path ++ " is not valid UTF-8; decoding lossily"⟩]) ∧
      bytes.filter (·.toNat < 0x80) =
        (text.toList.filter (·.toNat < 0x80)).map Text.asciiByte ∧
      ∀ (w' : World) (bytes' : List UInt8), bytes'.toByteArray = text.toByteArray →
        w'.disk.read path.toList = .ok bytes' →
        result (loadUnit path fileId) w' = (.ok ⟨path, text, fileId⟩, w') := by
  refine ⟨Utf8.decodeLossy bytes, SourceUnit.loadRecords path bytes, result_loadUnit fileId hread,
    loadRecords_eq_nil_iff, toByteArray_decodeLossy_iff, loadRecords_of_not_valid,
    (Utf8.filter_ascii_decodeLossy bytes).symm, ?_⟩
  intro w' bytes' hbytes hread'
  rw [← Utf8.toByteArray_encode] at hbytes
  obtain rfl := toByteArray_injective hbytes
  have hrecords : SourceUnit.loadRecords path (Utf8.encode (Utf8.decodeLossy bytes)) = [] :=
    if_pos (Utf8.isValid_encode _)
  rw [result_loadUnit fileId hread', hrecords, SourceUnit.ofBytes, Utf8.decodeLossy_encode,
    List.map_nil, List.append_nil]

/-- A brace stands behind a character that is cut off, and a newline behind another. -/
theorem loadUnit_keeps_ascii_malformed :
    let bytes : List UInt8 := [0x7B, 0xE2, 0x82, 0x7D, 0xC3, 0x0A, 0xFF]
    let w : World := ⟨⟨[(["a.h"], .file bytes)], []⟩, []⟩
    let text := "\x7b\ufffd\x7d\ufffd\n\ufffd"
    let w' : World := ⟨⟨[(["a.h"], .file (Utf8.encode text))], []⟩, []⟩
    w.disk.read "a.h".toList = .ok bytes ∧
    result (loadUnit "a.h" 3) w = (.ok ⟨"a.h", text, 3⟩,
      { w with events := [.log ⟨.warn, "declscan", "a.h is not valid UTF-8; decoding lossily"⟩] }) ∧
    ¬ bytes.toByteArray.IsValidUTF8 ∧
    bytes.filter (·.toNat < 0x80) = (text.toList.filter (·.toNat < 0x80)).map Text.asciiByte ∧
    bytes.filter (·.toNat < 0x80) = [0x7B, 0x7D, 0x0A] ∧
    result (loadUnit "a.h" 3) w' = (.ok ⟨"a.h", text, 3⟩, w') := by
  intro bytes w text w'
  have hread : w.disk.read "a.h".toList = .ok bytes := by decide +kernel
  have hread' : w'.disk.read "a.h".toList = .ok (Utf8.encode text) := by decide +kernel
  have hnot : ¬ bytes.toByteArray.IsValidUTF8 := by
    rw [← Utf8.isValid_iff]
    decide +kernel
  obtain ⟨text', records, hresult, -, -, hwarn, hascii, hagain⟩ :=
    loadUnit_keeps_ascii "a.h" 3 hread
  have htext : text' = text := by
    have hunit := Except.ok.inj
      (congrArg Prod.fst (hresult.symm.trans (result_loadUnit 3 hread)))
    exact (congrArg SourceUnit.text hunit).trans (by decide +kernel)
  subst htext
  rw [hwarn hnot] at hresult
  refine ⟨hread, hresult, hnot, hascii, by decide +kernel, hagain w' _ ?_ hread'⟩
  exact Utf8.toByteArray_encode _

end HeaderSurvey.Run
