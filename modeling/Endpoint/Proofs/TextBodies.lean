import Endpoint.Converter.Standard
import Endpoint.Proofs.Utf8

/-!
Texts that are written and read again. The writer takes any media type and writes UTF-8; the reader
looks at the charset first and refuses every one that is not a label of UTF-8 or ASCII. So what is
written under another charset is sent under a false label, and is not read back
(`text_read_back_iff`).
-/
namespace Endpoint
open Text

/-- The body holds the text, as a value or as a part of the program. -/
inductive Body.Holds (s : String) : Body → Prop where
  | value {identity : Nat} {type : TypeExpr} : Holds s ⟨identity, .typed .text s, type⟩
  | literal {identity : Nat} {type : TypeExpr} : Holds s ⟨identity, .literal s, type⟩

namespace Converter

/-- No charset is named, or one of those that are UTF-8, in any case. -/
def NamesUtf8 (m : MediaType) : Prop :=
  ∀ charset, m.charset? = some charset →
    ∃ label ∈ ["utf-8", "utf8", "us-ascii", "ascii"], sameIgnoringCase charset label = true

theorem namesUtf8_iff {m : MediaType} :
    NamesUtf8 m ↔ m.charset?.filter (fun c => !isUtf8Charset c) = none := by
  rw [Option.filter_eq_none_iff, NamesUtf8]
  refine forall₂_congr fun charset _ => ?_
  rw [isUtf8Charset, Bool.not_eq_true', Bool.not_eq_false, List.any_eq_true]

theorem write_text {body : Body} {s : String} (h : body.Holds s) (m : MediaType) :
    text.write body m = .ok (utf8 s) := by
  cases h <;> rfl

theorem read_text_of_namesUtf8 {m : MediaType} (h : NamesUtf8 m) (s : String) (type : TypeExpr) :
    text.read (utf8 s) type m = .ok (.text s) := by
  show readText (utf8 s) type m = _
  simp only [readText, namesUtf8_iff.mp h, textOfUtf8_utf8]

/-- Under any other charset nothing is read, whatever the octets are. -/
theorem read_text_of_not_namesUtf8 {m : MediaType} (h : ¬NamesUtf8 m) (body : Octets)
    (type : TypeExpr) : ∃ charset, m.charset? = some charset ∧
      text.read body type m =
        .error (.decode type.display m.display s!"unsupported charset '{charset}'") := by
  obtain ⟨charset, hcharset⟩ := Option.ne_none_iff_exists'.mp (mt namesUtf8_iff.mpr h)
  refine ⟨charset, (Option.filter_eq_some_iff.mp hcharset).1, ?_⟩
  show readText body type m = _
  simp only [readText, hcharset, decodeError]

/-- **Texts are read back exactly if their charset is UTF-8 or ASCII.** A body that holds a text is
written under every media type. What was written is read as this text under the same media type
exactly if that names no charset, or UTF-8 or ASCII in any case; otherwise reading fails, with the
charset in its message. -/
theorem text_read_back_iff {body : Body} {s : String} (h : body.Holds s) (m : MediaType) :
    ∃ bytes, text.write body m = .ok bytes ∧
      (text.read bytes .string m = .ok (.text s) ↔ NamesUtf8 m) ∧
      (¬NamesUtf8 m → ∃ charset, m.charset? = some charset ∧ text.read bytes .string m =
        .error (.decode "String" m.display s!"unsupported charset '{charset}'")) := by
  refine ⟨utf8 s, write_text h m, ⟨fun hread => ?_, fun hm => read_text_of_namesUtf8 hm s _⟩,
    fun hm => read_text_of_not_namesUtf8 hm (utf8 s) .string⟩
  refine Classical.byContradiction fun hm => ?_
  obtain ⟨charset, -, herror⟩ := read_text_of_not_namesUtf8 hm (utf8 s) .string
  rw [hread] at herror
  cases herror

/-- A label in capitals and characters of one to four octets. -/
theorem text_read_back_iff_of_capitals :
    let m := MediaType.plainText.withParam "Charset" "UTF-8"
    let body : Body := ⟨0, .typed .text "aé€😀", .string⟩
    body.Holds "aé€😀" ∧ ∃ bytes, text.write body m = .ok bytes ∧
      text.read bytes .string m = .ok (.text "aé€😀") := by
  intro m body
  have hbody : body.Holds "aé€😀" := .value
  have hm : NamesUtf8 m := namesUtf8_iff.mpr (by decide)
  obtain ⟨bytes, hwrite, hread, -⟩ := text_read_back_iff hbody m
  exact ⟨hbody, bytes, hwrite, hread.mpr hm⟩

/-- A text that is written under the label of another charset is not read back. -/
theorem foreign_charset_not_read_back :
    let m : MediaType := ⟨"text", "plain", [("charset", "iso-8859-1")]⟩
    m.compatible .plainText = true ∧
      text.write ⟨0, .typed .text "é", .string⟩ m = .ok (utf8 "é") ∧
      text.read (utf8 "é") .string m = .error (.decode "String" "text/plain; charset=iso-8859-1"
        "unsupported charset 'iso-8859-1'") :=
  ⟨by decide, rfl, rfl⟩

end Converter
end Endpoint
