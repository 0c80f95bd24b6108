import LogIngest.Entry.Listing
import LogIngest.Proofs.Json.Framing

/-!
Listings with an entry on each line. Main statement: the lines between the line feeds of such a listing are
those of its entries, one for each and in their order, and no line has a control character in it.
-/

namespace LogIngest

open Json (Value)

theorem Json.Value.printable_text (v : Value) : Printable v.text.toList := by
  rw [Value.text, String.toList_ofList]
  exact v.printable_compact

/-- Lines put one below the other come apart again where there is a line feed. -/
theorem splitOn_intercalate_feed {lines : List String} (hSome : lines ≠ [])
    (h : ∀ line ∈ lines, Printable line.toList) :
    ("\n".intercalate lines).toList.splitOn '\n' = lines.map String.toList := by
  have hFeed : ∀ line ∈ lines.map String.toList, '\n' ∉ line := by
    intro line hLine
    obtain ⟨text, hText, rfl⟩ := List.mem_map.mp hLine
    exact (h text hText).not_mem (by decide)
  rw [String.toList_intercalate]
  exact List.splitOn_intercalate '\n' hFeed (mt List.map_eq_nil_iff.mp hSome)

namespace Listing

theorem printable_line_ndjson (saved : SavedEntry) : Printable (ndjson.line saved).toList :=
  saved.toJson.printable_text

/-- A listing has one line for each entry. Control characters, the line feed among them, are those that a JSON
string may only have as escapes: U+0000 to U+001F. -/
theorem framed_ndjson {entries : List SavedEntry} (hSome : entries ≠ []) :
    (ndjson.text entries).toList.splitOn '\n' = entries.map (fun saved => (ndjson.line saved).toList) ∧
      ∀ saved ∈ entries, Printable (ndjson.line saved).toList := by
  have hLines : ∀ line ∈ entries.map ndjson.line, Printable line.toList := by
    intro line hLine
    obtain ⟨saved, -, rfl⟩ := List.mem_map.mp hLine
    exact printable_line_ndjson saved
  have hSplit := splitOn_intercalate_feed (mt List.map_eq_nil_iff.mp hSome) hLines
  exact ⟨hSplit.trans List.map_map, fun saved _ => printable_line_ndjson saved⟩

def lastMoment : Calendar.Instant where
  date := (Calendar.Date.of? 2023 12 31).get rfl
  clock := (Calendar.Clock.of? 23 59 59 999000000).get rfl

/-- An entry with line breaks in its texts, its keywords, and the names and values of its fields. -/
def brokenLines : SavedEntry where
  entry :=
    { timestamp := lastMoment, source := "web\u2028", host := "a\tb", severity := .error,
      message := "first\nsecond\r\n\u0000\\\"", keywords := ["x\ny", ""],
      fields := .ofList
        [("k\n", .array [.string "\n", .object [("\u001b", .date lastMoment), ("", .array [.double (0 / 0)])]]),
          ("", .long (-5))] }
  savedAt := lastMoment

theorem framed_ndjson_brokenLines :
    (ndjson.text [brokenLines, brokenLines]).toList.splitOn '\n' =
        [(ndjson.line brokenLines).toList, (ndjson.line brokenLines).toList] ∧
      '\n' ∉ (ndjson.line brokenLines).toList := by
  obtain ⟨hLines, hPrintable⟩ := framed_ndjson (List.cons_ne_nil brokenLines [brokenLines])
  exact ⟨hLines, (hPrintable brokenLines (.head _)).not_mem (by decide)⟩

end Listing
end LogIngest
