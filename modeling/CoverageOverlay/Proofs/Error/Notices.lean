-- SUMMARY: The wording of every diagnostic, written out as it appears on a terminal.
import CoverageOverlay.Diagnostic
import CoverageOverlay.Proofs.Text.Lines

/-!
# Notices

A diagnostic is a text with headings, and what is shown of it is that text with
its headings in bold. Here it is written out, as it is on the terminal: all
words, all line ends, and where a path or an explanation stands between them.
These come from elsewhere and may have lines of their own, headings even, so
they are said line by line as well.
-/

namespace CoverageOverlay.Error

/-! ## Lines on a terminal -/

/-- A text as it is said on a terminal: a heading is bold, and every line is ended. -/
def said (t : Text) : Text :=
  (Text.lines t).flatMap fun line =>
    if line.head? = some '#' then "\x1b[1m".toList ++ line ++ "\x1b[0m\n".toList
    else line ++ "\n".toList

variable {front rest line title : Text}

/-- What stands behind a line end is said on its own. -/
theorem said_append_feed (front rest : Text) :
    said (front ++ "\n".toList ++ rest) = said (front ++ "\n".toList) ++ said rest := by
  have hcut : Text.CutsLines (front ++ "\n".toList) rest := by
    simpa using Text.cutsLines_feed front rest
  simp only [said, Text.lines_append hcut, List.flatMap_append]

/-- A line that is no heading is said as it is. -/
theorem said_line (hfeed : '\n' ∉ line) (hreturn : line.getLast? ≠ some '\r')
    (hheading : line.head? ≠ some '#') : said (line ++ "\n".toList) = line ++ "\n".toList := by
  rw [said, Text.lines_ended hfeed, Text.dropReturn, if_neg hreturn, List.flatMap_singleton, if_neg hheading]

/-- A line with nothing on it is said as it is. -/
theorem said_feed_append (rest : Text) : said ("\n".toList ++ rest) = "\n".toList ++ said rest := by
  have hblank : said ([] ++ "\n".toList) = "\n".toList := said_line (by simp) (by simp) (by simp)
  have hsaid := said_append_feed [] rest
  rwa [hblank] at hsaid

/-- A heading is said in bold. -/
theorem said_titled (title : String) (hfeed : '\n' ∉ title.toList)
    (hreturn : title.toList.getLast? ≠ some '\r') (hheading : title.toList.head? = some '#')
    (rest : Text) :
    said (title.toList ++ "\n\n".toList ++ rest) =
      "\x1b[1m".toList ++ title.toList ++ "\x1b[0m\n\n".toList ++ said rest := by
  have htitle : said (title.toList ++ "\n".toList) =
      "\x1b[1m".toList ++ title.toList ++ "\x1b[0m\n".toList := by
    rw [said, Text.lines_ended hfeed, Text.dropReturn, if_neg hreturn, List.flatMap_singleton, if_pos hheading]
  calc
    said (title.toList ++ "\n\n".toList ++ rest) =
        said (title.toList ++ "\n".toList ++ ("\n".toList ++ rest)) := by simp
    _ = said (title.toList ++ "\n".toList) ++ ("\n".toList ++ said rest) := by
      rw [said_append_feed, said_feed_append]
    _ = "\x1b[1m".toList ++ title.toList ++ "\x1b[0m\n\n".toList ++ said rest := by
      rw [htitle]
      simp

/-! ## Wording -/

/-- The notice for an error. -/
def notice : Error → Text
  | coverageNotFound coverage document =>
    "\x1b[1m# Warning: No Coverage Records\x1b[0m\n\n".toList
      ++ said ("`".toList ++ document.chars
        ++ "` has no coverage records; nothing was applied.\n".toList)
      ++ "\n\x1b[1m## Fix\x1b[0m\n\n".toList
      ++ said ("Produce records at `".toList ++ coverage.chars
        ++ "`, or set `suffix` in `.covlay.toml`\n".toList)
      ++ "if your instrumentation tool writes them elsewhere.\n".toList
  | documentNotFound document =>
    "\x1b[1m# Error: Document Not Found\x1b[0m\n\n".toList
      ++ said ("`".toList ++ document.chars ++ "` does not exist or cannot be read.\n".toList)
  | io fault =>
    "\x1b[1m# Error: I/O\x1b[0m\n\n".toList ++ said (fault.message.toList ++ "\n".toList)
  | settingsMalformed explanation =>
    "\x1b[1m# Error: Invalid Config\x1b[0m\n\n`.covlay.toml` could not be parsed:\n\n".toList
      ++ said (explanation ++ "\n".toList)
  | watchFailed reason =>
    "\x1b[1m# Error: Watch Failed\x1b[0m\n\n".toList ++ said (reason.toList ++ "\n".toList)

/-- What is shown for an error is its notice. -/
theorem shown_eq_notice (e : Error) : e.shown = e.notice := by
  have hshown : e.shown = said e.markdown.toList := rfl
  rw [hshown]
  cases e with
  | coverageNotFound coverage document =>
    have hmarkdown : (coverageNotFound coverage document).markdown.toList =
        "# Warning: No Coverage Records".toList ++ "\n\n".toList ++
          ("`".toList ++ document.chars ++ "` has no coverage records; nothing was applied.".toList
            ++ "\n".toList ++ ("\n".toList ++ ("## Fix".toList ++ "\n\n".toList ++
              ("Produce records at `".toList ++ coverage.chars
                ++ "`, or set `suffix` in `.covlay.toml`".toList ++ "\n".toList ++
                ("if your instrumentation tool writes them elsewhere.".toList ++ "\n".toList))))) := by
      change String.toList (_ ++ _ ++ _ ++ _ ++ _ ++ _ ++ _ ++ _) = _
      simp [backquoted, Path.text]
    have hlast : said ("if your instrumentation tool writes them elsewhere.".toList ++ "\n".toList) =
        "if your instrumentation tool writes them elsewhere.".toList ++ "\n".toList :=
      said_line (by simp) (by simp) (by simp)
    rw [hmarkdown, said_titled _ (by simp) (by simp) (by simp), said_append_feed, said_feed_append,
      said_titled _ (by simp) (by simp) (by simp), said_append_feed, hlast]
    change _ = _ ++ _ ++ _ ++ _ ++ _
    simp
  | documentNotFound document =>
    have hsaid := said_titled "# Error: Document Not Found" (by simp) (by simp) (by simp)
      ("`".toList ++ document.chars ++ "` does not exist or cannot be read.\n".toList)
    change said (String.toList (_ ++ _ ++ _)) = _ ++ _
    simpa [backquoted, Path.text] using hsaid
  | io fault =>
    have hsaid := said_titled "# Error: I/O" (by simp) (by simp) (by simp)
      (fault.message.toList ++ "\n".toList)
    change said (String.toList (_ ++ _ ++ _)) = _ ++ _
    simpa using hsaid
  | settingsMalformed explanation =>
    have hsaid := said_titled "# Error: Invalid Config" (by simp) (by simp) (by simp)
      ("`.covlay.toml` could not be parsed:".toList ++ "\n".toList ++
        ("\n".toList ++ (explanation ++ "\n".toList)))
    have hfile : said ("`.covlay.toml` could not be parsed:".toList ++ "\n".toList) =
        "`.covlay.toml` could not be parsed:".toList ++ "\n".toList :=
      said_line (by simp) (by simp) (by simp)
    rw [said_append_feed, said_feed_append, hfile] at hsaid
    change said (String.toList (_ ++ _ ++ _)) = _ ++ _
    simpa using hsaid
  | watchFailed reason =>
    have hsaid := said_titled "# Error: Watch Failed" (by simp) (by simp) (by simp)
      (reason.toList ++ "\n".toList)
    change said (String.toList (_ ++ _ ++ _)) = _ ++ _
    simpa using hsaid

end CoverageOverlay.Error
