-- SUMMARY: Errors as short documents with headings, for people who have to mend them.
import CoverageOverlay.Error
import CoverageOverlay.Text.Lines

/-!
# Diagnostics

An error is shown as a few lines of Markdown: what happened and, where there is
something to do, what to do. On a terminal the headings are bold.
-/

namespace CoverageOverlay.Error

/-- A path between backquotes. -/
def backquoted (p : Path) : String := "`" ++ p.text ++ "`"

/-- The Markdown for an error. -/
def markdown : Error → String
  | coverageNotFound coverage document =>
    "# Warning: No Coverage Records\n\n"
      ++ backquoted document ++ " has no coverage records; nothing was applied.\n\n"
      ++ "## Fix\n\n"
      ++ "Produce records at " ++ backquoted coverage
      ++ ", or set `suffix` in `.covlay.toml`\n"
      ++ "if your instrumentation tool writes them elsewhere.\n"
  | documentNotFound document =>
    "# Error: Document Not Found\n\n"
      ++ backquoted document ++ " does not exist or cannot be read.\n"
  | io fault => "# Error: I/O\n\n" ++ fault.message ++ "\n"
  | settingsMalformed explanation =>
    "# Error: Invalid Config\n\n`.covlay.toml` could not be parsed:\n\n"
      ++ String.ofList explanation ++ "\n"
  | watchFailed reason => "# Error: Watch Failed\n\n" ++ reason ++ "\n"

/-- A line of Markdown for a terminal. -/
def shownLine (line : Text) : Text :=
  if line.head? = some '#' then "\x1b[1m".toList ++ line ++ "\x1b[0m\n".toList
  else line ++ ['\n']

/-- The diagnostic for an error on a terminal. -/
def shown (e : Error) : Text :=
  (Text.lines e.markdown.toList).flatMap shownLine

end CoverageOverlay.Error
