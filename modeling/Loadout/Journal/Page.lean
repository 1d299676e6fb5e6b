import Loadout.Journal.Transcript

/-! # Pages

A transcript as a page of its own, with a title and a style sheet.
-/

namespace Loadout.Page

/-- The style sheet. -/
def css : String :=
  "\nbody \x7b font-family: sans-serif; margin: 2em; \x7d\n"
    ++ ".section \x7b border-top: 1px solid #ccc; margin-top: 1.5em; \x7d\n"
    ++ ".info \x7b margin: 0.2em 0; \x7d\n"
    ++ ".error \x7b color: #d9534f; \x7d\n"
    ++ ".debug \x7b color: #777; \x7d\n"
    ++ ".result \x7b background: #f5f5f5; padding: 0.3em 0.6em; \x7d\n"
    ++ "pre \x7b background: #fafafa; padding: 0.5em; \x7d\n"

/-- The page with a title and a transcript. -/
def html (title : String) (t : Transcript) : Except Failure String := do
  let body ← t.html
  return "<!DOCTYPE html>\n<html>\n<head>\n<meta charset=\"utf-8\">\n"
    ++ "<title>" ++ Text.escape title ++ "</title>\n"
    ++ "<style>" ++ css ++ "</style>\n</head>\n<body>\n"
    ++ body ++ "\n</body>\n</html>\n"

end Loadout.Page
