import Loadout.Failure
import Loadout.Journal.Record
import Loadout.Text.Markup

/-! # Transcripts

A transcript is a list of fragments of a page: sections, notes, results, headings, tables and
matrices.  All texts in them are escaped when the fragment is written.  Markup can be added as it
is; what is added that way may turn out not to be a text, and then the transcript cannot be written.
-/

namespace Loadout

inductive Fragment
  | sectionStart (title : String)
  | sectionEnd
  | note (severity : Severity) (text : String)
  | result (name value : String)
  | heading (title : String)
  | table (headers : Option (List String)) (rows : List (List String))
  | matrix (title block : String)
  | markup (html : String)
  | foreign (kind : Kind)
deriving DecidableEq, Repr

namespace Fragment

open Text (escape)

/-- The class of a paragraph that holds a note. -/
def noteClass : Severity → String
  | .debug => "debug"
  | .info => "info"
  | .warning => "warning"
  | .error => "error"
  | .critical => "critical"

/-- The lines of a row of a table. -/
def rowLines (cells : List String) : List String :=
  "<tr>" :: cells.map (fun cell => "<td>" ++ escape cell ++ "</td>") ++ ["</tr>"]

/-- The lines of the head of a table. -/
def headLines (headers : List String) : List String :=
  "<thead><tr>" :: headers.map (fun header => "<th>" ++ escape header ++ "</th>")
    ++ ["</tr></thead>"]

/-- The lines of a table; without headers it has no head. -/
def tableLines (headers : Option (List String)) (rows : List (List String)) : List String :=
  let head := match headers with
    | none => []
    | some headers => headLines headers
  ["<div class=\"table-container\">", "<table>"] ++ head ++ ["<tbody>"]
    ++ rows.flatMap rowLines ++ ["</tbody>", "</table>", "</div>"]

/-- The markup of a table. -/
def tableMarkup (headers : Option (List String)) (rows : List (List String)) : String :=
  "\n".intercalate (tableLines headers rows)

/-- The markup of a fragment, or the kind of what was added in its place. -/
def html : Fragment → Except Kind String
  | sectionStart title => .ok ("<section class=\"section\"><h3>" ++ escape title ++ "</h3>")
  | sectionEnd => .ok "</section>"
  | note severity text =>
    .ok ("<p class=\"" ++ noteClass severity ++ "\">" ++ escape text ++ "</p>")
  | result name value =>
    .ok ("<div class=\"result\"><strong>" ++ escape name ++ ":</strong> " ++ escape value
      ++ "</div>")
  | heading title => .ok ("<h4>" ++ escape title ++ "</h4>")
  | table headers rows => .ok (tableMarkup headers rows)
  | matrix title block =>
    .ok ("<div class=\"matrix-container\">"
      ++ (if title.isEmpty then "" else "<h4>" ++ escape title ++ "</h4>")
      ++ "<pre>" ++ escape block ++ "</pre></div>")
  | markup html => .ok html
  | foreign kind => .error kind

end Fragment

/-- The fragments so far, and whether the last section is still open. -/
structure Transcript where
  fragments : List Fragment := []
  sectionOpen : Bool := false
deriving DecidableEq, Repr

namespace Transcript

def append (f : Fragment) (t : Transcript) : Transcript :=
  { t with fragments := t.fragments ++ [f] }

/-- End the open section, if there is one. -/
def closeSection (t : Transcript) : Transcript :=
  if t.sectionOpen then { t.append .sectionEnd with sectionOpen := false } else t

/-- Start a section; sections do not nest. -/
def openSection (title : String) (t : Transcript) : Transcript :=
  { t.closeSection.append (.sectionStart title) with sectionOpen := true }

/-- Join the markup of fragments, the first of which stands at a given position of the page. -/
def joinFrom : Nat → List Fragment → Except Failure (List String)
  | _, [] => .ok []
  | position, f :: fs =>
    match f.html with
    | .ok html => (html :: ·) <$> joinFrom (position + 1) fs
    | .error kind => .error (.notJoinable position kind)

/-- The page: all fragments in one division, an open section being closed. -/
def html (t : Transcript) : Except Failure String := do
  let parts ← joinFrom 1 t.fragments
  return "\n".intercalate
    ("<div class=\"content\">" :: parts ++ (if t.sectionOpen then ["</section>"] else [])
      ++ ["</div>"])

end Transcript

end Loadout
