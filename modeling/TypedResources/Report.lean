import TypedResources.Calendar
import TypedResources.Text.Markup

-- The report of a migration: which calls of which files were replaced, as a web page. All that
-- comes from a file is escaped, so the page's markup is the template's alone.

namespace TypedResources

-- One changed stretch of a source file.
structure Change where
  line   : Int
  before : String
  after  : String
deriving DecidableEq

-- All that was changed in one source file.
structure FileChanges where
  name    : String
  path    : String
  changes : List Change
deriving DecidableEq

def totalChanges (files : List FileChanges) : Nat :=
  files.foldl (fun n f => n + f.changes.length) 0

namespace Report

def monthNames : List String :=
  ["January", "February", "March", "April", "May", "June", "July", "August", "September",
   "October", "November", "December"]

def twoDigits (n : Nat) : String :=
  if n < 10 then "0" ++ toString n else toString n

-- The hour on a clock face, on which noon and midnight are twelve.
def clockHour (hour : Nat) : Nat :=
  if hour % 12 = 0 then 12 else hour % 12

def dateLine (t : Moment) : String :=
  monthNames.getD (t.month - 1) "" ++ " " ++ twoDigits t.day ++ ", " ++ toString t.year ++ " at " ++
    twoDigits (clockHour t.hour) ++ ":" ++ twoDigits t.minute ++ (if t.hour < 12 then " AM" else " PM")

def escape (s : String) : String :=
  String.ofList (Text.escapeMarkup s.toList)

def pageHead : String :=
"<!DOCTYPE html>
<html lang=\"en\">
<head>
    <meta charset=\"UTF-8\">
    <meta name=\"viewport\" content=\"width=device-width, initial-scale=1.0\">
    <title>Migration Report</title>
    <style>
        body \x7b font-family: Arial, sans-serif; margin: 20px; \x7d
        h1 \x7b color: #333; \x7d
        table \x7b width: 100%; border-collapse: collapse; margin-bottom: 20px; \x7d
        th, td \x7b padding: 10px; border: 1px solid #ccc; \x7d
        th \x7b background-color: #f2f2f2; text-align: left; \x7d
        tr:nth-child(even) \x7b background-color: #f9f9f9; \x7d
        code \x7b white-space: pre-wrap; \x7d
        .file-section \x7b margin-top: 20px; \x7d
        .line-number \x7b font-style: italic; color: #888; \x7d
        .current \x7b color: #d9534f; \x7d
        .updated \x7b color: #5cb85c; \x7d
    </style>
</head>
<body>
    <h1>Resource Manager Migration Report</h1>
"

def summary (date : String) (files : List FileChanges) : String :=
  "    <p>Generated on " ++ escape date ++ "</p>\n" ++
  "    <p>Modified " ++ toString files.length ++ " file(s) with a total of " ++
  toString (totalChanges files) ++ " change(s).</p>\n"

def fileHead (f : FileChanges) : String :=
  "    <div class=\"file-section\">\n" ++
  "        <h2>File: " ++ escape f.name ++ "</h2>\n" ++
  "        <p><strong>Path:</strong> " ++ escape f.path ++ "</p>\n" ++
  "        <table>\n" ++
  "            <tr>\n" ++
  "                <th style=\"width: 10%;\">Line Number</th>\n" ++
  "                <th style=\"width: 55%;\">Original Code</th>\n" ++
  "                <th style=\"width: 35%;\">Updated Code</th>\n" ++
  "            </tr>\n"

def row (c : Change) : String :=
  "            <tr>\n" ++
  "                <td class=\"line-number\">" ++ toString c.line ++ "</td>\n" ++
  "                <td class=\"current\"><code>" ++ escape c.before ++ "</code></td>\n" ++
  "                <td class=\"updated\"><code>" ++ escape c.after ++ "</code></td>\n" ++
  "            </tr>\n"

def fileSection (f : FileChanges) : String :=
  fileHead f ++ String.join (f.changes.map row) ++ "        </table>\n    </div>\n"

-- The page for a list of changed files; `date` is the line that says when it was made.
def render (date : String) (files : List FileChanges) : String :=
  pageHead ++ summary date files ++ String.join (files.map fileSection) ++ "</body>\n</html>\n"

end Report

end TypedResources
