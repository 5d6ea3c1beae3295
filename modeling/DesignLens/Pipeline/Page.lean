import DesignLens.Pipeline.Clock
import DesignLens.Text.Case
import DesignLens.Text.Search

/-!
# The page of a report

The frame of a page with its styles, and places for the statistics, the stages and the time, which
are filled in that order.
-/

namespace DesignLens.Pipeline.Page

/-- The styles of the page: what they are for, and what they set. -/
def styles : List (String × String) :=
  [("body", "font-family: Arial, sans-serif; margin: 40px; background: #f5f5f5;"),
    ("h1, h2, h3", "color: #333;"),
    (".container",
      "max-width: 1200px; margin: 0 auto; background: white; padding: 20px; " ++
        "border-radius: 8px; box-shadow: 0 2px 4px rgba(0,0,0,0.1);"),
    (".stats", "margin-bottom: 30px; padding: 20px; background: #f8f9fa; border-radius: 6px;"),
    (".stat-grid",
      "display: grid; grid-template-columns: repeat(auto-fit, minmax(150px, 1fr)); " ++
        "gap: 20px; margin-top: 15px;"),
    (".stat-item",
      "text-align: center; padding: 15px; background: white; border-radius: 6px; " ++
        "box-shadow: 0 1px 3px rgba(0,0,0,0.1);"),
    (".stat-number", "display: block; font-size: 2em; font-weight: bold; color: #333;"),
    (".stat-label", "display: block; font-size: 0.9em; color: #666; margin-top: 5px;"),
    (".stage", "margin: 20px 0; padding: 20px; border-radius: 6px; border-left: 4px solid;"),
    (".stage.success", "background: #f8fff8; border-left-color: #28a745;"),
    (".stage.failure", "background: #fff8f8; border-left-color: #dc3545;"),
    (".status", "float: right; font-weight: bold;"),
    (".success .status", "color: #28a745;"),
    (".failure .status", "color: #dc3545;"),
    (".success.stat-item", "border-left: 3px solid #28a745;"),
    (".failure.stat-item", "border-left: 3px solid #dc3545;"),
    (".summary, .errors", "margin-top: 15px;"),
    (".summary h4, .errors h4", "margin-bottom: 10px; color: #555;"),
    (".errors", "color: #d63384;"),
    ("ul", "margin: 0; padding-left: 20px;"),
    (".timestamp", "text-align: right; color: #666; font-size: 0.9em;")]

def styleLine (style : String × String) : String :=
  s!"        {style.1} " ++ "\x7b" ++ s!" {style.2} " ++ "\x7d"

def statsPlace : String := "\x7b\x7bSTATS\x7d\x7d"

def stagesPlace : String := "\x7b\x7bSTAGES\x7d\x7d"

def timePlace : String := "\x7b\x7bTIMESTAMP\x7d\x7d"

/-- The page with its places. -/
def frame : String :=
  "\n".intercalate (
    ["<!DOCTYPE html>",
      "<html>",
      "<head>",
      "    <title>MCP Architecton Pipeline Report</title>",
      "    <style>"] ++
    styles.map styleLine ++
    ["    </style>",
      "</head>",
      "<body>",
      "    <div class=\"container\">",
      "        <h1>MCP Architecton Pipeline Report</h1>",
      "        <p class=\"timestamp\">Generated: " ++ timePlace ++ "</p>",
      "        ",
      "        " ++ statsPlace,
      "        ",
      "        <h2>Stage Details</h2>",
      "        " ++ stagesPlace,
      "    </div>",
      "</body>",
      "</html>"])

def fill (stats stages : String) : String :=
  let page := Text.replaceAll statsPlace stats frame
  let page := Text.replaceAll stagesPlace stages page
  Text.replaceAll timePlace (today ++ " " ++ timeOfDay) page

end DesignLens.Pipeline.Page
