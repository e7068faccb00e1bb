import StaticSite.Disk.Node

/-!
# Shipped components

Two bases come with the program: one that shows its content and nothing else, and a plain page.
-/

namespace StaticSite.Component.Shipped

def bareBase : String := "@[content]"

def pageLines : List String :=
  ["<!DOCTYPE html>",
    "<!-- Default document shell; components opt in with \"extends\": \"BasePage\". -->",
    "<html lang=\"@[lang]\">",
    "<head>",
    "    <meta charset=\"utf-8\">",
    "    <meta name=\"viewport\" content=\"width=device-width, initial-scale=1\">",
    "    <title>@[title]</title>",
    "    @if(description)<meta name=\"description\" content=\"@[description]\">@endif",
    "    <link rel=\"stylesheet\" href=\"@ASSETS@/style.css\">",
    "</head>",
    "<body data-env=\"@ENV@\">",
    "@[content]",
    "</body>",
    "</html>"]

def pageBase : String := String.join (pageLines.map fun line => line ++ "\n")

def markupFolder (markup : String) : Node :=
  .folder [("index.html", .file (Text.encodeUtf8 markup.toList))]

/-- The folder that holds the shipped components. -/
def folder : Node :=
  .folder [("BaseComponent", markupFolder bareBase), ("BasePage", markupFolder pageBase)]

end StaticSite.Component.Shipped
