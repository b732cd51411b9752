/-!
# Error pages

An application that does not allow its host shows nothing. The iframe then gets a small page that
says which origin to allow. The page is a template with placeholders, which are filled in from left
to right; a text that was filled in is not read again, so it may name placeholders itself.
-/

namespace FrameHost.ErrorPage

/-! ## Escaping -/

/-- A character of a text inside markup or an attribute. -/
def escapeChar (c : Char) : List Char :=
  match c with
  | '&' => ['&', 'a', 'm', 'p', ';']
  | '<' => ['&', 'l', 't', ';']
  | '>' => ['&', 'g', 't', ';']
  | '"' => ['&', 'q', 'u', 'o', 't', ';']
  | '\x27' => ['&', '#', '3', '9', ';']
  | c => [c]

/-- A text inside markup or an attribute. -/
def escape (s : String) : String := String.ofList (s.toList.flatMap escapeChar)

/-! ## Filling in -/

/-- A template with each placeholder filled in: `$` and a name of `values` gives the escaped text of
that name, of the first one where several names fit. A `$` that no name follows stays. -/
def render (values : List (String × String)) (template : List Char) : List Char :=
  match template with
  | [] => []
  | c :: cs =>
    if c = '$' then
      match values.find? fun v => v.1.toList.isPrefixOf cs with
      | some v => (escape v.2).toList ++ render values (cs.drop v.1.length)
      | none => c :: render values cs
    else c :: render values cs
termination_by template.length
decreasing_by all_goals simp only [List.length_drop, List.length_cons]; omega

/-! ## The page -/

/-- The template of the page, in lines; a placeholder stands alone. -/
def pieces : List String :=
  ["<!DOCTYPE html>\n",
    "<html>\n",
    "<head>\n",
    "    <meta charset=\"UTF-8\">\n",
    "    <title>Embedding blocked</title>\n",
    "    <style>\n",
    "        html, body \x7b height: 100%; margin: 0; \x7d\n",
    "        body \x7b\n",
    "            display: flex;\n",
    "            align-items: center;\n",
    "            justify-content: center;\n",
    "            background: #f8f9f9;\n",
    "            color: #333;\n",
    "            font-family: \"Open Sans\", sans-serif, Arial;\n",
    "            line-height: 1.5;\n",
    "        \x7d\n",
    "        .card \x7b max-width: 560px; padding: 32px; text-align: center; \x7d\n",
    "        h1 \x7b font-size: 18px; margin: 0 0 12px; color: #f2675a; \x7d\n",
    "        code \x7b background: #eceef1; padding: 2px 6px; border-radius: 3px; \x7d\n",
    "        a \x7b color: #4781d1; \x7d\n",
    "    </style>\n",
    "</head>\n",
    "<body>\n",
    "    <div class=\"card\">\n",
    "        <h1>",
    "$MESSAGE",
    "</h1>\n",
    "        <p>Add <code>",
    "$HOST_ORIGIN",
    "</code> to the allowed domains in the\n",
    "        Developer Tools settings of <a href=\"",
    "$SRC",
    "\" target=\"_blank\">",
    "$SRC",
    "</a>,\n",
    "        then reload this page.</p>\n",
    "    </div>\n",
    "</body>\n",
    "</html>"]

/-- The template of the page. -/
def template : String := String.join pieces

/-- The page for a host at `host` that embeds the application at `source`. -/
def document (host source message : String) : String :=
  String.ofList
    (render [("HOST_ORIGIN", host), ("MESSAGE", message), ("SRC", source)] template.toList)

end FrameHost.ErrorPage
