/-! The status page and its script. -/
namespace Mosaic.Web

/-- Lines, each with a line feed at its end. -/
def joinLines (lines : List String) : String := String.join (lines.map (· ++ "\n"))

/-- One character of a text that stands in a page. -/
def escapeChar (c : Char) : String :=
  match c.toNat with
  | 0 => "\uFFFD"
  | 34 => "&#34;"
  | 38 => "&amp;"
  | 39 => "&#39;"
  | 43 => "&#43;"
  | 60 => "&lt;"
  | 62 => "&gt;"
  | _ => c.toString

/-- A text as it stands in a page: nothing in it can be taken for a tag or an entity. -/
def escape (text : String) : String := String.join (text.toList.map escapeChar)

/-- The lines of the status page; the name is escaped already. -/
def pageLines (name : String) : List String :=
  [
    "<!DOCTYPE html>",
    "<html>",
    "  <head>",
    "    <meta charset=\"utf-8\" />",
    "    <title>" ++ name ++ " - tilerender</title>",
    "    <style>",
    "      body \x7b font-family: sans-serif; margin: 2em; background: #1e1e1e; color: #ddd; \x7d",
    "      #progress \x7b width: 100%; height: 1.2em; \x7d",
    "      #canvas \x7b margin-top: 1em; max-width: 100%; image-rendering: pixelated; " ++
      "border: 1px solid #444; \x7d",
    "      table \x7b border-collapse: collapse; margin-top: 1em; \x7d",
    "      td, th \x7b padding: 0.2em 0.8em; border-bottom: 1px solid #333; text-align: right; \x7d",
    "    </style>",
    "  </head>",
    "  <body>",
    "    <h1>" ++ name ++ "</h1>",
    "    <progress id=\"progress\" max=\"100\" value=\"0\"></progress>",
    "    <p id=\"status\"></p>",
    "    <img id=\"canvas\" alt=\"\" />",
    "    <table>",
    "      <thead>",
    "        <tr><th>tile</th><th>columns</th><th>lines</th><th>elapsed</th><th>parse</th></tr>",
    "      </thead>",
    "      <tbody id=\"tiles\"></tbody>",
    "    </table>",
    "    <script src=\"static/status.js\"></script>",
    "  </body>",
    "</html>"]

/-- The status page of a job. -/
def page (jobName : String) : String := joinLines (pageLines (escape jobName))

/-- The script that keeps the page up to date. -/
def script : String := joinLines
  [
    "(function () \x7b",
    "  const progress = document.getElementById(\"progress\");",
    "  const status = document.getElementById(\"status\");",
    "  const canvas = document.getElementById(\"canvas\");",
    "  const tiles = document.getElementById(\"tiles\");",
    "",
    "  let lastFinished = -1;",
    "",
    "  function clock(c) \x7b",
    "    const pad = (n) => String(n).padStart(2, \"0\");",
    "    return `$\x7bpad(c.hour)\x7d:$\x7bpad(c.min)\x7d:$\x7bpad(c.sec)\x7d`;",
    "  \x7d",
    "",
    "  function render(data) \x7b",
    "    progress.value = data.progress;",
    "    status.textContent = data.statusLine;",
    "",
    "    tiles.innerHTML = \"\";",
    "    let finished = 0;",
    "    for (const tile of data.tiles || []) \x7b",
    "      if (tile.lines >= tile.endRow) \x7b",
    "        finished++;",
    "      \x7d",
    "      const row = document.createElement(\"tr\");",
    "      row.innerHTML =",
    "        `<td>$\x7btile.index\x7d</td>` +",
    "        `<td>$\x7btile.startColumn\x7d-$\x7btile.endColumn\x7d</td>` +",
    "        `<td>$\x7btile.lines\x7d/$\x7btile.endRow\x7d</td>` +",
    "        `<td>$\x7bclock(tile.elapsed)\x7d</td>` +",
    "        `<td>$\x7bclock(tile.parseElapsed)\x7d</td>`;",
    "      tiles.appendChild(row);",
    "    \x7d",
    "",
    "    if (finished !== lastFinished && finished > 0) \x7b",
    "      canvas.src = `api/image?t=$\x7bDate.now()\x7d`;",
    "    \x7d",
    "    lastFinished = finished;",
    "  \x7d",
    "",
    "  async function poll() \x7b",
    "    try \x7b",
    "      const resp = await fetch(\"api/status\");",
    "      if (resp.ok) \x7b",
    "        render(await resp.json());",
    "      \x7d",
    "    \x7d catch (e) \x7b",
    "      status.textContent = \"disconnected\";",
    "    \x7d",
    "    setTimeout(poll, 1000);",
    "  \x7d",
    "",
    "  poll();",
    "\x7d)();"]

end Mosaic.Web
