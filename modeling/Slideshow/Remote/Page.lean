/-!
# The page of the remote

The page that a browser shows: buttons for the four commands, the overlay, and a table of the
timeline, both of which it fetches twice a second.

## Main definitions

* `Page.text`: the page.
-/

namespace Slideshow.Page

def lines : List String :=
  [
    "",
    "<!doctype html><html><head><meta charset=\"utf-8\">",
    "<title>Slideshow remote</title>",
    "<style>",
    " body\x7bbackground:#111;color:#ddd;font-family:monospace;padding:1em;\x7d",
    " button\x7bmargin:4px;padding:6px" ++
      " 12px;background:#222;color:#ddd;border:1px solid #666;\x7d",
    " td,th\x7bpadding:2px 10px;text-align:right;\x7d td.src\x7btext-align:left;\x7d",
    " tr.off\x7bcolor:#555;\x7d",
    "</style></head><body>",
    "<h2>Slideshow</h2>",
    "<button onclick=\"cmd('start')\">&#9654; Start</button>",
    "<button onclick=\"cmd('toggle')\">Overlay</button>",
    "<button onclick=\"cmd('fullscreen')\">Fullscreen</button>",
    "<button onclick=\"cmd('quit')\">Quit</button>",
    "<a href=\"/log\">log</a> <a href=\"/diag\">diag</a>",
    "",
    "<pre id=\"overlay\"></pre>",
    "<table><thead><tr><th>start</th><th>dur</th><th>alpha</th><th>source</th></tr></thead>",
    "<tbody id=\"items\"></tbody></table>",
    "",
    "<script>",
    " function cmd(c)\x7b fetch('/action?cmd=' + c); \x7d",
    " async function refresh()\x7b",
    "   try \x7b",
    "     let ov = await (await fetch('/overlay')).json();",
    "     document.getElementById('overlay').textContent = ov.join('\\n');",
    "     let tl = await (await fetch('/timeline')).json();",
    "     document.getElementById('items').innerHTML = tl.items.map(i =>",
    "       `<tr class=\"$\x7bi.alpha > 0 ? '' :" ++
      " 'off'\x7d\"><td>$\x7bi.start.toFixed(1)\x7d</td>` +",
    "       `<td>$\x7bi.duration.toFixed(1)\x7d</td><td>$\x7bi.alpha.toFixed(2)\x7d</td>` +",
    "       `<td class=\"src\">$\x7bi.source\x7d</td></tr>`).join('');",
    "   \x7d catch(e)\x7b",
    "     console.error(e);",
    "   \x7d",
    " \x7d",
    " setInterval(refresh, 500);",
    " refresh();",
    "</script>",
    "</body></html>",
    ""
  ]

def text : String :=
  "\n".intercalate lines

end Slideshow.Page
