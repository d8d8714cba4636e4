import EventRelay.Message
import EventRelay.Message.Markup

namespace EventRelay.Message

open Markup

def pageStart : String := "<html><head>
<style>
    body \x7b font-family: 'Helvetica', sans-serif; \x7d
    h2 \x7b font-size: 16px; font-weight: bold; color: #333; margin-bottom: 10px; \x7d
    pre \x7b font-size: 12px; \x7d
    .footer \x7b font-size: 11px; color: #888; margin-top: 20px; \x7d
</style>
</head>
<body>
"

def pageEnd : String := "</div>
</body></html>
"

def bodyBlock (m : Message) : List Piece :=
  if m.body.isEmpty then [] else [.markup "<p><pre>", .text m.body, .markup "</pre></p>"]

def tagMark (m : Message) : List Piece :=
  if m.tag.isEmpty then [] else [.markup " ", .text m.tag]

def footer (m : Message) (host : String) : List Piece :=
  [.markup "<div class=\"footer\">[", .text m.source, .markup "] [", .text m.level.name,
    .markup "]"] ++ tagMark m ++ [.markup " via notify-relay on ", .text host]

def page (m : Message) (host : String) : List Piece :=
  [.markup pageStart, .markup "<h2>", .text m.title, .markup "</h2>\n"] ++ bodyBlock m ++
    [.markup "\n"] ++ footer m host ++ [.markup pageEnd]

def html (m : Message) (host : String) : String := Markup.render (page m host)

end EventRelay.Message
