import EventRelay.Message.Page
import EventRelay.Proofs.Message.Markup

namespace EventRelay.Message

open Markup

inductive Hole
  | title
  | body
  | source
  | level
  | tag
  | host
  deriving DecidableEq, Repr

def said (m : Message) (host : String) : Hole → String
  | .title => m.title
  | .body => m.body
  | .source => m.source
  | .level => m.level.name
  | .tag => m.tag
  | .host => host

/-- A part of a template, which may be left out where a place stays empty. -/
inductive Part
  | fixed (source : String)
  | hole (h : Hole)
  | given (h : Hole) (part : Part)

def Part.fill (said : Hole → String) : Part → List Piece
  | .fixed source => [.markup source]
  | .hole h => [.text (said h)]
  | .given h part => if (said h).isEmpty then [] else part.fill said

def template : List Part :=
  [.fixed pageStart, .fixed "<h2>", .hole .title, .fixed "</h2>\n",
    .given .body (.fixed "<p><pre>"), .given .body (.hole .body),
    .given .body (.fixed "</pre></p>"), .fixed "\n",
    .fixed "<div class=\"footer\">[", .hole .source, .fixed "] [", .hole .level, .fixed "]",
    .given .tag (.fixed " "), .given .tag (.hole .tag),
    .fixed " via notify-relay on ", .hole .host, .fixed pageEnd]

variable (m : Message) (host : String)

theorem page_eq_fill : m.page host = template.flatMap (Part.fill (m.said host)) := by
  unfold page bodyBlock footer tagMark template
  cases hb : m.body.isEmpty <;> cases ht : m.tag.isEmpty <;> simp [Part.fill, said, hb, ht]

def styles : String := "
    body \x7b font-family: 'Helvetica', sans-serif; \x7d
    h2 \x7b font-size: 16px; font-weight: bold; color: #333; margin-bottom: 10px; \x7d
    pre \x7b font-size: 12px; \x7d
    .footer \x7b font-size: 11px; color: #888; margin-top: 20px; \x7d
"

set_option maxRecDepth 2000 in
theorem plain_styles : '<' ∉ styles.toList := by
  obtain ⟨cs, same, plain⟩ : ∃ cs, styles = String.ofList cs ∧ '<' ∉ cs := ⟨_, rfl, by decide⟩
  rw [same, String.toList_ofList]
  exact plain

def opening : List Token :=
  [.text "", .tag "html", .text "", .tag "head", .text "\n", .tag "style", .text styles,
    .tag "/style", .text "\n", .tag "/head", .text "\n", .tag "body", .text "\n"]

set_option maxRecDepth 2000 in
theorem write_opening : write opening = pageStart := by
  have split : pageStart =
      "<html><head>\n<style>" ++ (styles ++ "</style>\n</head>\n<body>\n") := by
    change pageStart = String.ofList _ ++ (String.ofList _ ++ String.ofList _)
    rw [← String.ofList_append, ← String.ofList_append]
    rfl
  rw [split, ← String.toList_inj]
  simp [opening, Token.write]

def bodyTokens : List Token :=
  if m.body.isEmpty then [.text "\n\n"]
  else [.text "\n", .tag "p", .text "", .tag "pre", .text (escape m.body), .tag "/pre", .text "",
    .tag "/p", .text "\n"]

def footerLine (form : String → String) : String :=
  "[" ++ form m.source ++ "] [" ++ form m.level.name ++ "]" ++
    (if m.tag.isEmpty then "" else " " ++ form m.tag) ++ " via notify-relay on " ++ form host

def pageTokens : List Token :=
  opening ++ [.tag "h2", .text (escape m.title), .tag "/h2"] ++ m.bodyTokens ++
    [.tag "div class=\"footer\"", .text (m.footerLine host escape), .tag "/div", .text "\n",
      .tag "/body", .text "", .tag "/html", .text "\n"]

theorem plain_footerLine : '<' ∉ (m.footerLine host escape).toList := by
  unfold footerLine
  cases m.tag.isEmpty <;> simp [plain_escape]

theorem alternate_pageTokens : Alternate (m.pageTokens host) := by
  unfold pageTokens bodyTokens opening
  cases m.body.isEmpty <;> simp [Alternate, plain_styles, plain_escape, plain_footerLine]

theorem write_pageTokens : write (m.pageTokens host) = m.html host := by
  unfold html page pageTokens bodyTokens bodyBlock footerLine footer tagMark Markup.render
  rw [← String.toList_inj]
  cases m.body.isEmpty <;> cases m.tag.isEmpty <;>
    simp [write_opening, Token.write, Piece.render, pageEnd]

theorem tokens_html : tokens (m.html host) = m.pageTokens host := by
  rw [← write_pageTokens]
  exact tokens_write (m.alternate_pageTokens host)

theorem shown_footerLine : shown (m.footerLine host escape) = m.footerLine host id := by
  unfold footerLine shown
  rw [← String.toList_inj, String.toList_ofList]
  cases m.tag.isEmpty <;> simp [unescape_escape, unescape]

def pageTags (hasBody : Bool) : List String :=
  ["html", "head", "style", "/style", "/head", "body", "h2", "/h2"] ++
    (if hasBody then ["p", "pre", "/pre", "/p"] else []) ++
    ["div class=\"footer\"", "/div", "/body", "/html"]

theorem tags_html : tags (m.html host) = pageTags (!m.body.isEmpty) := by
  unfold tags pageTags
  rw [tokens_html]
  unfold pageTokens bodyTokens opening
  cases m.body.isEmpty <;> rfl

theorem textBehind?_title : textBehind? "h2" (tokens (m.html host)) = some (escape m.title) := by
  rw [tokens_html]
  simp [pageTokens, opening, textBehind?]

theorem textBehind?_body : textBehind? "pre" (tokens (m.html host)) =
    if m.body.isEmpty then none else some (escape m.body) := by
  rw [tokens_html]
  unfold pageTokens bodyTokens opening
  cases m.body.isEmpty <;> simp [textBehind?]

theorem textBehind?_footer : textBehind? "div class=\"footer\"" (tokens (m.html host)) =
    some (m.footerLine host escape) := by
  rw [tokens_html]
  unfold pageTokens bodyTokens opening
  cases m.body.isEmpty <;> simp [textBehind?]

/--
The page is the template with its places filled by escaped texts. An escaped text is inert and shows
the text itself. So the tags of the page tell no more than whether there is a body; the heading
shows the title, the block of the body is there only if there is a body to show, and so is the tag
in the footer.
-/
theorem html_shows_texts (m : Message) (host : String) :
    m.html host = Markup.render (template.flatMap (Part.fill (m.said host))) ∧
    (∀ s, Inert (escape s).toList ∧ shown (escape s) = s) ∧
    tags (m.html host) = pageTags (!m.body.isEmpty) ∧
    (textBehind? "h2" (tokens (m.html host))).map shown = some m.title ∧
    (textBehind? "pre" (tokens (m.html host))).map shown =
      (if m.body.isEmpty then none else some m.body) ∧
    textBehind? "div class=\"footer\"" (tokens (m.html host)) = some (m.footerLine host escape) ∧
    shown (m.footerLine host escape) = m.footerLine host id := by
  refine ⟨?_, fun s => ⟨inert_escape s, shown_escape s⟩, m.tags_html host, ?_, ?_,
    m.textBehind?_footer host, m.shown_footerLine host⟩
  · rw [html, page_eq_fill]
  · rw [textBehind?_title, Option.map_some, shown_escape]
  · rw [textBehind?_body]
    split
    · rfl
    · rw [Option.map_some, shown_escape]

end EventRelay.Message
