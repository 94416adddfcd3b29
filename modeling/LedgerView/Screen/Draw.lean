import LedgerView.Screen.Layout
import LedgerView.Text.Case
import LedgerView.Viewer.Basic

/-
  The screen that shows the viewer.

  Key definitions include:
    * `Snapshot.modeLabel`
    * `commandHint`
    * `Viewer.draw`
-/

namespace LedgerView

------------------------------------------------------------
-- Labels
------------------------------------------------------------

namespace Snapshot

/- How the table is shown, in words. -/
def modeLabel
    (p : Snapshot) : String :=
  match p.mode, p.live with
  | .autoRefresh, some status =>
      let state := if status.paused then "PAUSED" else "LIVE"
      if status.maxCount = 0 then
        state
      else
        state ++ " " ++ toString status.updateCount ++ "/" ++
          toString status.maxCount
  | .pagination, _ =>
      let about := if p.drained then "" else "~"
      "PAGE " ++ toString p.page ++ " of " ++ about ++
        toString p.pageCount
  | _, _ => "IDLE"

/- The colour of these words. -/
def modeColor
    (p : Snapshot) : Color :=
  match p.mode, p.live with
  | .autoRefresh, some status =>
      if status.paused then .lightYellow else .lightGreen
  | .autoRefresh, none => .lightGreen
  | .pagination, _ => .lightCyan
  | .unmounted, _ => .darkGray

/- What is shown in place of rows when there are none. -/
def emptyHint
    (p : Snapshot) : String :=
  if p.table = .holders ∧ p.filter.token = none then
    "Pick a token with :token <id>"
  else
    "No rows"

end Snapshot

/- The words of commands with what they do. -/
def commandHints : List (String × String) :=
  [ ("page", "Open page N")
  , ("size", "Rows per page")
  , ("live", "Back to the live view")
  , ("table", "transactions | accounts | tokens | holders")
  , ("account", "Only transactions of an account")
  , ("token", "Holders of a token")
  , ("clear", "Drop filters")
  , ("export", "Export page (csv | json)")
  , ("link", "Copy link of this page")
  , ("quit", "Quit") ]

/- What helps with a command as far as it is typed. -/
def commandHint
    (typed : List Char) : String :=
  let start :=
    Text.lowercase (String.ofList (Text.trimChars typed))
  let fits := fun (hint : String × String) =>
    !start.isEmpty && hint.1.startsWith start
  match commandHints.find? fits with
  | some (_, hint) => hint
  | none => "page N | size N | table NAME"

/- The keys that are offered in a mode. -/
def keyHints : PagerMode → List (String × String)
  | .autoRefresh =>
      [ ("n", "older"), ("space", "pause"), ("r", "refresh")
      , ("Tab", "table"), (":", "command"), ("?", "help") ]
  | _ =>
      [ ("n/p", "page"), ("l", "live"), ("+/-", "size")
      , ("y", "link"), ("e", "export"), ("?", "help") ]

/- The lines of the help. -/
def helpLines : List String :=
  [ "Navigation"
  , "  n / p      Next / previous page"
  , "  j / k      Move selection"
  , "  l          Live view (newest rows)"
  , "  Space      Pause/Resume auto refresh"
  , "  r          Refresh"
  , "  Tab        Next table"
  , "  + / -      Bigger / smaller pages"
  , ""
  , "Actions"
  , "  y          Copy link of this page"
  , "  Y          Copy key of the selected row"
  , "  e          Export page to CSV"
  , "  :          Command line"
  , "  ?          Toggle help"
  , "  q          Quit"
  , ""
  , "Commands"
  , "  :page 4  :size 25  :live  :table tokens"
  , "  :account 0.0.98  :token 0.0.1001  :clear"
  , "  :export json  :link  :q" ]

------------------------------------------------------------
-- Parts
------------------------------------------------------------

namespace Viewer

/- Text in gray. -/
def gray
    (text : String) : Span :=
  ⟨text, .color .darkGray⟩

/- Text as it comes. -/
def bare
    (text : String) : Span :=
  ⟨text, {}⟩

/- Draw what is shown and where it comes from. -/
def drawTitle
    (v : Viewer)
    (r : Rect)
    (c : Canvas) : Canvas :=
  (c.box r "" {}).write r.inner
    [ ⟨"Ledgerscope", .strong .lightCyan⟩
    , bare "  "
    , gray "Source"
    , bare (" " ++ v.sourceLabel ++ " ")
    , gray "Table"
    , bare (" " ++ v.table.title) ]

/- Draw how the table is shown. -/
def drawMode
    (v : Viewer)
    (r : Rect)
    (c : Canvas) : Canvas :=
  let span : Span :=
    match v.page with
    | some page => ⟨page.modeLabel, .strong page.modeColor⟩
    | none => ⟨"loading…", .strong .darkGray⟩
  (c.box r "" {}).write r.inner [span]

/- Draw the choice of tables. -/
def drawSidebar
    (v : Viewer)
    (r : Rect)
    (c : Canvas) : Canvas :=
  let item := fun (kind : TableKind) =>
    let paint : Paint :=
      if kind = v.table then
        { Paint.upon .black .cyan with bold := true }
      else
        .color .white
    [(⟨" " ++ kind.title, paint⟩ : Span)]
  (c.box r "Tables" (.color .darkGray)).writeLines r.inner
    (TableKind.all.map item)

/- The title of the table, with the filter that it reads. -/
def tableTitle
    (v : Viewer) : String :=
  let part := fun (name : String) (id : Option EntityId) =>
    match id with
    | some id => " · " ++ name ++ " " ++ id.toString
    | none => ""
  let filter := v.filter.restrictTo v.table
  v.table.title ++ part "account" filter.account ++
    part "token" filter.token

/- The text of a cell is its first line. -/
def firstLine
    (text : String) : String :=
  let (line, rest) := Text.splitFirst (· == '\n') text.toList
  let ended := rest.isSome && line.getLast? == some '\r'
  String.ofList (if ended then line.dropLast else line)

/- Draw cells at their places. -/
def drawCells
    (places : List Rect)
    (cells : List String)
    (c : Canvas) : Canvas :=
  (places.zip cells).foldl
    (fun c (place, text) => c.write place [bare (firstLine text)])
    c

/- Draw the headings of the columns. -/
def drawHeadings
    (columns : List String)
    (places : List Rect)
    (c : Canvas) : Canvas :=
  let paint := fun (c : Canvas) (place : Rect) =>
    c.fill place (.strong .darkGray)
  let painted := (places.take columns.length).foldl paint c
  drawCells places columns painted

/- How many rows are passed over to show the selected one. -/
def rowOffset
    (v : Viewer)
    (height : Nat) : Nat :=
  v.selected + 1 - height

/- Draw the rows of the page. -/
def drawRows
    (v : Viewer)
    (page : Snapshot)
    (r : Rect)
    (c : Canvas) : Canvas :=
  let count := max page.columns.length 1
  let height := r.height - 1
  let offset := v.rowOffset height
  let places := fun n => columnRects count (r.row n)
  let row := fun (c : Canvas) (entry : List String × Nat) =>
    let (cells, n) := entry
    let drawn := drawCells (places (n + 1)) cells c
    if offset + n = v.selected then
      drawn.fill (r.row (n + 1)) (.upon .black .lightCyan)
    else
      drawn
  ((page.rows.drop offset).take height).zipIdx.foldl row
    (drawHeadings page.columns (places 0) c)

/- Draw a line in place of rows. -/
def drawHint
    (hint : String)
    (r : Rect)
    (c : Canvas) : Canvas :=
  (c.fill r (.color .darkGray)).write r [bare hint]

/- Draw the table. -/
def drawTable
    (v : Viewer)
    (r : Rect)
    (c : Canvas) : Canvas :=
  let framed := c.box r v.tableTitle (.color .cyan)
  match v.page with
  | none => drawHint "Loading…" r.inner framed
  | some page =>
      if page.rows.isEmpty then
        drawHint page.emptyHint r.inner framed
      else
        v.drawRows page r.inner framed

/- Draw where the page is. -/
def drawStatusLine
    (v : Viewer)
    (r : Rect)
    (c : Canvas) : Canvas :=
  let spans :=
    match v.page with
    | none => []
    | some page =>
        let about := if page.drained then "" else "~"
        let total := about ++ toString page.totalRowCount
        [ gray "Page ", bare (toString page.page ++ "  ")
        , gray "Rows ", bare (total ++ "  ")
        , gray "Size ", bare (toString page.pageSize ++ "  ")
        , gray "Link ", bare page.link ]
  (c.fill r (.color .white)).write r spans

/- The colour of a message. -/
def noticeColor : NoticeLevel → Color
  | .info => .lightGreen
  | .warn => .lightYellow
  | .error => .lightRed

/- The spans that offer keys. -/
def keySpans
    (mode : PagerMode) : List Span :=
  (keyHints mode).flatMap fun (key, label) =>
    [ ⟨" " ++ key ++ " ", .upon .black .darkGray⟩
    , gray (" " ++ label ++ "  ") ]

/- Draw what is typed, or a message, or the keys. -/
def drawCommandLine
    (v : Viewer)
    (r : Rect)
    (c : Canvas) : Canvas :=
  let spans : List Span :=
    match v.typed, v.status with
    | some typed, _ =>
        [ ⟨": ", .color .yellow⟩
        , bare (String.ofList typed)
        , gray ("  " ++ commandHint typed) ]
    | none, some status =>
        [ gray "msg: "
        , ⟨status.notice.text,
            .color (noticeColor status.notice.level)⟩ ]
    | none, none => keySpans v.mode
  (c.fill r (.color .white)).write r spans

/- Draw the help above everything else. -/
def drawHelp
    (r : Rect)
    (c : Canvas) : Canvas :=
  ((c.wipe r).box r "Help" {}).writeLines r.inner
    (helpLines.map fun line => [bare line])

------------------------------------------------------------
-- The Screen
------------------------------------------------------------

/- Draw the viewer on a screen of some size. -/
def draw
    (v : Viewer)
    (width height : Nat) : Canvas :=
  let layout := Layout.of width height
  let shown :=
    Canvas.blank width height
      |> v.drawTitle layout.title
      |> v.drawMode layout.mode
      |> v.drawSidebar layout.sidebar
      |> v.drawTable layout.table
      |> v.drawStatusLine layout.statusLine
      |> v.drawCommandLine layout.commandLine
  if v.helpOpen then drawHelp layout.help shown else shown

end Viewer

end LedgerView
