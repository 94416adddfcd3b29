/-
  How cells of the screen look.

  Key definitions include:
    * `Color`
    * `Style`
    * `Paint`
    * `Style.paint`
-/

namespace LedgerView

/- A colour of the terminal. -/
inductive Color where
  /- What the terminal shows when nothing is asked for. -/
  | plain
  | black
  | cyan
  | white
  | yellow
  | darkGray
  | lightRed
  | lightGreen
  | lightYellow
  | lightCyan
deriving Repr, DecidableEq, Inhabited

/- The name in records. -/
def Color.name : Color → String
  | plain => "Reset"
  | black => "Black"
  | cyan => "Cyan"
  | white => "White"
  | yellow => "Yellow"
  | darkGray => "DarkGray"
  | lightRed => "LightRed"
  | lightGreen => "LightGreen"
  | lightYellow => "LightYellow"
  | lightCyan => "LightCyan"

/- How a cell looks. -/
structure Style where
  fore : Color := .plain
  back : Color := .plain
  bold : Bool := false
deriving Repr, DecidableEq, Inhabited

/- A change of looks; what it leaves out stays as it is. -/
structure Paint where
  fore : Option Color := none
  back : Option Color := none
  bold : Bool := false
deriving Repr, DecidableEq, Inhabited

/- The looks after a change. -/
def Style.paint
    (s : Style)
    (p : Paint) : Style :=
  { fore := p.fore.getD s.fore
    back := p.back.getD s.back
    bold := s.bold || p.bold }

namespace Paint

/- A colour of the text. -/
def color
    (c : Color) : Paint :=
  { fore := some c }

/- Bold text in a colour. -/
def strong
    (c : Color) : Paint :=
  { fore := some c, bold := true }

/- Text in one colour upon another. -/
def upon
    (fore back : Color) : Paint :=
  { fore := some fore, back := some back }

end Paint

end LedgerView
