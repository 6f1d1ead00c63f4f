import TerseSchema.Terminal.Markup
/-!
# Panels

Text in a box with round corners, as wide as a terminal of eighty columns, with a
title in its upper border.
-/

namespace TerseSchema.Terminal

open TerseSchema.Text

def panelWidth : Nat := 80

def panelInner : Nat := panelWidth - 4

def dashes (count : Nat) : Text := List.replicate count (.char '─')

/-- The upper border: the title is in the middle, and a dash that is left
over stands to its right. -/
def panelTop (title : Text) : Text :=
  let line :=
    expandTabs tabSize width (title.map fun p => if p = .char '\n' then .char ' ' else p)
  let title := cut panelInner (" " ++ line ++ " ")
  let spare := panelInner - width title
  "╭" ++ dashes (spare / 2 + 1) ++ title ++ dashes (spare - spare / 2 + 1) ++ "╮"

def panelLine (line : Text) : Text := "│ " ++ fit panelInner line ++ " │"

def panelBottom : Text := "╰" ++ dashes (panelInner + 2) ++ "╯"

def withoutByteOrderMark : Text → Text
  | .char '\ufeff' :: rest => rest
  | s => s

def bodyTabSize : Nat := 4

/-- The text of a panel's body, with line feeds as its only line breaks. A carriage return at
its end breaks no line. -/
def bodyText (s : Text) : Text :=
  let s := withoutByteOrderMark (expandTabs bodyTabSize List.length s)
  let s := if s.getLast? = some (.char '\r') then s.dropLast else s
  (unifyLines (.char '\r') (.char '\n') s).filter (!isStripped ·)

def panel (title body : Text) : Except MarkupError Text := do
  let title ← plainText title
  let lines := splitOn (.char '\n') (bodyText body)
  let rows := panelTop title :: lines.map panelLine ++ [panelBottom]
  return rows.flatMap (· ++ "\n")

end TerseSchema.Terminal
