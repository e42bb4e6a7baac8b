import PolicyHost.Toml.Basic

/-!
# Strings of configuration documents

A literal string stands between apostrophes and holds what is written; a basic string stands between
quotation marks and may hold escapes. Either may go over several lines between three marks. Control
characters other than tabs, and line breaks over several lines, have no place in them.

* `scanLiteral`, `scanBasic`: strings of one line, behind the opening mark.
* `scanString`: any string.
-/

namespace PolicyHost.Toml

/-- Blanks within a line. -/
def isGap (c : CodePoint) : Bool := c == ' ' || c == '\t'

/-- Blanks and line breaks. -/
def isBreakable (c : CodePoint) : Bool := isGap c || c == '\n'

/-- Control characters that have no place in a line. -/
def isForbidden (c : CodePoint) : Bool := (c.val < 0x20 && c != '\t') || c.val == 0x7F

/-- Control characters that have no place in a string. -/
def isForbiddenIn (lines : Bool) (c : CodePoint) : Bool := isForbidden c && !(lines && c == '\n')

def triple (mark : CodePoint) : Text := [mark, mark, mark]

/-- A literal string behind its opening mark: its contents, and what follows the closing mark. -/
def scanLiteral (t : Text) : Except Fault (Text × Text) :=
  let contents := t.takeWhile fun (c : CodePoint) => c != '\''
  match t.drop contents.length with
  | _ :: rest => if contents.any isForbidden then .error .malformed else .ok (contents, rest)
  | [] => .error .malformed

def escaped? (c : CodePoint) : Option CodePoint :=
  if c = '"' ∨ c = '\\' then some c
  else if c = 'b' then some 0x8
  else if c = 't' then some 0x9
  else if c = 'n' then some 0xA
  else if c = 'f' then some 0xC
  else if c = 'r' then some 0xD
  else none

/-- The scalar value that hexadecimal digits spell. -/
def scalarOf? (digits : Text) (width : Nat) : Option CodePoint := do
  let values ← digits.mapM CodePoint.hexValue?
  let n := values.foldl (fun n d => n * 16 + d) 0
  if digits.length = width ∧ n < 0x110000 ∧ !(0xD800 ≤ n ∧ n ≤ 0xDFFF) then
    some (Fin.ofNat 0x110000 n)
  else none

/-- Whether a line ends after blanks. -/
def lineEnds (t : Text) : Bool :=
  match t.dropWhile isGap with
  | c :: _ => c == '\n'
  | [] => true

/-- The escape behind a backslash: what it stands for, and how many code points it takes. Over
several lines a backslash may end a line; it then stands for nothing, and so do the blanks and line
breaks that follow. -/
def escape? (lines : Bool) (t : Text) : Option (Text × Nat) :=
  match t with
  | [] => none
  | c :: rest =>
    if lines && isBreakable c && lineEnds t then some ([], (t.takeWhile isBreakable).length)
    else if c = 'u' then (scalarOf? (rest.take 4) 4).map fun value => ([value], 5)
    else if c = 'U' then (scalarOf? (rest.take 8) 8).map fun value => ([value], 9)
    else (escaped? c).map fun value => ([value], 1)

/-- A basic string behind its opening mark, its first code points last in `acc`: its contents, and
what follows the closing mark. -/
def scanBasic (lines : Bool) (acc : Text) (t : Text) : Except Fault (Text × Text) :=
  match t with
  | [] => .error .malformed
  | c :: rest =>
    if c = '"' then
      if lines then
        if Text.startsWith t (triple '"') then .ok (acc.reverse, t.drop 3)
        else scanBasic lines (c :: acc) rest
      else .ok (acc.reverse, rest)
    else if c = '\\' then
      match escape? lines rest with
      | none => .error .malformed
      | some (value, width) => scanBasic lines (value ++ acc) (rest.drop width)
    else if isForbiddenIn lines c then .error .malformed
    else scanBasic lines (c :: acc) rest
termination_by t.length
decreasing_by all_goals simp_all [List.length_drop]; try omega

/-- The contents of a literal string over several lines, up to three marks. -/
def scanLiteralLines (acc : Text) (t : Text) : Except Fault (Text × Text) :=
  match t with
  | [] => .error .malformed
  | c :: rest =>
    if Text.startsWith t (triple '\'') then .ok (acc.reverse, t.drop 3)
    else if isForbiddenIn true c then .error .malformed
    else scanLiteralLines (c :: acc) rest

/-- A line break right behind the opening marks does not count. -/
def dropFirstBreak (t : Text) : Text :=
  match t with
  | c :: rest => if c = '\n' then rest else t
  | [] => []

/-- Up to two more marks right behind the closing ones belong to the contents. -/
def takeMarks (mark : CodePoint) (found : Text × Text) : Text × Text :=
  let more := (found.2.take 2).takeWhile (· == mark)
  (found.1 ++ more, found.2.drop more.length)

def scanLine (t : Text) : Except Fault (Text × Text) :=
  match t with
  | c :: rest =>
    if c = '"' then scanBasic false [] rest
    else if c = '\'' then scanLiteral rest
    else .error .malformed
  | [] => .error .malformed

/-- A string in front of a text, and what follows it. -/
def scanString (t : Text) : Except Fault (Text × Text) :=
  if Text.startsWith t (triple '"') then
    (scanBasic true [] (dropFirstBreak (t.drop 3))).map (takeMarks '"')
  else if Text.startsWith t (triple '\'') then
    (scanLiteralLines [] (dropFirstBreak (t.drop 3))).map (takeMarks '\'')
  else scanLine t

end PolicyHost.Toml
