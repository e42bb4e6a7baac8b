import PolicyHost.Text.Utf8
import PolicyHost.Toml.Draft
import PolicyHost.Toml.Number
import PolicyHost.Toml.Strings

/-!
# Reading configuration documents

A document is a sequence of lines; each holds a header, a pair or nothing, and may end in a comment.
A pair is a key, an equals sign and a value. Values nest only so far.

* `scanKey`: a dotted key.
* `scanValue`: a value of any kind.
* `read`: a document.
-/

namespace PolicyHost.Toml

/-- A scanner gives what stands in front of a text, and what follows it. -/
abbrev Scanner (α : Type) := Text → Except Fault (α × Text)

def skipGap (t : Text) : Text := t.dropWhile isGap

/-- The text behind a code point that has to come next. -/
def expect (mark : CodePoint) (t : Text) : Except Fault Text :=
  match t with
  | c :: rest => if c = mark then .ok rest else .error .malformed
  | [] => .error .malformed

/-- What is possible or else malformed. -/
def demand {α : Type} (result : Option α) : Except Fault α :=
  match result with
  | some value => .ok value
  | none => .error .malformed

/-- Drops the comment in front of a text, up to the end of its line. -/
def skipComment (t : Text) : Except Fault Text :=
  match t with
  | c :: rest =>
    if c = '#' then
      let comment := rest.takeWhile fun (c : CodePoint) => c != '\n'
      if comment.any isForbidden then .error .malformed else .ok (rest.drop comment.length)
    else .ok t
  | [] => .ok []

/-- Drops blanks, line breaks and comments in front of a text. -/
def skipLines (inComment : Bool) (t : Text) : Except Fault Text :=
  match t with
  | [] => .ok []
  | c :: rest =>
    if c = '\n' then skipLines false rest
    else if inComment then if isForbidden c then .error .malformed else skipLines true rest
    else if isGap c then skipLines false rest
    else if c = '#' then skipLines true rest
    else .ok t

/-- Code points of names that stand without marks. -/
def isBare (c : CodePoint) : Bool := c.isLetter || c.isDigit || c == '-' || c == '_'

def scanName : Scanner Text := fun t =>
  let bare := t.takeWhile isBare
  if bare = [] then scanLine t else .ok (bare, t.drop bare.length)

/-- Names with points between them; blanks may stand around the points and behind the last name. The
number bounds the steps. -/
def scanNames (acc : Key) : Nat → Scanner Key
  | 0, _ => .error .malformed
  | steps + 1, t => do
    let (name, rest) ← scanName t
    match skipGap rest with
    | c :: more =>
      if c = '.' then scanNames (name :: acc) steps (skipGap more)
      else return ((name :: acc).reverse, c :: more)
    | [] => return ((name :: acc).reverse, [])

def scanKey : Scanner Key := fun t => scanNames [] (t.length + 1) t

/-- A key, an equals sign and a value. -/
def scanPair (value : Scanner Toml) : Scanner (Key × Toml) := fun t => do
  let (key, rest) ← scanKey t
  let (found, rest) ← value (skipGap (← expect '=' rest))
  return ((key, found), rest)

/-- The items of an array up to its closing bracket. -/
def scanItems (value : Scanner Toml) (acc : List Toml) : Nat → Scanner Toml
  | 0, _ => .error .malformed
  | steps + 1, t => do
    match ← skipLines false t with
    | c :: rest =>
      if c = ']' then return (.array acc.reverse, rest)
      else
        let (item, rest) ← value (c :: rest)
        match ← skipLines false rest with
        | d :: more =>
          if d = ',' then scanItems value (item :: acc) steps more
          else if d = ']' then return (.array (item :: acc).reverse, more)
          else .error .malformed
        | [] => .error .malformed
    | [] => .error .malformed

/-- The pairs of a table that is written as a value, up to its closing brace. -/
def scanPairs (value : Scanner Toml) (members : Members) (closed : List Key) : Nat → Scanner Toml
  | 0, _ => .error .malformed
  | steps + 1, t => do
    let ((key, found), rest) ← scanPair value t
    let (members, closed) ← demand (enterInline members closed key found)
    match skipGap rest with
    | c :: more =>
      if c.val = 0x7D then return (.table members, more)
      else if c = ',' then scanPairs value members closed steps (skipGap more)
      else .error .malformed
    | [] => .error .malformed

/-- A table that is written as a value, behind its opening brace. -/
def scanInline (value : Scanner Toml) : Scanner Toml := fun t =>
  match skipGap t with
  | c :: rest =>
    if c.val = 0x7D then .ok (.table [], rest)
    else scanPairs value [] [] (rest.length + 1) (c :: rest)
  | [] => .error .malformed

/-- The words that stand for values. -/
def truths : List (Text × Bool) := [("true", true), ("false", false)]

/-- A word, a stamp or a number. -/
def scanPlain : Scanner Toml := fun t =>
  match truths.find? fun word => Text.startsWith t word.1, Stamp.scan? t with
  | some word, _ => .ok (.bool word.2, t.drop word.1.length)
  | none, some (found, rest) => if found.isReal then .ok (.stamp found, rest) else .error .malformed
  | none, none => scanNumber t

/-- A value in front of a text, where the number says how deep it may nest: an array takes two units
of it, a table three. -/
def scanValue : (room : Nat) → Scanner Toml
  | room + 3, t =>
    match t with
    | c :: rest =>
      if c = '"' ∨ c = '\'' then (scanString t).map fun found => (.string found.1, found.2)
      else if c = '[' then scanItems (scanValue (room + 1)) [] (rest.length + 1) rest
      else if c.val = 0x7B then scanInline (scanValue room) rest
      else scanPlain t
    | [] => .error .malformed
  | _, _ => .error .tooDeep

variable [Room]

/-- A header in front of a text: the document after it, and its key. -/
def scanHeader (d : Draft) : Scanner (Draft × Key) := fun t => do
  let d := d.beginHeader
  if Text.startsWith t "[[" then
    let (key, rest) ← scanKey (skipGap (t.drop 2))
    let d ← demand (d.openItem key)
    return ((d, key), ← expect ']' (← expect ']' rest))
  else
    let (key, rest) ← scanKey (skipGap (t.drop 1))
    let d ← demand (d.openTable key)
    return ((d, key), ← expect ']' rest)

/-- A pair below a header: the document after it. -/
def scanEntry (d : Draft) (header : Key) : Scanner Draft := fun t => do
  let ((key, value), rest) ← scanPair (scanValue Room.settings) t
  return (← demand (d.enter header key value), rest)

/-- What a line holds, without its comment: the document and the header after it. -/
def scanStatement (d : Draft) (header : Key) : Scanner (Draft × Key) := fun t =>
  match t with
  | [] => .ok ((d, header), [])
  | c :: _ =>
    if c = '\n' ∨ c = '#' then .ok ((d, header), t)
    else if c = '[' then scanHeader d t
    else if isBare c ∨ c = '"' ∨ c = '\'' then
      (scanEntry d header t).map fun found => ((found.1, header), found.2)
    else .error .malformed

/-- Reads lines one after another. The number bounds the steps. -/
def readLines (d : Draft) (header : Key) : Nat → Text → Except Fault Draft
  | 0, _ => .error .malformed
  | steps + 1, t => do
    let ((d, header), rest) ← scanStatement d header (skipGap t)
    match ← skipComment (skipGap rest) with
    | [] => return d
    | c :: more => if c = '\n' then readLines d header steps more else .error .malformed

/-- A carriage return in front of a line break does not count. -/
def unifyBreaks : Text → Text
  | c :: d :: rest =>
    if c = '\r' ∧ d = '\n' then d :: unifyBreaks rest else c :: unifyBreaks (d :: rest)
  | t => t

def read (t : Text) : Except Fault Members :=
  let lines := unifyBreaks t
  (readLines .empty [] (lines.length + 1) lines).map Draft.root

end PolicyHost.Toml
