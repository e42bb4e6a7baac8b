import PolicyHost.Json.Lexeme
import PolicyHost.Room

/-!
# Reading JSON text

A machine reads lexemes one after another. Its state is a stack of open arrays and objects and the
goal it is at: a value, a name, a colon, or what follows a value. The machine has room for so many open
arrays and objects.

* `Reader.step`: one lexeme.
* `read`: a whole text, or the fault that stops it.
* `ReadFault.message`: the wording of a fault, with its line and column.
-/

namespace PolicyHost.Json

/-- What a text lacks or has too much of. -/
inductive Problem
  | value
  | name
  | colon
  | comma
  | extra
  | string (flaw : StringFlaw)
  | byteOrderMark
deriving DecidableEq, Repr

/-- Why a text is not read. -/
inductive ReadFault
  | malformed (problem : Problem) (offset line column : Nat)
  | longInteger (digits : Nat)
  | tooDeep
deriving DecidableEq, Repr

/-- Integers of more digits are neither read nor written. -/
def maxDigits : Nat := 4300

/-- An array or object that is not closed yet. -/
inductive Frame
  | items (done : List Json)
  | member (done : Members) (name : Text)

/-- What has to come next. -/
inductive Goal
  | value (first : Bool)
  | name (done : Members) (first : Bool)
  | colon (done : Members) (name : Text)
  | after (value : Json)
  | finished (value : Json)

/-- What is open, innermost first, and what has to come next. -/
structure Reader where
  stack : List Frame
  goal : Goal

/-- A fault of the machine: a problem at an offset, or a limit. -/
inductive Halt
  | problem (what : Problem) (offset : Nat)
  | longInteger (digits : Nat)
  | tooDeep

def Numeral.value (n : Numeral) : Except Halt Json :=
  match n.fraction, n.exponent with
  | [], none =>
    if maxDigits < n.whole.length then .error (.longInteger n.whole.length)
    else
      let magnitude : Int := Text.digitsValue n.whole
      .ok (.int (if n.negative then -magnitude else magnitude))
  | fraction, exponent =>
    let digits := Text.digitsValue (n.whole ++ fraction)
    let x := Decimal.toFloat digits (exponent.getD 0 - fraction.length)
    .ok (.float (if n.negative then -x else x))

variable [Room]

namespace Reader

/-- Opens an array or object, unless too many are open. -/
def enter (s : Reader) (goal : Goal) : Except Halt Reader :=
  if Room.documents ≤ s.stack.length then .error .tooDeep else .ok ⟨s.stack, goal⟩

/-- Reads the lexeme at which a value may start. -/
def stepValue (s : Reader) (first : Bool) (lexeme : Lexeme) : Except Halt Reader :=
  match lexeme.token with
  | .literal value => .ok ⟨s.stack, .after value⟩
  | .string value => .ok ⟨s.stack, .after (.string value)⟩
  | .numeral numeral => numeral.value.map fun value => ⟨s.stack, .after value⟩
  | .openBracket => (s.enter (.value true)).map fun r => { r with stack := .items [] :: r.stack }
  | .openBrace => s.enter (.name [] true)
  | .closeBracket =>
    match first, s.stack with
    | true, .items done :: stack => .ok ⟨stack, .after (.array done.reverse)⟩
    | _, _ => .error (.problem .value lexeme.start)
  | .broken flaw offset => .error (.problem (.string flaw) offset)
  | _ => .error (.problem .value lexeme.start)

/-- Reads the lexeme at which the name of a member may start. -/
def stepName (s : Reader) (done : Members) (first : Bool) (lexeme : Lexeme) :
    Except Halt Reader :=
  match lexeme.token, first with
  | .string name, _ => .ok ⟨s.stack, .colon done name⟩
  | .closeBrace, true => .ok ⟨s.stack, .after (.object done)⟩
  | .broken flaw offset, _ => .error (.problem (.string flaw) offset)
  | _, _ => .error (.problem .name lexeme.start)

/-- Reads the lexeme after a value: a separator, the end of what encloses the value, or the end of
the text. -/
def stepAfter (s : Reader) (value : Json) (lexeme : Lexeme) : Except Halt Reader :=
  match s.stack, lexeme.token with
  | [], .stop => .ok ⟨[], .finished value⟩
  | [], _ => .error (.problem .extra lexeme.start)
  | .items done :: stack, .comma => .ok ⟨.items (value :: done) :: stack, .value false⟩
  | .items done :: stack, .closeBracket => .ok ⟨stack, .after (.array (value :: done).reverse)⟩
  | .member done name :: stack, .comma => .ok ⟨stack, .name (done.put name value) false⟩
  | .member done name :: stack, .closeBrace => .ok ⟨stack, .after (.object (done.put name value))⟩
  | _, _ => .error (.problem .comma lexeme.start)

def step (s : Reader) (lexeme : Lexeme) : Except Halt Reader :=
  match s.goal with
  | .value first => s.stepValue first lexeme
  | .name done first => s.stepName done first lexeme
  | .colon done name =>
    match lexeme.token with
    | .colon => .ok ⟨.member done name :: s.stack, .value false⟩
    | _ => .error (.problem .colon lexeme.start)
  | .after value => s.stepAfter value lexeme
  | .finished _ => .error (.problem .extra lexeme.start)

end Reader

/-- The line of an offset, counted from one. -/
def lineAt (t : Text) (offset : Nat) : Nat := (t.take offset).count ('\n' : CodePoint) + 1

/-- The column of an offset, counted from one. -/
def columnAt (t : Text) (offset : Nat) : Nat :=
  ((t.take offset).reverse.takeWhile fun (c : CodePoint) => c != '\n').length + 1

/-- A problem in a text, with its line and column. -/
def ReadFault.locate (t : Text) (problem : Problem) (offset : Nat) : ReadFault :=
  .malformed problem offset (lineAt t offset) (columnAt t offset)

def read (t : Text) : Except ReadFault Json :=
  match (lexemes t).foldlM Reader.step ⟨[], .value false⟩ with
  | .ok ⟨_, .finished value⟩ => .ok value
  | .ok _ => .error (.locate t .value t.length)
  | .error (.problem problem offset) => .error (.locate t problem offset)
  | .error (.longInteger digits) => .error (.longInteger digits)
  | .error .tooDeep => .error .tooDeep

/-- Reads a text that must not start with a byte order mark. -/
def readUnmarked (t : Text) : Except ReadFault Json :=
  if t.head? = some 0xFEFF then .error (.locate t .byteOrderMark 0) else read t

def Problem.message : Problem → Text
  | .value => "Expecting value"
  | .name => "Expecting property name enclosed in double quotes"
  | .colon => "Expecting ':' delimiter"
  | .comma => "Expecting ',' delimiter"
  | .extra => "Extra data"
  | .string .unterminated => "Unterminated string starting at"
  | .string .control => "Invalid control character at"
  | .string .escape => "Invalid \\escape"
  | .string .unicodeEscape => "Invalid \\uXXXX escape"
  | .byteOrderMark => "Unexpected UTF-8 BOM (decode using utf-8-sig)"

/-- The wording for an integer that has too many digits to be read. -/
def longIntegerMessage (digits : Nat) : Text :=
  "Exceeds the limit (" ++ Text.ofNat maxDigits ++ " digits) for integer string conversion: value has "
    ++ Text.ofNat digits ++ " digits; use sys.set_int_max_str_digits() to increase the limit"

def ReadFault.message : ReadFault → Text
  | .malformed problem offset line column =>
    problem.message ++ ": line " ++ Text.ofNat line ++ " column " ++ Text.ofNat column ++ " (char "
      ++ Text.ofNat offset ++ ")"
  | .longInteger digits => longIntegerMessage digits
  | .tooDeep => "nested too deeply"

end PolicyHost.Json
