import PolicyHost.Deployment.Tar.Gzip
import PolicyHost.Table
import PolicyHost.Text.Numeral
import PolicyHost.Text.Utf8

/-!
# Archives of files

An archive is a row of members. A member is a header of 512 octets and, rounded up to blocks of 512
octets, its contents. Some headers only say more about the member behind them: a long name, or
records of names and values for that member or for all that follow.

* `Member`: a file of an archive and where its contents lie.
* `Member.contents`: the contents.
* `members`: the members up to the end, and the fault that ends them if there is one.
-/

namespace PolicyHost.Tar

/-- Why an archive cannot be read. Numerals inside of records may be faulty in their own way, and
sizes may lead to places and counts that no stream has. -/
inductive Fault
  | malformed
  | numeral (fault : Numeral.Fault)
  | mishap (mishap : Mishap)
deriving DecidableEq

def blockSize : Nat := 512

def padded (n : Int) : Int := -(Int.fdiv (-n) blockSize) * blockSize

/-- What octets spell; an octet that is no part of a character becomes the half of a surrogate pair
that stands for it. -/
def escapedText (octets : Bytes) : Text :=
  let step := fun (state : Bytes × List Text) (piece : Utf8.Piece) =>
    let rest := state.1.drop piece.width
    match piece with
    | .scalar value _ => (rest, [value] :: state.2)
    | .malformed _ _ width =>
      let halves : Text :=
        (state.1.take width).map fun b => Fin.ofNat 0x110000 (0xDC00 + b.toNat)
      (rest, halves :: state.2)
  ((Utf8.pieces false octets).foldl step (octets, [])).2.reverse.flatten

def fieldText (octets : Bytes) : Text := escapedText (octets.takeWhile (· ≠ 0))

/-- The value of an octal numeral: blanks around it, a sign, a mark for octal digits, and single
underscores between digits. A numeral of nothing is zero. -/
def octal? (t : Text) : Option Int :=
  let trimmed := t.trimBoth CodePoint.isBlank
  let (negative, unsigned) := match trimmed with
    | c :: rest => if c = '-' then (true, rest) else if c = '+' then (false, rest) else (false, trimmed)
    | [] => (false, trimmed)
  let (marked, body) := match unsigned with
    | z :: o :: rest => if z = '0' ∧ o.lower = 'o' then (true, rest) else (false, unsigned)
    | _ => (false, unsigned)
  let (digits, gap, rest) := Numeral.spanDigits [] (!marked) body
  if trimmed.isEmpty then some 0
  else if digits.isEmpty || gap || !rest.isEmpty || digits.any (7 < ·) then none
  else
    let magnitude : Int := (digits.reverse.foldl (fun n d => n * 8 + d) 0 : Nat)
    some (if negative then -magnitude else magnitude)

/-- The number in a field of a header: an octal numeral, or octets behind a mark, highest first. -/
def fieldNumber? (octets : Bytes) : Option Int :=
  match octets with
  | [] => none
  | mark :: rest =>
    let magnitude : Int := rest.foldl (fun n b => n * 256 + b.toNat) 0
    if mark = 0x80 then some magnitude
    else if mark = 0xFF then some (magnitude - 256 ^ rest.length)
    else
      let digits := octets.takeWhile (· ≠ 0)
      if digits.all (· < 0x80) then octal? (escapedText digits) else none

/-- A stretch of a file that lies in the archive, or a hole. -/
structure Stretch where
  stored : Bool
  start : Int
  stop : Int
  place : Int

/-- A member: its name, its type, the size and the place of its contents, and the stretches of a file
with holes. -/
structure Member where
  name : Text
  type : UInt8
  size : Int
  place : Nat
  holes : Option (List (Int × Int))

def knownTypes : Bytes :=
  [0x30, 0x00, 0x31, 0x32, 0x35, 0x36, 0x37, 0x33, 0x34, 0x4C, 0x4B, 0x53]

def fileTypes : Bytes := [0x30, 0x00, 0x37, 0x53]

def directoryType : UInt8 := 0x35

/-- The types of a long name and of a long name of a link. -/
def longTypes : Bytes := [0x4C, 0x4B]

def holesType : UInt8 := 0x53

/-- The types of records: for the next member, and for all members that follow. -/
def recordTypes : Bytes := [0x78, 0x58, 0x67]

def globalType : UInt8 := 0x67

/-- Types whose headers use the place of the directory for something else. -/
def ownLayoutTypes : Bytes := [0x4C, 0x4B, 0x53]

def Member.isFile (m : Member) : Bool := fileTypes.contains m.type

def Member.isDirectory (m : Member) : Bool := m.type == directoryType

/-- Contents of a member take up blocks of their own. -/
def Member.hasBlocks (m : Member) : Bool := m.isFile || !knownTypes.contains m.type

def dropSlashes (t : Text) : Text :=
  (t.reverse.dropWhile fun (c : CodePoint) => c == '/').reverse

/-- A directory is named without slashes at the end. -/
def Member.trimmed (m : Member) : Member :=
  if m.isDirectory then { m with name := dropSlashes m.name } else m

/-- Records of names and values, from all headers that apply. -/
abbrev Records := Table Text Text

/-- Where the next header lies, and the records for all members. -/
structure Cursor where
  offset : Int
  records : Records

/-- Why no member can be read at a place.

* `absent`: nothing is there;
* `short`: less than a header is there;
* `ended`: the mark of the end is there;
* `invalid`: no header is there;
* `spoilt`: a member is there, but the records for it are of no use;
* `fatal`: the archive cannot be read any further. -/
inductive HeaderFault
  | absent
  | short
  | ended
  | invalid
  | spoilt
  | fatal (fault : Fault)

variable [Room]

/-- Octets of a stream from a place on. Reading beyond a break is a fault. -/
def Stream.take (s : Stream) (start : Nat) (count : Int) : Except Fault Bytes :=
  match s.read start count with
  | .ok (some octets) => .ok octets
  | .ok none => .error .malformed
  | .error mishap => .error (.mishap mishap)

def Stream.takeAll (s : Stream) (place width : Int) : Except Fault Bytes := do
  let start ← (s.seek place).mapError Fault.mishap
  let found ← s.take start width
  if found.length = width.toNat then return found else .error .malformed

/-- Goes over the octet in front of a place, which has to be there: the place behind that octet. -/
def Stream.reach (s : Stream) (place : Int) : Except Fault Nat := do
  let before ← (s.seek (place - 1)).mapError Fault.mishap
  let found ← s.take before 1
  if found.isEmpty then .error .malformed else return before + 1

def field (header : Bytes) (start width : Nat) : Bytes := (header.drop start).take width

/-- The sums of the octets of a header with blanks in place of its check value: as numbers without
and with a sign. -/
def checkSums (header : Bytes) : Int × Int :=
  let counted := header.take 148 ++ header.drop 156
  let plain : Int := counted.foldl (fun n b => n + b.toNat) 256
  let high := (counted.filter fun b => 0x80 ≤ b).length
  (plain, plain - 256 * (high : Int))

def numberPairs? (octets : Bytes) (start : Nat) : (count : Nat) → Option (List (Int × Int))
  | 0 => some []
  | count + 1 => do
    let first ← fieldNumber? (field octets start 12)
    let second ← fieldNumber? (field octets (start + 12) 12)
    let rest ← numberPairs? octets (start + 24) count
    return (first, second) :: rest

/-- What a header of a file with holes says: its stretches, whether more follow, and its size. -/
structure HolesHeader where
  stretches : List (Int × Int)
  extended : Bool
  size : Int

def holesHeader? (header : Bytes) : Option HolesHeader := do
  let stretches ← numberPairs? header 386 4
  let size ← fieldNumber? (field header 483 12)
  return ⟨stretches, ((header[482]?).getD 0) != 0, size⟩

/-- The type that a header stands for. A file whose name ends in a slash is a directory. -/
def headerType (header : Bytes) : UInt8 :=
  let type := (header[156]?).getD 0
  if type = 0 ∧ (fieldText (field header 0 100)).getLast? = some (CodePoint.ofChar '/') then
    directoryType
  else type

/-- The name that a header spells, with the directory in front of it if there is one. -/
def headerName (header : Bytes) (type : UInt8) : Text :=
  let name := fieldText (field header 0 100)
  let name := if type = directoryType then dropSlashes name else name
  let directory := fieldText (field header 345 155)
  if directory.isEmpty || ownLayoutTypes.contains type then name else directory ++ "/" ++ name

/-- Places and widths of the numbers in a header that have to be well formed. -/
def numberFields : List (Nat × Nat) := [(100, 8), (108, 8), (116, 8), (136, 12), (329, 8), (337, 8)]

/-- Reads a header whose contents lie at a place. -/
def parseHeader (header : Bytes) (place : Nat) : Except HeaderFault Member :=
  if header.isEmpty then .error .absent
  else if header.length < blockSize then .error .short
  else if header.all (· == 0) then .error .ended
  else
    let sums := checkSums header
    match fieldNumber? (field header 148 8), fieldNumber? (field header 124 12) with
    | some sum, some size =>
      let sound := sum = sums.1 ∨ sum = sums.2
      let numbers := numberFields.all fun f => (fieldNumber? (field header f.1 f.2)).isSome
      let type := headerType header
      if !sound || !numbers || (type = holesType && (holesHeader? header).isNone) then
        .error .invalid
      else .ok ⟨headerName header type, type, size, place, none⟩
    | _, _ => .error .invalid

def applyRecords (records : Records) (m : Member) : Except Fault Member :=
  records.foldlM (fun m record =>
    let key := record.1
    if key = Text.ofString "path" then .ok { m with name := dropSlashes record.2 }
    else if key = Text.ofString "GNU.sparse.name" then .ok { m with name := record.2 }
    else if key = Text.ofString "size" then
      .ok { m with size := ((Numeral.read record.2).toOption).getD 0 }
    else if key = Text.ofString "GNU.sparse.size" ∨ key = Text.ofString "GNU.sparse.realsize" then
      match Numeral.read record.2 with
      | .ok size => .ok { m with size }
      | .error fault => .error (.numeral fault)
    else .ok m) m

/-- One record: its length in octets, its name and its value. -/
structure Record where
  length : Nat
  name : Bytes
  value : Bytes

def isDigitOctet (b : UInt8) : Bool := 0x30 ≤ b && b ≤ 0x39

def maxLengthDigits : Nat := 20

/-- Reads the first record: its length in digits, a blank, a name, an equals sign, a value and a line
break. -/
def parseRecord (octets : Bytes) : Option Record :=
  let digits := octets.takeWhile isDigitOctet
  let length := digits.foldl (fun n b => n * 10 + (b.toNat - 0x30)) 0
  if digits.isEmpty || maxLengthDigits < digits.length || octets[digits.length]? ≠ some 0x20 then none
  else if length < 5 || octets.length < length || octets[length - 1]? ≠ some 0x0A then none
  else
    let body := (octets.take (length - 1)).drop (digits.length + 1)
    let name := body.takeWhile (· ≠ 0x3D)
    if name.isEmpty || name.length = body.length then none
    else some ⟨length, name, body.drop (name.length + 1)⟩

/-- Reads records up to a zero or the end. -/
def parseRecords : (rounds : Nat) → Bytes → Option (List Record)
  | 0, _ => some []
  | rounds + 1, octets =>
    match octets with
    | [] => some []
    | b :: _ =>
      if b = 0 then some []
      else do
        let record ← parseRecord octets
        let rest ← parseRecords rounds (octets.drop record.length)
        return record :: rest

def addRecords (records : Records) (more : List Record) : Records :=
  more.foldl (fun rs r => rs.put (escapedText r.name) (escapedText r.value)) records

def parseNumerals (texts : List Text) : Except Fault (List Int) :=
  texts.mapM fun t => (Numeral.read t).mapError .numeral

/-- Numbers in pairs; one that is left over is dropped. -/
def pairUp : List Int → List (Int × Int)
  | a :: b :: rest => (a, b) :: pairUp rest
  | _ => []

def numbersOf (name : String) (more : List Record) : Except HeaderFault (List Int) :=
  (more.filter fun r => escapedText r.name = Text.ofString name).mapM fun r =>
    match Numeral.read (escapedText r.value) with
    | .ok n => .ok n
    | .error _ => .error .spoilt

/-- Cuts off what stands before the first line break. -/
def cutLine? (octets : Bytes) : Option (Bytes × Bytes) :=
  let line := octets.takeWhile (· ≠ 0x0A)
  match octets.drop line.length with
  | [] => none
  | _ :: rest => some (line, rest)

/-- The numeral on the first line, and what follows. -/
def readLine (octets : Bytes) : Except Fault (Int × Bytes) :=
  match cutLine? octets with
  | some (line, rest) => do
    let n ← (Numeral.readOctets line).mapError Fault.numeral
    return (n, rest)
  | none => .error (.mishap .lineMissing)

/-- Reads numerals, each on a line of its own. Where the octets at hand hold no line, one more block
is read. -/
def readLines (s : Stream) : (wanted : Nat) → (octets : Bytes) → (place : Nat) →
    Except Fault (List Int × Nat)
  | 0, _, place => .ok ([], place)
  | wanted + 1, octets, place => do
    let (octets, place) ←
      if (cutLine? octets).isSome then pure (octets, place)
      else do
        let more ← s.take place blockSize
        pure (octets ++ more, place + more.length)
    let (n, rest) ← readLine octets
    let (numbers, place) ← readLines s wanted rest place
    return (n :: numbers, place)

/-- Reads stretches that lie in front of the contents of a member: their number, and two numerals for
each, all on lines of their own. Also gives the place behind them. -/
def readStretches (s : Stream) (place : Nat) : Except Fault (List (Int × Int) × Nat) := do
  let block ← s.take place blockSize
  let (count, rest) ← readLine block
  let (numbers, place) ← readLines s (2 * count.toNat) rest (place + block.length)
  return (pairUp numbers, place)

/-- What records say about the stretches of a member. -/
def applyHoles (s : Stream) (records : Records) (more : List Record) (m : Member) :
    Except HeaderFault Member := do
  let value? := fun (name : String) => records.get? (Text.ofString name)
  match value? "GNU.sparse.map", value? "GNU.sparse.size" with
  | some map, _ =>
    match parseNumerals (Text.split ',' map) with
    | .ok numbers => return { m with holes := some (pairUp numbers) }
    | .error fault => .error (.fatal fault)
  | none, some _ =>
    let offsets ← numbersOf "GNU.sparse.offset" more
    let sizes ← numbersOf "GNU.sparse.numbytes" more
    return { m with holes := some (offsets.zip sizes) }
  | none, none =>
    if value? "GNU.sparse.major" = some (Text.ofString "1")
        ∧ value? "GNU.sparse.minor" = some (Text.ofString "0") then
      match readStretches s m.place with
      | .ok (stretches, place) => return { m with holes := some stretches, place }
      | .error fault => .error (.fatal fault)
    else return m

/-- A number in a block that may end too early. -/
def blockNumber (block : Bytes) (start : Nat) : Except HeaderFault Int :=
  match field block start 12 with
  | [] => .error (.fatal (.mishap .octetMissing))
  | octets =>
    match fieldNumber? octets with
    | some n => .ok n
    | none => .error .invalid

/-- The pairs of numbers in a block, and whether another block follows. -/
def blockPairs (block : Bytes) (start : Nat) : (count : Nat) →
    Except HeaderFault (List (Int × Int) × Bool)
  | 0 =>
    match block[start]? with
    | some mark => .ok ([], mark != 0)
    | none => .error (.fatal (.mishap .octetMissing))
  | count + 1 => do
    let first ← blockNumber block start
    let second ← blockNumber block (start + 12)
    let (rest, extended) ← blockPairs block (start + 24) count
    return ((first, second) :: rest, extended)

/-- More stretches of a file with holes, from blocks of their own, and the place behind them. -/
def moreStretches (s : Stream) : (rounds : Nat) → (extended : Bool) → (place : Nat) →
    Except HeaderFault (List (Int × Int) × Nat)
  | _, false, place => .ok ([], place)
  | 0, true, _ => .error (.fatal .malformed)
  | rounds + 1, true, place =>
    match s.take place blockSize with
    | .error fault => .error (.fatal fault)
    | .ok block => do
      let (pairs, extended) ← blockPairs block 0 21
      let (rest, place) ← moreStretches s rounds extended (place + block.length)
      return (pairs.filter (fun p => p.1 ≠ 0 ∧ p.2 ≠ 0) ++ rest, place)

/-- A header behind one that says more about it has to be there. -/
def required {α : Type} : Except HeaderFault α → Except HeaderFault α
  | .error (.fatal fault) => .error (.fatal fault)
  | .error _ => .error (.fatal .malformed)
  | .ok value => .ok value

/-- A plain member: its contents follow, and the records for all members apply. -/
def plainMember (m : Member) (records : Records) : Except HeaderFault (Member × Cursor) :=
  let offset : Int := if m.hasBlocks then m.place + padded m.size else m.place
  match applyRecords records m with
  | .error fault => .error (.fatal fault)
  | .ok m => .ok (m.trimmed, ⟨offset, records⟩)

def holesMember (s : Stream) (header : Bytes) (m : Member) (records : Records) :
    Except HeaderFault (Member × Cursor) :=
  match holesHeader? header with
  | none => .error .invalid
  | some h => do
    let (more, place) ← moreStretches s (s.octets.size + 1) h.extended m.place
    let offset := place + padded m.size
    return ({ m with size := h.size, place, holes := some (h.stretches ++ more) }, ⟨offset, records⟩)

def dropSlash (t : Text) : Text :=
  if t.getLast? = some (CodePoint.ofChar '/') then t.dropLast else t

/-- Reads the member whose header lies at a place. The first argument bounds the headers that say
more about it. -/
def readMember (s : Stream) : (rounds place : Nat) → (records : Records) →
    Except HeaderFault (Member × Cursor)
  | 0, _, _ => .error (.fatal .malformed)
  | rounds + 1, place, records =>
    match s.take place blockSize with
    | .error fault => .error (.fatal fault)
    | .ok header => do
      let m ← parseHeader header (place + blockSize)
      if longTypes.contains m.type then
        let (contents, place) ← following m
        let (next, cursor) ← required (readMember s rounds place records)
        let named := if m.type = 0x4C then { next with name := fieldText contents } else next
        let named := if named.isDirectory then { named with name := dropSlash named.name } else named
        return (named, cursor)
      else if m.type = holesType then holesMember s header m records
      else if recordTypes.contains m.type then
        let (contents, place) ← following m
        match parseRecords contents.length contents with
        | none => .error .invalid
        | some more =>
          let all := addRecords records more
          let isGlobal := m.type = globalType
          let (next, cursor) ← required (readMember s rounds place (if isGlobal then all else records))
          let next ← applyHoles s all more next
          if isGlobal then return (next, cursor)
          else
            match applyRecords all next with
            | .error fault => .error (.fatal fault)
            | .ok final =>
              let offset := final.place + if final.hasBlocks then padded final.size else 0
              if all.contains (Text.ofString "size") then return (final, { cursor with offset })
              else return (final, cursor)
      else plainMember m records
where
  /-- The contents of a header that says more about the next, and the place behind them. -/
  following (m : Member) : Except HeaderFault (Bytes × Nat) :=
    match s.take m.place (padded m.size) with
    | .error fault => .error (.fatal fault)
    | .ok contents => .ok (contents, m.place + contents.length)

/-- The members from a place on. A fault behind the first member ends the archive, unless contents
are missing or a header lacks the one that it speaks of. -/
def membersFrom (s : Stream) : (rounds : Nat) → Cursor → (done : List Member) →
    List Member × Option Fault
  | 0, _, done => (done.reverse, some .malformed)
  | rounds + 1, cursor, done =>
    let first := cursor.offset = 0
    match if first then .ok 0 else s.reach cursor.offset with
    | .error fault => (done.reverse, some fault)
    | .ok place =>
      match readMember s (s.octets.size / blockSize + 2) place cursor.records with
      | .ok (m, cursor) =>
        if cursor.offset = 0 then ((m :: done).reverse, none)
        else membersFrom s rounds cursor (m :: done)
      | .error .ended | .error .spoilt => (done.reverse, none)
      | .error (.fatal fault) => (done.reverse, some fault)
      | .error _ => (done.reverse, if first then some .malformed else none)

/-- The members of an archive, and the fault that ends it if there is one. -/
def members (s : Stream) : List Member × Option Fault :=
  membersFrom s (s.octets.size / blockSize + 2) ⟨0, []⟩ []

/-- The stretches and holes of a file of a size whose stored stretches lie one behind the other. -/
def stretches (size place last : Int) : List (Int × Int) → List Stretch
  | [] => if last < size then [⟨false, last, size, 0⟩] else []
  | (start, width) :: rest =>
    let here : List Stretch := [⟨true, start, start + width, place⟩]
    let hole : List Stretch := if last < start then [⟨false, last, start, 0⟩] else []
    hole ++ here ++ stretches size (place + width) (start + width) rest

/-- Reads a file with holes from a position on, always the next stretch that covers it, in a round.
Octets are gathered last stretch first. -/
def readHoles (s : Stream) (size : Int) : (rounds : Nat) → (position : Int) →
    (ahead behind : List Stretch) → (done : List Bytes) → Except Fault Bytes
  | 0, _, _, _, _ => .error .malformed
  | rounds + 1, position, ahead, behind, done =>
    if size ≤ position then .ok done.reverse.flatten
    else
      match ahead with
      | [] => if behind.isEmpty then .error .malformed else readHoles s size rounds position behind.reverse [] done
      | next :: rest =>
        if next.start ≤ position ∧ position < next.stop then do
          let width := min (size - position) (next.stop - position)
          let octets ←
            if next.stored then s.takeAll (next.place + (position - next.start)) width
            else do
              (checkHeld Room.zeros width).mapError Fault.mishap
              pure (List.replicate width.toNat (0 : UInt8))
          readHoles s size rounds (position + width) (next :: rest) behind (octets :: done)
        else readHoles s size rounds position rest (next :: behind) done

def Member.contents (m : Member) (s : Stream) : Except Fault Bytes :=
  match m.holes with
  | none => if m.size ≤ 0 then .ok [] else s.takeAll m.place m.size
  | some holes =>
    let parts := stretches m.size m.place 0 holes
    readHoles s m.size (2 * (parts.length + 2) * (parts.length + 2)) 0 parts [] []

end PolicyHost.Tar
