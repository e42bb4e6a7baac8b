import PolicyHost.Json.Reader
import PolicyHost.Text.Utf8
import PolicyHost.Text.Wide

/-!
# JSON documents as octets

The encoding of a document shows in its first octets: a byte order mark, or the zero octets around
the first two code points. Without such a sign it is UTF-8. Surrogates may stand alone.

* `Encoding.detect`: the encoding of a document.
* `readOctets`: decoding and reading.
-/

namespace PolicyHost.Json

/-- The encodings a document may have. The marked forms start with a byte order mark, which fixes
the order of octets. -/
inductive Encoding
  | utf8
  | utf8Marked
  | utf16 (order : Wide.Order)
  | utf16Marked (order : Wide.Order)
  | utf32 (order : Wide.Order)
  | utf32Marked (order : Wide.Order)
deriving DecidableEq, Repr

/-- The encoding that a byte order mark names. -/
def Encoding.marked? : Bytes → Option Encoding
  | 0 :: 0 :: 0xFE :: 0xFF :: _ => some (.utf32Marked .big)
  | 0xFF :: 0xFE :: 0 :: 0 :: _ => some (.utf32Marked .little)
  | 0xFE :: 0xFF :: _ => some (.utf16Marked .big)
  | 0xFF :: 0xFE :: _ => some (.utf16Marked .little)
  | 0xEF :: 0xBB :: 0xBF :: _ => some .utf8Marked
  | _ => none

/-- The encoding that the zero octets at the start show. -/
def Encoding.ofZeros : Bytes → Encoding
  | a :: b :: c :: d :: _ =>
    if a = 0 then if b = 0 then .utf32 .big else .utf16 .big
    else if b = 0 then if c = 0 ∧ d = 0 then .utf32 .little else .utf16 .little
    else .utf8
  | [a, b] => if a = 0 then .utf16 .big else if b = 0 then .utf16 .little else .utf8
  | _ => .utf8

/-- The encoding that the first octets show: by a mark, otherwise by their zeros. -/
def Encoding.detect (bytes : Bytes) : Encoding :=
  (marked? bytes).getD (ofZeros bytes)

/-- Why octets are no document. -/
inductive OctetFault
  | utf8 (fault : Utf8.Malformed)
  | utf16 (order : Wide.Order) (fault : Wide.Malformed)
  | utf32 (order : Wide.Order) (fault : Wide.Malformed)
  | text (fault : ReadFault)
deriving DecidableEq, Repr

def decodeOctets (bytes : Bytes) : Except OctetFault Text :=
  match Encoding.detect bytes with
  | .utf8 => (Utf8.decodeWithHalves bytes).mapError .utf8
  | .utf8Marked => (Utf8.decodeWithHalves (bytes.drop 3)).mapError .utf8
  | .utf16 order => (Wide.decode16 order 0 bytes).mapError (.utf16 order)
  | .utf16Marked order => (Wide.decode16 order 2 (bytes.drop 2)).mapError (.utf16 order)
  | .utf32 order => (Wide.decode32 order 0 bytes).mapError (.utf32 order)
  | .utf32Marked order => (Wide.decode32 order 4 (bytes.drop 4)).mapError (.utf32 order)

def readOctets [Room] (bytes : Bytes) : Except OctetFault Json := do
  let t ← decodeOctets bytes
  (read t).mapError .text

end PolicyHost.Json

namespace PolicyHost

/-- The wording for a stretch of octets that an encoding cannot hold. -/
def undecodable (encoding : Text) (first : UInt8) (start width : Nat) (reason : Text) : Text :=
  let place :=
    if width = 1 then
      "byte 0x" ++ Text.hexByte first ++ " in position " ++ Text.ofNat start
    else
      "bytes in position " ++ Text.ofNat start ++ "-" ++ Text.ofNat (start + width - 1)
  "'" ++ encoding ++ "' codec can't decode " ++ place ++ ": " ++ reason

end PolicyHost

namespace PolicyHost.Utf8

def Flaw.message : Flaw → Text
  | .start => "invalid start byte"
  | .continuation => "invalid continuation byte"
  | .ending => "unexpected end of data"

def Malformed.message (fault : Malformed) : Text :=
  undecodable "utf-8" fault.first fault.start fault.width fault.flaw.message

/-- Surrogates that cannot be written, in words. -/
def Unwritable.message (fault : Unwritable) : Text :=
  let place :=
    if fault.width = 1 then
      "character '\\u" ++ Text.hexDigits 4 fault.first.val ++ "' in position "
        ++ Text.ofNat fault.start
    else
      "characters in position " ++ Text.ofNat fault.start ++ "-"
        ++ Text.ofNat (fault.start + fault.width - 1)
  "'utf-8' codec can't encode " ++ place ++ ": surrogates not allowed"

end PolicyHost.Utf8

namespace PolicyHost.Json

/-- The ending of the name of an encoding that has an order of octets. -/
def orderName : Wide.Order → Text
  | .little => "-le"
  | .big => "-be"

/-- A malformed stretch of wide units in words. -/
def wideMessage (encoding : Text) (fault : Wide.Malformed) : Text :=
  let reason : Text := match fault.flaw with
    | .truncated => "truncated data"
    | .beyond => "code point not in range(0x110000)"
  undecodable encoding fault.first fault.start fault.width reason

def OctetFault.message : OctetFault → Text
  | .utf8 fault => fault.message
  | .utf16 order fault => wideMessage ("utf-16" ++ orderName order) fault
  | .utf32 order fault => wideMessage ("utf-32" ++ orderName order) fault
  | .text fault => fault.message

end PolicyHost.Json
