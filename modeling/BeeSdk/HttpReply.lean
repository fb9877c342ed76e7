import BeeSdk.HttpRange
import BeeSdk.IStream

/-! What the machine reads off a response: the bytes of a header taken for text, and the accessors
it asks the response by. -/
namespace BeeSdk.HttpMessage
open TextSearch HttpHeader IStream

/-- `std::string::substr`; a count below zero is as good as none. -/
def substr (text : Text) (pos : Nat) (count : Int) : Text :=
  if count < 0 then text.drop pos else (text.drop pos).take count.toNat

def textOf (bytes : List UInt8) : Text := bytes.map fun byte => Char.ofNat byte.toNat
def bytesOf (text : String) : List UInt8 := text.toList.map fun symbol => UInt8.ofNat symbol.toNat

namespace HttpResponse

/-- -1 for what is no number, and for nothing. -/
def getContentLen (response : HttpResponse) : Int :=
  (castInt64 (response.getHeader "Content-Length".toList)).getD (-1)

/-- What is in the two out-parameters afterwards. -/
def getRange (response : HttpResponse) (rangeBeg rangeEnd : Int) : Int × Int :=
  let rangeStr := response.getHeader "Content-Range".toList
  if rangeStr = [] then (-1, -1)
  else if "bytes".toList <+: rangeStr then
    match findFirstOf ' ' rangeStr, findFirstOf '-' rangeStr, findFirstOf '/' rangeStr with
    | some blank, some bar, some slash =>
      match castInt64 (substr rangeStr (blank + 1) (bar - (blank + 1))),
          castInt64 (substr rangeStr (bar + 1) (slash - (bar + 1))) with
      | some rangeBeg, some rangeEnd => (rangeBeg, rangeEnd)
      | _, _ => (-1, -1)
    | _, _, _ => (rangeBeg, rangeEnd)
  else (rangeBeg, rangeEnd)

/-- `HttpResponse(io_buf)` as the machine goes on with it: nothing where it is not valid. -/
def read (memory : Nat) (header : List UInt8) : Option HttpBody.HttpResponse :=
  let response := ofLines memory (textOf header)
  if ¬ response.isValid then none
  else some {
    statusCode := response.statusCode
    contentLen := response.getContentLen
    rangeBeg := (response.getRange 0 0).1
    location := String.ofList (response.getHeader "Location".toList) }

theorem textOf_injective {bytes other : List UInt8} (same : textOf bytes = textOf other) :
    bytes = other := by
  have back (byte : UInt8) : UInt8.ofNat (Char.ofNat byte.toNat).toNat = byte := by
    have valid : byte.toNat.isValidChar := .inl (Nat.lt_trans byte.toNat_lt (by decide))
    rw [Char.ofNat, dif_pos valid]
    exact UInt8.ofNat_toNat
  refine List.map_injective_iff.mpr (fun byte byte' equal => ?_) same
  rw [← back byte, ← back byte', equal]

/-- Without the two line ends behind each other a header is not valid. -/
theorem read_endless (memory : Nat) {header : List UInt8} (endless : ¬ crlf ++ crlf <:+: header) :
    read memory header = none := by
  have missing : find "\r\n\r\n".toList (textOf header) = none := by
    rw [find_eq_none_iff]
    intro within
    obtain ⟨bytes, inside, ends⟩ := List.infix_map_iff.mp within
    rw [textOf_injective (show textOf (crlf ++ crlf) = textOf bytes from ends)] at endless
    exact endless inside
  have invalid : (ofLines memory (textOf header)).isValid = false := by
    rw [ofLines, parseBody, if_pos missing]
  rw [read, invalid]
  rfl

end HttpResponse

/-- The surroundings of a session with the parser it has. -/
def reading {Endpoint : Type} (literal : List Char → List Char → Option Endpoint) (memory : Nat) :
    Session.Surroundings Endpoint :=
  ⟨literal, HttpResponse.read memory⟩

end BeeSdk.HttpMessage
