import FacilityBooking.Datagram.Field

/-!
# Error replies

The reply to a request that was not carried out: what kind of error it is, and a
message for people. A message too long for its length field is cut at the end of
a character.
-/

namespace FacilityBooking

inductive ErrorCategory where
  | conflict
  | notFound
  | badRequest
  | internal
  deriving DecidableEq, Repr

namespace ErrorCategory

def code : ErrorCategory → UInt16
  | conflict => 1
  | notFound => 2
  | badRequest => 3
  | internal => 4

/-- The category with the given code; codes of a newer peer count as internal errors. -/
def ofCode (code : UInt16) : ErrorCategory :=
  if code = 1 then conflict
  else if code = 2 then notFound
  else if code = 3 then badRequest
  else internal

def label : ErrorCategory → String
  | conflict => "conflict"
  | notFound => "not_found"
  | badRequest => "bad_request"
  | internal => "internal"

@[simp]
theorem ofCode_code (category : ErrorCategory) : ofCode category.code = category := by
  cases category <;> rfl

end ErrorCategory

structure ErrorReply where
  category : ErrorCategory
  message : String
  deriving DecidableEq, Repr

namespace ErrorReply

/-- The longest start of the characters whose encoding takes at most `room` bytes. -/
def takeBytes (room : Nat) : List Char → List Char
  | [] => []
  | letter :: rest =>
      if letter.utf8Size ≤ room then letter :: takeBytes (room - letter.utf8Size) rest else []

/-- The message, cut to what a length field can announce. -/
def sentMessage (reply : ErrorReply) : String :=
  if reply.message.utf8ByteSize ≤ Field.maxTextBytes then reply.message
  else String.ofList (takeBytes Field.maxTextBytes reply.message.toList)

def bytes (reply : ErrorReply) : Bytes :=
  Field.word16Bytes reply.category.code ++
    match Field.textBytes reply.sentMessage with
    | .ok text => text
    | .error _ => []

def reader : FieldReader ErrorReply := do
  let code ← FieldReader.word16
  let message ← FieldReader.text
  return ⟨.ofCode code, message⟩

def decode (payload : Bytes) : Except FormatError ErrorReply :=
  reader.value? payload

end ErrorReply

end FacilityBooking
