import FacilityBooking.Message.ErrorReply
import FacilityBooking.Proofs.Datagram.Reading
import FacilityBooking.Proofs.Text.Lengths

/-!
# Long messages

An error reply with a message of any length is written and read back. What is sent of the
message is its longest start that the length field can announce and that does not break a
character in two, which is where a search that steps back from the limit stops.
-/

namespace FacilityBooking

/-! ## The longest start that fits -/

/-- `start` is the longest start of the text, in whole characters, of at most `room` bytes. -/
structure Text.LongestStart (room : Nat) (text start : String) : Prop where
  isStart : ∃ tail, text = start ++ tail
  fits : start.utf8ByteSize ≤ room
  longest : ∀ other tail, text = other ++ tail → other.utf8ByteSize ≤ room →
    other.utf8ByteSize ≤ start.utf8ByteSize

namespace ErrorReply

variable {room : Nat} {letters start : List Char}

theorem takeBytes_isPrefix (room : Nat) (letters : List Char) :
    takeBytes room letters <+: letters := by
  induction letters generalizing room with
  | nil => exact List.prefix_rfl
  | cons letter rest ih =>
      rw [takeBytes]
      split
      · exact List.cons_prefix_cons.mpr ⟨rfl, ih _⟩
      · exact List.nil_prefix

theorem utf8ByteSize_takeBytes_le (room : Nat) (letters : List Char) :
    (String.ofList (takeBytes room letters)).utf8ByteSize ≤ room := by
  induction letters generalizing room with
  | nil => exact Nat.zero_le room
  | cons letter rest ih =>
      rw [takeBytes]
      split
      · next hletter =>
          have hrest := ih (room - letter.utf8Size)
          rw [Text.utf8ByteSize_ofList_cons]
          omega
      · exact Nat.zero_le room

/-- Every start of the characters that fits is a start of what is taken. -/
theorem isPrefix_takeBytes (hstart : start <+: letters)
    (hfits : (String.ofList start).utf8ByteSize ≤ room) : start <+: takeBytes room letters := by
  induction letters generalizing room start with
  | nil => exact hstart
  | cons letter rest ih =>
      rcases List.prefix_cons_iff.mp hstart with rfl | ⟨others, rfl, hothers⟩
      · exact List.nil_prefix
      · rw [Text.utf8ByteSize_ofList_cons] at hfits
        rw [takeBytes, if_pos (by omega)]
        exact List.cons_prefix_cons.mpr ⟨rfl, ih hothers (by omega)⟩

theorem takeBytes_eq_self (hfits : (String.ofList letters).utf8ByteSize ≤ room) :
    takeBytes room letters = letters :=
  (takeBytes_isPrefix room letters).eq_of_length_le
    (isPrefix_takeBytes List.prefix_rfl hfits).length_le

/-- The first character that is not taken has at most four bytes, and so few bytes of the
room are left over. -/
theorem room_le_takeBytes (hlong : room < (String.ofList letters).utf8ByteSize) :
    room ≤ (String.ofList (takeBytes room letters)).utf8ByteSize + 3 := by
  induction letters generalizing room with
  | nil => exact absurd hlong (Nat.not_lt_zero room)
  | cons letter rest ih =>
      have hletter := letter.utf8Size_le_four
      rw [Text.utf8ByteSize_ofList_cons] at hlong
      rw [takeBytes]
      split
      · have hrest := @ih (room - letter.utf8Size) (by omega)
        rw [Text.utf8ByteSize_ofList_cons]
        omega
      · omega

theorem longestStart_takeBytes (room : Nat) (text : String) :
    Text.LongestStart room text (String.ofList (takeBytes room text.toList)) where
  isStart := by
    obtain ⟨tail, htail⟩ := takeBytes_isPrefix room text.toList
    exact ⟨String.ofList tail, by rw [← String.ofList_append, htail, String.ofList_toList]⟩
  fits := utf8ByteSize_takeBytes_le room text.toList
  longest := by
    rintro other tail rfl hother
    have hstart : other.toList <+: (other ++ tail).toList := by
      rw [String.toList_append]
      exact List.prefix_append _ _
    have hfits : (String.ofList other.toList).utf8ByteSize ≤ room := by
      rwa [String.ofList_toList]
    obtain ⟨rest, hrest⟩ := isPrefix_takeBytes hstart hfits
    rw [← hrest, String.ofList_append, String.ofList_toList, String.utf8ByteSize_append]
    exact Nat.le_add_right _ _

example : takeBytes 4 ['a', 'é', 'ß'] = ['a', 'é'] := by decide

end ErrorReply

/-! ## Stepping back to the end of a character -/

namespace Text

variable {text start : String} {room cut found : Nat}

/-- The first position between two characters on the way back from `cut`, one byte at a time;
none if the way leads below zero. -/
def stepBack? (text : String) : Nat → Option Nat
  | 0 => if String.Pos.Raw.isValid text ⟨0⟩ then some 0 else none
  | cut + 1 => if String.Pos.Raw.isValid text ⟨cut + 1⟩ then some (cut + 1) else stepBack? text cut

theorem stepBack?_of_last (hle : found ≤ cut) (hfound : String.Pos.Raw.IsValid text ⟨found⟩)
    (hlast : ∀ position ≤ cut, String.Pos.Raw.IsValid text ⟨position⟩ → position ≤ found) :
    stepBack? text cut = some found := by
  induction cut with
  | zero =>
      obtain rfl := Nat.le_zero.mp hle
      rw [stepBack?, if_pos (String.Pos.Raw.isValid_eq_true_iff.mpr hfound)]
  | succ cut ih =>
      rw [stepBack?]
      split
      · next hcut =>
          have hstop := hlast _ (Nat.le_refl _) (String.Pos.Raw.isValid_eq_true_iff.mp hcut)
          rw [Nat.le_antisymm hstop hle]
      · next hcut =>
          have hbefore : found ≠ cut + 1 := by
            rintro rfl
            exact hcut (String.Pos.Raw.isValid_eq_true_iff.mpr hfound)
          exact ih (by omega) fun position hposition =>
            hlast position (Nat.le_succ_of_le hposition)

/-- The way back from the limit ends behind the longest start that fits. -/
theorem LongestStart.stepBack?_eq (hstart : LongestStart room text start) :
    stepBack? text room = some start.utf8ByteSize := by
  obtain ⟨tail, htail⟩ := hstart.isStart
  refine stepBack?_of_last hstart.fits
    (String.Pos.Raw.isValid_iff_exists_append.mpr ⟨start, tail, htail, rfl⟩) ?_
  intro position hposition hvalid
  obtain ⟨other, rest, hother, hsize⟩ := String.Pos.Raw.isValid_iff_exists_append.mp hvalid
  obtain rfl : position = other.utf8ByteSize := congrArg String.Pos.Raw.byteIdx hsize
  exact hstart.longest other rest hother hposition

example : stepBack? "aéß" 4 = some 3 := by decide

end Text

/-! ## Error replies with any message -/

namespace ErrorReply

theorem sentMessage_of_short {reply : ErrorReply}
    (hshort : reply.message.utf8ByteSize ≤ Field.maxTextBytes) :
    reply.sentMessage = reply.message :=
  if_pos hshort

theorem sentMessage_eq (reply : ErrorReply) :
    reply.sentMessage = String.ofList (takeBytes Field.maxTextBytes reply.message.toList) := by
  rw [sentMessage]
  split
  · next hshort => rw [takeBytes_eq_self (by rwa [String.ofList_toList]), String.ofList_toList]
  · rfl

theorem longestStart_sentMessage (reply : ErrorReply) :
    Text.LongestStart Field.maxTextBytes reply.message reply.sentMessage := by
  rw [sentMessage_eq]
  exact longestStart_takeBytes Field.maxTextBytes reply.message

/-- What is sent of a message always has an encoding. -/
theorem textBytes_sentMessage (reply : ErrorReply) :
    Field.textBytes reply.sentMessage = .ok
      (Field.word16Bytes (.ofNat reply.sentMessage.utf8ByteSize) ++
        Field.utf8 reply.sentMessage) :=
  if_pos reply.longestStart_sentMessage.fits

theorem bytes_eq (reply : ErrorReply) :
    reply.bytes = Field.word16Bytes reply.category.code ++
      (Field.word16Bytes (.ofNat reply.sentMessage.utf8ByteSize) ++
        Field.utf8 reply.sentMessage) := by
  rw [bytes, textBytes_sentMessage]

theorem length_bytes (reply : ErrorReply) :
    reply.bytes.length = 4 + reply.sentMessage.utf8ByteSize := by
  simp only [bytes_eq, Field.word16Bytes, List.length_append, List.length_cons, List.length_nil,
    Field.length_utf8]
  omega

/-- The bytes of a reply are read back as its kind and what is sent of its message, whatever
stands behind them. -/
theorem reader_append (reply : ErrorReply) (rest : Bytes) :
    reader (reply.bytes ++ rest) = (.ok ⟨reply.category, reply.sentMessage⟩, rest) := by
  simp only [reader, FieldReader.bind_eq_ok_iff, FieldReader.word16_eq_ok_iff,
    FieldReader.text_eq_ok_iff, FieldReader.pure_eq_ok_iff]
  refine ⟨reply.category.code, _, ?_, _, rest, ⟨_, reply.textBytes_sentMessage, rfl⟩, ?_, rfl⟩
  · rw [bytes_eq, List.append_assoc]
  · rw [ErrorCategory.ofCode_code]

theorem maxTextBytes_le_sentMessage {reply : ErrorReply}
    (hlong : Field.maxTextBytes < reply.message.utf8ByteSize) :
    Field.maxTextBytes ≤ reply.sentMessage.utf8ByteSize + 3 := by
  rw [sentMessage_eq]
  exact room_le_takeBytes (by rwa [String.ofList_toList])

/-- An error reply arrives whatever its message is. Its bytes are four more than those of the
sent text, which always has an encoding, and they are read back, with anything behind them, as
the kind of error and that text. The sent text is the longest start of the message in whole
characters that takes at most 65535 bytes, and its end is found by stepping back from there. It
is all of a message that fits, and takes at least 65532 bytes of any other one. -/
theorem any_message_arrives (reply : ErrorReply) :
    (∃ written, Field.textBytes reply.sentMessage = .ok written ∧
      reply.bytes = Field.word16Bytes reply.category.code ++ written) ∧
    reply.bytes.length = 4 + reply.sentMessage.utf8ByteSize ∧
    (∀ rest, decode (reply.bytes ++ rest) = .ok ⟨reply.category, reply.sentMessage⟩) ∧
    Text.LongestStart 65535 reply.message reply.sentMessage ∧
    Text.stepBack? reply.message 65535 = some reply.sentMessage.utf8ByteSize ∧
    (reply.message.utf8ByteSize ≤ 65535 → reply.sentMessage = reply.message) ∧
    (65535 < reply.message.utf8ByteSize → 65532 ≤ reply.sentMessage.utf8ByteSize) := by
  refine ⟨⟨_, reply.textBytes_sentMessage, reply.bytes_eq⟩, reply.length_bytes, ?_,
    reply.longestStart_sentMessage, reply.longestStart_sentMessage.stepBack?_eq,
    sentMessage_of_short, ?_⟩
  · intro rest
    exact FieldReader.value?_eq_ok_iff.mpr ⟨rest, reply.reader_append rest⟩
  · intro hlong
    have hsize := maxTextBytes_le_sentMessage hlong
    unfold Field.maxTextBytes at hsize
    omega

/-- A message of 65536 letters is cut, and the reply is read back all the same. -/
theorem cut_message_arrives :
    ∃ reply : ErrorReply, reply.category = .notFound ∧ 65535 < reply.message.utf8ByteSize ∧
      65532 ≤ reply.sentMessage.utf8ByteSize ∧
      decode reply.bytes = .ok ⟨.notFound, reply.sentMessage⟩ := by
  have hlong : 65535 < (String.ofList (List.replicate 65536 'x')).utf8ByteSize := by
    have hletters := Text.length_le_utf8ByteSize_ofList (List.replicate 65536 'x')
    rw [List.length_replicate] at hletters
    omega
  obtain ⟨-, -, hread, -, -, -, hcut⟩ :=
    any_message_arrives ⟨.notFound, .ofList (.replicate 65536 'x')⟩
  have hdecode := hread []
  rw [List.append_nil] at hdecode
  exact ⟨⟨.notFound, .ofList (.replicate 65536 'x')⟩, rfl, hlong, hcut hlong, hdecode⟩

end ErrorReply

end FacilityBooking
