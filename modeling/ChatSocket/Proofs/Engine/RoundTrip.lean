import ChatSocket.Proofs.Engine.Spans
import ChatSocket.Proofs.Json.Scalar
import Mathlib.Algebra.Group.Nat.Defs

/-!
# Engine packets that survive the wire

What an Open writes is read as the Open, its spans cut to whole milliseconds (`parse_write`).  So
of all packets that are not broken, only an Open with other spans comes back changed; and whatever
a frame holds comes back as it was read.
-/

set_option autoImplicit false

namespace ChatSocket.Engine

open Json (Ends separator separateMembers quote print)

namespace Open

/-- The data as they come back: their spans in whole milliseconds, and not too many of them. -/
def inMillis (data : Open) : Open :=
  { data with
    pingInterval := .ofMillis data.pingInterval.millis
    pingTimeout := .ofMillis data.pingTimeout.millis }

/-! ## Fields -/

theorem unsigned_ofNat (value : Nat) (fits : value ≤ Duration.maxMillis) :
    Json.Schema.unsigned (.ofNat value) = .ok (UInt64.ofNat value) := by
  have exact : (UInt64.ofNat value).toNat = value :=
    UInt64.toNat_ofNat_of_lt' (Nat.lt_succ_of_le fits)
  simp [Json.Schema.unsigned, Json.ofNat, exact]

theorem schemaMillis_ofNat (millis : Nat) (fits : millis ≤ Duration.maxMillis) :
    schemaMillis (.ofNat millis) = .ok (.ofMillis millis) := by
  have exact : (UInt64.ofNat millis).toNat = millis :=
    UInt64.toNat_ofNat_of_lt' (Nat.lt_succ_of_le fits)
  rw [schemaMillis, unsigned_ofNat millis fits]
  simp only [Functor.map, Except.map, exact]

theorem schemaMaxPayload_ofNat (bytes : UInt64) :
    schemaMaxPayload (.ofNat bytes.toNat) = .ok (some bytes) := by
  have small : bytes.toNat ≤ Duration.maxMillis := Nat.le_of_lt_succ bytes.toNat_lt
  have read := unsigned_ofNat bytes.toNat small
  rw [UInt64.ofNat_toNat] at read
  simp only [schemaMaxPayload, Json.Schema.optional, Json.ofNat] at read ⊢
  rw [read]
  rfl

/-! Each field reads the value that is written for it. -/

section Field

variable (parts : Partial) (rest : List Char)

theorem readField_sid (sid : String) :
    readField .sid parts (print (.string sid) ++ rest) =
      .ok ({ parts with sid := some sid }, rest) := by
  have read := Json.readScalar_string Json.Schema.string sid sid rest rfl
  simp only [readField, read, bind, Except.bind, pure, Except.pure]

theorem readField_upgrades (upgrades : List String) :
    readField .upgrades parts (print (.array (upgrades.map .string)) ++ rest) =
      .ok ({ parts with upgrades := some upgrades }, rest) := by
  have read := Json.readSequence_string upgrades rest
  simp only [readField, read, bind, Except.bind, pure, Except.pure]

variable (ends : Ends rest)

include ends

theorem readField_pingInterval (span : Duration) :
    readField .pingInterval parts (print (.ofNat span.millis) ++ rest) =
      .ok ({ parts with pingInterval := some (.ofMillis span.millis) }, rest) := by
  have fits : span.millis ≤ Duration.maxMillis := Nat.min_le_right _ _
  have read := Json.readScalar_ofNat schemaMillis _ _ rest ends fits (schemaMillis_ofNat _ fits)
  simp only [readField, read, bind, Except.bind, pure, Except.pure]

theorem readField_pingTimeout (span : Duration) :
    readField .pingTimeout parts (print (.ofNat span.millis) ++ rest) =
      .ok ({ parts with pingTimeout := some (.ofMillis span.millis) }, rest) := by
  have fits : span.millis ≤ Duration.maxMillis := Nat.min_le_right _ _
  have read := Json.readScalar_ofNat schemaMillis _ _ rest ends fits (schemaMillis_ofNat _ fits)
  simp only [readField, read, bind, Except.bind, pure, Except.pure]

theorem readField_maxPayload (bytes : UInt64) :
    readField .maxPayload parts (print (.ofNat bytes.toNat) ++ rest) =
      .ok ({ parts with maxPayload := some (some bytes) }, rest) := by
  have fits : bytes.toNat ≤ Duration.maxMillis := Nat.le_of_lt_succ bytes.toNat_lt
  have read := Json.readScalar_ofNat schemaMaxPayload _ _ rest ends fits
    (schemaMaxPayload_ofNat bytes)
  simp only [readField, read, bind, Except.bind, pure, Except.pure]

end Field

/-! ## Members -/

theorem ofKey?_key (field : Field) : Field.ofKey? field.key = some field := by
  cases field <;> decide

/-- A member whose value is read as the field it is written for. -/
theorem readMembers_field (field : Field) (fuel : Nat) (first : Bool) (parts after : Partial)
    (value : Json) (later : List (String × Json)) (rest : List Char)
    (fresh : parts.has field = false)
    (read : readField field parts (print value ++ (separateMembers false later ++ rest)) =
      .ok (after, separateMembers false later ++ rest)) :
    readMembers (fuel + 1) first parts
        (separateMembers first ((field.key, value) :: later) ++ rest) =
      readMembers fuel false after (separateMembers false later ++ rest) := by
  rw [separateMembers, List.append_assoc, List.append_assoc, List.cons_append, List.append_assoc,
    readMembers, Json.nextKey_quote]
  simp only [bind, Except.bind, Json.stringBody_written, ofKey?_key, fresh, Json.colon_written,
    read]
  rfl

theorem readMembers_closed (fuel : Nat) (first : Bool) (parts : Partial) (rest : List Char) :
    readMembers (fuel + 1) first parts ('\x7d' :: rest) = .ok (parts, rest) := by
  have closed : Json.nextKey first ('\x7d' :: rest) = .ok (none, rest) := by
    simp [Json.nextKey, Json.skipBlanks, Json.isBlank]
  rw [readMembers, closed]
  rfl

def members (data : Open) : List (String × Json) :=
  [("sid", .string data.sid), ("upgrades", .array (data.upgrades.map .string)),
    ("pingInterval", .ofNat data.pingInterval.millis),
    ("pingTimeout", .ofNat data.pingTimeout.millis)] ++
    (data.maxPayload.map fun bytes => ("maxPayload", Json.ofNat bytes.toNat)).toList

theorem write_eq (data : Open) :
    data.write.toList = '\x7b' :: (separateMembers true data.members ++ ['\x7d']) := by
  cases limit : data.maxPayload <;>
    simp [write, Json.write, print, Json.printMembers_eq, members, limit]

/-- The members are read one after the other, each into its own field. -/
theorem readMembers_written (data : Open) (fuel : Nat) :
    readMembers (fuel + 6) true Partial.empty (separateMembers true data.members ++ ['\x7d']) =
      .ok (⟨some data.sid, some data.upgrades, some (.ofMillis data.pingInterval.millis),
        some (.ofMillis data.pingTimeout.millis), data.maxPayload.map some⟩, []) := by
  have ends := fun later => Json.ends_separateMembers later []
  obtain ⟨sid, upgrades, interval, timeout, limit⟩ := data
  refine (readMembers_field .sid (fuel + 5) true _ _ _ _ _ rfl (readField_sid _ _ sid)).trans ?_
  refine (readMembers_field .upgrades (fuel + 4) false _ _ _ _ _ rfl
    (readField_upgrades _ _ upgrades)).trans ?_
  refine (readMembers_field .pingInterval (fuel + 3) false _ _ _ _ _ rfl
    (readField_pingInterval _ _ (ends _) interval)).trans ?_
  refine (readMembers_field .pingTimeout (fuel + 2) false _ _ _ _ _ rfl
    (readField_pingTimeout _ _ (ends _) timeout)).trans ?_
  cases limit with
  | none => exact readMembers_closed (fuel + 1) false _ []
  | some bytes =>
      exact (readMembers_field .maxPayload (fuel + 1) false _ _ _ _ _ rfl
        (readField_maxPayload _ _ (ends []) bytes)).trans (readMembers_closed fuel false _ [])

/-! ## Whole data -/

theorem read_written (data : Open) : read data.write.toList = .ok (data.inMillis, []) := by
  have fuel : ∃ fuel, Json.fuelFor (separateMembers true data.members ++ ['\x7d']) = fuel + 6 := by
    refine ⟨3 * (separateMembers true data.members).length, ?_⟩
    simp only [Json.fuelFor, List.length_append, List.length_singleton]
    omega
  obtain ⟨fuel, enough⟩ := fuel
  rw [write_eq, read, Json.skipBlanks_of_head '\x7b' _ rfl]
  simp only [enough, readMembers_written, bind, Except.bind]
  cases limit : data.maxPayload <;>
    simp [Partial.finish, Json.fit, Json.Schema.needField, inMillis, limit, bind, Except.bind,
      pure, Except.pure]

theorem parse_write (data : Open) : parse data.write = .ok data.inMillis := by
  rw [parse, Json.readAll, read_written]
  rfl

theorem ofMillis_millis_iff (span : Duration) : .ofMillis span.millis = span ↔ IsCount span := by
  constructor
  · intro same
    exact ⟨span.millis, Nat.min_le_right _ _, same.symm⟩
  · rintro ⟨count, small, rfl⟩
    rw [Duration.millis_ofMillis count small]

theorem inMillis_eq_iff (data : Open) :
    data.inMillis = data ↔ IsCount data.pingInterval ∧ IsCount data.pingTimeout := by
  rw [← ofMillis_millis_iff, ← ofMillis_millis_iff]
  constructor
  · intro same
    exact ⟨congrArg pingInterval same, congrArg pingTimeout same⟩
  · rintro ⟨interval, timeout⟩
    rw [inMillis, interval, timeout]

end Open

namespace Packet

theorem decodeText_opening (body : String) :
    decodeText ("0" ++ body) =
      match Open.parse body with
      | .ok data => .opening data
      | .error fault => .broken ("0" ++ body) "broken json in open packet" fault.message := by
  have split : ("0" ++ body).toList = '0' :: body.toList := by simp
  cases parsed : Open.parse body <;>
    simp only [decodeText, split, decodeOpening, String.ofList_toList, parsed]

theorem decode?_encode_opening (data : Open) :
    decode? (opening data).encode = some (.opening data.inMillis) := by
  rw [encode, decode?, decodeText_opening, Open.parse_write]

theorem decode?_encode_of_notOpening (packet : Packet) (understood : packet.isBroken = false)
    (notOpening : ∀ data, packet ≠ .opening data) : decode? packet.encode = some packet := by
  cases packet with
  | opening data => exact absurd rfl (notOpening data)
  | message payload => exact decode?_encode_message payload
  | close | ping | pong | binary | upgrade | noop => rfl
  | broken => cases understood

/-! ## Whatever a text holds -/

/-- What a text says: its first character names the kind, the rest is the body. -/
inductive Holds (text : String) : Packet → Prop
  | empty (blank : text = "") : Holds text (.broken text "empty message" none)
  | opening (body : String) (data : Open) (split : text = "0" ++ body)
      (read : Open.parse body = .ok data) : Holds text (.opening data)
  | unread (body : String) (fault : Json.TextFault) (split : text = "0" ++ body)
      (refused : Open.parse body = .error fault) :
      Holds text (.broken text "broken json in open packet" fault.message)
  | close (body : String) (split : text = "1" ++ body) : Holds text .close
  | ping (body : String) (split : text = "2" ++ body) : Holds text .ping
  | pong (body : String) (split : text = "3" ++ body) : Holds text .pong
  | message (body : String) (split : text = "4" ++ body) : Holds text (.message body)
  | upgrade (body : String) (split : text = "5" ++ body) : Holds text .upgrade
  | noop (body : String) (split : text = "6" ++ body) : Holds text .noop
  | unknown (kind : Char) (body : String) (split : text = String.singleton kind ++ body)
      (other : kind ∉ ['0', '1', '2', '3', '4', '5', '6']) :
      Holds text (.broken text ("unknown packet type: " ++ kind.toString) none)

theorem decodeText_holds (text : String) : Holds text (decodeText text) := by
  have whole : ∀ kind body, text.toList = kind :: body →
      text = String.singleton kind ++ String.ofList body := by
    intro kind body split
    rw [← String.toList_inj, split]
    simp
  unfold decodeText
  split
  · rename_i blank
    exact .empty (String.toList_eq_nil_iff.mp blank)
  · rename_i body split
    unfold decodeOpening
    split
    · rename_i data read
      exact .opening (String.ofList body) data (whole _ _ split) read
    · rename_i fault refused
      exact .unread (String.ofList body) fault (whole _ _ split) refused
  · rename_i split
    exact .close _ (whole _ _ split)
  · rename_i split
    exact .ping _ (whole _ _ split)
  · rename_i split
    exact .pong _ (whole _ _ split)
  · rename_i split
    exact .message _ (whole _ _ split)
  · rename_i split
    exact .upgrade _ (whole _ _ split)
  · rename_i split
    exact .noop _ (whole _ _ split)
  · rename_i kind body notOpening notClose notPing notPong notMessage notUpgrade notNoop split
    refine .unknown kind _ (whole _ _ split) ?_
    simpa using ⟨notOpening, notClose, notPing, notPong, notMessage, notUpgrade, notNoop⟩

/-- The characters that name a kind. -/
def kinds : List Char := ['0', '1', '2', '3', '4', '5', '6']

theorem head?_of_holds (text : String) (packet : Packet) (holds : Holds text packet)
    (understood : packet.isBroken = false) : ∃ kind ∈ kinds, text.toList.head? = some kind := by
  cases holds with
  | opening body data split => exact ⟨'0', by decide, by simp [split]⟩
  | close body split => exact ⟨'1', by decide, by simp [split]⟩
  | ping body split => exact ⟨'2', by decide, by simp [split]⟩
  | pong body split => exact ⟨'3', by decide, by simp [split]⟩
  | message body split => exact ⟨'4', by decide, by simp [split]⟩
  | upgrade body split => exact ⟨'5', by decide, by simp [split]⟩
  | noop body split => exact ⟨'6', by decide, by simp [split]⟩
  | empty | unread | unknown => cases understood

theorem isBroken_iff (text : String) :
    (decodeText text).isBroken = true ↔
      text = "" ∨ (∃ kind ∈ text.toList.head?, kind ∉ kinds) ∨
        ∃ body, text = "0" ++ body ∧ ∀ data, Open.parse body ≠ .ok data := by
  have holds := decodeText_holds text
  constructor
  · intro broken
    generalize decodeText text = packet at holds broken
    cases holds with
    | empty blank => exact Or.inl blank
    | unknown kind body split other =>
        exact Or.inr (Or.inl ⟨kind, by simp [split], other⟩)
    | unread body fault split refused =>
        refine Or.inr (Or.inr ⟨body, split, fun data read => ?_⟩)
        cases refused.symm.trans read
    | opening | close | ping | pong | message | upgrade | noop => cases broken
  · intro cause
    cases understood : (decodeText text).isBroken with
    | true => rfl
    | false =>
        obtain ⟨kind, known, first⟩ := head?_of_holds text _ holds understood
        rcases cause with rfl | ⟨other, found, unknown⟩ | ⟨body, rfl, refused⟩
        · cases first
        · cases Option.some.inj (first.symm.trans found)
          exact absurd known unknown
        · rw [decodeText_opening] at understood
          cases read : Open.parse body with
          | ok data => exact absurd read (refused data)
          | error fault =>
              rw [read] at understood
              cases understood

/-- A broken text and a message are written as the text that they were read from. -/
theorem encode_of_holds (text : String) (packet : Packet) (holds : Holds text packet)
    (kept : packet.isBroken = true ∨ ∃ payload, packet = .message payload) :
    packet.encode = .text text := by
  cases holds with
  | empty | unread | unknown => rfl
  | message body split => rw [split, encode]
  | opening | close | ping | pong | upgrade | noop =>
      rcases kept with broken | ⟨payload, other⟩
      · cases broken
      · cases other

theorem raw_of_holds (text raw reason : String) (cause : Option String)
    (holds : Holds text (.broken raw reason cause)) : raw = text := by
  cases holds <;> rfl

/-- What was read from a text comes back as it was read. -/
theorem decode?_encode_of_text (text : String) :
    decode? (decodeText text).encode = some (decodeText text) := by
  have holds := decodeText_holds text
  cases understood : (decodeText text).isBroken with
  | true =>
      rw [encode_of_holds text _ holds (Or.inl understood)]
      rfl
  | false =>
      by_cases opening : ∃ data, decodeText text = .opening data
      · obtain ⟨data, read⟩ := opening
        have counts := isCount_of_decode? (.text text) data (congrArg some read)
        rw [read, decode?_encode_opening, (Open.inMillis_eq_iff data).mpr counts]
      · exact decode?_encode_of_notOpening _ understood (not_exists.mp opening)

/-- Every packet that is not broken is written so that it is read again, but an Open only in whole
milliseconds.  What a frame holds comes back as it was read, and of a broken text, a message or
bytes nothing at all is lost.  A text is broken if its first character names no kind, or if it
starts like an Open and is none. -/
theorem encode_decode_exact :
    (∀ packet : Packet, packet.isBroken = false → (∀ data, packet ≠ .opening data) →
      decode? packet.encode = some packet) ∧
      (∀ data : Open,
        decode? (opening data).encode = some (.opening { data with
          pingInterval := .ofMillis (min (data.pingInterval.nanoseconds / 1000000) (2 ^ 64 - 1))
          pingTimeout := .ofMillis (min (data.pingTimeout.nanoseconds / 1000000) (2 ^ 64 - 1)) }) ∧
        (decode? (opening data).encode = some (.opening data) ↔
          IsCount data.pingInterval ∧ IsCount data.pingTimeout)) ∧
      (∀ text, ∃ packet, decode? (.text text) = some packet ∧
        decode? packet.encode = some packet ∧
        (∀ raw reason cause, packet = .broken raw reason cause → raw = text) ∧
        (packet.isBroken = true ∨ (∃ payload, packet = .message payload) →
          packet.encode = .text text) ∧
        (packet.isBroken = true ↔
          text = "" ∨ (∃ kind ∈ text.toList.head?, kind ∉ kinds) ∨
            ∃ body, text = "0" ++ body ∧ ∀ data, Open.parse body ≠ .ok data)) ∧
      ∀ bytes, ∃ packet, decode? (.binary bytes) = some packet ∧ packet = .binary bytes ∧
        packet.encode = .binary bytes ∧ decode? packet.encode = some packet := by
  refine ⟨decode?_encode_of_notOpening, ?_, ?_, ?_⟩
  · intro data
    refine ⟨decode?_encode_opening data, ?_⟩
    rw [decode?_encode_opening, ← Open.inMillis_eq_iff, Option.some.injEq, opening.injEq]
  · intro text
    have holds := decodeText_holds text
    refine ⟨decodeText text, rfl, decode?_encode_of_text text, ?_, encode_of_holds text _ holds,
      isBroken_iff text⟩
    rintro raw reason cause broken
    rw [broken] at holds
    exact raw_of_holds text raw reason cause holds
  · intro bytes
    exact ⟨.binary bytes, rfl, rfl, rfl, rfl⟩

/-- A span of one and a half milliseconds, and a message that starts with a digit. -/
theorem encode_decode_exact_of_halfMilli :
    (decode? Packet.noop.encode = some .noop ∧
      decode? (opening ⟨"s", ["websocket"], ⟨1500000⟩, .ofMillis 5, some 9⟩).encode =
        some (.opening ⟨"s", ["websocket"], .ofMillis 1, .ofMillis 5, some 9⟩)) ∧
      ∃ packet, decode? (.text "440") = some packet ∧ packet.encode = .text "440" := by
  refine ⟨⟨encode_decode_exact.1 .noop rfl (by simp), (encode_decode_exact.2.1 _).1⟩, ?_⟩
  obtain ⟨packet, read, _, _, kept, _⟩ := encode_decode_exact.2.2.1 "440"
  have message : packet = .message "40" := by
    rw [← Option.some.inj read]
    decide +kernel
  exact ⟨packet, read, kept (Or.inr ⟨"40", message⟩)⟩

end Packet

end ChatSocket.Engine
