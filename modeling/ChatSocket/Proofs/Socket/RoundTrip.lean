import ChatSocket.Proofs.Socket.Head

/-!
# Packets that survive the wire

A packet is `Canonical` if it names a real namespace and holds no null where nothing would
say the same.  `decode_encode_iff` shows that these are the packets that come back as they
were, and every text is decoded to one of them.  The payload is taken on trust: it must be a
value whose text reads back (`ReadsBack`).
-/

set_option autoImplicit false

namespace ChatSocket.Socket

namespace Refusal

/-- A refusal as it comes back: null says nothing. -/
def withoutNull (refusal : Refusal) : Refusal :=
  match refusal.data with
  | some .null => ⟨refusal.message, none⟩
  | _ => refusal

theorem fields_toJson (refusal : Refusal) :
    ∃ members : Json.Members, refusal.toJson = .object members ∧
      Json.Members.get? "data" members = refusal.data ∧
      Json.Members.get? "message" members = some (.string refusal.message) := by
  obtain ⟨message, data⟩ := refusal
  cases data with
  | none => exact ⟨_, rfl, rfl, rfl⟩
  | some value =>
      refine ⟨_, rfl, Json.Members.get?_insert_self _ _ _, ?_⟩
      exact Json.Members.get?_insert_of_ne "data" "message" _ _ (by decide)

theorem ofJson_toJson_withoutNull (refusal : Refusal) :
    ofJson refusal.toJson = .ok refusal.withoutNull := by
  obtain ⟨members, written, dataFound, messageFound⟩ := refusal.fields_toJson
  rw [written]
  simp only [ofJson, Json.Schema.record, Json.Schema.field?, dataFound, messageFound]
  obtain ⟨message, data⟩ := refusal
  cases data with
  | none => rfl
  | some value => cases value <;> rfl

theorem ne_null_of_optional (members : Json.Members) (data : Option (Option Json))
    (read : Json.Schema.field? "data" (Json.Schema.optional Json.Schema.any) members = .ok data) :
    data.getD none ≠ some .null := by
  rw [Json.Schema.field?] at read
  cases found : Json.Members.get? "data" members with
  | none =>
      rw [found] at read
      cases read
      simp
  | some value =>
      rw [found] at read
      cases value <;> cases read <;> simp

theorem data_ne_null_of_ofJson (members : Json.Members) (refusal : Refusal)
    (read : ofJson (.object members) = .ok refusal) : refusal.data ≠ some .null := by
  simp only [ofJson, Json.Schema.record, bind, Except.bind, pure, Except.pure] at read
  split at read
  · cases read
  · rename_i data dataRead
    split at read
    · cases read
    · split at read
      · cases read
      · cases read
        exact ne_null_of_optional members data dataRead

end Refusal

namespace Packet

/-- Packets without bytes that were understood. -/
def isText : Packet → Bool
  | .connect .. | .disconnect _ | .event .. | .acknowledge .. | .connectError .. => true
  | .binaryEvent .. | .binaryAcknowledge .. | .broken .. => false

/-- The value whose text ends the written packet. -/
def payload? : Packet → Option Json
  | .connect _ data => data.map .object
  | .event _ _ name args => some (.array (.string name :: args))
  | .acknowledge _ _ data => data.map .array
  | .connectError _ data => data.map Refusal.toJson
  | .disconnect _ | .binaryEvent .. | .binaryAcknowledge .. | .broken .. => none

/-- The text of the payload is read as the payload. -/
def ReadsBack (packet : Packet) : Prop :=
  ∀ value, packet.payload? = some value → Json.parse value.write = .ok value

structure Canonical (packet : Packet) : Prop where
  named : ∀ ns, packet.ns? = some ns → IsNamespace ns.toList
  notNull : ∀ ns message, packet ≠ .connectError ns (some ⟨message, some .null⟩)

/-! ## What is written -/

/-- The head that `encodeParts` writes; the default namespace is left out. -/
def headOf (kind : Nat) (ns : String) (ackId : Option UInt64) (payload : Option Json) : Header where
  kind := kind
  attachments := none
  ns := if ns = defaultNamespace then none else some ns.toList
  ackId := ackId
  payload := (payload.map Json.print).getD []

theorem encodeParts_toList (kind : Nat) (small : kind < 10) (ns : String)
    (ackId : Option UInt64) (payload : Option Json) :
    (encodeParts kind ns ackId payload).toList = (headOf kind ns ackId payload).written := by
  have digit : (toString kind).toList = [Nat.digitChar kind] := by
    rw [Nat.toString_eq_repr, Nat.toList_repr, Nat.toDigits_of_lt_base small]
  have nsPart : (if ns = defaultNamespace then "" else ns ++ ",").toList =
      Header.writeNamespace (headOf kind ns ackId payload).ns := by
    by_cases default : ns = defaultNamespace <;> simp [default, headOf, Header.writeNamespace]
  have ackIdPart : ((ackId.map fun id => toString id.toNat).getD "").toList =
      Header.writeAckId ackId := by
    cases ackId <;> simp [Header.writeAckId]
  have payloadPart : ((payload.map Json.write).getD "").toList =
      (headOf kind ns ackId payload).payload := by
    cases payload <;> simp [headOf, Json.write]
  simp only [encodeParts, String.toList_append, digit, nsPart, ackIdPart, payloadPart]
  simp [Header.written, headOf]

theorem ns_headOf (kind : Nat) (ns : String) (ackId : Option UInt64) (payload : Option Json) :
    ((headOf kind ns ackId payload).ns.map String.ofList).getD defaultNamespace = ns := by
  by_cases default : ns = defaultNamespace <;> simp [headOf, default]

/-- An array or an object does not start like a part of the head. -/
theorem apart_payload (packet : Packet) :
    Header.Apart ((packet.payload?.map Json.print).getD []) := by
  have bracket : ∀ items : List Json, Header.Apart (Json.array items).print := by
    intro items c first
    have equal : '[' = c := by simpa [Json.print] using first
    rw [← equal]
    decide
  have brace : ∀ members : Json.Members, Header.Apart (Json.object members).print := by
    intro members c first
    have equal : '\x7b' = c := by simpa [Json.print] using first
    rw [← equal]
    decide
  have nothing : Header.Apart [] := by
    intro c first
    cases first
  cases packet with
  | connect ns data =>
      cases data with
      | none => exact nothing
      | some members => exact brace members
  | event ns ackId name args => exact bracket _
  | acknowledge ns ackId data =>
      cases data with
      | none => exact nothing
      | some items => exact bracket items
  | connectError ns data =>
      cases data with
      | none => exact nothing
      | some refusal => exact brace _
  | disconnect | binaryEvent | binaryAcknowledge | broken => exact nothing

theorem decodeAll_of_scan (text : List Char) (header : Header)
    (read : Header.scan text = .ok header) : decodeAll text = decodeBody header := by
  rw [decodeAll, read]
  rfl

theorem decode_encodeParts (packet meant : Packet) (kind : Nat) (small : kind < 10) (ns : String)
    (ackId : Option UInt64) (named : IsNamespace ns.toList)
    (body : decodeBody (headOf kind ns ackId packet.payload?) = .ok meant) :
    decode (encodeParts kind ns ackId packet.payload?) = meant := by
  have read : Header.scan (encodeParts kind ns ackId packet.payload?).toList =
      .ok (headOf kind ns ackId packet.payload?) := by
    rw [encodeParts_toList kind small]
    apply Header.scan_written _ small rfl _ packet.apart_payload
    intro name member
    by_cases default : ns = defaultNamespace
    · simp [headOf, default] at member
    · have equal : ns.toList = name := by simpa [headOf, default] using member
      rw [← equal]
      exact named
  rw [decode, decodeAll_of_scan _ _ read, body]

/-! ## What is read -/

theorem readPayload_print (value : Json) (readsBack : Json.parse value.write = .ok value) :
    readPayload value.print = .ok value := by
  have same : String.ofList value.print = value.write := rfl
  rw [readPayload, same, readsBack]
  rfl

theorem readOptional_print (value : Json) (nonempty : value.print ≠ [])
    (readsBack : Json.parse value.write = .ok value) :
    readOptional value.print = .ok (some value) := by
  have filled : value.print.isEmpty = false := by simpa using nonempty
  rw [readOptional, filled, readPayload_print value readsBack]
  rfl

theorem decodeConnect_print (ns : String) (data : Option Json.Members)
    (readsBack : ReadsBack (.connect ns data)) :
    decodeConnect ns (((data.map Json.object).map Json.print).getD []) =
      .ok (.connect ns data) := by
  cases data with
  | none => rfl
  | some members =>
      have value := readOptional_print (.object members) (by simp [Json.print]) (readsBack _ rfl)
      simp only [decodeConnect, Option.map_some, Option.getD_some, value]
      rfl

theorem decodeEvent_print (ns : String) (ackId : Option UInt64) (name : String) (args : List Json)
    (readsBack : ReadsBack (.event ns ackId name args)) :
    decodeEvent ns ackId (Json.array (.string name :: args)).print =
      .ok (.event ns ackId name args) := by
  have value := readPayload_print (.array (.string name :: args)) (readsBack _ rfl)
  simp only [decodeEvent, value]
  rfl

theorem decodeAcknowledge_print (ns : String) (ackId : UInt64) (data : Option (List Json))
    (readsBack : ReadsBack (.acknowledge ns ackId data)) :
    decodeAcknowledge ns (some ackId) (((data.map Json.array).map Json.print).getD []) =
      .ok (.acknowledge ns ackId data) := by
  cases data with
  | none => rfl
  | some items =>
      have value := readOptional_print (.array items) (by simp [Json.print]) (readsBack _ rfl)
      simp only [decodeAcknowledge, Option.map_some, Option.getD_some, value]
      rfl

theorem decodeConnectError_print (ns : String) (data : Option Refusal)
    (readsBack : ReadsBack (.connectError ns data)) :
    decodeConnectError ns (((data.map Refusal.toJson).map Json.print).getD []) =
      .ok (.connectError ns (data.map Refusal.withoutNull)) := by
  cases data with
  | none => rfl
  | some refusal =>
      obtain ⟨members, written, _⟩ := refusal.fields_toJson
      have value := readOptional_print refusal.toJson (by simp [written, Json.print])
        (readsBack _ rfl)
      have meant := refusal.ofJson_toJson_withoutNull
      simp only [decodeConnectError, Option.map_some, Option.getD_some, value, bind, Except.bind]
      rw [written] at meant ⊢
      simp only [meant]
      rfl

/-- A packet as it comes back. -/
def withoutNull : Packet → Packet
  | .connectError ns data => .connectError ns (data.map Refusal.withoutNull)
  | packet => packet

theorem withoutNull_of_canonical (packet : Packet) (canonical : Canonical packet) :
    packet.withoutNull = packet := by
  cases packet with
  | connectError ns data =>
      rcases data with _ | ⟨message, _ | value⟩
      · rfl
      · rfl
      · cases value with
        | null => exact absurd rfl (canonical.notNull ns message)
        | bool | number | string | array | object => rfl
  | connect | disconnect | event | acknowledge | binaryEvent | binaryAcknowledge | broken => rfl

/-- A packet with a real namespace is written, and read back but for the null of a refusal. -/
theorem decode_encode (packet : Packet) (isText : packet.isText = true)
    (named : ∀ ns, packet.ns? = some ns → IsNamespace ns.toList) (readsBack : packet.ReadsBack) :
    ∃ raw, packet.encode = .ok raw ∧ decode raw = packet.withoutNull := by
  have read := fun (kind : Nat) (small : kind < 10) (ns : String) (ackId : Option UInt64)
      (held : packet.ns? = some ns) =>
    decode_encodeParts packet packet.withoutNull kind small ns ackId (named ns held)
  cases packet with
  | connect ns data =>
      refine ⟨_, rfl, read 0 (by decide) ns none rfl ?_⟩
      rw [decodeBody, ns_headOf]
      exact decodeConnect_print ns data readsBack
  | disconnect ns =>
      refine ⟨_, rfl, read 1 (by decide) ns none rfl ?_⟩
      rw [decodeBody, ns_headOf]
      rfl
  | event ns ackId name args =>
      refine ⟨_, rfl, read 2 (by decide) ns ackId rfl ?_⟩
      rw [decodeBody, ns_headOf]
      exact decodeEvent_print ns ackId name args readsBack
  | acknowledge ns ackId data =>
      refine ⟨_, rfl, read 3 (by decide) ns (some ackId) rfl ?_⟩
      rw [decodeBody, ns_headOf]
      exact decodeAcknowledge_print ns ackId data readsBack
  | connectError ns data =>
      refine ⟨_, rfl, read 4 (by decide) ns none rfl ?_⟩
      rw [decodeBody, ns_headOf]
      exact decodeConnectError_print ns data readsBack
  | binaryEvent | binaryAcknowledge | broken => cases isText

/-! ## What can be read at all -/

/-- A packet that a payload under a namespace was read as. -/
def Understood (ns : String) (packet : Packet) : Prop :=
  packet.isText = true ∧ packet.ns? = some ns ∧
    ∀ other message, packet ≠ .connectError other (some ⟨message, some .null⟩)

theorem understood_of_decodeConnect (ns : String) (payload : List Char) (packet : Packet)
    (read : decodeConnect ns payload = .ok packet) : Understood ns packet := by
  simp only [decodeConnect, bind, Except.bind, pure, Except.pure] at read
  split at read
  · cases read
  · split at read <;> cases read <;> exact ⟨rfl, rfl, by simp⟩

theorem understood_of_decodeEvent (ns : String) (ackId : Option UInt64) (payload : List Char)
    (packet : Packet) (read : decodeEvent ns ackId payload = .ok packet) :
    Understood ns packet := by
  simp only [decodeEvent, bind, Except.bind, pure, Except.pure] at read
  split at read
  · cases read
  · split at read <;> cases read
    exact ⟨rfl, rfl, by simp⟩

theorem understood_of_decodeAcknowledge (ns : String) (ackId : Option UInt64)
    (payload : List Char) (packet : Packet)
    (read : decodeAcknowledge ns ackId payload = .ok packet) : Understood ns packet := by
  simp only [decodeAcknowledge, bind, Except.bind, pure, Except.pure] at read
  split at read
  · cases read
  · cases ackId with
    | none => split at read <;> cases read
    | some id => split at read <;> cases read <;> exact ⟨rfl, rfl, by simp⟩

theorem understood_of_decodeConnectError (ns : String) (payload : List Char) (packet : Packet)
    (read : decodeConnectError ns payload = .ok packet) : Understood ns packet := by
  simp only [decodeConnectError, bind, Except.bind, pure, Except.pure] at read
  split at read
  · cases read
  · split at read
    · cases read
      exact ⟨rfl, rfl, by simp⟩
    · cases read
      exact ⟨rfl, rfl, by simp⟩
    · split at read
      · rename_i refusal refusalRead
        cases read
        refine ⟨rfl, rfl, ?_⟩
        rintro other message equal
        cases equal
        exact Refusal.data_ne_null_of_ofJson _ _ refusalRead rfl
      · cases read
    · cases read

theorem understood_of_decodeBody (header : Header) (packet : Packet)
    (read : decodeBody header = .ok packet) :
    Understood ((header.ns.map String.ofList).getD defaultNamespace) packet := by
  simp only [decodeBody] at read
  split at read
  · exact understood_of_decodeConnect _ _ packet read
  · cases read
    exact ⟨rfl, rfl, by simp⟩
  · exact understood_of_decodeEvent _ _ _ packet read
  · exact understood_of_decodeAcknowledge _ _ _ packet read
  · exact understood_of_decodeConnectError _ _ packet read
  · cases read
  · cases read
  · cases read

/-- A text is broken, or it is some canonical packet. -/
theorem decode_canonical (raw : String) :
    (∃ reason cause, decode raw = .broken raw reason cause) ∨
      ((decode raw).isText = true ∧ Canonical (decode raw)) := by
  cases read : decodeAll raw.toList with
  | error defect =>
      refine Or.inl ⟨defect.reason, defect.cause, ?_⟩
      simp only [decode, read]
  | ok packet =>
      have same : decode raw = packet := by simp only [decode, read]
      rw [same]
      cases scanned : Header.scan raw.toList with
      | error fault =>
          rw [decodeAll, scanned] at read
          cases read
      | ok header =>
          rw [decodeAll_of_scan _ header scanned] at read
          obtain ⟨isText, held, notNull⟩ := understood_of_decodeBody header packet read
          refine Or.inr ⟨isText, ?_, notNull⟩
          intro ns found
          cases Option.some.inj (held.symm.trans found)
          cases named : header.ns with
          | none => simp [IsNamespace, defaultNamespace]
          | some name =>
              have real := Header.isNamespace_of_scan _ header scanned name named
              simpa using real

theorem encode_isText (packet : Packet) (isText : packet.isText = true) :
    ∃ raw, packet.encode = .ok raw := by
  cases packet with
  | connect | disconnect | event | acknowledge | connectError => exact ⟨_, rfl⟩
  | binaryEvent | binaryAcknowledge | broken => cases isText

theorem canonical_of_decode (raw : String) (packet : Packet) (isText : packet.isText = true)
    (read : decode raw = packet) : Canonical packet := by
  rcases decode_canonical raw with ⟨reason, cause, broken⟩ | ⟨_, canonical⟩
  · rw [← read, broken] at isText
    cases isText
  · rw [← read]
    exact canonical

/-- Of the packets that can be written, exactly the canonical ones come back; of those that were
read, all do.  A broken packet is written as the text that it was read from. -/
theorem decode_encode_iff :
    (∀ (packet : Packet) (ns : String), packet.isText = true → packet.ns? = some ns →
      packet.ReadsBack →
      ∃ raw, packet.encode = .ok raw ∧
        (decode raw = packet ↔
          IsNamespace ns.toList ∧
            ∀ other message, packet ≠ .connectError other (some ⟨message, some .null⟩)) ∧
        ∀ message, packet = .connectError ns (some ⟨message, some .null⟩) →
          IsNamespace ns.toList → decode raw = .connectError ns (some ⟨message, none⟩)) ∧
      (∀ raw, (decode raw).ReadsBack →
        ∃ again, (decode raw).encode = .ok again ∧ decode again = decode raw) ∧
      ∀ raw, (decode raw).isBroken = true → (decode raw).encode = .ok raw := by
  refine ⟨?_, ?_, ?_⟩
  · intro packet ns isText held readsBack
    obtain ⟨raw, written⟩ := packet.encode_isText isText
    have named : IsNamespace ns.toList →
        ∀ name, packet.ns? = some name → IsNamespace name.toList := by
      intro real name found
      cases Option.some.inj (held.symm.trans found)
      exact real
    -- Under a real namespace the packet is read back but for the null of a refusal.
    have read : IsNamespace ns.toList → decode raw = packet.withoutNull := by
      intro real
      obtain ⟨other, writtenToo, same⟩ := packet.decode_encode isText (named real) readsBack
      cases Except.ok.inj (written.symm.trans writtenToo)
      exact same
    refine ⟨raw, written, ⟨?_, ?_⟩, ?_⟩
    · intro same
      have canonical := canonical_of_decode raw packet isText same
      exact ⟨canonical.named ns held, canonical.notNull⟩
    · rintro ⟨real, notNull⟩
      rw [read real]
      exact packet.withoutNull_of_canonical ⟨named real, notNull⟩
    · rintro message rfl real
      rw [read real]
      rfl
  · intro raw readsBack
    rcases decode_canonical raw with ⟨reason, cause, broken⟩ | ⟨isText, canonical⟩
    · refine ⟨raw, ?_, rfl⟩
      rw [broken]
      rfl
    · obtain ⟨again, written, same⟩ := (decode raw).decode_encode isText canonical.named readsBack
      refine ⟨again, written, ?_⟩
      rw [same]
      exact (decode raw).withoutNull_of_canonical canonical
  · intro raw isBroken
    rcases decode_canonical raw with ⟨reason, cause, broken⟩ | ⟨isText, _⟩
    · rw [broken]
      rfl
    · cases read : decode raw with
      | broken =>
          rw [read] at isText
          cases isText
      | connect | disconnect | event | acknowledge | connectError | binaryEvent
      | binaryAcknowledge =>
          rw [read] at isBroken
          cases isBroken

/-- An event with a namespace, an id and a name, but without arguments. -/
theorem decode_encode_namedEvent :
    (Packet.event "/chat" (some 7) "a" []).ReadsBack ∧
      ∃ raw, (Packet.event "/chat" (some 7) "a" []).encode = .ok raw ∧
        decode raw = .event "/chat" (some 7) "a" [] := by
  have readsBack : (Packet.event "/chat" (some 7) "a" []).ReadsBack := by
    intro value held
    cases held
    rfl
  have real : IsNamespace "/chat".toList := by
    simp [IsNamespace]
  obtain ⟨raw, written, comesBack, _⟩ := decode_encode_iff.1 _ "/chat" rfl rfl readsBack
  exact ⟨readsBack, raw, written, comesBack.mpr ⟨real, by simp⟩⟩

end Packet

end ChatSocket.Socket
