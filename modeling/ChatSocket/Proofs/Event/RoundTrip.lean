import ChatSocket.Event.Basic
import ChatSocket.Proofs.Socket.RoundTrip
import ChatSocket.Session
import Mathlib.Data.List.Permutation

/-!
# Events that survive the wire

An event is written as the one argument of a socket event, the socket event as the payload of
a message, the message as a text.  `toFrame_decode_iff` shows that the three readers undo the
three writers: of all events that can be written, those come back as they were that hold no
null where nothing would say the same.  As with packets, the payload is taken on trust
(`ReadsBack`).
-/

set_option autoImplicit false

namespace ChatSocket

namespace Json

/-- A value that may be left out, as it comes back: null says nothing. -/
def withoutNull : Option Json → Option Json
  | some .null => none
  | value => value

theorem withoutNull_of_ne (value : Option Json) (notNull : value ≠ some .null) :
    withoutNull value = value := by
  rcases value with _ | value
  · rfl
  · cases value with
    | null => exact absurd rfl notNull
    | bool | number | string | array | object => rfl

theorem withoutNull_ne (value : Option Json) : withoutNull value ≠ some .null := by
  rcases value with _ | value
  · simp [withoutNull]
  · cases value <;> simp [withoutNull]

/-! ## Fields -/

theorem get?_foldl_insert (key : String) (fields : List (String × Option Json))
    (distinct : (fields.map Prod.fst).Nodup) (members : Members) :
    Members.get? key (fields.foldl (fun members field =>
      match field.2 with
      | some value => Members.insert field.1 value members
      | none => members) members) =
      (fields.lookup key).join.or (Members.get? key members) := by
  induction fields generalizing members with
  | nil => rfl
  | cons field rest ih =>
      obtain ⟨name, value⟩ := field
      obtain ⟨fresh, distinctRest⟩ := List.nodup_cons.mp distinct
      rw [List.foldl_cons, ih distinctRest]
      by_cases same : key = name
      · subst same
        -- The key comes once, so no later field replaces its value.
        have unlisted : rest.lookup key = none := by
          apply List.lookup_eq_none_iff.mpr
          intro other member
          have different : key ≠ other.1 := by
            rintro rfl
            exact fresh (List.mem_map.mpr ⟨other, member, rfl⟩)
          simpa using different
        cases value with
        | none => simp [unlisted]
        | some value => simp [unlisted, Members.get?_insert_self]
      · have different : (key == name) = false := by simpa using same
        cases value with
        | none => simp [List.lookup_cons, different]
        | some value => simp [List.lookup_cons, different, Members.get?_insert_of_ne _ _ _ _ same]

/-- Fields with keys of their own are found under them, if they are present. -/
theorem record_members (fields : List (String × Option Json))
    (distinct : (fields.map Prod.fst).Nodup) :
    ∃ members : Members, record fields = .object members ∧
      ∀ key, Members.get? key members = (fields.lookup key).join := by
  refine ⟨_, rfl, fun key => ?_⟩
  exact (get?_foldl_insert key fields distinct []).trans Option.or_none

namespace Schema

variable {α : Type} (key : String) (schema : Json → Result α) (members : Members)

theorem field?_of_present (value : Json) (meant : α) (found : members.get? key = some value)
    (read : schema value = .ok meant) : field? key schema members = .ok (some meant) := by
  rw [field?, found]
  simp only [read]
  rfl

/-- What may be left out is read back, whether it was left out or not. -/
theorem field?_of_map (write : α → Json) (value : Option α)
    (found : members.get? key = value.map write) (read : ∀ meant, schema (write meant) = .ok meant)
    (notNull : ∀ meant, write meant ≠ .null) :
    ∃ got, field? key (optional schema) members = .ok got ∧ got.getD none = value := by
  cases value with
  | none =>
      refine ⟨none, ?_, rfl⟩
      rw [field?, found]
      rfl
  | some meant =>
      refine ⟨some (some meant), ?_, rfl⟩
      have present : optional schema (write meant) = .ok (some meant) := by
        rw [optional]
        · rw [read]
          rfl
        · exact notNull meant
      exact field?_of_present key (optional schema) members (write meant) _ found present

theorem field?_of_any (value : Option Json) (found : members.get? key = value) :
    ∃ got, field? key (optional any) members = .ok got ∧ got.getD none = withoutNull value := by
  rw [field?, found]
  rcases value with _ | value
  · exact ⟨none, rfl, rfl⟩
  · cases value with
    | null => exact ⟨some none, rfl, rfl⟩
    | bool | number | string | array | object => exact ⟨some (some _), rfl, rfl⟩

end Schema

end Json

open Json.Schema (field?_of_present field?_of_map field?_of_any)

/-! ## Arguments -/

/-- An input as it comes back. -/
def ProcessInput.withoutNull (input : ProcessInput) : ProcessInput :=
  { input with data := Json.withoutNull input.data }

theorem ProcessInput.ofJson_toJson_withoutNull (input : ProcessInput) :
    ofJson input.toJson = .ok input.withoutNull := by
  have fields : ∃ members : Json.Members, input.toJson = .object members ∧
      ∀ key, Json.Members.get? key members = (List.lookup key _).join :=
    Json.record_members _ (by simp)
  obtain ⟨members, written, found⟩ := fields
  have token := field?_of_present "URLToken" Identifier.ofJson members _ input.token
    (found "URLToken") rfl
  have user := field?_of_present "userId" Identifier.ofJson members _ input.user
    (found "userId") rfl
  have session := field?_of_present "sessionId" Identifier.ofJson members _ input.session
    (found "sessionId") rfl
  have source := field?_of_present "source" Identifier.ofJson members _ input.source
    (found "source") rfl
  have reloadFlow := field?_of_present "reloadFlow" Json.Schema.bool members _
    input.flags.reloadFlow (found "reloadFlow") rfl
  have resetFlow := field?_of_present "resetFlow" Json.Schema.bool members _
    input.flags.resetFlow (found "resetFlow") rfl
  have resetState := field?_of_present "resetState" Json.Schema.bool members _
    input.flags.resetState (found "resetState") rfl
  have resetContext := field?_of_present "resetContext" Json.Schema.bool members _
    input.flags.resetContext (found "resetContext") rfl
  obtain ⟨channel, channelRead, sameChannel⟩ := field?_of_map "channel" Identifier.ofJson members
    Identifier.toJson input.channel (found "channel") Identifier.ofJson_toJson
    (by simp [Identifier.toJson])
  obtain ⟨ip, ipRead, sameIp⟩ := field?_of_map "passthroughIP" Json.Schema.string members
    .string input.passthroughIp (found "passthroughIP") (fun _ => rfl) (by simp)
  obtain ⟨text, textRead, sameText⟩ := field?_of_map "text" Json.Schema.string members
    .string input.text (found "text") (fun _ => rfl) (by simp)
  obtain ⟨data, dataRead, sameData⟩ := field?_of_any "data" members input.data (found "data")
  rw [written]
  simp only [ofJson, Json.Schema.record, ofMembers, token, user, session, source, reloadFlow,
    resetFlow, resetState, resetContext, channelRead, ipRead, textRead, dataRead,
    Json.Schema.needField, bind, Except.bind, pure, Except.pure, sameChannel, sameIp, sameText,
    sameData]
  rfl

/-- A message as it comes back. -/
def OutputMessage.withoutNull (output : OutputMessage) : OutputMessage :=
  { output with data := Json.withoutNull output.data }

theorem OutputMessage.ofJson_toJson_withoutNull (place : Json.Schema.Place)
    (output : OutputMessage) : ofJson place output.toJson = .ok output.withoutNull := by
  have fields : ∃ members : Json.Members, output.toJson = .object members ∧
      ∀ key, Json.Members.get? key members = (List.lookup key _).join :=
    Json.record_members _ (by simp)
  obtain ⟨members, written, found⟩ := fields
  have traceId := field?_of_present "traceId" Json.Schema.string members _ output.traceId
    (found "traceId") rfl
  have logging := field?_of_present "disableSensitiveLogging" Json.Schema.bool members _
    output.disableSensitiveLogging (found "disableSensitiveLogging") rfl
  have source := field?_of_present "source" Identifier.ofJson members _ output.source
    (found "source") rfl
  obtain ⟨text, textRead, sameText⟩ := field?_of_map "text" Json.Schema.string members
    .string output.text (found "text") (fun _ => rfl) (by simp)
  obtain ⟨data, dataRead, sameData⟩ := field?_of_any "data" members output.data (found "data")
  rw [written]
  simp only [ofJson, Json.Schema.record, ofMembers, traceId, logging, source, textRead, dataRead,
    Json.Schema.needField, bind, Except.bind, pure, Except.pure, sameText, sameData]
  rfl

theorem Json.Schema.signed_ofInt (code : Int64) :
    Json.Schema.signed (.ofInt code.toInt) = .ok code := by
  simp [Json.Schema.signed, Json.ofInt]

theorem ErrorContent.ofJson_toJson (place : Json.Schema.Place) (content : ErrorContent) :
    ofJson place content.toJson = .ok content := by
  have fields : ∃ members : Json.Members, content.toJson = .object members ∧
      ∀ key, Json.Members.get? key members = (List.lookup key _).join :=
    Json.record_members _ (by simp)
  obtain ⟨members, written, found⟩ := fields
  have code := field?_of_present "code" Json.Schema.signed members _ content.code (found "code")
    (Json.Schema.signed_ofInt content.code)
  obtain ⟨text, textRead, sameText⟩ := field?_of_map "message" Json.Schema.string members
    .string content.message (found "message") (fun _ => rfl) (by simp)
  rw [written]
  simp only [ofJson, Json.Schema.record, ofMembers, code, textRead, Json.Schema.needField, bind,
    Except.bind, pure, Except.pure, sameText]

theorem OutputError.ofJson_toJson (place : Json.Schema.Place) (error : OutputError) :
    ofJson place error.toJson = .ok error := by
  have fields : ∃ members : Json.Members, error.toJson = .object members ∧
      ∀ key, Json.Members.get? key members = (List.lookup key _).join :=
    Json.record_members _ (by simp)
  obtain ⟨members, written, found⟩ := fields
  obtain ⟨content, contentRead, sameContent⟩ := field?_of_map "error" (ErrorContent.ofJson place)
    members ErrorContent.toJson error.content (found "error") (ErrorContent.ofJson_toJson place)
    (by simp [ErrorContent.toJson, Json.record])
  rw [written]
  simp only [ofJson, Json.Schema.record, contentRead, bind, Except.bind, pure, Except.pure,
    sameContent]

/-- What is read under a tag comes with the tag of what was written. -/
theorem Output.ofJson_tagged (tag : Output.Tag) (data : Json) (meant : Output)
    (read : Output.ofTagged tag data = .ok meant) :
    Output.ofJson (.record [("type", some (.string tag.name)), ("data", data)]) = .ok meant := by
  obtain ⟨members, written, found⟩ :=
    Json.record_members [("type", some (.string tag.name)), ("data", some data)] (by simp)
  have named : Output.Tag.ofJson (.string tag.name) = .ok tag := by cases tag <;> rfl
  have tagRead := field?_of_present "type" Output.Tag.ofJson members _ tag (found "type") named
  have dataRead := field?_of_present "data" (Output.ofTagged tag) members data meant
    (found "data") read
  rw [written]
  simp only [Output.ofJson, Output.ofMembers, tagRead, dataRead, Json.Schema.needField, bind,
    Except.bind]

/-- A record of one field that must be there. -/
theorem Json.Schema.record_of_single {α : Type} (shape : Json.Schema.Shape) (key : String)
    (schema : Json → Json.Schema.Result α) (ofItems : List Json → Json.Schema.Result α)
    (value : Json) (meant : α) (read : schema value = .ok meant) :
    Json.Schema.record shape .argument
      (fun members => do
        Json.Schema.needField key (← Json.Schema.field? key schema members)) ofItems
      (.record [(key, some value)]) = .ok meant := by
  have found : Json.Members.get? key [(key, value)] = some value := by simp [Json.Members.get?]
  have present := field?_of_present key schema _ value meant found read
  simp only [Json.record, List.foldl_cons, List.foldl_nil, Json.Members.insert,
    Json.Schema.record, present, Json.Schema.needField, bind, Except.bind]

theorem TypingStatus.ofJson_toJson (status : TypingStatus) : ofJson status.toJson = .ok status :=
  Json.Schema.record_of_single shape "status" schema _ _ status (by cases status <;> rfl)

theorem FinalPing.ofJson_toJson (ping : FinalPing) : ofJson ping.toJson = .ok ping :=
  Json.Schema.record_of_single shape "type" schema _ _ ping (by cases ping <;> rfl)

theorem exceptionOfJson_toJson (value : Json) :
    exceptionOfJson (exceptionToJson value) = .ok value :=
  Json.Schema.record_of_single _ "error" Json.Schema.any _ value value rfl

theorem TriggeredElement.ofJson_toJson (element : TriggeredElement) :
    ofJson element.toJson = .ok element := by
  have fields : ∃ members : Json.Members, element.toJson = .object members ∧
      ∀ key, Json.Members.get? key members = (List.lookup key _).join :=
    Json.record_members _ (by simp)
  obtain ⟨members, written, found⟩ := fields
  have id := field?_of_present "id" Json.Schema.string members _ element.id (found "id") rfl
  have logging := field?_of_present "isDisableSensitiveLogging" Json.Schema.bool members _
    element.isDisableSensitiveLogging (found "isDisableSensitiveLogging") rfl
  obtain ⟨result, resultRead, sameResult⟩ := field?_of_map "result" Json.Schema.bool members
    .bool element.result (found "result") (fun _ => rfl) (by simp)
  rw [written]
  simp only [ofJson, Json.Schema.record, ofMembers, id, logging, resultRead,
    Json.Schema.needField, bind, Except.bind, pure, Except.pure, sameResult]

/-! ## Events -/

namespace Event

/-- An event as it comes back. -/
def withoutNull : Event → Event
  | .processInput input => .processInput input.withoutNull
  | .message output => .message output.withoutNull
  | event => event

/-- The data are null, which comes back as no data. -/
def HoldsNull : Event → Prop
  | .processInput input => input.data = some .null
  | .message output => output.data = some .null
  | _ => False

theorem withoutNull_eq_iff (event : Event) : event.withoutNull = event ↔ ¬ event.HoldsNull := by
  cases event with
  | processInput input =>
      constructor
      · intro same held
        have data : Json.withoutNull input.data = input.data :=
          congrArg ProcessInput.data (processInput.inj same)
        exact Json.withoutNull_ne input.data (data.trans held)
      · intro notNull
        have data := Json.withoutNull_of_ne input.data notNull
        rw [withoutNull, ProcessInput.withoutNull, data]
  | message output =>
      constructor
      · intro same held
        have data : Json.withoutNull output.data = output.data :=
          congrArg OutputMessage.data (message.inj same)
        exact Json.withoutNull_ne output.data (data.trans held)
      · intro notNull
        have data := Json.withoutNull_of_ne output.data notNull
        rw [withoutNull, OutputMessage.withoutNull, data]
  | error | typingStatus | finalPing | triggeredElement | endpointReady | exception
  | protocolError => exact ⟨fun _ => id, fun _ => rfl⟩

/-- The name of an event selects the schema that reads its argument. -/
theorem schema?_name (event : Event) (argument : Json)
    (carried : event.argument? = some argument) :
    ∃ schema, schema? event.name = some schema ∧ schema argument = .ok event.withoutNull := by
  cases event with
  | processInput input =>
      cases carried
      exact ⟨_, rfl, congrArg (processInput <$> ·) input.ofJson_toJson_withoutNull⟩
  | message output =>
      cases carried
      have read : Output.ofTagged .output output.toJson = .ok (.message output.withoutNull) :=
        congrArg (Output.message <$> ·) (output.ofJson_toJson_withoutNull .tagged)
      exact ⟨_, rfl, congrArg (ofOutput <$> ·) (Output.ofJson_tagged _ _ _ read)⟩
  | error data =>
      cases carried
      have read : Output.ofTagged .error data.toJson = .ok (.error data) :=
        congrArg (Output.error <$> ·) (data.ofJson_toJson .tagged)
      exact ⟨_, rfl, congrArg (ofOutput <$> ·) (Output.ofJson_tagged _ _ _ read)⟩
  | typingStatus status =>
      cases carried
      exact ⟨_, rfl, congrArg (typingStatus <$> ·) status.ofJson_toJson⟩
  | finalPing ping =>
      cases carried
      exact ⟨_, rfl, congrArg (finalPing <$> ·) ping.ofJson_toJson⟩
  | triggeredElement element =>
      cases carried
      exact ⟨_, rfl, congrArg (triggeredElement <$> ·) element.ofJson_toJson⟩
  | endpointReady =>
      cases carried
      exact ⟨_, rfl, rfl⟩
  | exception value =>
      cases carried
      exact ⟨_, rfl, congrArg (exception <$> ·) (exceptionOfJson_toJson value)⟩
  | protocolError error => cases carried

/-- Whatever else its packet says, the argument of an event is read as the event. -/
theorem decode_argument (event : Event) (argument : Json) (ns : String) (ackId : Option UInt64)
    (carried : event.argument? = some argument) :
    decode (.event ns ackId event.name [argument]) = event.withoutNull := by
  obtain ⟨schema, known, read⟩ := event.schema?_name argument carried
  simp only [decode, ofArgument, known, read]

theorem argument?_isSome (event : Event) (understood : ∀ error, event ≠ .protocolError error) :
    ∃ argument, event.argument? = some argument := by
  cases event with
  | protocolError error => exact absurd rfl (understood error)
  | processInput | message | error | typingStatus | finalPing | triggeredElement | endpointReady
  | exception => exact ⟨_, rfl⟩

/-- The packet that carries an event with this argument. -/
def packet (event : Event) (argument : Json) : Socket.Packet :=
  .event Socket.defaultNamespace none event.name [argument]

theorem encode_of_argument (event : Event) (argument : Json)
    (carried : event.argument? = some argument) : event.encode = .ok (event.packet argument) := by
  simp only [encode, carried, packet]

theorem toFrame_of_argument (event : Event) (argument : Json)
    (carried : event.argument? = some argument) :
    ∃ payload, event.toFrame = .ok (Engine.Packet.message payload).encode ∧
      (event.packet argument).encode = .ok payload := by
  have encoded := event.encode_of_argument argument carried
  refine ⟨_, ?_, rfl⟩
  rw [toFrame, encoded]
  rfl

/-- What is written for an event is read as the event, but for null data. -/
theorem decode_payload (event : Event) (argument : Json) (payload : String)
    (carried : event.argument? = some argument)
    (written : (event.packet argument).encode = .ok payload)
    (readsBack : (event.packet argument).ReadsBack) :
    Socket.Packet.decode payload = event.packet argument ∧
      decode (Socket.Packet.decode payload) = event.withoutNull := by
  have named : ∀ ns, (event.packet argument).ns? = some ns → Socket.IsNamespace ns.toList := by
    intro ns found
    cases found
    simp [Socket.IsNamespace, Socket.defaultNamespace]
  obtain ⟨raw, writtenToo, same⟩ :=
    (event.packet argument).decode_encode rfl named readsBack
  cases Except.ok.inj (written.symm.trans writtenToo)
  have packetRead : Socket.Packet.decode payload = event.packet argument := same
  refine ⟨packetRead, ?_⟩
  rw [packetRead]
  exact event.decode_argument argument _ none carried

/-- Every event but a protocol error is written as a text; of those, exactly the ones without null
data come back as they were. -/
theorem toFrame_decode_iff :
    (∀ event : Event, (∀ error, event ≠ .protocolError error) →
      ∃ argument payload,
        event.encode = .ok (.event "/" none event.name [argument]) ∧
        event.toFrame = .ok (.text ("4" ++ payload)) ∧
        Engine.Packet.decode? (.text ("4" ++ payload)) = some (.message payload) ∧
        (Socket.Packet.ReadsBack (.event "/" none event.name [argument]) →
          Socket.Packet.decode payload = .event "/" none event.name [argument] ∧
          (decode (Socket.Packet.decode payload) = event ↔ ¬ event.HoldsNull) ∧
          (∀ input, event = .processInput input → input.data = some .null →
            decode (Socket.Packet.decode payload) = .processInput { input with data := none }) ∧
          ∀ output, event = .message output → output.data = some .null →
            decode (Socket.Packet.decode payload) = .message { output with data := none })) ∧
      (∀ (session : Session) (text : Option String) (data : Option Json) (flags : ResetFlags),
        ∃ packet payload,
          (processInput (session.processInput text data flags)).encode = .ok packet ∧
          (processInput (session.processInput text data flags)).toFrame =
            .ok (.text ("4" ++ payload)) ∧
          (packet.ReadsBack →
            Socket.Packet.decode payload = packet ∧
            decode packet =
              .processInput (session.processInput text (Json.withoutNull data) flags))) ∧
      ∀ error : ProtocolError,
        (protocolError error).toFrame =
          .error (.unsupported "protocol errors cannot be encoded") := by
  refine ⟨?_, ?_, fun error => rfl⟩
  · intro event understood
    obtain ⟨argument, carried⟩ := event.argument?_isSome understood
    obtain ⟨payload, framed, written⟩ := event.toFrame_of_argument argument carried
    refine ⟨argument, payload, event.encode_of_argument argument carried, framed,
      Engine.Packet.decode?_encode_message payload, fun readsBack => ?_⟩
    obtain ⟨packetRead, read⟩ := event.decode_payload argument payload carried written readsBack
    refine ⟨packetRead, ?_, ?_, ?_⟩
    · rw [read]
      exact event.withoutNull_eq_iff
    · rintro input rfl held
      rw [read, withoutNull, ProcessInput.withoutNull, held]
      rfl
    · rintro output rfl held
      rw [read, withoutNull, OutputMessage.withoutNull, held]
      rfl
  · intro session text data flags
    have carried : (processInput (session.processInput text data flags)).argument? =
        some (session.processInput text data flags).toJson := rfl
    obtain ⟨payload, framed, written⟩ := toFrame_of_argument _ _ carried
    refine ⟨_, payload, encode_of_argument _ _ carried, framed, fun readsBack => ?_⟩
    obtain ⟨packetRead, read⟩ := decode_payload _ _ payload carried written readsBack
    refine ⟨packetRead, ?_⟩
    rw [packetRead] at read
    exact read

/-- A message whose data are null. -/
theorem decode_toFrame_nullData :
    (Socket.Packet.event "/" none "output"
      [Output.toJson (.message ⟨none, some .null, "t", false, ⟨"bot"⟩⟩)]).ReadsBack ∧
      ∃ payload,
        (message ⟨none, some .null, "t", false, ⟨"bot"⟩⟩).toFrame = .ok (.text ("4" ++ payload)) ∧
        decode (Socket.Packet.decode payload) = message ⟨none, none, "t", false, ⟨"bot"⟩⟩ := by
  have readsBack : (Socket.Packet.event "/" none "output"
      [Output.toJson (.message ⟨none, some .null, "t", false, ⟨"bot"⟩⟩)]).ReadsBack := by
    intro value held
    cases held
    cbv
  obtain ⟨argument, payload, encoded, framed, _, back⟩ :=
    toFrame_decode_iff.1 (message ⟨none, some .null, "t", false, ⟨"bot"⟩⟩) (by simp)
  cases encoded
  obtain ⟨_, _, _, withoutData⟩ := back readsBack
  exact ⟨readsBack, payload, framed, withoutData _ rfl rfl⟩

end Event

end ChatSocket
