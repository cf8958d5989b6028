import ChatSocket.Proofs.Socket.RoundTrip
import ChatSocket.Proofs.Socket.Split

/-!
# The grammar of socket packets

`Says` lists what the head of a packet and its payload can say together, one constructor for
each form, and `Grammar` reads the head from the parts of a text.  `decode_iff_grammar` shows
that decoding accepts the texts of this grammar, each as the one packet that it says, and
that every other text is broken and kept whole.
-/

set_option autoImplicit false

namespace ChatSocket.Json.Members

/-- The value under a key; null is no value. -/
def given? (key : String) (members : Members) : Option Json :=
  match members.get? key with
  | some .null => none
  | held => held

end ChatSocket.Json.Members

namespace ChatSocket.Socket

/-- The namespace that a head names, or the one that need not be named. -/
def Header.nsOrDefault (header : Header) : String :=
  (header.ns.map String.ofList).getD defaultNamespace

/-- The payload is the text of a value. -/
def Header.Holds (header : Header) (value : Json) : Prop :=
  Json.parse (String.ofList header.payload) = .ok value

namespace Packet

inductive Says (header : Header) : Packet → Prop
  | connect (kind : header.kind = 0) (empty : header.payload = []) :
      Says header (.connect header.nsOrDefault none)
  | connectData (members : Json.Members) (kind : header.kind = 0)
      (holds : header.Holds (.object members)) :
      Says header (.connect header.nsOrDefault (some members))
  | disconnect (kind : header.kind = 1) : Says header (.disconnect header.nsOrDefault)
  | event (name : String) (args : List Json) (kind : header.kind = 2)
      (holds : header.Holds (.array (.string name :: args))) :
      Says header (.event header.nsOrDefault header.ackId name args)
  | acknowledge (ackId : UInt64) (kind : header.kind = 3) (asked : header.ackId = some ackId)
      (empty : header.payload = []) : Says header (.acknowledge header.nsOrDefault ackId none)
  | acknowledgeData (ackId : UInt64) (items : List Json) (kind : header.kind = 3)
      (asked : header.ackId = some ackId) (holds : header.Holds (.array items)) :
      Says header (.acknowledge header.nsOrDefault ackId (some items))
  | connectError (kind : header.kind = 4) (empty : header.payload = []) :
      Says header (.connectError header.nsOrDefault none)
  | connectErrorText (message : String) (kind : header.kind = 4)
      (holds : header.Holds (.string message)) :
      Says header (.connectError header.nsOrDefault (some ⟨message, none⟩))
  | connectErrorData (members : Json.Members) (message : String) (kind : header.kind = 4)
      (holds : header.Holds (.object members))
      (found : members.get? "message" = some (.string message)) :
      Says header (.connectError header.nsOrDefault (some ⟨message, members.given? "data"⟩))

/-- The text, taken apart, says a packet. -/
def Grammar (raw : String) (packet : Packet) : Prop :=
  ∃ (parts : Header.Parts) (header : Header), parts.text = raw.toList ∧ parts.Munched ∧
    parts.Means header ∧ Says header packet

/-! ## Payloads -/

theorem readPayload_eq_ok_iff (header : Header) (value : Json) :
    readPayload header.payload = .ok value ↔ header.Holds value := by
  rw [readPayload, Header.Holds]
  cases Json.parse (String.ofList header.payload) <;> simp [Except.mapError]

/-- No value has an empty text. -/
theorem filled_of_holds (header : Header) (value : Json) (holds : header.Holds value) :
    header.payload ≠ [] := by
  intro empty
  rw [Header.Holds, empty] at holds
  cases holds

theorem readOptional_eq_ok_iff (header : Header) (value : Option Json) :
    readOptional header.payload = .ok value ↔
      (header.payload = [] ∧ value = none) ∨ ∃ held, value = some held ∧ header.Holds held := by
  constructor
  · intro read
    rw [readOptional] at read
    split at read
    · rename_i empty
      cases read
      exact Or.inl ⟨List.isEmpty_iff.mp empty, rfl⟩
    · cases payload : readPayload header.payload with
      | error defect =>
          rw [payload] at read
          cases read
      | ok held =>
          rw [payload] at read
          cases read
          exact Or.inr ⟨held, rfl, (readPayload_eq_ok_iff header held).mp payload⟩
  · rintro (⟨empty, rfl⟩ | ⟨held, rfl, holds⟩)
    · rw [empty]
      rfl
    · rw [readOptional, if_neg (by simpa using filled_of_holds header held holds),
        (readPayload_eq_ok_iff header held).mpr holds]
      rfl

theorem refusal_of_members (members : Json.Members) (refusal : Refusal) :
    Refusal.ofJson (.object members) = .ok refusal ↔
      members.get? "message" = some (.string refusal.message) ∧
        refusal.data = members.given? "data" := by
  -- A field that may hold anything is never refused, and null in it counts as absence.
  have data : ∃ held, Json.Schema.field? "data" (Json.Schema.optional Json.Schema.any) members =
      .ok held ∧ held.getD none = members.given? "data" := by
    rw [Json.Schema.field?, Json.Members.given?]
    cases Json.Members.get? "data" members with
    | none => exact ⟨none, rfl, rfl⟩
    | some value => cases value <;> exact ⟨_, rfl, rfl⟩
  obtain ⟨held, dataRead, dataSame⟩ := data
  obtain ⟨message, given⟩ := refusal
  simp only [Refusal.ofJson, Json.Schema.record, dataRead, bind, Except.bind, pure, Except.pure,
    dataSame]
  rw [Json.Schema.field?]
  cases members.get? "message" with
  | none => simp [Json.Schema.needField]
  | some value =>
      cases value with
      | string text => simp [Json.Schema.string, Json.Schema.needField, eq_comm]
      | null | bool | number | array | object => simp [Json.Schema.string]

/-! ## Bodies -/

theorem says_of_decodeConnect (header : Header) (kind : header.kind = 0) (packet : Packet) :
    decodeConnect header.nsOrDefault header.payload = .ok packet ↔ Says header packet := by
  constructor
  · intro read
    cases payload : readOptional header.payload with
    | error defect => simp [decodeConnect, payload, bind, Except.bind] at read
    | ok value =>
        simp only [decodeConnect, payload, bind, Except.bind, pure, Except.pure] at read
        rcases (readOptional_eq_ok_iff header value).mp payload with
          ⟨empty, rfl⟩ | ⟨held, rfl, holds⟩
        · cases read
          exact .connect kind empty
        · cases held with
          | object members =>
              cases read
              exact .connectData members kind holds
          | null | bool | number | string | array => cases read
  · intro said
    cases said with
    | connect _ empty =>
        rw [decodeConnect, (readOptional_eq_ok_iff header none).mpr (Or.inl ⟨empty, rfl⟩)]
        rfl
    | connectData members _ holds =>
        rw [decodeConnect, (readOptional_eq_ok_iff header _).mpr (Or.inr ⟨_, rfl, holds⟩)]
        rfl
    | disconnect other | event _ _ other | acknowledge _ other | acknowledgeData _ _ other
    | connectError other | connectErrorText _ other | connectErrorData _ _ other =>
        cases kind.symm.trans other

theorem says_of_decodeEvent (header : Header) (kind : header.kind = 2) (packet : Packet) :
    decodeEvent header.nsOrDefault header.ackId header.payload = .ok packet ↔
      Says header packet := by
  constructor
  · intro read
    cases payload : readPayload header.payload with
    | error defect => simp [decodeEvent, payload, bind, Except.bind] at read
    | ok value =>
        have holds := (readPayload_eq_ok_iff header value).mp payload
        simp only [decodeEvent, payload, bind, Except.bind, pure, Except.pure] at read
        split at read <;> cases read
        exact .event _ _ kind holds
  · intro said
    cases said with
    | event name args _ holds =>
        rw [decodeEvent, (readPayload_eq_ok_iff header _).mpr holds]
        rfl
    | connect other | connectData _ other | disconnect other | acknowledge _ other
    | acknowledgeData _ _ other | connectError other | connectErrorText _ other
    | connectErrorData _ _ other => cases kind.symm.trans other

theorem says_of_decodeAcknowledge (header : Header) (kind : header.kind = 3) (packet : Packet) :
    decodeAcknowledge header.nsOrDefault header.ackId header.payload = .ok packet ↔
      Says header packet := by
  constructor
  · intro read
    cases payload : readOptional header.payload with
    | error defect => simp [decodeAcknowledge, payload, bind, Except.bind] at read
    | ok value =>
        simp only [decodeAcknowledge, payload, bind, Except.bind, pure, Except.pure] at read
        cases asked : header.ackId with
        | none =>
            rw [asked] at read
            split at read <;> cases read
        | some ackId =>
            rw [asked] at read
            rcases (readOptional_eq_ok_iff header value).mp payload with
              ⟨empty, rfl⟩ | ⟨held, rfl, holds⟩
            · cases read
              exact .acknowledge ackId kind asked empty
            · cases held with
              | array items =>
                  cases read
                  exact .acknowledgeData ackId items kind asked holds
              | null | bool | number | string | object => cases read
  · intro said
    cases said with
    | acknowledge ackId _ asked empty =>
        rw [decodeAcknowledge, (readOptional_eq_ok_iff header none).mpr (Or.inl ⟨empty, rfl⟩),
          asked]
        rfl
    | acknowledgeData ackId items _ asked holds =>
        rw [decodeAcknowledge, (readOptional_eq_ok_iff header _).mpr (Or.inr ⟨_, rfl, holds⟩),
          asked]
        rfl
    | connect other | connectData _ other | disconnect other | event _ _ other
    | connectError other | connectErrorText _ other | connectErrorData _ _ other =>
        cases kind.symm.trans other

theorem says_of_decodeConnectError (header : Header) (kind : header.kind = 4) (packet : Packet) :
    decodeConnectError header.nsOrDefault header.payload = .ok packet ↔ Says header packet := by
  constructor
  · intro read
    cases payload : readOptional header.payload with
    | error defect => simp [decodeConnectError, payload, bind, Except.bind] at read
    | ok value =>
        simp only [decodeConnectError, payload, bind, Except.bind, pure, Except.pure] at read
        rcases (readOptional_eq_ok_iff header value).mp payload with
          ⟨empty, rfl⟩ | ⟨held, rfl, holds⟩
        · cases read
          exact .connectError kind empty
        · cases held with
          | string message =>
              cases read
              exact .connectErrorText message kind holds
          | object members =>
              cases refused : Refusal.ofJson (.object members) with
              | error reason => simp [refused] at read
              | ok refusal =>
                  obtain ⟨message, data⟩ := refusal
                  obtain ⟨found, rfl⟩ := (refusal_of_members members _).mp refused
                  simp only [refused] at read
                  cases read
                  exact .connectErrorData members message kind holds found
          | null | bool | number | array => cases read
  · intro said
    cases said with
    | connectError _ empty =>
        rw [decodeConnectError, (readOptional_eq_ok_iff header none).mpr (Or.inl ⟨empty, rfl⟩)]
        rfl
    | connectErrorText message _ holds =>
        rw [decodeConnectError, (readOptional_eq_ok_iff header _).mpr (Or.inr ⟨_, rfl, holds⟩)]
        rfl
    | connectErrorData members message _ holds found =>
        have refused := (refusal_of_members members ⟨message, members.given? "data"⟩).mpr
          ⟨found, rfl⟩
        rw [decodeConnectError, (readOptional_eq_ok_iff header _).mpr (Or.inr ⟨_, rfl, holds⟩)]
        simp only [bind, Except.bind, refused, pure, Except.pure]
    | connect other | connectData _ other | disconnect other | event _ _ other
    | acknowledge _ other | acknowledgeData _ _ other => cases kind.symm.trans other

theorem decodeBody_eq_ok_iff (header : Header) (packet : Packet) :
    decodeBody header = .ok packet ↔ Says header packet := by
  have bound : ∀ other, Says header other → header.kind ≤ 4 := by
    intro other said
    cases said <;> omega
  have silent : ∀ defect : Defect, 4 < header.kind →
      (Except.error defect = Except.ok packet ↔ Says header packet) := by
    intro defect above
    refine iff_of_false (fun read => ?_) (fun said => ?_)
    · cases read
    · exact Nat.not_le_of_lt above (bound packet said)
  simp only [decodeBody]
  split
  · rename_i kind
    exact says_of_decodeConnect header kind packet
  · rename_i kind
    constructor
    · intro read
      cases read
      exact .disconnect kind
    · intro said
      cases said with
      | disconnect _ => rfl
      | connect other | connectData _ other | event _ _ other | acknowledge _ other
      | acknowledgeData _ _ other | connectError other | connectErrorText _ other
      | connectErrorData _ _ other => cases kind.symm.trans other
  · rename_i kind
    exact says_of_decodeEvent header kind packet
  · rename_i kind
    exact says_of_decodeAcknowledge header kind packet
  · rename_i kind
    exact says_of_decodeConnectError header kind packet
  · rename_i kind
    exact silent _ (by omega)
  · rename_i kind
    exact silent _ (by omega)
  · rename_i notConnect notDisconnect notEvent notAcknowledge notRefusal _ _
    have different : header.kind ≠ 0 ∧ header.kind ≠ 1 ∧ header.kind ≠ 2 ∧ header.kind ≠ 3 ∧
        header.kind ≠ 4 := ⟨notConnect, notDisconnect, notEvent, notAcknowledge, notRefusal⟩
    exact silent _ (by omega)

/-! ## Whole texts -/

theorem decodeAll_eq_ok_iff (raw : String) (packet : Packet) :
    decodeAll raw.toList = .ok packet ↔ Grammar raw packet := by
  constructor
  · intro read
    cases scanned : Header.scan raw.toList with
    | error fault =>
        rw [decodeAll, scanned] at read
        cases read
    | ok header =>
        rw [decodeAll_of_scan _ header scanned] at read
        obtain ⟨parts, same, munched, means⟩ := (Header.scan_eq_ok_iff _ header).mp scanned
        exact ⟨parts, header, same, munched, means, (decodeBody_eq_ok_iff header packet).mp read⟩
  · rintro ⟨parts, header, same, munched, means, said⟩
    have scanned := (Header.scan_eq_ok_iff _ header).mpr ⟨parts, same, munched, means⟩
    rw [decodeAll_of_scan _ header scanned]
    exact (decodeBody_eq_ok_iff header packet).mpr said

theorem isText_of_says (header : Header) (packet : Packet) (said : Says header packet) :
    packet.isText = true := by
  cases said <;> rfl

theorem isBroken_of_isText (packet : Packet) (isText : packet.isText = true) :
    packet.isBroken = false := by
  cases packet with
  | broken => cases isText
  | connect | disconnect | event | acknowledge | connectError | binaryEvent | binaryAcknowledge =>
      rfl

/-- A text can be taken apart exactly if it starts with a digit, and in one way only.  It is read
as a packet if and only if its parts say this packet; if they say none, it is broken, and kept
whole.  A packet that was read names a real namespace. -/
theorem decode_iff_grammar (raw : String) :
    ((∃ parts : Header.Parts, parts.text = raw.toList ∧ parts.Munched) ↔
        ∃ kind ∈ raw.toList.head?, kind.isDigit = true) ∧
      (∀ first second : Header.Parts, first.Munched → second.Munched →
        first.text = raw.toList → second.text = raw.toList → first = second) ∧
      (∀ packet, (decode raw = packet ∧ packet.isBroken = false) ↔ Grammar raw packet) ∧
      ((∀ packet, ¬ Grammar raw packet) ↔ (decode raw).isBroken = true) ∧
      ((decode raw).isBroken = true → ∃ reason cause, decode raw = .broken raw reason cause) ∧
      ∀ ns, (decode raw).ns? = some ns → IsNamespace ns.toList := by
  have isText : ∀ packet, Grammar raw packet → packet.isText = true := by
    rintro packet ⟨parts, header, _, _, _, said⟩
    exact isText_of_says header packet said
  have read : ∀ packet, Grammar raw packet → decode raw = packet := by
    intro packet grammar
    rw [decode, (decodeAll_eq_ok_iff raw packet).mpr grammar]
  have broken : (∀ packet, ¬ Grammar raw packet) →
      ∃ reason cause, decode raw = .broken raw reason cause := by
    intro silent
    cases all : decodeAll raw.toList with
    | ok packet => exact absurd ((decodeAll_eq_ok_iff raw packet).mp all) (silent packet)
    | error defect => exact ⟨defect.reason, defect.cause, by rw [decode, all]⟩
  refine ⟨⟨?_, ?_⟩, ?_, ?_, ⟨?_, ?_⟩, ?_, ?_⟩
  · rintro ⟨parts, same, munched⟩
    exact ⟨parts.kind, by rw [← same]; rfl, munched.kind⟩
  · rintro ⟨kind, first, digit⟩
    obtain ⟨rest, split⟩ := List.head?_eq_some_iff.mp first
    obtain ⟨parts, same, munched, _⟩ := Header.scan_split kind rest digit
    exact ⟨parts, same.trans split.symm, munched⟩
  · intro first second firstMunched secondMunched firstSame secondSame
    exact Header.munched_unique first second firstMunched secondMunched
      (firstSame.trans secondSame.symm)
  · intro packet
    constructor
    · rintro ⟨rfl, understood⟩
      by_contra silent
      by_cases said : ∃ packet, Grammar raw packet
      · obtain ⟨packet, grammar⟩ := said
        rw [read packet grammar] at silent
        exact silent grammar
      · obtain ⟨reason, cause, isBroken⟩ := broken (not_exists.mp said)
        rw [isBroken] at understood
        cases understood
    · intro grammar
      exact ⟨read packet grammar, isBroken_of_isText packet (isText packet grammar)⟩
  · intro silent
    obtain ⟨reason, cause, isBroken⟩ := broken silent
    rw [isBroken]
    rfl
  · intro isBroken packet grammar
    rw [read packet grammar, isBroken_of_isText packet (isText packet grammar)] at isBroken
    cases isBroken
  · intro isBroken
    refine broken fun packet grammar => ?_
    rw [read packet grammar, isBroken_of_isText packet (isText packet grammar)] at isBroken
    cases isBroken
  · intro ns named
    rcases decode_canonical raw with ⟨reason, cause, isBroken⟩ | ⟨_, canonical⟩
    · rw [isBroken] at named
      cases named
    · exact canonical.named ns named

/-- An event with a namespace and an id, and a text that is cut off before its payload. -/
theorem decode_of_askingEvent :
    decode "2/chat,7[\"a\"]" = .event "/chat" (some 7) "a" [] ∧
      (decode "2/chat,7").isBroken = true ∧ ∀ packet, ¬ Grammar "2/chat,7" packet := by
  have grammar : Grammar "2/chat,7[\"a\"]" (.event "/chat" (some 7) "a" []) := by
    have scanned : Header.scan "2/chat,7[\"a\"]".toList =
        .ok ⟨2, none, some "/chat".toList, some 7, "[\"a\"]".toList⟩ := by
      decide +kernel
    obtain ⟨parts, same, munched, means⟩ := (Header.scan_eq_ok_iff _ _).mp scanned
    exact ⟨parts, _, same, munched, means, .event "a" [] rfl (by rfl)⟩
  have broken : (decode "2/chat,7").isBroken = true := by decide +kernel
  exact ⟨(((decode_iff_grammar _).2.2.1 _).mpr grammar).1, broken,
    (decode_iff_grammar _).2.2.2.1.mpr broken⟩

/-- Without its comma a namespace belongs to the payload, which is then no value. -/
example : (decode "2/chat[\"a\"]").isBroken = true := by decide +kernel

end Packet

end ChatSocket.Socket
