import ChatSocket.Proofs.Connection.Malformed
import ChatSocket.Proofs.Engine.Spans
import ChatSocket.Proofs.Event.RoundTrip

/-!
# Events that were decoded

An argument can say the same in many ways: members that nobody knows, nulls for what may be left
out, an array in place of an object.  None of it is left in the event (`schema_sound`), so what was
decoded comes back from the one form in which it is encoded.  What is refused is kept as it came
(`decode_faithful`).
-/

set_option autoImplicit false

namespace ChatSocket

open Json.Schema (field? item? optional any)

namespace Json.Schema

theorem ne_null_of_optional (value : Json) (data : Option (Option Json))
    (read : some <$> optional any value = .ok data) : data.getD none ≠ some .null := by
  cases value <;> cases read <;> simp

theorem ne_null_of_field? (key : String) (members : Members) (data : Option (Option Json))
    (read : field? key (optional any) members = .ok data) : data.getD none ≠ some .null := by
  rw [field?] at read
  split at read
  · exact ne_null_of_optional _ data read
  · cases read
    simp

theorem ne_null_of_item? (index : Nat) (items : List Json) (data : Option (Option Json))
    (read : item? index (optional any) items = .ok data) : data.getD none ≠ some .null := by
  rw [item?] at read
  split at read
  · exact ne_null_of_optional _ data read
  · cases read
    simp

theorem map_ok {α β : Type} (make : α → β) (result : Result α) (made : β)
    (read : make <$> result = .ok made) : ∃ value, result = .ok value ∧ make value = made := by
  cases result with
  | error reason => cases read
  | ok value => exact ⟨value, rfl, Except.ok.inj read⟩

theorem field?_ok {α : Type} (key : String) (schema : Json → Result α) (members : Members)
    (meant : α) (read : field? key schema members = .ok (some meant)) :
    ∃ value, schema value = .ok meant := by
  rw [field?] at read
  split at read
  · obtain ⟨other, found, same⟩ := map_ok some _ _ read
    cases same
    exact ⟨_, found⟩
  · cases read

/-- A record is read from one of its forms. -/
theorem record_ok {α : Type} (shape : Shape) (place : Place) (ofMembers : Members → Result α)
    (ofItems : List Json → Result α) (value : Json) (meant : α)
    (read : record shape place ofMembers ofItems value = .ok meant) :
    (∃ members, ofMembers members = .ok meant) ∨ ∃ items, ofItems items = .ok meant := by
  cases value with
  | object members => exact Or.inl ⟨members, read⟩
  | array items =>
      obtain ⟨other, found, kept⟩ := (bind_ok_iff _ _ _).mp read
      split at kept
      · cases kept
        exact Or.inr ⟨items, found⟩
      · cases kept
  | null | bool | number | string => cases read

end Json.Schema

theorem ProcessInput.data_ne_null (argument : Json) (input : ProcessInput)
    (read : ofJson argument = .ok input) : input.data ≠ some .null := by
  rcases Json.Schema.record_ok _ _ _ _ argument input read with ⟨members, read⟩ | ⟨items, read⟩
  · simp only [ofMembers, bind_ok_iff, pure, Except.pure] at read
    obtain ⟨_, -, _, -, data, given, _, -, _, -, _, -, _, -, _, -, _, -, _, -, _, -, _, -, _, -, _,
      -, _, -, _, -, _, -, _, -, _, -, _, -, same⟩ := read
    cases same
    exact Json.Schema.ne_null_of_field? "data" members data given
  · simp only [ofItems, bind_ok_iff, pure, Except.pure] at read
    obtain ⟨_, -, _, -, _, -, _, -, _, -, _, -, _, -, _, -, _, -, _, -, _, -, data, given, same⟩ :=
      read
    cases same
    exact Json.Schema.ne_null_of_item? 11 items data given

theorem OutputMessage.data_ne_null (place : Json.Schema.Place) (argument : Json)
    (output : OutputMessage) (read : ofJson place argument = .ok output) :
    output.data ≠ some .null := by
  rcases Json.Schema.record_ok _ _ _ _ argument output read with ⟨members, read⟩ | ⟨items, read⟩
  · simp only [ofMembers, bind_ok_iff, pure, Except.pure] at read
    obtain ⟨data, given, _, -, _, -, _, -, _, -, _, -, _, -, _, -, same⟩ := read
    cases same
    exact Json.Schema.ne_null_of_field? "data" members data given
  · simp only [ofItems, bind_ok_iff, pure, Except.pure] at read
    obtain ⟨_, -, data, given, _, -, _, -, _, -, same⟩ := read
    cases same
    exact Json.Schema.ne_null_of_item? 1 items data given

/-- Output is read from what stands under a tag. -/
theorem Output.ofJson_ok (argument : Json) (output : Output) (read : ofJson argument = .ok output) :
    ∃ tag data, ofTagged tag data = .ok output := by
  cases argument with
  | object members =>
      obtain ⟨_, -, read⟩ := (bind_ok_iff _ _ _).mp read
      obtain ⟨tag, -, read⟩ := (bind_ok_iff _ _ _).mp read
      obtain ⟨held, found, needed⟩ := (bind_ok_iff _ _ _).mp read
      rw [Engine.Open.needField_ok _ _ _ needed] at found
      obtain ⟨data, given⟩ := Json.Schema.field?_ok _ _ _ _ found
      exact ⟨tag, data, given⟩
  | array items =>
      rcases items with _ | ⟨first, _ | ⟨data, surplus⟩⟩
      · cases read
      · obtain ⟨tag, -, read⟩ := (bind_ok_iff _ _ _).mp read
        cases read
      · obtain ⟨tag, -, read⟩ := (bind_ok_iff _ _ _).mp read
        obtain ⟨other, given, kept⟩ := (bind_ok_iff _ _ _).mp read
        split at kept
        · cases kept
          exact ⟨tag, data, given⟩
        · cases kept
  | null | bool | number | string => cases read

namespace Event

theorem not_holdsNull_of_output (argument : Json) (output : Output)
    (read : Output.ofJson argument = .ok output) : ¬ (ofOutput output).HoldsNull := by
  obtain ⟨tag, data, given⟩ := Output.ofJson_ok argument output read
  cases tag with
  | output =>
      obtain ⟨message, messageRead, rfl⟩ := Json.Schema.map_ok _ _ _ given
      exact message.data_ne_null .tagged data messageRead
  | error =>
      obtain ⟨error, _, rfl⟩ := Json.Schema.map_ok _ _ _ given
      exact id

/-- What a schema reads is an event of its name, and nothing in it would be lost in writing. -/
theorem schema_sound (name : String) (schema : Json → Json.Schema.Result Event) (argument : Json)
    (event : Event) (known : schema? name = some schema) (read : schema argument = .ok event) :
    event.name = name ∧ ¬ event.HoldsNull := by
  simp only [schema?] at known
  split at known <;> cases known <;> obtain ⟨value, given, rfl⟩ := Json.Schema.map_ok _ _ _ read
  case h_1 => exact ⟨rfl, value.data_ne_null argument given⟩
  case h_2 =>
    refine ⟨?_, not_holdsNull_of_output argument value given⟩
    cases value <;> rfl
  all_goals exact ⟨rfl, id⟩

/-- What becomes of a packet. -/
inductive Decoded (packet : Socket.Packet) : Event → Prop
  | understood (ns : String) (ackId : Option UInt64) (name : String) (argument : Json)
      (schema : Json → Json.Schema.Result Event) (event : Event)
      (single : packet = .event ns ackId name [argument]) (known : schema? name = some schema)
      (read : schema argument = .ok event) : Decoded packet event
  | mismatched (ns : String) (ackId : Option UInt64) (name : String) (argument : Json)
      (schema : Json → Json.Schema.Result Event) (reason : Json.Mismatch)
      (single : packet = .event ns ackId name [argument]) (known : schema? name = some schema)
      (refused : schema argument = .error reason) :
      Decoded packet
        (.protocolError ⟨.socket packet, "failed to decode argument", some reason.message⟩)
  | unasked (message : String)
      (unknown : ∀ ns ackId name argument, packet = .event ns ackId name [argument] →
        schema? name = none) :
      Decoded packet (.protocolError ⟨.socket packet, message, none⟩)

theorem decode_decoded (packet : Socket.Packet) : Decoded packet (decode packet) := by
  cases packet with
  | event ns ackId name args =>
      rcases args with _ | ⟨argument, _ | ⟨second, rest⟩⟩
      · exact .unasked _ (by simp)
      · cases known : schema? name with
        | none =>
            simp only [decode, ofArgument, known]
            refine .unasked _ ?_
            rintro _ _ _ _ ⟨⟩
            exact known
        | some schema =>
            cases read : schema argument with
            | ok event =>
                simp only [decode, ofArgument, known, read]
                exact .understood ns ackId name argument schema event rfl known read
            | error reason =>
                simp only [decode, ofArgument, known, read]
                exact .mismatched ns ackId name argument schema reason rfl known read
      · exact .unasked _ (by simp)
  | connect | disconnect | acknowledge | connectError | binaryEvent | binaryAcknowledge | broken =>
      exact .unasked _ (by simp)

/-- A packet is decoded to an event only if it has the event's name and a single argument; then
nothing else about the packet matters, and the event comes back from its own encoding.  Every other
packet is kept in a protocol error, with a cause exactly if the one argument does not fit the schema
that the name selects. -/
theorem decode_faithful (packet : Socket.Packet) :
    (∀ event, decode packet = event → (∀ error, event ≠ .protocolError error) →
      ∃ ns ackId argument, packet = .event ns ackId event.name [argument] ∧
        (∀ other otherId, decode (.event other otherId event.name [argument]) = event) ∧
        ∃ again, event.encode = .ok again ∧ decode again = event) ∧
      ∀ error, decode packet = .protocolError error →
        error.subject = .socket packet ∧
        ∀ cause, error.cause = some cause ↔
          ∃ ns ackId name argument schema reason, packet = .event ns ackId name [argument] ∧
            schema? name = some schema ∧ schema argument = .error reason ∧
            reason.message = cause := by
  have decoded := decode_decoded packet
  refine ⟨?_, ?_⟩
  · rintro event rfl understood
    generalize decode packet = event at decoded understood
    cases decoded with
    | understood ns ackId name argument schema event single known read =>
        obtain ⟨rfl, notNull⟩ := schema_sound name schema argument event known read
        obtain ⟨again, carried⟩ := event.argument?_isSome understood
        refine ⟨ns, ackId, argument, single, fun other otherId => ?_, _,
          event.encode_of_argument again carried, ?_⟩
        · simp only [decode, ofArgument, known, read]
        · exact (event.decode_argument again _ none carried).trans
            (event.withoutNull_eq_iff.mpr notNull)
    | mismatched | unasked => exact absurd rfl (understood _)
  · intro error refused
    rw [refused] at decoded
    generalize made : protocolError error = event at decoded
    cases decoded with
    | understood ns ackId name argument schema event single known read =>
        exact absurd made.symm (understood_of_schema name schema argument event known read error)
    | mismatched ns ackId name argument schema reason single known unfit =>
        cases made
        refine ⟨rfl, fun cause => ⟨?_, ?_⟩⟩
        · rintro ⟨⟩
          exact ⟨ns, ackId, name, argument, schema, reason, single, known, unfit, rfl⟩
        · rintro ⟨_, _, _, _, _, other, singleToo, knownToo, unfitToo, rfl⟩
          cases single.symm.trans singleToo
          cases known.symm.trans knownToo
          cases unfit.symm.trans unfitToo
          rfl
    | unasked message unknown =>
        cases made
        refine ⟨rfl, fun cause => ⟨?_, ?_⟩⟩
        · intro caused
          cases caused
        · rintro ⟨ns, ackId, name, argument, schema, _, single, known, _, _⟩
          cases (unknown ns ackId name argument single).symm.trans known

/-- A message as an array, with nulls for what may be left out, and a status that is none. -/
theorem decode_faithful_of_arrayForm :
    (decode (.event "/a" (some 7) "output" [.array [.string "output", .array [.null, .null,
        .string "t", .bool false, .string "bot"]]]) = message ⟨none, none, "t", false, ⟨"bot"⟩⟩ ∧
      ∃ again, (message ⟨none, none, "t", false, ⟨"bot"⟩⟩).encode = .ok again ∧
        decode again = message ⟨none, none, "t", false, ⟨"bot"⟩⟩) ∧
      ∃ error cause, decode (.event "/" none "typingStatus" [.null]) = .protocolError error ∧
        error.subject = .socket (.event "/" none "typingStatus" [.null]) ∧
        error.cause = some cause := by
  have read : decode (.event "/a" (some 7) "output" [.array [.string "output", .array [.null, .null,
      .string "t", .bool false, .string "bot"]]]) = message ⟨none, none, "t", false, ⟨"bot"⟩⟩ := rfl
  obtain ⟨_, _, _, _, _, comesBack⟩ := (decode_faithful _).1 _ read (by simp)
  obtain ⟨kept, caused⟩ := (decode_faithful (.event "/" none "typingStatus" [.null])).2 _ rfl
  have cause := (caused _).mpr ⟨_, _, _, _, _, _, rfl, rfl, rfl, rfl⟩
  exact ⟨⟨read, comesBack⟩, _, _, rfl, kept, cause⟩

end Event

end ChatSocket
