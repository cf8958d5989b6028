import ChatSocket.Engine.Packet
import ChatSocket.Proofs.Results

/-!
# The spans of an Open

A server gives its spans of time as counts of milliseconds.  Whatever way an Open is written, as an
object or as an array, every span that is read from it is such a count.
-/

set_option autoImplicit false

namespace ChatSocket.Engine

/-- A count of milliseconds that travels in a packet. -/
def IsCount (span : Duration) : Prop :=
  ∃ millis, millis ≤ Duration.maxMillis ∧ span = .ofMillis millis

namespace Open

/-- What has been read of the spans are counts. -/
structure Partial.Counts (parts : Partial) : Prop where
  interval : ∀ span, parts.pingInterval = some span → IsCount span
  timeout : ∀ span, parts.pingTimeout = some span → IsCount span

theorem counts_empty : Partial.empty.Counts := ⟨nofun, nofun⟩

theorem isCount_of_schema (value : Json) (span : Duration)
    (read : schemaMillis value = .ok span) : IsCount span := by
  cases counted : Json.Schema.unsigned value with
  | error reason =>
      rw [schemaMillis, counted] at read
      cases read
  | ok count =>
      rw [schemaMillis, counted] at read
      cases read
      exact ⟨count.toNat, Nat.le_of_lt_succ count.toNat_lt, rfl⟩

theorem fit_ok {α : Type} (result : Json.Schema.Result α) (rest left : List Char) (value : α)
    (read : Json.fit result rest = .ok (value, left)) : result = .ok value := by
  cases result with
  | error reason => cases read
  | ok other =>
      cases read
      rfl

theorem readScalar_ok {α : Type} (schema : Json → Json.Schema.Result α) (chars rest : List Char)
    (value : α) (read : Json.readScalar schema chars = .ok (value, rest)) :
    ∃ json, schema json = .ok value := by
  rw [Json.readScalar] at read
  split at read
  · exact ⟨_, fit_ok _ _ _ _ read⟩
  · exact ⟨_, fit_ok _ _ _ _ read⟩
  · obtain ⟨⟨json, left⟩, _, fits⟩ := (bind_ok_iff _ _ _).mp read
    exact ⟨json, fit_ok _ _ _ _ fits⟩

theorem counts_readField (field : Field) (parts after : Partial) (chars rest : List Char)
    (counts : parts.Counts) (read : readField field parts chars = .ok (after, rest)) :
    after.Counts := by
  cases field with
  | sid | upgrades | maxPayload =>
      obtain ⟨⟨value, left⟩, _, same⟩ := (bind_ok_iff _ _ _).mp read
      cases same
      exact { counts with }
  | pingInterval =>
      obtain ⟨⟨span, left⟩, scalar, same⟩ := (bind_ok_iff _ _ _).mp read
      obtain ⟨json, given⟩ := readScalar_ok _ _ _ _ scalar
      cases same
      refine { counts with interval := ?_ }
      rintro other same
      cases same
      exact isCount_of_schema json span given
  | pingTimeout =>
      obtain ⟨⟨span, left⟩, scalar, same⟩ := (bind_ok_iff _ _ _).mp read
      obtain ⟨json, given⟩ := readScalar_ok _ _ _ _ scalar
      cases same
      refine { counts with timeout := ?_ }
      rintro other same
      cases same
      exact isCount_of_schema json span given

theorem counts_readMembers (fuel : Nat) (first : Bool) (parts after : Partial)
    (chars rest : List Char) (counts : parts.Counts)
    (read : readMembers fuel first parts chars = .ok (after, rest)) : after.Counts := by
  induction fuel generalizing first parts chars with
  | zero => cases read
  | succ fuel ih =>
      obtain ⟨⟨more, left⟩, _, read⟩ := (bind_ok_iff _ _ _).mp read
      cases more with
      | none =>
          cases read
          exact counts
      | some =>
          obtain ⟨⟨key, left⟩, _, read⟩ := (bind_ok_iff _ _ _).mp read
          simp only at read
          split at read
          · rename_i field known
            split at read
            · cases read
            · obtain ⟨value, _, read⟩ := (bind_ok_iff _ _ _).mp read
              obtain ⟨⟨between, left⟩, field, read⟩ := (bind_ok_iff _ _ _).mp read
              exact ih false between left (counts_readField _ parts between _ _ counts field) read
          · obtain ⟨value, _, read⟩ := (bind_ok_iff _ _ _).mp read
            obtain ⟨left, _, read⟩ := (bind_ok_iff _ _ _).mp read
            exact ih false parts left counts read

theorem counts_readItems (fields : List Field) (index : Nat) (parts after : Partial)
    (chars rest : List Char) (counts : parts.Counts)
    (read : readItems fields index parts chars = .ok (after, rest)) : after.Counts := by
  induction fields generalizing index parts chars with
  | nil =>
      rw [readItems] at read
      split at read
      · cases read
      · cases read
        exact counts
      · split at read <;> cases read
      · cases read
  | cons field fields ih =>
      obtain ⟨⟨more, left⟩, _, read⟩ := (bind_ok_iff _ _ _).mp read
      cases more with
      | some =>
          obtain ⟨⟨between, left⟩, item, read⟩ := (bind_ok_iff _ _ _).mp read
          exact ih (index + 1) between left (counts_readField _ parts between _ _ counts item) read
      | none =>
          simp only at read
          split at read
          · cases read
            exact counts
          · cases read

theorem needField_ok {α : Type} (name : String) (held : Option α) (value : α)
    (needed : Json.Schema.needField name held = .ok value) : held = some value := by
  cases held with
  | none => cases needed
  | some other =>
      cases needed
      rfl

theorem isCount_of_finish (parts : Partial) (data : Open) (counts : parts.Counts)
    (finished : parts.finish = .ok data) :
    IsCount data.pingInterval ∧ IsCount data.pingTimeout := by
  obtain ⟨sid, _, finished⟩ := (bind_ok_iff _ _ _).mp finished
  obtain ⟨upgrades, _, finished⟩ := (bind_ok_iff _ _ _).mp finished
  obtain ⟨interval, intervalHeld, finished⟩ := (bind_ok_iff _ _ _).mp finished
  obtain ⟨timeout, timeoutHeld, finished⟩ := (bind_ok_iff _ _ _).mp finished
  cases finished
  exact ⟨counts.interval _ (needField_ok _ _ _ intervalHeld),
    counts.timeout _ (needField_ok _ _ _ timeoutHeld)⟩

theorem isCount_of_read (chars rest : List Char) (data : Open)
    (opened : read chars = .ok (data, rest)) :
    IsCount data.pingInterval ∧ IsCount data.pingTimeout := by
  rw [read] at opened
  split at opened
  · obtain ⟨⟨parts, left⟩, members, opened⟩ := (bind_ok_iff _ _ _).mp opened
    exact isCount_of_finish parts data
      (counts_readMembers _ _ _ parts _ _ counts_empty members) (fit_ok _ _ _ _ opened)
  · obtain ⟨⟨parts, left⟩, items, opened⟩ := (bind_ok_iff _ _ _).mp opened
    exact isCount_of_finish parts data
      (counts_readItems _ _ _ parts _ _ counts_empty items) (fit_ok _ _ _ _ opened)
  · obtain ⟨json, refused⟩ := readScalar_ok _ _ _ _ opened
    cases refused

theorem readAll_ok {α : Type} (reader : List Char → Except Json.Halt (α × List Char))
    (text : String) (value : α) (whole : Json.readAll reader text = .ok value) :
    ∃ rest, reader text.toList = .ok (value, rest) := by
  cases found : reader text.toList with
  | error halt =>
      simp only [Json.readAll, found, bind, Except.bind] at whole
      cases whole
  | ok result =>
      obtain ⟨other, rest⟩ := result
      simp only [Json.readAll, found, bind, Except.bind] at whole
      split at whole
      · cases whole
        exact ⟨rest, rfl⟩
      · cases whole

theorem isCount_of_parse (text : String) (data : Open) (opened : parse text = .ok data) :
    IsCount data.pingInterval ∧ IsCount data.pingTimeout := by
  obtain ⟨rest, opened⟩ := readAll_ok read text data opened
  exact isCount_of_read text.toList rest data opened

end Open

/-- A server can ask for no other spans than counts of milliseconds. -/
theorem isCount_of_decode? (frame : Frame) (data : Open)
    (opened : Packet.decode? frame = some (.opening data)) :
    IsCount data.pingInterval ∧ IsCount data.pingTimeout := by
  cases frame with
  | text text =>
      have opened := Option.some.inj opened
      rw [Packet.decodeText] at opened
      split at opened
      · cases opened
      · rename_i body _
        rw [Packet.decodeOpening] at opened
        split at opened
        · rename_i other parsed
          cases opened
          exact Open.isCount_of_parse _ data parsed
        · cases opened
      all_goals cases opened
  | binary => cases Option.some.inj opened
  | ping | pong | close => cases opened

end ChatSocket.Engine
