import EventPipeline.Builtin.Extractors
import EventPipeline.World

/-! Reading events.

An event is read from an object by the names of its fields, or from an array by their order. Of an object
only three fields count, and of several fields of one name the last; of an array nothing may be left over.
Either way only the type has to be there, as a text: the data and the routing data are what is found in
their places, or `null`. The object that is written for an event is read back as this event. -/

namespace EventPipeline

open Json

variable {σ υ ε : Type}

def Json.lastField (fields : List (String × Value)) (key : String) : Option Value :=
  fields.reverse.lookup key

theorem get?_ofList_fields (fields : List (String × Value)) (key : String) :
    (OrderedMap.ofList fields : Object).get? key = lastField fields key := by
  unfold OrderedMap.ofList lastField
  rw [OrderedMap.get?_insertAll_last, OrderedMap.get?_empty, Option.or_none]

namespace Event

/-- The values that are read as events, each with the event that it is read as. -/
inductive Envelope : Value → Event → Prop where
  | object {fields : List (String × Value)} {type : String}
      (typed : lastField fields "eventType" = some (.string type)) :
      Envelope (.object fields)
        ⟨type, (lastField fields "data").getD .null, (lastField fields "routeData").getD .null⟩
  | array {type : String} {rest : List Value} (fits : rest.length ≤ 2) :
      Envelope (.array (.string type :: rest)) ⟨type, rest[0]?.getD .null, rest[1]?.getD .null⟩

theorem any_withDefault (key : String) (object : Object) :
    Decoder.withDefault Decoder.any key .null object = some ((object.get? key).getD .null) := by
  unfold Decoder.withDefault
  cases object.get? key with
  | none => rfl
  | some value => rfl

theorem text_eq_some_iff {value : Value} {text : String} :
    Decoder.text value = some text ↔ value = .string text := by
  cases value <;> simp [Decoder.text, Value.text?]

theorem ofValue?_object (fields : List (String × Value)) :
    ofValue? (.object fields) = (lastField fields "eventType" >>= Decoder.text).map fun type =>
      ⟨type, (lastField fields "data").getD .null, (lastField fields "routeData").getD .null⟩ := by
  show ofObject? (OrderedMap.ofList fields) = _
  unfold ofObject?
  rw [any_withDefault, any_withDefault, Decoder.required, get?_ofList_fields, get?_ofList_fields,
    get?_ofList_fields]
  show Option.bind (lastField fields "eventType" >>= Decoder.text) _ = _
  cases lastField fields "eventType" >>= Decoder.text with
  | none => rfl
  | some type => rfl

theorem ofValue?_array (first : Value) {rest : List Value} (fits : rest.length ≤ 2) :
    ofValue? (.array (first :: rest)) = (Decoder.text first).map fun type =>
      ⟨type, rest[0]?.getD .null, rest[1]?.getD .null⟩ := by
  match rest, fits with
  | [], _ => cases read : Decoder.text first <;> simp [ofValue?, read]
  | [data], _ => cases read : Decoder.text first <;> simp [ofValue?, read]
  | [data, routeData], _ => cases read : Decoder.text first <;> simp [ofValue?, read]

theorem ofValue?_of_long (first : Value) {rest : List Value} (long : 2 < rest.length) :
    ofValue? (.array (first :: rest)) = none := by
  match rest, long with
  | _ :: _ :: _ :: _, _ => rfl

theorem ofValue?_eq_some_iff {value : Value} {event : Event} :
    ofValue? value = some event ↔ Envelope value event := by
  constructor
  · intro read
    match value, read with
    | .object fields, read =>
      rw [ofValue?_object, Option.map_eq_some_iff] at read
      obtain ⟨type, typed, rfl⟩ := read
      obtain ⟨held, found, text⟩ := Option.bind_eq_some_iff.mp typed
      rw [text_eq_some_iff.mp text] at found
      exact .object found
    | .array (first :: rest), read =>
      by_cases fits : rest.length ≤ 2
      · rw [ofValue?_array first fits, Option.map_eq_some_iff] at read
        obtain ⟨type, text, rfl⟩ := read
        rw [text_eq_some_iff.mp text]
        exact .array fits
      · rw [ofValue?_of_long first (Nat.not_le.mp fits)] at read
        cases read
    | .array [], read => cases read
  · intro envelope
    cases envelope with
    | object typed =>
      rw [ofValue?_object, typed]
      rfl
    | array fits =>
      rw [ofValue?_array _ fits]
      rfl

theorem ofValue?_toValue (event : Event) : ofValue? event.toValue = some event := by
  show ofObject? (OrderedMap.ofList event.toObject.entries) = some event
  rw [OrderedMap.ofList_entries]
  unfold ofObject?
  rw [any_withDefault, any_withDefault, Decoder.required]
  have held : ∀ key, event.toObject.get? key = lastField [(typeField, .string event.type),
      (dataField, event.data), (routeDataField, event.routeData)] key := get?_ofList_fields _
  rw [held, held, held]
  rfl

theorem ofValue?_congr {fields others : List (String × Value)}
    (agree : ∀ key ∈ ["eventType", "data", "routeData"], lastField fields key = lastField others key) :
    ofValue? (.object fields) = ofValue? (.object others) := by
  rw [ofValue?_object, ofValue?_object, agree "eventType" (by simp), agree "data" (by simp),
    agree "routeData" (by simp)]

theorem ofValue?_zip {items : List Value} (fits : items.length ≤ 3) :
    ofValue? (.array items) =
      ofValue? (.object (["eventType", "data", "routeData"].zip items)) := by
  match items, fits with
  | [], _ => rfl
  | [type], _ => rw [ofValue?_array type (by simp), ofValue?_object]; rfl
  | [type, data], _ => rw [ofValue?_array type (by simp), ofValue?_object]; rfl
  | [type, data, routeData], _ => rw [ofValue?_array type (by simp), ofValue?_object]; rfl

end Event

/-- The whole event that is extracted is read back as the event. A value is read as an event just when it
is an object whose type is a text, or an array of one to three items that begins with a text; data and
routing data are whatever is in their places, and `null` where there is nothing. Other fields of an object
do not count, and an array is read as the object that names its items. -/
theorem events_read_back [Inhabited σ] (state : σ) (self : InstanceId) (world : World σ υ) :
    (∀ event : Event, ∃ value,
      (((Builtin.fullEvent state : Behaviour σ υ).extract event).run (World.answerOwn self) world :
        Except ε _ × _) = (.ok (.ok value), world) ∧
      Event.ofValue? value = some event) ∧
    (∀ value event, Event.ofValue? value = some event ↔ Event.Envelope value event) ∧
    (∀ value, (∃ event, Event.ofValue? value = some event) ↔
      (∃ fields type, value = .object fields ∧
        lastField fields "eventType" = some (.string type)) ∨
      ∃ type rest, value = .array (.string type :: rest) ∧ rest.length ≤ 2) ∧
    (∀ fields others,
      (∀ key ∈ ["eventType", "data", "routeData"], lastField fields key = lastField others key) →
      Event.ofValue? (.object fields) = Event.ofValue? (.object others)) ∧
    ∀ items, items.length ≤ 3 →
      Event.ofValue? (.array items) =
        Event.ofValue? (.object (["eventType", "data", "routeData"].zip items)) := by
  refine ⟨fun event => ⟨event.toValue, rfl, event.ofValue?_toValue⟩,
    fun _ _ => Event.ofValue?_eq_some_iff, ?_, fun _ _ => Event.ofValue?_congr,
    fun _ => Event.ofValue?_zip⟩
  intro value
  constructor
  · rintro ⟨event, read⟩
    cases Event.ofValue?_eq_some_iff.mp read with
    | object typed => exact .inl ⟨_, _, rfl, typed⟩
    | array fits => exact .inr ⟨_, _, rfl, fits⟩
  · rintro (⟨fields, type, rfl, typed⟩ | ⟨type, rest, rfl, fits⟩)
    · exact ⟨_, Event.ofValue?_eq_some_iff.mpr (.object typed)⟩
    · exact ⟨_, Event.ofValue?_eq_some_iff.mpr (.array fits)⟩

end EventPipeline
