import Transcript.Proofs.Stream.Source

/-! # Which fields of an envelope are read

Ten fields of an object say what it means as an envelope (`Envelope.fieldNames`). The shared ones are
read once (`Envelope.read_of_agree`); of the object itself the recognisers of errors and summaries look
at three more and the others at none (`Envelope.recogniser_withFields`). So objects that agree on the ten
mean the same event, unless no recogniser knows them: then each of them is passed on as it is
(`Event.ofValue_of_agree`).
-/

namespace Transcript

/-- Whether two objects have the same value, or none, under each of the names. -/
def Json.AgreeOn (names : List String) (fields others : List (String × Json)) : Prop :=
  ∀ name ∈ names, lookup name fields = lookup name others

theorem Json.AgreeOn.insertField {names : List String} {new : String} (unlisted : new ∉ names)
    (value : Json) (fields : List (String × Json)) :
    AgreeOn names fields (Json.insertField new value fields) := by
  intro name listed
  have other : new ≠ name := fun same => unlisted (same ▸ listed)
  exact (lookup_insertField_of_ne other value fields).symm

namespace Envelope

/-- The names of the fields that say what an envelope means. -/
def fieldNames : List String :=
  ["type", "status", "awaiting_input", "source", "id", "content", "models_usage", "error",
    "task_result", "duration"]

/-- The envelope as if it were another object. -/
def withFields (fields : List (String × Json)) (e : Envelope) : Envelope := { e with fields }

variable {fields others : List (String × Json)}

theorem read_of_agree (agree : Json.AgreeOn fieldNames fields others) (defaultSource : String) :
    read defaultSource others = (read defaultSource fields).withFields others := by
  have same (name : String) (listed : name ∈ fieldNames) :
      Json.lookup name others = Json.lookup name fields := (agree name listed).symm
  simp only [read, withFields, textField?, idField?, usageField?, signalsInput,
    same "type" (by decide), same "status" (by decide), same "awaiting_input" (by decide),
    same "source" (by decide), same "id" (by decide), same "content" (by decide),
    same "models_usage" (by decide)]

/-- An object that names its source is read in the same way under every default source. -/
theorem read_of_named {name : String} (named : Json.lookup "source" fields = some (.str name))
    (defaultSource other : String) : read defaultSource fields = read other fields := by
  simp only [read, textField?, named]
  rfl

variable {e : Envelope}

theorem taskSummary?_withFields (agree : Json.AgreeOn fieldNames e.fields others) :
    taskSummary? (e.withFields others) = taskSummary? e := by
  have result : objectField? "task_result" others = objectField? "task_result" e.fields := by
    rw [objectField?, objectField?, agree "task_result" (by decide)]
  have duration : Json.lookup "duration" others = Json.lookup "duration" e.fields :=
    (agree "duration" (by decide)).symm
  simp only [taskSummary?, withFields]
  -- the object itself holds the result only where the content does not
  cases e.content.fields?.filter fun fields => (objectField? "task_result" fields).isSome with
  | some inner => rfl
  | none =>
    change (objectField? "task_result" others).bind _ = (objectField? "task_result" e.fields).bind _
    simp only [result, duration]

theorem recogniser_withFields (agree : Json.AgreeOn fieldNames e.fields others)
    {recogniser : Envelope → Option Event} (member : recogniser ∈ recognisers) :
    recogniser (e.withFields others) = recogniser e := by
  simp only [recognisers, List.mem_cons, List.not_mem_nil, or_false] at member
  rcases member with rfl | rfl | rfl | rfl | rfl | rfl | rfl | rfl
  · have reported : textField? "error" others = textField? "error" e.fields := by
      rw [textField?, textField?, agree "error" (by decide)]
    simp only [error?, withFields, reported]
  · rfl
  · exact taskSummary?_withFields agree
  all_goals rfl

theorem recognise?_withFields (agree : Json.AgreeOn fieldNames e.fields others) :
    (e.withFields others).recognise? = e.recognise? := by
  have same : (e.withFields others).recognise? = e.recognise?.map fun event => event := by
    apply recognise?_eq_map
    intro recogniser member
    rw [Option.map_id_apply', recogniser_withFields agree member]
  rw [same, Option.map_id_apply']

/-- No recogniser passes an object on. -/
theorem recognise?_ne_other (source : String) (payload : Json) :
    e.recognise? ≠ some (.other source payload) := by
  intro recognised
  obtain ⟨recogniser, member, said⟩ := List.exists_of_findSome?_eq_some recognised
  simp only [recognisers, List.mem_cons, List.not_mem_nil, or_false] at member
  rcases member with rfl | rfl | rfl | rfl | rfl | rfl | rfl | rfl
  · simp [error?] at said
  · simp [delta?] at said
  · simp [taskSummary?, Option.bind_eq_some_iff] at said
  · simp [modelTrace?, Option.bind_eq_some_iff] at said
  all_goals
    obtain ⟨payload, -, event⟩ := Option.map_eq_some_iff.mp said
    contradiction

end Envelope

/-- An object that names its source means the same under every default source. -/
theorem Event.ofValue_of_named {fields : List (String × Json)} {name : String}
    (named : Json.lookup "source" fields = some (.str name)) (defaultSource other : String) :
    ofValue defaultSource (.obj fields) = ofValue other (.obj fields) := by
  simp only [ofValue, Envelope.read_of_named named defaultSource other]

/-- Objects that agree on the fields that are read mean the same, but an object that no recogniser knows
is passed on as it is. -/
theorem Event.ofValue_of_agree {fields others : List (String × Json)}
    (agree : Json.AgreeOn Envelope.fieldNames fields others) (defaultSource : String) :
    (∀ source payload, ofValue defaultSource (.obj fields) ≠ .other source payload) ∧
        ofValue defaultSource (.obj others) = ofValue defaultSource (.obj fields) ∨
      ∃ source, ofValue defaultSource (.obj fields) = .other source (.obj fields) ∧
        ofValue defaultSource (.obj others) = .other source (.obj others) := by
  have read := Envelope.read_of_agree agree defaultSource
  have means : (Envelope.read defaultSource others).recognise? =
      (Envelope.read defaultSource fields).recognise? := by
    rw [read]
    exact Envelope.recognise?_withFields agree
  cases recognised : (Envelope.read defaultSource fields).recognise? with
  | some event =>
    have known : ofValue defaultSource (.obj fields) = event := by
      simp only [ofValue, recognised, Option.getD_some]
    refine .inl ⟨fun source payload other => ?_, ?_⟩
    · rw [← known, other] at recognised
      exact Envelope.recognise?_ne_other source payload recognised
    · rw [known]
      simp only [ofValue, means, recognised, Option.getD_some]
  | none =>
    refine .inr ⟨(Envelope.read defaultSource fields).source, ?_, ?_⟩
    · simp only [ofValue, recognised, Option.getD_none]
    · simp only [ofValue, means, recognised, Option.getD_none]
      rw [read]
      rfl

end Transcript
