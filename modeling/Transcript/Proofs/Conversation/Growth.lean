import Transcript.Proofs.Conversation.Scopes

/-! # Scopes only grow

Whatever requests and results a register is given, in whatever order and under whatever numbers, each
source has its scopes in the order of their numbers with the open one in front, no id occurs twice in a
scope, and a result stands with the call that it answers (`Sound`). From any point of a history to a
later one, calls come behind those of the open scope, results are set where there were none, and new
scopes come in front of the others; nothing else happens (`Grow`).
-/

namespace Transcript

/-! ## Records -/

namespace ToolRecord

/-- Whether a record can have become another one: its call stays, and so does a result. -/
def Becomes (r later : ToolRecord) : Prop :=
  later.call = r.call ∧ ∀ result, r.result = some result → later.result = some result

theorem Becomes.refl (r : ToolRecord) : r.Becomes r := ⟨rfl, fun _ => id⟩

theorem Becomes.trans {r later last : ToolRecord} (first : r.Becomes later)
    (second : later.Becomes last) : r.Becomes last :=
  ⟨second.1.trans first.1, fun result held => second.2 result (first.2 result held)⟩

theorem becomes_answer (r : ToolRecord) (result : ToolResult) : r.Becomes (r.answer result) := by
  unfold answer
  split
  next answers =>
    refine ⟨rfl, fun earlier held => ?_⟩
    rw [answers.2] at held
    contradiction
  next => exact .refl r

/-- Whether records can have become others: each one keeps its place, and there may be more behind
them. -/
def Extend (records later : List ToolRecord) : Prop :=
  ∀ (i : Nat) (r : ToolRecord), records[i]? = some r → ∃ r', later[i]? = some r' ∧ r.Becomes r'

theorem Extend.refl (records : List ToolRecord) : Extend records records :=
  fun _ r here => ⟨r, here, .refl r⟩

theorem extend_nil (later : List ToolRecord) : Extend [] later := by
  intro i r here
  simp at here

theorem Extend.trans {records later last : List ToolRecord} (first : Extend records later)
    (second : Extend later last) : Extend records last := by
  intro i r here
  obtain ⟨r', here', became⟩ := first i r here
  obtain ⟨r'', here'', became'⟩ := second i r' here'
  exact ⟨r'', here'', became.trans became'⟩

theorem extend_append (records more : List ToolRecord) : Extend records (records ++ more) := by
  intro i r here
  obtain ⟨inside, -⟩ := List.getElem?_eq_some_iff.mp here
  exact ⟨r, (List.getElem?_append_left inside).trans here, .refl r⟩

theorem extend_map_answer (records : List ToolRecord) (result : ToolResult) :
    Extend records (records.map fun r => r.answer result) := by
  intro i r here
  exact ⟨r.answer result, by rw [List.getElem?_map, here]; rfl, becomes_answer r result⟩

end ToolRecord

/-! ## One scope -/

namespace ToolScope

/-- What holds of the records of every scope. -/
structure Sound (s : ToolScope) : Prop where
  /-- No call id occurs twice. -/
  distinct : s.Distinct
  /-- A result stands with its call. -/
  answered : ∀ r ∈ s.records, ∀ result, r.result = some result → result.callId = r.call.id

theorem sound_start (trigger : Nat) : (start trigger).Sound :=
  ⟨List.nodup_nil, by simp [start]⟩

theorem Sound.add {s : ToolScope} (sound : s.Sound) (call : ToolCall) : (s.add call).Sound := by
  rw [add_eq]
  split
  · exact sound
  next absent =>
    constructor
    case distinct =>
      rw [Distinct, List.map_append, List.nodup_append_comm]
      exact List.nodup_cons.mpr ⟨absent, sound.distinct⟩
    case answered =>
      intro r member
      rcases List.mem_append.mp member with earlier | last
      · exact sound.answered r earlier
      · simp [List.mem_singleton.mp last, ToolRecord.pending]

theorem extend_add (s : ToolScope) (call : ToolCall) :
    ToolRecord.Extend s.records (s.add call).records := by
  rw [add_eq]
  split
  · exact .refl s.records
  · exact ToolRecord.extend_append s.records _

/-- Calls that are added change no record. -/
theorem Sound.addAll {s : ToolScope} (sound : s.Sound) (calls : List ToolCall) :
    (s.addAll calls).Sound ∧ ToolRecord.Extend s.records (s.addAll calls).records := by
  induction calls generalizing s with
  | nil => exact ⟨sound, .refl s.records⟩
  | cons call rest ih =>
    obtain ⟨later, grown⟩ := ih (sound.add call)
    exact ⟨later, (s.extend_add call).trans grown⟩

theorem Sound.answer {s : ToolScope} (sound : s.Sound) (result : ToolResult) :
    (s.answer result).Sound := by
  refine ⟨distinct_answer sound.distinct result, ?_⟩
  intro _ member given held
  obtain ⟨r, earlier, rfl⟩ := List.mem_map.mp member
  unfold ToolRecord.answer at held ⊢
  split at held
  next answers =>
    rw [if_pos answers]
    exact (Option.some.inj held) ▸ answers.1.symm
  next refused =>
    rw [if_neg refused]
    exact sound.answered r earlier given held

/-- In a sound scope, an id is found at the place of its record and nowhere else. -/
theorem Sound.indexOf?_eq_some_iff {s : ToolScope} (sound : s.Sound) (id : String) (index : Nat) :
    s.indexOf? id = some index ↔ ∃ r, s.records[index]? = some r ∧ r.call.id = id := by
  constructor
  · intro found
    obtain ⟨inside, matched, -⟩ := List.findIdx?_eq_some_iff_getElem.mp found
    exact ⟨_, List.getElem?_eq_getElem inside, of_decide_eq_true matched⟩
  · rintro ⟨r, here, rfl⟩
    obtain ⟨inside, rfl⟩ := List.getElem?_eq_some_iff.mp here
    refine List.findIdx?_eq_some_iff_getElem.mpr ⟨inside, by simp, fun earlier before same => ?_⟩
    let ids := s.records.map fun r => r.call.id
    have here : index < ids.length := by simpa [ids] using inside
    have there : earlier < ids.length := Nat.lt_trans before here
    have equal : ids[earlier] = ids[index] := by
      simp only [ids, List.getElem_map]
      exact of_decide_eq_true same
    have one : earlier = index := sound.distinct.getElem_inj_iff.mp equal
    omega

end ToolScope

/-! ## The scopes of a source -/

/-- Whether the scopes of a source can have become others: the open one has grown, and there may be new
ones in front of it. -/
def ToolScope.Grow : List ToolScope → List ToolScope → Prop
  | [], _ => True
  | active :: older, later => ∃ newer active', later = newer ++ active' :: older ∧
      active'.trigger = active.trigger ∧ ToolRecord.Extend active.records active'.records

namespace ToolScope.Grow

theorem refl (scopes : List ToolScope) : Grow scopes scopes := by
  cases scopes with
  | nil => trivial
  | cons active older => exact ⟨[], active, rfl, rfl, .refl active.records⟩

theorem trans {scopes later last : List ToolScope} (first : Grow scopes later)
    (second : Grow later last) : Grow scopes last := by
  cases scopes with
  | nil => trivial
  | cons active older =>
    obtain ⟨newer, active', rfl, trigger, grown⟩ := first
    cases newer with
    | nil =>
      obtain ⟨newer, active'', rfl, trigger', extends'⟩ := second
      exact ⟨newer, active'', rfl, trigger'.trans trigger, grown.trans extends'⟩
    | cons front newer =>
      obtain ⟨newest, front', rfl, -, -⟩ := second
      exact ⟨newest ++ front' :: newer, active', by simp, trigger, grown⟩

/-- A scope is found again under its number, with its records and maybe more. -/
theorem exists_of_mem {scopes later : List ToolScope} (grow : Grow scopes later) {scope : ToolScope}
    (member : scope ∈ scopes) : ∃ scope' ∈ later, scope'.trigger = scope.trigger ∧
      ToolRecord.Extend scope.records scope'.records := by
  cases scopes with
  | nil => contradiction
  | cons active older =>
    obtain ⟨newer, active', rfl, trigger, grown⟩ := grow
    rcases List.mem_cons.mp member with rfl | old
    · exact ⟨active', by simp, trigger, grown⟩
    · exact ⟨scope, by simp [old], rfl, .refl scope.records⟩

/-- Of the scopes that are not open, none is changed or lost. -/
theorem tail_suffix {scopes later : List ToolScope} (grow : Grow scopes later) :
    scopes.tail <:+ later.tail := by
  cases scopes with
  | nil => exact List.nil_suffix
  | cons active older =>
    obtain ⟨newer, active', rfl, -, -⟩ := grow
    cases newer with
    | nil => exact List.suffix_rfl
    | cons front newer => exact ⟨newer ++ [active'], by simp⟩

end ToolScope.Grow

/-! ## The register -/

namespace CallRegister

inductive Operation where
  | request (source : String) (trigger : Nat) (calls : List ToolCall)
  | resolve (source : String) (result : ToolResult)

def carryOut (l : CallRegister) : Operation → CallRegister
  | .request source trigger calls => (l.request source trigger calls).1
  | .resolve source result => (l.resolve source result).1

def after (operations : List Operation) : CallRegister := operations.foldl carryOut ∅

/-- What holds of the scopes of every source. -/
structure Sound (l : CallRegister) : Prop where
  scope : ∀ source, ∀ scope ∈ l.scopes source, scope.Sound
  /-- The open scope has the greatest number. -/
  ordered : ∀ source, (l.scopes source).Pairwise fun later earlier => earlier.trigger < later.trigger

theorem sound_empty : (∅ : CallRegister).Sound where
  scope := by simp
  ordered := by simp

/-- Whether the scopes of a source can develop into those of a history. -/
structure Develops (l : CallRegister) (source : String) (history : ToolHistory) : Prop where
  active : history.active.Sound
  old : ∀ scope ∈ history.sealed, scope.Sound
  below : ∀ scope ∈ history.sealed, scope.trigger < history.active.trigger
  ordered : history.sealed.Pairwise fun later earlier => earlier.trigger < later.trigger
  grow : ToolScope.Grow (l.scopes source) (history.active :: history.sealed)

/-- A register stays sound where one source develops, and the scopes of all others stay. -/
theorem Sound.develop {l : CallRegister} (sound : l.Sound) {source : String} {history : ToolHistory}
    (develops : l.Develops source history) :
    Sound ⟨l.histories.set source history⟩ ∧ ∀ other,
      ToolScope.Grow (l.scopes other) (scopes ⟨l.histories.set source history⟩ other) := by
  constructor
  · constructor
    · intro other scope member
      rw [scopes_set] at member
      split at member
      · rcases List.mem_cons.mp member with rfl | earlier
        · exact develops.active
        · exact develops.old scope earlier
      · exact sound.scope other scope member
    · intro other
      rw [scopes_set]
      split
      · exact List.pairwise_cons.mpr ⟨develops.below, develops.ordered⟩
      · exact sound.ordered other
  · intro other
    rw [scopes_set]
    split
    next here =>
      rw [here]
      exact develops.grow
    next => exact .refl _

/-- A number beyond that of the open scope is beyond all. -/
theorem trigger_lt_of_head? {scopes : List ToolScope}
    (ordered : scopes.Pairwise fun later earlier => earlier.trigger < later.trigger) {trigger : Nat}
    (newer : ∀ scope ∈ scopes.head?, scope.trigger < trigger) :
    ∀ scope ∈ scopes, scope.trigger < trigger := by
  intro scope member
  cases scopes with
  | nil => contradiction
  | cons active older =>
    have open_ := newer active rfl
    rcases List.mem_cons.mp member with rfl | old
    · exact open_
    · exact Nat.lt_trans ((List.pairwise_cons.mp ordered).1 scope old) open_

theorem Sound.request {l : CallRegister} (sound : l.Sound) (source : String) (trigger : Nat)
    (calls : List ToolCall) :
    (l.request source trigger calls).1 = l ∨ ∃ history,
      (l.request source trigger calls).1 = ⟨l.histories.set source history⟩ ∧
        l.Develops source history := by
  have sounds := sound.scope source
  have ordered := sound.ordered source
  obtain ⟨scope, older, -, -, stale⟩ | ⟨scope, older, listed, -, extended⟩ | ⟨newer, opened⟩ :=
    l.request_cases source trigger calls
  · exact .inl (congrArg Prod.fst stale)
  · right
    rw [listed, List.forall_mem_cons] at sounds
    rw [listed, List.pairwise_cons] at ordered
    obtain ⟨added, grown⟩ := sounds.1.addAll calls
    have kept := ToolScope.trigger_addAll calls scope
    refine ⟨_, congrArg Prod.fst extended, added, sounds.2, kept.symm ▸ ordered.1, ordered.2, ?_⟩
    rw [listed]
    exact ⟨[], _, rfl, kept, grown⟩
  · right
    obtain ⟨added, -⟩ := (ToolScope.sound_start trigger).addAll calls
    have kept : ((ToolScope.start trigger).addAll calls).trigger = trigger :=
      ToolScope.trigger_addAll calls _
    refine ⟨_, congrArg Prod.fst opened, added, sounds, ?_, ordered, ?_⟩
    · exact kept.symm ▸ trigger_lt_of_head? ordered newer
    · generalize l.scopes source = scopes
      cases scopes with
      | nil => trivial
      | cons active older => exact ⟨[_], active, rfl, rfl, .refl active.records⟩

theorem Sound.resolve {l : CallRegister} (sound : l.Sound) (source : String) (result : ToolResult) :
    (l.resolve source result).1 = l ∨ ∃ history,
      (l.resolve source result).1 = ⟨l.histories.set source history⟩ ∧ l.Develops source history := by
  have distinct : ∀ scope ∈ l.scopes source, scope.Distinct :=
    fun scope member => (sound.scope source scope member).distinct
  obtain ⟨same, -⟩ | ⟨history, known, changed⟩ := resolve_cases l source result distinct
  · exact .inl same
  · right
    have listed := scopes_of_get? known
    have sounds := sound.scope source
    have ordered := sound.ordered source
    rw [listed, List.forall_mem_cons] at sounds
    rw [listed, List.pairwise_cons] at ordered
    refine ⟨_, changed, sounds.1.answer result, sounds.2, ordered.1, ordered.2, ?_⟩
    rw [listed]
    exact ⟨[], _, rfl, rfl, ToolRecord.extend_map_answer _ result⟩

/-- An operation keeps a register sound, and scopes only grow in it. -/
theorem Sound.carryOut {l : CallRegister} (sound : l.Sound) (operation : Operation) :
    (l.carryOut operation).Sound ∧
      ∀ source, ToolScope.Grow (l.scopes source) ((l.carryOut operation).scopes source) := by
  have written : l.carryOut operation = l ∨ ∃ source history,
      l.carryOut operation = ⟨l.histories.set source history⟩ ∧ l.Develops source history := by
    cases operation with
    | request source trigger calls =>
      exact (sound.request source trigger calls).imp_right fun written => ⟨source, written⟩
    | resolve source result =>
      exact (sound.resolve source result).imp_right fun written => ⟨source, written⟩
  obtain same | ⟨source, history, changed, develops⟩ := written
  · rw [same]
    exact ⟨sound, fun _ => .refl _⟩
  · rw [changed]
    exact sound.develop develops

/-- What holds of a register after any operations, and how it can have come from an earlier one. -/
theorem Sound.after {l : CallRegister} (sound : l.Sound) (operations : List Operation) :
    (operations.foldl CallRegister.carryOut l).Sound ∧
      ∀ source, ToolScope.Grow (l.scopes source)
        ((operations.foldl CallRegister.carryOut l).scopes source) := by
  induction operations generalizing l with
  | nil => exact ⟨sound, fun _ => .refl _⟩
  | cons operation rest ih =>
    obtain ⟨first, grow⟩ := sound.carryOut operation
    obtain ⟨last, grow'⟩ := ih first
    exact ⟨last, fun source => (grow source).trans (grow' source)⟩

/-! ## What is read of it -/

/-- Under the number of a scope there are its records. -/
theorem Sound.recordsFor_of_mem {l : CallRegister} (sound : l.Sound) {source : String}
    {scope : ToolScope} (member : scope ∈ l.scopes source) :
    l.recordsFor source scope.trigger = scope.records := by
  have ordered := sound.ordered source
  rw [recordsFor_eq]
  generalize l.scopes source = scopes at member ordered
  induction scopes with
  | nil => contradiction
  | cons active older ih =>
    obtain ⟨below, rest⟩ := List.pairwise_cons.mp ordered
    rcases List.mem_cons.mp member with rfl | old
    · simp
    · have different : active.trigger ≠ scope.trigger := Nat.ne_of_gt (below scope old)
      rw [List.find?_cons_of_neg (by simpa using different)]
      exact ih old rest

/-- The records under a number are extended where scopes have grown. -/
theorem extend_recordsFor {l l' : CallRegister} (sound : l.Sound) (sound' : l'.Sound) {source : String}
    (grow : ToolScope.Grow (l.scopes source) (l'.scopes source)) (message : Nat) :
    ToolRecord.Extend (l.recordsFor source message) (l'.recordsFor source message) := by
  by_cases known : ∃ scope ∈ l.scopes source, scope.trigger = message
  · obtain ⟨scope, member, rfl⟩ := known
    obtain ⟨scope', member', same, grown⟩ := grow.exists_of_mem member
    rwa [sound.recordsFor_of_mem member, ← same, sound'.recordsFor_of_mem member']
  · have nothing : (l.scopes source).find? (fun scope => scope.trigger = message) = none := by
      rw [List.find?_eq_none]
      exact fun scope member same => known ⟨scope, member, of_decide_eq_true same⟩
    rw [recordsFor_eq l, nothing]
    exact ToolRecord.extend_nil _

/-- Scopes that are not open stay behind the open one and keep their records. -/
theorem Sound.sealed_stay {l l' : CallRegister} (sound : l'.Sound) {source : String}
    (grow : ToolScope.Grow (l.scopes source) (l'.scopes source))
    {history : ToolHistory} (known : l.histories.get? source = some history) :
    ∃ history', l'.histories.get? source = some history' ∧ history.sealed <:+ history'.sealed ∧
      ∀ scope ∈ history.sealed, l'.recordsFor source scope.trigger = scope.records := by
  rw [scopes_of_get? known] at grow
  have old := grow.tail_suffix
  obtain ⟨newer, active, later, -⟩ := grow
  cases listed : l'.scopes source with
  | nil => simp [listed] at later
  | cons front older =>
    rw [listed] at old
    refine ⟨⟨front, older⟩, get?_of_scopes_cons listed, old, fun scope member => ?_⟩
    apply sound.recordsFor_of_mem
    rw [listed]
    exact List.mem_cons_of_mem front (old.subset member)

end CallRegister

end Transcript
