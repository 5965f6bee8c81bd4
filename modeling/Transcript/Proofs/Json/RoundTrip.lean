import Transcript.Proofs.Json.ReadsBack
import Transcript.Proofs.Json.Sorted
import Transcript.Proofs.Json.StringText

/-! # What was written is read back

The text that `Json.compact` writes of a value is read as that value with the fields of its objects
sorted (`Json.parse_compact`), provided that its integers fit (`Json.Fits`), that each of its doubles
(`Json.doubles`) is read back, and that its lists and objects are nested no deeper than the reader
allows (`Json.depth`).

A value is read inside a longer text, up to where its own text ends. `Reader.Reads` is that
statement for one value at one level of nesting. It passes from the items of a list to the list and
from the fields of an object to the object, and so to every value by induction on the value.
-/

namespace Transcript.Json

theorem induction {motive : Json → Prop} (null : motive .null) (bool : ∀ b, motive (.bool b))
    (num : ∀ n, motive (.num n)) (str : ∀ s, motive (.str s))
    (arr : ∀ items, (∀ v ∈ items, motive v) → motive (.arr items))
    (obj : ∀ fields, (∀ field ∈ fields, motive field.2) → motive (.obj fields)) (v : Json) :
    motive v :=
  @Json.rec motive (fun items => ∀ v ∈ items, motive v)
    (fun fields => ∀ field ∈ fields, motive field.2) (fun field => motive field.2)
    null bool num str arr obj
    nofun (fun _ _ first others => List.forall_mem_cons.mpr ⟨first, others⟩)
    nofun (fun _ _ first others => List.forall_mem_cons.mpr ⟨first, others⟩)
    (fun _ _ value => value) v

mutual

/-- How many lists and objects are inside one another. -/
def depth : Json → Nat
  | .null | .bool _ | .num _ | .str _ => 0
  | .arr items => depthItems items + 1
  | .obj fields => depthFields fields + 1

def depthItems : List Json → Nat
  | [] => 0
  | item :: rest => max (depth item) (depthItems rest)

def depthFields : List (String × Json) → Nat
  | [] => 0
  | field :: rest => max (depthField field) (depthFields rest)

def depthField : String × Json → Nat
  | (_, value) => depth value

end

theorem depth_lt_arr {v : Json} {items : List Json} (member : v ∈ items) :
    v.depth < (Json.arr items).depth := by
  rw [depth]
  induction items with
  | nil => cases member
  | cons item rest ih =>
    rw [depthItems]
    rcases List.mem_cons.mp member with rfl | later
    · omega
    · have := ih later
      omega

theorem depth_lt_obj {field : String × Json} {fields : List (String × Json)}
    (member : field ∈ fields) : field.2.depth < (Json.obj fields).depth := by
  rw [depth]
  induction fields with
  | nil => cases member
  | cons first rest ih =>
    rw [depthFields]
    rcases List.mem_cons.mp member with rfl | later
    · rw [depthField]
      omega
    · have := ih later
      omega

mutual

/-- Whether all numbers of a value can have been read. -/
def Fits : Json → Prop
  | .null | .bool _ | .str _ => True
  | .num n => n.Fits
  | .arr items => FitsItems items
  | .obj fields => FitsFields fields

def FitsItems : List Json → Prop
  | [] => True
  | item :: rest => Fits item ∧ FitsItems rest

def FitsFields : List (String × Json) → Prop
  | [] => True
  | field :: rest => FitsField field ∧ FitsFields rest

def FitsField : String × Json → Prop
  | (_, value) => Fits value

end

theorem fits_arr (items : List Json) : (Json.arr items).Fits ↔ ∀ v ∈ items, v.Fits := by
  rw [Fits]
  induction items with
  | nil => simp [FitsItems]
  | cons item rest ih => simp [FitsItems, ih]

theorem fits_obj (fields : List (String × Json)) :
    (Json.obj fields).Fits ↔ ∀ field ∈ fields, field.2.Fits := by
  rw [Fits]
  induction fields with
  | nil => simp [FitsFields]
  | cons field rest ih => rw [FitsFields, ih, List.forall_mem_cons, FitsField]

mutual

def doubles : Json → List Binary64
  | .null | .bool _ | .str _ | .num (.int _) => []
  | .num (.float x) => [x]
  | .arr items => doublesItems items
  | .obj fields => doublesFields fields

def doublesItems : List Json → List Binary64
  | [] => []
  | item :: rest => doubles item ++ doublesItems rest

def doublesFields : List (String × Json) → List Binary64
  | [] => []
  | field :: rest => doublesField field ++ doublesFields rest

def doublesField : String × Json → List Binary64
  | (_, value) => doubles value

end

theorem mem_doubles_arr {x : Binary64} {items : List Json} :
    x ∈ (Json.arr items).doubles ↔ ∃ v ∈ items, x ∈ v.doubles := by
  rw [doubles]
  induction items with
  | nil => simp [doublesItems]
  | cons item rest ih => simp [doublesItems, ih]

theorem mem_doubles_obj {x : Binary64} {fields : List (String × Json)} :
    x ∈ (Json.obj fields).doubles ↔ ∃ field ∈ fields, x ∈ field.2.doubles := by
  rw [doubles]
  induction fields with
  | nil => simp [doublesFields]
  | cons field rest ih =>
    rw [doublesFields, List.mem_append, ih, List.exists_mem_cons_iff, doublesField]

theorem readsBack_of_doubles_eq_nil {v : Json} (none : v.doubles = []) :
    ∀ x ∈ v.doubles, x.ReadsBack := by
  simp [none]

namespace Reader

/-- That a value is read back wherever its text stands inside `levels` levels. -/
def Reads (levels : Nat) (v : Json) : Prop :=
  ∀ rest, EndsNumber rest →
    ∃ h, value levels (v.compact.toList ++ rest) = .ok (v.sorted, ⟨rest, h⟩)

theorem endsNumber_cons {c : Char} (digit : c.isDigit = false) (point : c ≠ '.')
    (lower : c ≠ 'e') (upper : c ≠ 'E') (rest : List Char) : EndsNumber (c :: rest) :=
  ⟨Text.noDigit_cons digit rest, by simpa using point, by simpa using lower, by simpa using upper⟩

theorem reads_null (levels : Nat) : Reads levels .null := by
  intro rest _
  change ∃ h, value levels ('n' :: 'u' :: 'l' :: 'l' :: rest) = .ok (.null, ⟨rest, h⟩)
  obtain ⟨_, first⟩ := exists_next? (c := 'n') rfl ('u' :: 'l' :: 'l' :: rest)
  refine ⟨by simp; omega, ?_⟩
  rw [value]
  simp [first, word, Except.map]

theorem reads_bool (levels : Nat) (b : Bool) : Reads levels (.bool b) := by
  intro rest _
  cases b with
  | true =>
    change ∃ h, value levels ('t' :: 'r' :: 'u' :: 'e' :: rest) = .ok (.bool true, ⟨rest, h⟩)
    obtain ⟨_, first⟩ := exists_next? (c := 't') rfl ('r' :: 'u' :: 'e' :: rest)
    refine ⟨by simp; omega, ?_⟩
    rw [value]
    simp [first, word, Except.map]
  | false =>
    change ∃ h, value levels ('f' :: 'a' :: 'l' :: 's' :: 'e' :: rest) =
      .ok (.bool false, ⟨rest, h⟩)
    obtain ⟨_, first⟩ := exists_next? (c := 'f') rfl ('a' :: 'l' :: 's' :: 'e' :: rest)
    refine ⟨by simp; omega, ?_⟩
    rw [value]
    simp [first, word, Except.map]

theorem toList_quote (s : String) :
    (quote s).toList = '"' :: (s.toList.flatMap escapeChar ++ ['"']) := by
  rw [quote, String.toList_ofList]

theorem reads_str (levels : Nat) (s : String) : Reads levels (.str s) := by
  intro rest _
  have text : (Json.str s).compact.toList ++ rest =
      '"' :: (s.toList.flatMap escapeChar ++ '"' :: rest) := by
    rw [compact, toList_quote]
    simp
  rw [text]
  obtain ⟨_, first⟩ := exists_next? (c := '"') rfl (s.toList.flatMap escapeChar ++ '"' :: rest)
  obtain ⟨shorter, body⟩ := exists_stringBody [] s.toList rest (Nat.le_refl _)
  refine ⟨by simp; omega, ?_⟩
  rw [value]
  simp [first, body, Except.map]

theorem reads_num (levels : Nat) {n : Number} (fits : n.Fits)
    (exact : ∀ x ∈ (Json.num n).doubles, x.ReadsBack) : Reads levels (.num n) := by
  intro rest ends
  obtain ⟨shorter, read⟩ := exists_value_num levels fits ends
  have again : n.reread rest = .ok n := by
    cases n with
    | int n => rfl
    | float x => exact (exact x (by simp [doubles])).reread_eq rest
  rw [again] at read
  exact ⟨shorter, read⟩

/-! ## Lists -/

def itemsText (items : List Json) : List Char := (",".intercalate (compactItems items)).toList

theorem itemsText_nil : itemsText [] = [] := by
  simp [itemsText, compactItems]

theorem itemsText_singleton (item : Json) : itemsText [item] = item.compact.toList := by
  simp [itemsText, compactItems]

theorem itemsText_cons_cons (item second : Json) (more : List Json) :
    itemsText (item :: second :: more) =
      item.compact.toList ++ ',' :: itemsText (second :: more) := by
  simp [itemsText, compactItems, String.intercalate_cons_cons]

/-- What is read as a value does not start like the end of a list. -/
theorem exists_next?_of_value {levels : Nat} {text : List Char} {read : Json × Shorter text}
    (ok : value levels text = .ok read) : ∃ c after, next? text = some (c, after) ∧ c ≠ ']' := by
  rw [value] at ok
  cases first : next? text with
  | none => simp [first] at ok
  | some found =>
    obtain ⟨c, after⟩ := found
    refine ⟨c, after, rfl, ?_⟩
    rintro rfl
    simp [first] at ok

theorem endsNumber_bracket (rest : List Char) : EndsNumber (']' :: rest) :=
  endsNumber_cons rfl (by decide) (by decide) (by decide) rest

theorem endsNumber_comma (rest : List Char) : EndsNumber (',' :: rest) :=
  endsNumber_cons rfl (by decide) (by decide) (by decide) rest

/-- The items of a list start with a value, so neither end the text nor the list. -/
theorem exists_next?_itemsText {levels : Nat} {item : Json} (reads : Reads levels item)
    (items : List Json) (rest : List Char) :
    ∃ c after, next? (itemsText (item :: items) ++ ']' :: rest) = some (c, after) ∧ c ≠ ']' := by
  cases items with
  | nil =>
    rw [itemsText_singleton]
    exact exists_next?_of_value (reads _ (endsNumber_bracket rest)).choose_spec
  | cons second more =>
    rw [itemsText_cons_cons, List.append_assoc, List.cons_append]
    exact exists_next?_of_value (reads _ (endsNumber_comma _)).choose_spec

theorem exists_items {levels : Nat} {item : Json} {items : List Json}
    (each : ∀ v ∈ item :: items, Reads levels v) {bound : Nat} (read : List Json)
    (rest : List Char) (h : (itemsText (item :: items) ++ ']' :: rest).length ≤ bound) :
    ∃ h', Reader.items levels bound read (itemsText (item :: items) ++ ']' :: rest) h =
      .ok (read.reverse ++ (item :: items).map sorted, ⟨rest, h'⟩) := by
  induction items generalizing item read bound with
  | nil =>
    obtain ⟨_, first⟩ := each item List.mem_cons_self _ (endsNumber_bracket rest)
    obtain ⟨_, closed⟩ := exists_next? (c := ']') rfl rest
    simp only [itemsText_singleton] at h ⊢
    refine ⟨by simp at h; omega, ?_⟩
    rw [Reader.items]
    simp [first, closed]
  | cons second more ih =>
    simp only [itemsText_cons_cons, List.append_assoc, List.cons_append] at h ⊢
    have others : ∀ v ∈ second :: more, Reads levels v := fun v member =>
      each v (List.mem_cons_of_mem item member)
    obtain ⟨_, first⟩ := each item List.mem_cons_self _
      (endsNumber_comma (itemsText (second :: more) ++ ']' :: rest))
    obtain ⟨_, comma⟩ := exists_next? (c := ',') rfl (itemsText (second :: more) ++ ']' :: rest)
    obtain ⟨c, after, goesOn, notEnd⟩ :=
      exists_next?_itemsText (others second List.mem_cons_self) more rest
    have shorter : (itemsText (second :: more) ++ ']' :: rest).length ≤ bound := by
      simp at h ⊢
      omega
    obtain ⟨h', remaining⟩ := ih others (item.sorted :: read) shorter
    refine ⟨h', ?_⟩
    rw [Reader.items]
    simp only [first, comma, goesOn]
    split
    · next impossible => cases impossible
    · next closed =>
      cases closed
      exact absurd rfl notEnd
    · rw [remaining]
      simp

theorem reads_arr {levels : Nat} (allowed : 1 < levels) {items : List Json}
    (each : ∀ v ∈ items, Reads (levels - 1) v) : Reads levels (.arr items) := by
  intro rest _
  have text : (Json.arr items).compact.toList ++ rest =
      '[' :: (itemsText items ++ ']' :: rest) := by
    simp [compact, itemsText]
  rw [text, sorted_arr]
  obtain ⟨_, opened⟩ := exists_next? (c := '[') rfl (itemsText items ++ ']' :: rest)
  refine ⟨by simp; omega, ?_⟩
  rw [value]
  simp only [opened, if_neg (not_le.mpr allowed)]
  cases items with
  | nil =>
    obtain ⟨_, closed⟩ : ∃ h, next? (itemsText [] ++ ']' :: rest) = some (']', ⟨rest, h⟩) := by
      rw [itemsText_nil]
      exact exists_next? rfl rest
    simp [closed]
  | cons item items =>
    obtain ⟨c, after, starts, notEnd⟩ :=
      exists_next?_itemsText (each item List.mem_cons_self) items rest
    obtain ⟨_, read⟩ := exists_items each [] rest (Nat.le_refl _)
    simp only [starts]
    split
    · next impossible => cases impossible
    · next closed =>
      cases closed
      exact absurd rfl notEnd
    · simp [read, Except.map]

/-! ## Objects -/

def fieldText (field : String × Json) : List Char :=
  field.1.toList.flatMap escapeChar ++ '"' :: ':' :: field.2.compact.toList

def fieldsText (first : String × Json) : List (String × Json) → List Char
  | [] => fieldText first
  | second :: more => fieldText first ++ ',' :: '"' :: fieldsText second more

theorem toList_compactField (field : String × Json) :
    (compactField field).toList = '"' :: fieldText field := by
  obtain ⟨name, v⟩ := field
  simp [compactField, toList_quote, fieldText]

theorem toList_compactFields (first : String × Json) (more : List (String × Json)) :
    (",".intercalate (compactFields (first :: more))).toList = '"' :: fieldsText first more := by
  induction more generalizing first with
  | nil => simp [compactFields, fieldsText, toList_compactField]
  | cons second more ih =>
    have others := ih second
    simp only [compactFields, String.intercalate_cons_cons, String.toList_append,
      toList_compactField, fieldsText] at others ⊢
    rw [others]
    simp

theorem endsNumber_brace (rest : List Char) : EndsNumber ('}' :: rest) :=
  endsNumber_cons rfl (by decide) (by decide) (by decide) rest

theorem exists_members {levels : Nat} {field : String × Json} {fields : List (String × Json)}
    (each : ∀ f ∈ field :: fields, Reads levels f.2) {bound : Nat} (read : List (String × Json))
    (rest : List Char) (h : (fieldsText field fields ++ '}' :: rest).length ≤ bound) :
    ∃ h', members levels bound read (fieldsText field fields ++ '}' :: rest) h =
      .ok (read.reverse ++ (field :: fields).map sortedField, ⟨rest, h'⟩) := by
  obtain ⟨name, v⟩ := field
  have reads : Reads levels v := each (name, v) List.mem_cons_self
  induction fields generalizing name v read bound with
  | nil =>
    obtain ⟨_, first⟩ := reads _ (endsNumber_brace rest)
    obtain ⟨_, closed⟩ := exists_next? (c := '}') rfl rest
    obtain ⟨_, colon⟩ := exists_next? (c := ':') rfl (v.compact.toList ++ '}' :: rest)
    obtain ⟨_, named⟩ := exists_stringBody [] name.toList
      (':' :: (v.compact.toList ++ '}' :: rest)) (Nat.le_refl _)
    simp only [fieldsText, fieldText, List.append_assoc, List.cons_append] at h ⊢
    refine ⟨by simp at h; omega, ?_⟩
    rw [members]
    simp [named, colon, first, closed, sortedField]
  | cons second more ih =>
    obtain ⟨second, w⟩ := second
    obtain ⟨_, first⟩ := reads _
      (endsNumber_comma ('"' :: (fieldsText (second, w) more ++ '}' :: rest)))
    obtain ⟨_, colon⟩ := exists_next? (c := ':') rfl
      (v.compact.toList ++ ',' :: '"' :: (fieldsText (second, w) more ++ '}' :: rest))
    obtain ⟨_, named⟩ := exists_stringBody [] name.toList
      (':' :: (v.compact.toList ++ ',' :: '"' :: (fieldsText (second, w) more ++ '}' :: rest)))
      (Nat.le_refl _)
    obtain ⟨_, comma⟩ := exists_next? (c := ',') rfl
      ('"' :: (fieldsText (second, w) more ++ '}' :: rest))
    obtain ⟨_, opened⟩ := exists_next? (c := '"') rfl (fieldsText (second, w) more ++ '}' :: rest)
    have others : ∀ f ∈ (second, w) :: more, Reads levels f.2 := fun f member =>
      each f (List.mem_cons_of_mem _ member)
    simp only [fieldsText, fieldText, List.append_assoc, List.cons_append] at h ⊢
    have shorter : (fieldsText (second, w) more ++ '}' :: rest).length ≤ bound := by
      simp at h ⊢
      omega
    obtain ⟨h', remaining⟩ := ih ((name, v.sorted) :: read) second w others shorter
      (others (second, w) List.mem_cons_self)
    refine ⟨h', ?_⟩
    rw [members]
    simp [named, colon, first, comma, opened, remaining, sortedField]

theorem reads_obj {levels : Nat} (allowed : 1 < levels) {fields : List (String × Json)}
    (each : ∀ field ∈ fields, Reads (levels - 1) field.2) : Reads levels (.obj fields) := by
  intro rest _
  cases fields with
  | nil =>
    change ∃ h, value levels ('{' :: '}' :: rest) = .ok (.obj [], ⟨rest, h⟩)
    obtain ⟨_, opened⟩ := exists_next? (c := '{') rfl ('}' :: rest)
    obtain ⟨_, closed⟩ := exists_next? (c := '}') rfl rest
    refine ⟨by simp only [List.length_cons]; omega, ?_⟩
    rw [value]
    simp [opened, if_neg (not_le.mpr allowed), closed]
  | cons field fields =>
    have text : (Json.obj (field :: fields)).compact.toList ++ rest =
        '{' :: '"' :: (fieldsText field fields ++ '}' :: rest) := by
      rw [compact, String.toList_append, String.toList_append, toList_compactFields]
      simp
    rw [text, sorted_obj]
    obtain ⟨_, opened⟩ := exists_next? (c := '{') rfl
      ('"' :: (fieldsText field fields ++ '}' :: rest))
    obtain ⟨_, quoted⟩ := exists_next? (c := '"') rfl (fieldsText field fields ++ '}' :: rest)
    obtain ⟨_, read⟩ := exists_members each [] rest (Nat.le_refl _)
    refine ⟨by simp; omega, ?_⟩
    rw [value]
    simp [opened, if_neg (not_le.mpr allowed), quoted, read, Except.map]

/-- Every value whose numbers fit and are read back is read back, however many levels it needs. -/
theorem reads_of_depth_lt {v : Json} (fits : v.Fits) (exact : ∀ x ∈ v.doubles, x.ReadsBack)
    {levels : Nat} (allowed : v.depth < levels) : Reads levels v := by
  induction v using Json.induction generalizing levels with
  | null => exact reads_null levels
  | bool b => exact reads_bool levels b
  | num n => exact reads_num levels (by rwa [Fits] at fits) exact
  | str s => exact reads_str levels s
  | arr items ih =>
    have deep : 0 < (Json.arr items).depth := by rw [depth]; omega
    refine reads_arr (by omega) fun v member => ih v member ((fits_arr items).mp fits v member)
      (fun x carried => exact x (mem_doubles_arr.mpr ⟨v, member, carried⟩)) ?_
    have := depth_lt_arr member
    omega
  | obj fields ih =>
    have deep : 0 < (Json.obj fields).depth := by rw [depth]; omega
    refine reads_obj (by omega) fun field member =>
      ih field member ((fits_obj fields).mp fits field member)
        (fun x carried => exact x (mem_doubles_obj.mpr ⟨field, member, carried⟩)) ?_
    have := depth_lt_obj member
    omega

end Reader

/-- The text of a value is read as the value with its objects sorted. -/
theorem parse_compact {v : Json} (fits : v.Fits) (exact : ∀ x ∈ v.doubles, x.ReadsBack)
    (nested : v.depth ≤ 127) : parse v.compact = .ok v.sorted := by
  have read :=
    Reader.reads_of_depth_lt fits exact (Nat.lt_succ_of_le nested) [] Reader.endsNumber_nil
  rw [List.append_nil] at read
  obtain ⟨_, read⟩ := read
  have ended : Reader.next? [] = none := rfl
  simp [parse, parseNested, Reader.document, read, ended, bind, Except.bind, pure, Except.pure,
    Except.mapError]

end Transcript.Json
