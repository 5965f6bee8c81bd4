import Transcript.Conversation.Snapshot
import Transcript.Proofs.Storage.StoredMessages
import Transcript.Proofs.Viewer.Serving

/-! # The run that is opened

The id of a run comes to a viewer in two ways: from the caller, who names the file of the run, and from
what the file says. The conversation, and what is made known of it, is that of the file, while the notice
that the run is opened goes by the caller (`runId_of_opens`). Nothing compares the two, so they agree
exactly where the file is that of the run that its name says.
-/

namespace Transcript

open Json (lookup)
open Json.Decoder

/-- Whether a value of a run file gives this id. -/
def Json.GivesId (id : String) : Json → Prop
  | .obj fields => lookup "id" fields = some (.str id)
  | .arr items => items.head? = some (.str id)
  | _ => False

/-- A text field that has to be there is that text. -/
theorem Json.Decoder.lookup_of_text {fields : List (String × Json)} {name a : String}
    {read : Option String} (ok : field? fields name text = .ok read)
    (there : required name read = .ok a) : lookup name fields = some (.str a) := by
  unfold field? at ok
  cases written : lookup name fields with
  | none =>
    rw [written] at ok
    cases ok
    contradiction
  | some value =>
    rw [written] at ok
    obtain ⟨b, decoded, ok⟩ := exists_ok_bind ok
    cases ok
    cases there
    rw [text_eq_ok_iff.mp decoded]

namespace Run

variable {now : Timestamp} {value : Json} {content : String} {r : Run}

theorem givesId_of_ofJson (read : ofJson now value = .ok r) : value.GivesId r.id := by
  cases value with
  | obj fields =>
    obtain ⟨createdAt, -, read⟩ := exists_ok_bind read
    obtain ⟨id, idRead, read⟩ := exists_ok_bind read
    obtain ⟨messages, -, read⟩ := exists_ok_bind read
    obtain ⟨sessionId, -, read⟩ := exists_ok_bind read
    obtain ⟨status, -, read⟩ := exists_ok_bind read
    obtain ⟨task, -, read⟩ := exists_ok_bind read
    obtain ⟨idThere, idGiven, read⟩ := exists_ok_bind read
    obtain ⟨sessionIdThere, -, read⟩ := exists_ok_bind read
    obtain rfl := Except.ok.inj read
    exact lookup_of_text idRead idGiven
  | arr items =>
    obtain ⟨id, idRead, read⟩ := exists_ok_bind read
    obtain ⟨sessionId, -, read⟩ := exists_ok_bind read
    obtain ⟨task, -, read⟩ := exists_ok_bind read
    obtain ⟨status, -, read⟩ := exists_ok_bind read
    obtain ⟨messages, -, read⟩ := exists_ok_bind read
    obtain ⟨createdAt, -, read⟩ := exists_ok_bind read
    obtain ⟨-, -, read⟩ := exists_ok_bind read
    obtain rfl := Except.ok.inj read
    cases items with
    | nil => contradiction
    | cons first rest => exact congrArg some (text_eq_ok_iff.mp idRead)
  | _ => contradiction

/-- Taking the messages out of a value leaves its id. -/
theorem givesId_of_without {id : String} (gives : (value.without "messages").GivesId id) :
    value.GivesId id := by
  cases value with
  | obj fields =>
    have left : lookup "id" (fields.filter fun field => field.1 ≠ "messages") = some (.str id) := gives
    rwa [Json.lookup_filter_of_ne (by decide)] at left
  | _ => exact gives

/-- The id of a stored run is the one that its text gives. -/
theorem givesId_of_ofText (read : ofText now content = .ok r) :
    ∃ value, Json.parse content = .ok value ∧ value.GivesId r.id := by
  cases parsed : Json.parse content with
  | error fault =>
    rw [ofText, parsed] at read
    contradiction
  | ok value =>
    rw [ofText_of_parse parsed] at read
    refine ⟨value, rfl, givesId_of_without ?_⟩
    cases stored : ofStored now value with
    | error stop =>
      rw [stored] at read
      contradiction
    | ok stored' =>
      rw [stored] at read
      cases read
      obtain ⟨run, runRead, stored⟩ := exists_ok_bind stored
      obtain ⟨messages, -, stored⟩ := exists_ok_bind stored
      cases stored
      have gives : (value.without "messages").GivesId run.id := givesId_of_ofJson runRead
      exact gives

end Run

namespace RunDirectory

variable {d : RunDirectory} {now : Timestamp} {runId : String} {run : Run}

/-- A fetched run has the id that its file gives, whatever the name of the file is. -/
theorem givesId_of_fetchRun (fetched : d.fetchRun now runId = .ok run) :
    ∃ bytes text value, d.content runId "json" = .bytes bytes ∧ Text.Utf8.decode bytes = .ok text ∧
      Json.parse text = .ok value ∧ value.GivesId run.id := by
  unfold fetchRun at fetched
  cases file : d.content runId "json" with
  | bytes bytes =>
    rw [file] at fetched
    dsimp only at fetched
    cases decoded : Text.Utf8.decode bytes with
    | error fault =>
      rw [decoded] at fetched
      contradiction
    | ok text =>
      rw [decoded] at fetched
      dsimp only at fetched
      cases read : Run.ofText now text with
      | error stop =>
        rw [read] at fetched
        contradiction
      | ok stored =>
        rw [read] at fetched
        cases fetched
        obtain ⟨value, parsed, gives⟩ := Run.givesId_of_ofText read
        exact ⟨bytes, text, value, rfl, decoded, parsed, gives⟩
  | absent | unopened | unreadable =>
    rw [file] at fetched
    contradiction

/-- A directory in which every file is the one that a run was written to. -/
def holding (run : Run) : RunDirectory where
  read _ := .bytes (Text.Utf8.encode run.toJson.compact.toList)

theorem fetchRun_holding (empty : run.messages = []) (nested : run.toJson.depth ≤ 127)
    (now : Timestamp) (named : isFileId runId = true) :
    (holding run).fetchRun now runId = .ok run := by
  have none : run.toJson.doubles = [] := by
    simp [Run.toJson, Run.leadingFields, empty, Json.doubles, Json.doublesFields, Json.doublesField,
      Json.doublesItems, Status.toJson, Timestamp.toJson]
  have parsed : Json.parse run.toJson.compact = .ok run.toJson.sorted :=
    Json.parse_compact (Run.fits_toJson (by simp [empty])) (Json.readsBack_of_doubles_eq_nil none)
      nested
  have stored : Run.ofStored now run.toJson.sorted = .ok run := Run.ofStored_toJson now (by simp [empty])
  simp only [fetchRun, content, named, if_true, holding,
    Text.Utf8.decode_encode, String.ofList_toList, Run.ofText_of_parse parsed, stored, Except.mapError]

end RunDirectory

namespace Conversation

@[simp] theorem runId_load (run : Run) (c : Conversation) : (load run c).1.runId = some run.id := by
  rw [load_fst]

end Conversation

namespace Viewer

variable {u v w : Viewer} {during : List Moment} {last : Moment} {runId : String}

/-- How a call that opens a run from a directory is over in the last of these moments, when its turn came
in `u`. -/
structure Opens (directory : RunDirectory) (runId : String) (u : Viewer) (during : List Moment)
    (last : Moment) (v : Viewer) : Prop where
  turn : u.serving = some (.openRun runId, .entered)
  path : u.Path (during ++ [last]) v
  unfinished : ∀ m ∈ during, m.effects.outcome = none
  opened : last.effects.outcome = some .opened
  /-- What the call is answered is what comes of reading the file. -/
  recorded : ∀ m ∈ during, ∀ result, m.Answers (.openRun runId) (.run result) →
    ∃ now, result = directory.fetchRun now runId

/-- A call opens a run in the segment in which it shows what it was answered. -/
theorem Underway.opened {call : Call} {progress : Progress} {segment : Segment} {effects : Effects}
    (under : Underway u during runId v call progress) (stepped : v.step segment = some (w, effects))
    (opened : effects.outcome = some .opened) :
    ∃ run, (∃ m ∈ during, m.Answers (.openRun runId) (.run (.ok run))) ∧
      w.conversation = (Conversation.load run v.conversation).1 ∧
      effects.changes = [.loaded run.id] ∧ effects.notices = [.runOpened runId] := by
  obtain ⟨x, ended, rfl⟩ := under.ended stepped opened
  cases ended with
  | started | failed => cases opened
  | @opened run =>
    obtain ⟨-, -, -, reached⟩ := under
    generalize v.conversation = c at reached
    cases reached with
    | stopping before => simp [Progress.stopping?] at before
    | fetched answered =>
      refine ⟨run, answered, ?_, rfl, rfl⟩
      rw [beginNext_eq]
      rfl

/-- A new viewer can open what is stored. -/
theorem exists_opens (settings : Settings) {directory : RunDirectory} {now : Timestamp} {run : Run}
    (stored : directory.fetchRun now runId = .ok run) :
    ∃ earlier u during last v, (new settings).Path earlier u ∧ Opens directory runId u during last v ∧
      v.conversation = (Conversation.load run (.new settings)).1 ∧
      last.effects.changes = [.loaded run.id] ∧ last.effects.notices = [.runOpened runId] := by
  let entered := (new settings).proceed (.openRun runId) .entered
  let fetching := (new settings).proceed (.openRun runId) .fetching
  let showing := (new settings).proceed (.openRun runId) (.showing run)
  let during : List Moment := [⟨entered, .serve .none, {}⟩, ⟨fetching, .serve (.run (.ok run)), {}⟩]
  let effects : Effects :=
    { changes := [.loaded run.id], notices := [.runOpened runId], outcome := some .opened }
  have asked : (new settings).Path [⟨new settings, .call (.openRun runId), {}⟩] entered :=
    .cons rfl (.nil entered)
  let shown : Viewer := { new settings with conversation := (Conversation.load run (.new settings)).1 }
  have serves : entered.Path (during ++ [⟨showing, .serve .none, effects⟩]) shown :=
    .cons rfl (.cons rfl (.cons rfl (.nil shown)))
  refine ⟨_, entered, during, ⟨showing, .serve .none, effects⟩, shown, asked, ?_, rfl, rfl, rfl⟩
  exact {
    turn := rfl
    path := serves
    unfinished := by simp [during]
    opened := rfl
    recorded := by
      rintro m member result ⟨served, -⟩
      simp only [during, List.mem_cons, List.not_mem_nil, or_false] at member
      obtain rfl | rfl := member
      · cases served
      · cases served
        exact ⟨now, stored.symm⟩ }

/-- The run that is shown, in the conversation and in its snapshot, and the one that the conversation is
made known to have been loaded with, is the run that the file says it is; the notice that a run is opened
names the run that was asked for. So all of them agree, and with the run that was asked for, exactly if
the file is one of that run. -/
theorem runId_of_opens (settings : Settings) (directory : RunDirectory) {earlier : List Moment}
    (path : (new settings).Path earlier u) (opens : Opens directory runId u during last v) :
    ∃ now run, directory.fetchRun now runId = .ok run ∧
      (∃ bytes text value, directory.content runId "json" = .bytes bytes ∧
        Text.Utf8.decode bytes = .ok text ∧ Json.parse text = .ok value ∧ value.GivesId run.id) ∧
      v.conversation.runId = some run.id ∧ v.conversation.snapshot.runId = some run.id ∧
      last.effects.changes = [.loaded run.id] ∧ last.effects.notices = [.runOpened runId] ∧
      ((v.conversation.runId = some runId ∧ v.conversation.snapshot.runId = some runId ∧
        last.effects.changes = [.loaded runId] ∧ last.effects.notices = [.runOpened runId]) ↔
          run.id = runId) := by
  obtain ⟨turn, serves, unfinished, opened, recorded⟩ := opens
  obtain ⟨w, before, ends⟩ := Path.append_iff.mp serves
  obtain ⟨viewer, segment, effects⟩ := last
  cases ends with
  | cons stepped ends =>
    cases ends
    obtain ⟨-, progress, under⟩ := underway_of_path (oneRunning_of_path (oneRunning_new settings) path)
      (underway_entered (.inr rfl) turn) before unfinished
    obtain ⟨run, ⟨m, member, answers⟩, shown, changes, notices⟩ := under.opened stepped opened
    obtain ⟨now, fetched⟩ := recorded m member _ answers
    have runId_eq : v.conversation.runId = some run.id := by rw [shown, Conversation.runId_load]
    have snapshot : v.conversation.snapshot.runId = some run.id := runId_eq
    refine ⟨now, run, fetched.symm, RunDirectory.givesId_of_fetchRun fetched.symm, runId_eq, snapshot,
      changes, notices, ?_⟩
    simp [runId_eq, snapshot, changes, notices]

theorem runId_of_opens_own :
    ∃ earlier u during last v, (new .default).Path earlier u ∧
      Opens (RunDirectory.holding (.start "r1" "s1" "" .epoch)) "r1" u during last v ∧
      v.conversation.runId = some "r1" ∧ last.effects.changes = [.loaded "r1"] ∧
      last.effects.notices = [.runOpened "r1"] := by
  have stored (now : Timestamp) : (RunDirectory.holding (.start "r1" "s1" "" .epoch)).fetchRun now "r1" =
      .ok (.start "r1" "s1" "" .epoch) :=
    RunDirectory.fetchRun_holding rfl (by decide +kernel) now (by decide +kernel)
  obtain ⟨earlier, u, during, last, v, path, opens, -⟩ := exists_opens .default (stored .epoch)
  obtain ⟨now, run, fetched, -, -, -, -, -, agree⟩ := runId_of_opens .default _ path opens
  cases (stored now).symm.trans fetched
  obtain ⟨runId, -, changes, notices⟩ := agree.mpr rfl
  exact ⟨earlier, u, during, last, v, path, opens, runId, changes, notices⟩

/-- The file of a run that is stored under the name of another one is shown as what it is, and made known
under its name. -/
theorem runId_ne_of_misnamed :
    ∃ earlier u during last v, (new .default).Path earlier u ∧
      Opens (RunDirectory.holding (.start "r2" "s1" "" .epoch)) "r1" u during last v ∧
      v.conversation.runId ≠ some "r1" ∧ last.effects.changes ≠ [.loaded "r1"] ∧
      last.effects.notices = [.runOpened "r1"] := by
  have stored : (RunDirectory.holding (.start "r2" "s1" "" .epoch)).fetchRun .epoch "r1" =
      .ok (.start "r2" "s1" "" .epoch) :=
    RunDirectory.fetchRun_holding rfl (by decide +kernel) _ (by decide +kernel)
  obtain ⟨earlier, u, during, last, v, path, opens, shown, changes, notices⟩ :=
    exists_opens .default stored
  refine ⟨earlier, u, during, last, v, path, opens, ?_, ?_, notices⟩
  · rw [shown, Conversation.runId_load]
    decide
  · rw [changes]
    decide

end Viewer

end Transcript
