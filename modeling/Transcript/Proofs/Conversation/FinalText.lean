import Transcript.Proofs.Conversation.StatusHistory
import Transcript.Proofs.Conversation.StreamedText

/-! # What a final text says

Where a source has streamed pieces that nothing has closed yet, its final text is made of these, and what
the final frame says of itself counts only where there are none (`messages_of_finalText`). An empty piece
is a piece: a source that has streamed nothing but empty ones ends with an empty text, whatever its final
frame says.

The pieces are read off the whole history, restarts included (`piecesLeft`), so the statement is about
every conversation that can be reached.
-/

namespace Transcript

theorem join_eq_empty_iff {texts : List String} :
    String.join texts = "" ↔ ∀ text ∈ texts, text = "" := by
  induction texts with
  | nil => simp
  | cons text rest ih => rw [String.join_cons, String.append_eq_empty_iff, ih, List.forall_mem_cons]

/-- What the pieces of a source make, or something else if there are none. -/
theorem grown_getD (pieces : List Piece) (source content : String) :
    (grown pieces source).getD content =
      if textsBy pieces source = [] then content else String.join (textsBy pieces source) := by
  unfold grown
  split
  · next silent => rw [if_pos silent, Option.getD_none]
  · next spoken => rw [if_neg spoken, Option.getD_some]

namespace Conversation

open Event (closes piece?)

/-- The pieces that are open after an operation. A restart leaves none, and what is in the log already
neither closes a piece nor adds one. -/
def piecesAfter (c : Conversation) (pieces : List Piece) : Operation → List Piece
  | .restart _ => []
  | .input input =>
    let e? := input.event? c.settings.defaultSource
    if e?.any c.knows then pieces
    else pieces.filter (fun piece => !closes piece.1 e?) ++ (piece? e?).toList

/-- The pieces that nothing has closed, after a history that began with these. -/
def piecesLeft (c : Conversation) (pieces : List Piece) : List Operation → List Piece
  | [] => pieces
  | operation :: rest => piecesLeft (operation.update c).1 (c.piecesAfter pieces operation) rest

section History

variable {c : Conversation} {pieces : List Piece}

theorem toList_piecesAfter (rebuilt : c.log.Rebuilt) (same : c.streaming.toList = joined pieces)
    (operation : Operation) :
    (operation.update c).1.streaming.toList = joined (c.piecesAfter pieces operation) := by
  cases operation with
  | restart again =>
    cases again with
    | reset => rfl
    | beginRun runId => rfl
    | load stored =>
      change (load stored c).1.streaming.toList = joined []
      rw [load_fst]
      rfl
  | input input =>
    change (input.update c).1.streaming.toList = _
    rw [update_fst, piecesAfter, any_knows rebuilt]
    split
    · exact same
    · exact toList_after same _

/-- The growing texts of a conversation are the pieces of its history that nothing has closed. -/
theorem toList_piecesLeft (rebuilt : c.log.Rebuilt) (same : c.streaming.toList = joined pieces)
    (operations : List Operation) :
    (run operations c).1.streaming.toList = joined (c.piecesLeft pieces operations) := by
  induction operations generalizing c pieces with
  | nil => exact same
  | cons operation rest ih =>
    exact ih (rebuilt_update rebuilt operation) (toList_piecesAfter rebuilt same operation)

end History

/-- A final text that is new is appended as one message. It says what the source has streamed since its
text was last closed, or if that was nothing at all, what its frame says. So with a frame that is not
empty the message is empty exactly if the source has streamed, and nothing but empty pieces. -/
theorem messages_of_finalText (settings : Settings) (operations : List Operation) (frame : Frame)
    {source content : String} {id : Option String} {usage : Option Usage} {awaits : Bool}
    (final : Event.ofFrame settings.defaultSource frame = .text source id content usage awaits)
    (worded : content ≠ "")
    (fresh : (run operations (new settings)).1.knows (.text source id content usage awaits) = false) :
    let c := (run operations (new settings)).1
    let streamed := textsBy ((new settings).piecesLeft [] operations) source
    ∃ body, (ingest frame c).1.messages.toList =
        c.messages.toList ++ [⟨id, source, .text body, usage⟩] ∧
      body = (if streamed = [] then content else String.join streamed) ∧
      (body = "" ↔ streamed ≠ [] ∧ ∀ piece ∈ streamed, piece = "") := by
  intro c streamed
  have rebuilt : c.log.Rebuilt := rebuilt_run settings operations
  have meant : Event.ofFrame c.settings.defaultSource frame = .text source id content usage awaits := by
    rw [settings_run operations (new settings)]
    exact final
  have taken : (ingest frame c).1 = c.accept (some (.text source id content usage awaits)) := by
    rw [ingest, meant, dispatch_fst, isDuplicate_eq rebuilt, fresh, if_neg Bool.false_ne_true]
  have growing : c.streaming.toList = joined ((new settings).piecesLeft [] operations) :=
    toList_piecesLeft (c := new settings) Log.rebuilt_empty rfl operations
  have pending : (c.pendingText source).getD content =
      if streamed = [] then content else String.join streamed := by
    rw [pendingText, pending_of_toList growing, grown_getD]
  refine ⟨_, ?_, pending, ?_⟩
  · rw [taken, messages_accept]
    rfl
  · rw [pending]
    split
    · next silent => exact iff_of_false worded fun spoken => spoken.1 silent
    · next spoken => rw [join_eq_empty_iff, and_iff_right spoken]

/-- An empty piece of a source, a piece of another one, and a final text that closes the first. -/
def openedEmpty : List Operation :=
  [.input (.frame (.delta (some "a") "")), .input (.frame (.delta (some "b") "Wor")),
    .input (.frame (.envelope (.obj [("content", .str "Hi"), ("id", .str "m1"), ("source", .str "a")])))]

def greeting : Frame := .envelope (.obj [("content", .str "Hello"), ("source", .str "a")])

/-- The empty piece was closed by the text before, so this one keeps its content. -/
theorem messages_of_finalText_openedEmpty :
    let c := (run openedEmpty (new .default)).1
    Event.ofFrame Settings.default.defaultSource greeting = .text "a" none "Hello" none false ∧
      c.knows (.text "a" none "Hello" none false) = false ∧
      (ingest greeting c).1.messages.toList = c.messages.toList ++ [.text "a" "Hello"] := by
  intro c
  have final : Event.ofFrame Settings.default.defaultSource greeting =
      .text "a" none "Hello" none false := by decide +kernel
  have fresh : c.knows (.text "a" none "Hello" none false) = false := by decide +kernel
  obtain ⟨body, appended, body_eq, -⟩ :=
    messages_of_finalText .default openedEmpty greeting final (by decide) fresh
  have silent : textsBy ((new .default).piecesLeft [] openedEmpty) "a" = [] := by decide +kernel
  rw [if_pos silent] at body_eq
  exact ⟨final, fresh, body_eq ▸ appended⟩

/-- A source that has streamed one empty piece loses the content of its final text. -/
theorem emptied_of_emptyPiece :
    let c := (run [.input (.frame (.delta (some "a") ""))] (new .default)).1
    Event.ofFrame Settings.default.defaultSource greeting = .text "a" none "Hello" none false ∧
      c.knows (.text "a" none "Hello" none false) = false ∧
      (ingest greeting c).1.messages.toList = [.text "a" ""] := by
  decide +kernel

end Conversation

end Transcript
