import Transcript.Settings
import Transcript.Proofs.Text.Entries
import Mathlib.Data.List.Forall2

/-! # The list of hidden sources

The sources that are not shown are the entries of a text with commas between them. The list is in normal
form: writing it and reading it again gives the same list (`hiddenSources_normal`).
-/

namespace Transcript.Settings

theorem hiddenSources_ofLookup {lookup : String → Option String} {raw : String}
    (given : lookup "AGENTCHAT_HIDDEN_SOURCES" = some raw) :
    (ofLookup lookup).hiddenSources = Text.entries ',' raw := by
  simp only [ofLookup, given, Option.map_some, Option.getD_some]

/-- What stands between the commas of a text gives the hidden sources: without the blanks at its ends, in
its order, and left out if it is nothing but blanks. Every hidden source is an entry of such a list, and
the list is read again from every text that has its entries between commas, with blanks around them and
blank pieces beside them as one likes. A source is hidden if it is named by a piece. -/
theorem hiddenSources_normal {lookup : String → Option String} {raw : String}
    (given : lookup "AGENTCHAT_HIDDEN_SOURCES" = some raw) :
    let names := (ofLookup lookup).hiddenSources
    let pieces := raw.toList.splitOn ','
    (∀ name ∈ names, Text.IsEntry ',' name) ∧
    (∃ trimmed, List.Forall₂ Text.TrimsTo pieces trimmed ∧
      names.map String.toList = trimmed.filter fun text => !text.isEmpty) ∧
    (∀ again, again "AGENTCHAT_HIDDEN_SOURCES" = some (",".intercalate names) →
      (ofLookup again).hiddenSources = names) ∧
    (∀ again written, Text.Spaced names written →
      again "AGENTCHAT_HIDDEN_SOURCES" = some (",".intercalate written) →
      (ofLookup again).hiddenSources = names) ∧
    ∀ source, (ofLookup lookup).isHidden source = true ↔
      source ≠ "" ∧ ∃ piece ∈ pieces, Text.TrimsTo piece source.toList := by
  intro names pieces
  have entries : names = Text.entries ',' raw := hiddenSources_ofLookup given
  have read : names = Text.entriesOf pieces := entries.trans (Text.entries_eq ',' raw)
  have each : ∀ name ∈ names, Text.IsEntry ',' name := fun name member =>
    Text.isEntry_of_mem_entries (entries ▸ member)
  have readAgain (again : String → Option String) (written : List String)
      (spaced : Text.Spaced names written)
      (given : again "AGENTCHAT_HIDDEN_SOURCES" = some (",".intercalate written)) :
      (ofLookup again).hiddenSources = names :=
    (hiddenSources_ofLookup given).trans (Text.entries_intercalate spaced each (by decide))
  refine ⟨each, ⟨pieces.map Text.trim, ?_, ?_⟩, fun again => readAgain again names (.refl names),
    readAgain, fun source => ?_⟩
  · exact List.forall₂_map_right_iff.mpr
      (List.forall₂_same.mpr fun piece _ => Text.trim_eq_iff.mp rfl)
  · rw [read, Text.map_toList_entriesOf]
  · rw [isHidden, List.contains_iff_mem, ← Text.mem_entriesOf, ← read]

theorem hiddenSources_normal_spaced :
    let named (raw : String) (key : String) : Option String :=
      if key = "AGENTCHAT_HIDDEN_SOURCES" then some raw else none
    let settings := ofLookup (named " user_proxy , ,llm_call_event")
    settings.hiddenSources = ["user_proxy", "llm_call_event"] ∧
    settings.isHidden "llm_call_event" = true ∧ settings.isHidden "" = false ∧
    (ofLookup (named ",user_proxy,\u3000llm_call_event\t, ")).hiddenSources =
      ["user_proxy", "llm_call_event"] := by
  intro named settings
  obtain ⟨-, -, -, readAgain, hidden⟩ :=
    hiddenSources_normal (rfl : named " user_proxy , ,llm_call_event" _ = some _)
  have names : settings.hiddenSources = ["user_proxy", "llm_call_event"] := by decide
  refine ⟨names, (hidden _).mpr ⟨by decide, "llm_call_event".toList, by decide, ?_⟩, ?_, ?_⟩
  · exact Text.trim_eq_iff.mp (by decide)
  · exact Bool.eq_false_iff.mpr fun empty => ((hidden "").mp empty).1 rfl
  · refine (readAgain _ ["", "user_proxy", "\u3000llm_call_event\t", " "] ?_ (by decide)).trans names
    rw [show (ofLookup _).hiddenSources = _ from names]
    exact .blank rfl (.entry "" "user_proxy" "" rfl rfl
      (.entry "\u3000" "llm_call_event" "\t" rfl rfl (.blank rfl .nil)))

end Transcript.Settings
