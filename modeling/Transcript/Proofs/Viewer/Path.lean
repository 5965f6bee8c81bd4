import Transcript.Viewer.Basic

/-! # Histories of a viewer

A path is a finite history of segments, each of them possible where it stands, in whatever order the
tasks had their turns. It keeps the viewer before every segment, so that what happened can be read off
it afterwards. Paths can be cut anywhere (`Path.append_iff`) and computed from their segments
(`path_of_trace?`).
-/

namespace Transcript

/-- A segment that was carried out: the viewer before it, and what it made known. -/
structure Moment where
  viewer : Viewer
  segment : Segment
  effects : Effects

/-- Whether the conversation is changed behind the back of the viewer. -/
def Segment.isWrite : Segment → Bool
  | .write _ => true
  | _ => false

namespace Viewer

/-- A finite history of segments. -/
inductive Path : Viewer → List Moment → Viewer → Prop
  | nil (v : Viewer) : Path v [] v
  | cons {v u w : Viewer} {segment : Segment} {effects : Effects} {moments : List Moment} :
      v.step segment = some (u, effects) → Path u moments w →
      Path v (⟨v, segment, effects⟩ :: moments) w

namespace Path

variable {v u w : Viewer} {first second : List Moment}

theorem append (left : v.Path first u) (right : u.Path second w) : v.Path (first ++ second) w := by
  induction left with
  | nil => exact right
  | cons step _ ih => exact .cons step (ih right)

/-- A path can be cut after any number of segments. -/
theorem append_iff : v.Path (first ++ second) w ↔ ∃ u, v.Path first u ∧ u.Path second w := by
  constructor
  · intro path
    induction first generalizing v with
    | nil => exact ⟨v, .nil v, path⟩
    | cons moment rest ih =>
      cases path with
      | cons step tail =>
        obtain ⟨u, left, right⟩ := ih tail
        exact ⟨u, .cons step left, right⟩
  · rintro ⟨u, left, right⟩
    exact left.append right

/-- Every moment of a path is a step that was possible. -/
theorem step_of_mem {moments : List Moment} (path : v.Path moments w) {m : Moment}
    (member : m ∈ moments) : ∃ u, m.viewer.step m.segment = some (u, m.effects) := by
  induction path with
  | nil => contradiction
  | cons step _ ih =>
    rcases List.mem_cons.mp member with rfl | later
    · exact ⟨_, step⟩
    · exact ih later

end Path

/-- The history that segments make, if each of them is possible, and where it leads. -/
def trace? (v : Viewer) : List Segment → Option (List Moment × Viewer)
  | [] => some ([], v)
  | segment :: rest => do
    let (u, effects) ← v.step segment
    let (moments, w) ← u.trace? rest
    return (⟨v, segment, effects⟩ :: moments, w)

theorem path_of_trace? {v w : Viewer} {segments : List Segment} {moments : List Moment}
    (traced : v.trace? segments = some (moments, w)) : v.Path moments w := by
  induction segments generalizing v moments with
  | nil =>
    cases traced
    exact .nil _
  | cons segment rest ih =>
    simp only [trace?, bind, Option.bind_eq_some_iff] at traced
    obtain ⟨⟨u, effects⟩, stepped, ⟨later, w'⟩, tail, same⟩ := traced
    cases same
    exact .cons stepped (ih tail)

end Viewer

end Transcript
