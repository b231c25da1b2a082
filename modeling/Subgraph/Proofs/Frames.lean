import Mathlib.Data.List.Induction
import Subgraph.Error

/-!
# Frames — errors and the frames around them

An error that crosses a stage is put into a frame, and the frames of the stages around it follow.
Three functions go through the frames of an error, one for its kind, one for the error underneath
and one for the frames themselves.  Here they are seen to agree on any number of frames, around any
error.

* `Error.inFrames`: an error in some frames, put around it one after another.
* `Error.innermost_ne_context`: what lies underneath is in no frame.
* `Error.inFrames_innermost`: an error is the one underneath, in its frames.
* `Error.inFrames_told`: what more frames change, and what they leave.
-/

namespace Subgraph.Error

/-- An error in some frames, of which the last one is the outermost. -/
def inFrames (e : Error) (frames : List Frame) : Error :=
  frames.foldl (fun e frame => .context frame e) e

/-- The texts of some frames, each before what it is put around. -/
def framesText (frames : List Frame) : String :=
  String.join (frames.map fun frame => frame.message ++ ": ")

@[simp] theorem inFrames_nil (e : Error) : e.inFrames [] = e := rfl

theorem inFrames_append (e : Error) (inner outer : List Frame) :
    e.inFrames (inner ++ outer) = (e.inFrames inner).inFrames outer := List.foldl_append

/-- The last frame stands outside. -/
theorem inFrames_concat (e : Error) (frames : List Frame) (frame : Frame) :
    e.inFrames (frames ++ [frame]) = .context frame (e.inFrames frames) := inFrames_append ..

theorem framesText_cons (frame : Frame) (frames : List Frame) :
    framesText (frame :: frames) = frame.message ++ ": " ++ framesText frames := String.join_cons

theorem message_context (frame : Frame) (e : Error) :
    (context frame e).message = frame.message ++ ": " ++ e.message := rfl

theorem kind_inFrames (e : Error) (frames : List Frame) : (e.inFrames frames).kind = e.kind := by
  induction frames using List.reverseRecOn with
  | nil => rfl
  | append_singleton frames frame ih => rw [inFrames_concat, kind_context, ih]

theorem innermost_inFrames (e : Error) (frames : List Frame) :
    (e.inFrames frames).innermost = e.innermost := by
  induction frames using List.reverseRecOn with
  | nil => rfl
  | append_singleton frames frame ih => rw [inFrames_concat, innermost_context, ih]

theorem frames_inFrames (e : Error) (frames : List Frame) :
    (e.inFrames frames).frames = frames.reverse ++ e.frames := by
  induction frames using List.reverseRecOn with
  | nil => rfl
  | append_singleton frames frame ih =>
      rw [inFrames_concat, frames_context, ih, List.reverse_concat, List.cons_append]

theorem message_inFrames (e : Error) (frames : List Frame) :
    (e.inFrames frames).message = framesText frames.reverse ++ e.message := by
  induction frames using List.reverseRecOn with
  | nil => exact (String.empty_append).symm
  | append_singleton frames frame ih =>
      rw [inFrames_concat, message_context, ih, List.reverse_concat, framesText_cons]
      simp only [String.append_assoc]

/-- What lies under all frames is in no frame itself.  An error that could not make bindings holds
another error, but is no frame around it. -/
theorem innermost_ne_context (e : Error) (frame : Frame) (cause : Error) :
    e.innermost ≠ .context frame cause := by
  induction e with
  | context _ _ ih => exact ih
  | _ => exact nofun

/-- **An error is the one underneath, in its frames.** -/
theorem inFrames_innermost (e : Error) : e.innermost.inFrames e.frames.reverse = e := by
  induction e with
  | context frame cause ih =>
      rw [innermost_context, frames_context, List.reverse_cons, inFrames_concat, ih]
  | _ => rfl

/-- **What frames do to an error.**  They leave its kind and the error underneath; its frames stand
behind the new ones, and its text stands behind their texts, outermost first.  All in all it is the
error underneath, in the old frames and then in the new ones. -/
theorem inFrames_told (e : Error) (frames : List Frame) :
    (e.inFrames frames).kind = e.kind ∧
    (e.inFrames frames).innermost = e.innermost ∧
    (e.inFrames frames).frames = frames.reverse ++ e.frames ∧
    (e.inFrames frames).message =
      String.join (frames.reverse.map fun frame => frame.message ++ ": ") ++ e.message ∧
    e.inFrames frames = e.innermost.inFrames (e.frames.reverse ++ frames) ∧
    ∀ frame cause, (e.inFrames frames).innermost ≠ .context frame cause := by
  refine ⟨kind_inFrames e frames, innermost_inFrames e frames, frames_inFrames e frames,
    message_inFrames e frames, ?_, innermost_ne_context _⟩
  rw [inFrames_append, inFrames_innermost]

end Subgraph.Error
